import OdsMod2.Framework.DecimalText
import OdsMod2.Framework.TextSearch

/-!
# The body of an event request

`POST /api/v1/events` takes a JSON body. `parse_event_request` does not parse it: each field is
looked up by its quoted name, and its value is read after the next colon.
-/

namespace Ods.S4.Http

open TextStream TextSearch

/-- How `std::stod` turns a decimal number into a `double`: the nearest one, except where the C
library reports that the number is out of range. A finite `double` is the number that it stands
for. -/
structure Doubles where
  nearest : ℚ → ℚ
  rangeError : ℚ → Bool

/-- On decimal numbers that are a `double` each. -/
def Doubles.exact : Doubles where
  nearest number := number
  rangeError _ := false

/-- The number that `std::stod` converts the text to; it throws where there is none and where the
number is out of range. The hexadecimal numbers, infinities and NaNs that it reads besides are left
out: it is given digits, signs, points and exponents only. -/
def stod (doubles : Doubles) (text : List Char) : Option ℚ := do
  let number ← readDecimal text
  if doubles.rangeError number then none else some (doubles.nearest number)

def stoll (text : List Char) : Option Int :=
  (readSigned (-2 ^ 63) (2 ^ 63 - 1) text).map Prod.fst

/-! ### Looking a field up -/

/-- The characters that a value is looked for behind. -/
def isJsonSpace (c : Char) : Bool :=
  c = ' ' || c = '\t' || c = '\r' || c = '\n'

def isIntegerChar (c : Char) : Bool :=
  c.isDigit || c = '-'

def isDecimalChar (c : Char) : Bool :=
  c.isDigit || c = '-' || c = '+' || c = '.' || c = 'e' || c = 'E'

/-- The body behind the colon that follows the quoted key. -/
def afterColon (body key : List Char) : Option (List Char) := do
  let rest ← afterFirst (marked '"' key) body
  afterFirst [':'] rest

/-- The longest text of such characters behind the white space. -/
def numeral (p : Char → Bool) (text : List Char) : Option (List Char) :=
  let digits := (text.dropWhile isJsonSpace).takeWhile p
  if digits = [] then none else some digits

def extractJsonString (body key : List Char) : List Char :=
  ((afterColon body key).bind (between '"')).getD []

def extractJsonInt (body key : List Char) : Option Int := do
  let text ← afterColon body key
  let digits ← numeral isIntegerChar text
  stoll digits

def extractJsonDouble (doubles : Doubles) (body key : List Char) : Option ℚ := do
  let text ← afterColon body key
  let digits ← numeral isDecimalChar text
  stod doubles digits

/-! ### The request -/

/-- The fields of the body, before they are checked. An event id that is not given is empty. -/
structure EventFields where
  eventId : List Char
  captureTsNs : Option Int
  preWindowSeconds : Option ℚ
  postWindowSeconds : Option ℚ
  startMs : Option Int
  endMs : Option Int

def readFields (doubles : Doubles) (body : List Char) : EventFields where
  eventId := extractJsonString body "event_id".toList
  captureTsNs := extractJsonInt body "capture_ts_ns".toList
  preWindowSeconds := extractJsonDouble doubles body "pre_window_seconds".toList
  postWindowSeconds := extractJsonDouble doubles body "post_window_seconds".toList
  startMs := extractJsonInt body "start_ms".toList
  endMs := extractJsonInt body "end_ms".toList

structure EventRequest where
  eventId : List Char := []
  hasCaptureTs : Bool := false
  captureTsNs : Int := 0
  preSeconds : ℚ := 0
  postSeconds : ℚ := 0
  hasWallClockWindow : Bool := false
  /-- In nanoseconds since the epoch, as are all points of the wall clock. -/
  wallStart : Int := 0
  wallEnd : Int := 0

structure InvalidEventRequest where
  what : String
  deriving DecidableEq, Repr

/-- The point of the wall clock so many milliseconds after the epoch, in the 64 bits of its type. -/
def wallClock (milliseconds : Int) : Int :=
  Int.bmod (milliseconds * 1000000) (2 ^ 64)

/-- The window between two points of the wall clock, if both are given. -/
def EventRequest.setWallClock (request : EventRequest) (startMs endMs : Option Int) :
    Except InvalidEventRequest EventRequest :=
  match startMs, endMs with
  | some startMs, some endMs =>
    if wallClock endMs ≤ wallClock startMs then
      .error ⟨"start_ms must be earlier than end_ms"⟩
    else
      .ok { request with
        hasWallClockWindow := true
        wallStart := wallClock startMs
        wallEnd := wallClock endMs }
  | _, _ => .ok request

def EventFields.request (fields : EventFields) : Except InvalidEventRequest EventRequest :=
  let request : EventRequest := {
    eventId := fields.eventId
    hasCaptureTs := fields.captureTsNs.isSome
    captureTsNs := fields.captureTsNs.getD 0
    preSeconds := fields.preWindowSeconds.getD 0
    postSeconds := fields.postWindowSeconds.getD 0 }
  if request.preSeconds < 0 ∨ request.postSeconds < 0 then
    .error ⟨"pre_window_seconds and post_window_seconds must not be negative"⟩
  else request.setWallClock fields.startMs fields.endMs

def parseEventRequest (doubles : Doubles) (body : List Char) :
    Except InvalidEventRequest EventRequest :=
  (readFields doubles body).request

end Ods.S4.Http
