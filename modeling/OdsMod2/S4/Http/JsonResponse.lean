import Mathlib.Data.Int.Log
import OdsMod2.Framework.JsonText
import OdsMod2.Framework.TwosComplement
import OdsMod2.S4.Retention.JsonLinesPurgeLog
import OdsMod2.S4.RingBuffer.Accounting

/-!
# The JSON texts of the server

`ClipDescriptorHttpServer` writes its answers by hand: a clip (`to_json`), the statistics of the buffer
(`buffer_stats_to_json`), and an error with its text. Every string goes through `json_escape`, a switch
over five characters that lets all others pass, also the control characters that JSON forbids between
quotes. `json_string` of the purge log escapes those. The numbers with a point go through a stream,
which writes `nan` and `inf` for what is no number.

A text is JSON exactly if no string in it has a control character beyond the three of the switch, and no
number in it is one of those; and then a reader finds in it what was written
(`jsonTexts_decode_iff`).
-/

namespace Ods.S4

open JsonLine TextStream TwosComplement

/-! ### Strings and numbers -/

namespace Http

/-- One round of the loop of `json_escape`. -/
def jsonEscapeByte (c : UInt8) : List UInt8 :=
  if c = quote then [backslash, quote]
  else if c = backslash then [backslash, backslash]
  else if c = 0x0A then ascii "\\n".toList
  else if c = 0x0D then ascii "\\r".toList
  else if c = 0x09 then ascii "\\t".toList
  else [c]

/-- `json_escape`. -/
def jsonEscape (value : List UInt8) : List UInt8 :=
  value.flatMap jsonEscapeByte

/-- `format_double`. -/
def formatDouble (value : Double) : List Char :=
  value.fixed 6

/-- The nearest number with a significand of 53 bits. Nothing that is converted here comes near the ends
of the range. -/
def toDouble (x : ℚ) : ℚ :=
  let quantum : ℚ := 2 ^ (Int.log 2 |x| - 52)
  (if x < 0 then -1 else 1) * nearestEven (|x| / quantum) * quantum

end Http

/-- A number that a `double` can hold. -/
def Double.ofRat (x : ℚ) : Double :=
  .finite (x < 0) |x|.toNNRat

def Double.IsFinite : Double → Prop
  | .finite _ _ => True
  | .infinite _ => False
  | .nan _ => False

namespace Http

/-! ### What is written -/

/-- `BufferStats` with its string as bytes. -/
structure StatsRecord where
  capacityBytes : ℕ
  bytesUsed : ℕ
  framesStored : ℕ
  framesIngestedTotal : ℕ
  framesEvictedTotal : ℕ
  hasFrames : Bool
  oldestCaptureTsNs : Nanoseconds
  newestCaptureTsNs : Nanoseconds
  sessionId : List UInt8

namespace StatsRecord

/-- `spanSeconds`. -/
def spanSeconds (stats : StatsRecord) : Double :=
  if stats.hasFrames then
    .ofRat (toDouble (toDouble (wrap (stats.newestCaptureTsNs - stats.oldestCaptureTsNs)) /
      1000000000))
  else .ofRat 0

/-- `fillRatio`. Of two zeros the quotient has its sign bit set. -/
def fillRatio (stats : StatsRecord) : Double :=
  if stats.capacityBytes = 0 then
    if stats.bytesUsed = 0 then .nan true else .infinite false
  else .ofRat (toDouble (toDouble stats.bytesUsed / toDouble stats.capacityBytes))

end StatsRecord

/-- `PointOfInterestDTO`. -/
structure PointOfInterestDTO where
  x : Double
  y : Double
  label : List UInt8

/-- `ClipDescriptorDTO`. -/
structure ClipDescriptorDTO where
  clipId : List UInt8
  fileUri : List UInt8
  startTimeIso : List UInt8
  endTimeIso : List UInt8
  pointsOfInterest : List PointOfInterestDTO
  sha256Hash : List UInt8
  isRetained : Bool
  isLockedForAudit : Bool

/-- A string between quotes. -/
def quoted (value : List UInt8) : List UInt8 :=
  quote :: (jsonEscape value ++ [quote])

def boolText (value : Bool) : List UInt8 :=
  ascii (if value then "true".toList else "false".toList)

/-- The name of a member, with its colon. -/
def nameText (name : String) : List UInt8 :=
  quote :: (ascii name.toList ++ ascii "\": ".toList)

/-- A member on a line of its own. -/
def line (name : String) (value : List UInt8) (ending : String) : List UInt8 :=
  ascii "  ".toList ++ (nameText name ++ (value ++ ascii ending.toList))

/-- `buffer_stats_to_json`. -/
def bufferStatsToJson (stats : StatsRecord) : List UInt8 :=
  ascii "\x7b\n".toList ++
    (line "capacity_bytes" (ascii (decimal stats.capacityBytes)) ",\n" ++
    (line "bytes_used" (ascii (decimal stats.bytesUsed)) ",\n" ++
    (line "fill_ratio" (ascii (formatDouble stats.fillRatio)) ",\n" ++
    (line "frames_stored" (ascii (decimal stats.framesStored)) ",\n" ++
    (line "frames_ingested_total" (ascii (decimal stats.framesIngestedTotal)) ",\n" ++
    (line "frames_evicted_total" (ascii (decimal stats.framesEvictedTotal)) ",\n" ++
    (line "has_frames" (boolText stats.hasFrames) ",\n" ++
    (line "session_id" (quoted stats.sessionId) ",\n" ++
    (line "span_seconds" (ascii (formatDouble stats.spanSeconds)) ",\n" ++
    (line "oldest_capture_ts_ns" (ascii (integer stats.oldestCaptureTsNs)) ",\n" ++
    (line "newest_capture_ts_ns" (ascii (integer stats.newestCaptureTsNs)) "\n" ++
    ascii "\x7d".toList)))))))))))

/-- A round of the loop over the points of interest, without the comma. -/
def pointToJson (point : PointOfInterestDTO) : List UInt8 :=
  ascii "\n    \x7b".toList ++
    (nameText "x" ++ (ascii (formatDouble point.x) ++
    (ascii ", ".toList ++ (nameText "y" ++ (ascii (formatDouble point.y) ++
    (ascii ", ".toList ++ (nameText "label" ++ (quoted point.label ++
    ascii "\x7d".toList))))))))

/-- The loop over the points of interest, with the line break behind it. -/
def pointsToJson (points : List PointOfInterestDTO) : List UInt8 :=
  (points.mapIdx fun i point => (if i > 0 then [comma] else []) ++ pointToJson point).flatten ++
    if points.isEmpty then [] else ascii "\n".toList

/-- `to_json`. -/
def toJson (dto : ClipDescriptorDTO) : List UInt8 :=
  ascii "\x7b\n".toList ++
    (line "clip_id" (quoted dto.clipId) ",\n" ++
    (line "file_uri" (quoted dto.fileUri) ",\n" ++
    (line "start_time" (quoted dto.startTimeIso) ",\n" ++
    (line "end_time" (quoted dto.endTimeIso) ",\n" ++
    (line "points_of_interest" (ascii "[".toList ++ pointsToJson dto.pointsOfInterest) "],\n" ++
    (line "sha256_hash" (quoted dto.sha256Hash) ",\n" ++
    (line "is_retained" (boolText dto.isRetained) ",\n" ++
    (line "is_locked_for_audit" (boolText dto.isLockedForAudit) "\n" ++
    ascii "\x7d".toList))))))))

/-- The answer to a request that has failed, with the text of the exception. -/
def errorToJson (what : List UInt8) : List UInt8 :=
  ascii "\x7b\"error\":\"".toList ++ (jsonEscape what ++ ascii "\"\x7d".toList)

/-- The answers to a failed request that are written as literals. -/
def literalErrors : List (List UInt8) :=
  [ascii "\x7b\"error\":\"clip not found\"\x7d".toList,
    ascii "\x7b\"error\":\"buffer statistics require a capture buffer\"\x7d".toList,
    ascii "\x7b\"error\":\"invalid event_id\"\x7d".toList,
    ascii "\x7b\"error\":\"no frames captured yet; the buffer clock is not started\"\x7d".toList,
    ascii "\x7b\"error\":\"start_ms must be earlier than end_ms\"\x7d".toList]

/-! ### Which strings are read back -/

/-- Outside the control characters, or one of the three that the switch has. -/
def isCovered (c : UInt8) : Bool :=
  !(c < 0x20 : Bool) || c = 0x0A || c = 0x0D || c = 0x09

def Covered (value : List UInt8) : Prop :=
  value.all isCovered = true

instance (value : List UInt8) : Decidable (Covered value) :=
  inferInstanceAs (Decidable (_ = true))

/-- A case of the switch: the byte is written as a backslash and a letter. -/
theorem escapes_of_eq {c b e : UInt8} (h : c = b) (hb : isCovered b = true ∧ b.toNat < 128)
    (he : e ≠ 0x75 ∧ escapeUnit e = some b.toNat) :
    isCovered c = true ∧ c.toNat < 128 ∧
      ∃ e', e' ≠ 0x75 ∧ escapeUnit e' = some c.toNat ∧ [backslash, e] = [backslash, e'] := by
  rw [h]
  exact ⟨hb.1, hb.2, e, he.1, he.2, rfl⟩

/-- A byte is written as a backslash and a letter, or as itself. -/
theorem jsonEscapeByte_cases (c : UInt8) :
    (isCovered c = true ∧ c.toNat < 128 ∧
      ∃ e, e ≠ 0x75 ∧ escapeUnit e = some c.toNat ∧ jsonEscapeByte c = [backslash, e]) ∨
    ((isCovered c = true ↔ ¬ c < 0x20) ∧ c ≠ quote ∧ c ≠ backslash ∧ jsonEscapeByte c = [c]) := by
  unfold jsonEscapeByte
  split
  · next h => exact .inl (escapes_of_eq (e := quote) h (by decide) (by decide))
  split
  · next h => exact .inl (escapes_of_eq (e := backslash) h (by decide) (by decide))
  split
  · next h => exact .inl (escapes_of_eq (e := 0x6E) h (by decide) (by decide))
  split
  · next h => exact .inl (escapes_of_eq (e := 0x72) h (by decide) (by decide))
  split
  · next h => exact .inl (escapes_of_eq (e := 0x74) h (by decide) (by decide))
  · next hquote hbackslash hnewline hreturn htab =>
    exact .inr ⟨by simp [isCovered, hnewline, hreturn, htab], hquote, hbackslash, rfl⟩

theorem spells_jsonEscapeByte {c : UInt8} (hc : isCovered c = true) :
    Spells (jsonEscapeByte c) c := by
  rcases jsonEscapeByte_cases c with
    ⟨-, hascii, e, he, hunit, htext⟩ | ⟨hcontrol, hquote, hbackslash, htext⟩
  · rw [htext]
    exact spells_escape hascii he hunit
  · -- it stands for itself, and is no control character
    rw [htext]
    exact spells_plain (isPlain_iff.mpr ⟨hquote, hbackslash, hcontrol.mp hc⟩)

/-- What is not read behind the byte is not read with it either. -/
theorem readPieces_jsonEscapeByte_eq_none {c : UInt8} {rest : List UInt8}
    (h : isCovered c = false ∨ readPieces rest = none) :
    readPieces (jsonEscapeByte c ++ rest) = none := by
  rcases jsonEscapeByte_cases c with
    ⟨hcovered, -, e, he, -, htext⟩ | ⟨hcontrol, hquote, hbackslash, htext⟩
  · rw [htext]
    exact readPieces_escape_eq_none he (h.resolve_left (ne_false_of_eq_true hcovered))
  · rw [htext]
    refine readPieces_byte_eq_none hquote hbackslash (h.imp_left fun hc => ?_)
    -- the reader comes to a control character
    by_contra hnot
    exact ne_true_of_eq_false hc (hcontrol.mpr hnot)

theorem readString_jsonEscape {value : List UInt8} (h : Covered value) (rest : List UInt8) :
    readString (quote :: (jsonEscape value ++ quote :: rest)) = some (value, rest) :=
  readString_flatMap (fun c hc => spells_jsonEscapeByte (List.all_eq_true.mp h c hc)) rest

theorem readString_jsonEscape_eq_none {value : List UInt8} (h : ¬ Covered value)
    (rest : List UInt8) : readString (quote :: (jsonEscape value ++ quote :: rest)) = none := by
  have hpieces : readPieces (jsonEscape value ++ quote :: rest) = none := by
    induction value with
    | nil => exact absurd rfl h
    | cons c value ih =>
      rw [jsonEscape, List.flatMap_cons, List.append_assoc]
      apply readPieces_jsonEscapeByte_eq_none
      cases hc : isCovered c with
      | false => exact .inl rfl
      | true =>
        -- the character is read, but one of those behind it is not
        refine .inr (ih fun hvalue => h ?_)
        rw [Covered, List.all_cons, hc, Bool.true_and]
        exact hvalue
  rw [readString, if_pos rfl, hpieces]
  rfl

/-! ### The parts of the texts -/

open JsonText

theorem isBlank_nil : ([] : List UInt8).all isBlank = true := rfl

theorem isBlank_space : (ascii " ".toList).all isBlank = true := by decide

theorem isBlank_newline : (ascii "\n".toList).all isBlank = true := by decide

theorem isBlank_indent : (ascii "  ".toList).all isBlank = true := by decide

theorem reads_comma {blank : List UInt8} (hblank : blank.all isBlank = true) :
    Reads (comma :: blank) [.comma] :=
  (reads_mark rfl).append (reads_blank hblank)

theorem reads_nameText {name : String} (hname : (ascii name.toList).all isPlain = true) :
    Reads (nameText name) [.scalar (.string (ascii name.toList)), .colon] := by
  have hstring := reads_string fun rest => readString_plain hname rest
  have hcolon : Reads [colon, 0x20] [.colon] := (reads_mark rfl).append (reads_blank rfl)
  have htext : nameText name = quote :: (ascii name.toList ++ [quote]) ++ [colon, 0x20] := by
    rw [nameText, List.cons_append, List.append_assoc]
    rfl
  rw [htext]
  exact hstring.append hcolon

/-- The name of a member, with what stands in front of it. -/
theorem reads_name {blank : List UInt8} (hblank : blank.all isBlank = true) {name : String}
    (hname : (ascii name.toList).all isPlain = true) :
    Reads (blank ++ nameText name) [.scalar (.string (ascii name.toList)), .colon] :=
  (reads_blank hblank).append (reads_nameText hname)

theorem reads_quoted {value : List UInt8} (h : Covered value) :
    Reads (quoted value) [.scalar (.string value)] :=
  reads_string (readString_jsonEscape h)

theorem refuses_quoted {value : List UInt8} (h : ¬ Covered value) : Refuses (quoted value) :=
  refuses_string (readString_jsonEscape_eq_none h)

def boolValue (value : Bool) : Value :=
  if value then .true else .false

theorem reads_boolText (value : Bool) : Reads (boolText value) [.scalar (boolValue value)] := by
  cases value with
  | false => exact reads_false
  | true => exact reads_true

theorem reads_double {value : Double} (h : value.IsFinite) {blank : List UInt8}
    (hblank : blank.all isBlank = true) :
    Reads (ascii (formatDouble value) ++ comma :: blank)
      [.scalar (.number (formatDouble value)), .comma] := by
  cases value with
  | finite negative magnitude =>
    exact reads_number (isNumeric_fixed 6 negative magnitude)
      (isNumber_fixed (by decide) negative magnitude) (by decide) (reads_comma hblank)
  | infinite negative => exact h.elim
  | nan negative => exact h.elim

/-- Neither an infinite number nor none at all is a value. -/
theorem refuses_double {value : Double} (h : ¬ value.IsFinite) (blank : List UInt8) :
    Refuses (ascii (formatDouble value) ++ comma :: blank) := by
  cases value with
  | finite negative magnitude => exact absurd trivial h
  | infinite negative =>
    cases negative with
    | false => exact refuses_scalar (by decide) fun _ => rfl
    | true => exact refuses_scalar (by decide) fun _ => rfl
  | nan negative =>
    cases negative with
    | false => exact refuses_scalar (by decide) fun _ => rfl
    | true => exact refuses_scalar (by decide) fun _ => rfl

/-- What stands behind the value of a member. -/
def ending (last : Bool) : String :=
  if last then "\n" else ",\n"

def endingTokens (last : Bool) : List Token :=
  if last then [] else [.comma]

theorem reads_ending (last : Bool) : Reads (ascii (ending last).toList) (endingTokens last) := by
  cases last with
  | false => exact reads_comma rfl
  | true => exact reads_blank rfl

theorem reads_digits {digits : List Char} (hnumeric : ∀ c ∈ digits, IsNumeric c)
    (hnumber : isNumber digits = true) (last : Bool) :
    Reads (ascii digits ++ ascii (ending last).toList)
      (.scalar (.number digits) :: endingTokens last) := by
  cases last with
  | false => exact reads_number hnumeric hnumber (by decide) (reads_ending false)
  | true => exact reads_number hnumeric hnumber (by decide) (reads_ending true)

theorem reads_decimal (n : ℕ) (last : Bool) :
    Reads (ascii (decimal n) ++ ascii (ending last).toList)
      (.scalar (.number (decimal n)) :: endingTokens last) :=
  reads_digits (fun _ hc => isNumeric_of_mem_decimal hc) (isNumber_decimal n) last

theorem reads_integer (z : ℤ) (last : Bool) :
    Reads (ascii (integer z) ++ ascii (ending last).toList)
      (.scalar (.number (integer z)) :: endingTokens last) :=
  reads_digits (fun _ hc => isNumeric_of_mem_integer hc) (isNumber_integer z) last

def stringPart (value : List UInt8) : Part where
  text := quoted value
  found := [.scalar (.string value)]
  isRead := Covered value
  reads := reads_quoted
  refuses := refuses_quoted

def doublePart (value : Double) (blank : List UInt8) (hblank : blank.all isBlank = true) : Part where
  text := ascii (formatDouble value) ++ comma :: blank
  found := [.scalar (.number (formatDouble value)), .comma]
  isRead := value.IsFinite
  reads h := reads_double h hblank
  refuses h := refuses_double h blank

@[simp] theorem text_stringPart (value : List UInt8) : (stringPart value).text = quoted value := rfl

@[simp] theorem found_stringPart (value : List UInt8) :
    (stringPart value).found = [.scalar (.string value)] := rfl

@[simp] theorem isRead_stringPart (value : List UInt8) :
    (stringPart value).isRead ↔ Covered value := Iff.rfl

section

variable (value : Double) {blank : List UInt8} (hblank : blank.all isBlank = true)

@[simp] theorem text_doublePart :
    (doublePart value blank hblank).text = ascii (formatDouble value) ++ comma :: blank := rfl

@[simp] theorem found_doublePart :
    (doublePart value blank hblank).found = [.scalar (.number (formatDouble value)), .comma] := rfl

@[simp] theorem isRead_doublePart : (doublePart value blank hblank).isRead ↔ value.IsFinite :=
  Iff.rfl

end

def boolPart (value : Bool) : Part :=
  .always (boolText value) [.scalar (boolValue value)] (reads_boolText value)

section Lines

variable (name : String) (hname : (ascii name.toList).all isPlain = true)

def namePart (blank : List UInt8) (hblank : blank.all isBlank = true) : Part :=
  .always (blank ++ nameText name) [.scalar (.string (ascii name.toList)), .colon]
    (reads_name hblank hname)

/-- A line whose value ends by itself. -/
def valueLine (value : Part) (last : Bool) : Part :=
  .join [namePart name hname (ascii "  ".toList) isBlank_indent, value,
    .always (ascii (ending last).toList) (endingTokens last) (reads_ending last)]

def decimalLine (n : ℕ) (last : Bool) : Part :=
  .join [namePart name hname (ascii "  ".toList) isBlank_indent,
    .always (ascii (decimal n) ++ ascii (ending last).toList)
      (.scalar (.number (decimal n)) :: endingTokens last) (reads_decimal n last)]

def integerLine (z : ℤ) (last : Bool) : Part :=
  .join [namePart name hname (ascii "  ".toList) isBlank_indent,
    .always (ascii (integer z) ++ ascii (ending last).toList)
      (.scalar (.number (integer z)) :: endingTokens last) (reads_integer z last)]

def doubleLine (value : Double) : Part :=
  .join [namePart name hname (ascii "  ".toList) isBlank_indent,
    doublePart value (ascii "\n".toList) isBlank_newline]

theorem text_valueLine (value : Part) (last : Bool) :
    (valueLine name hname value last).text = line name value.text (ending last) := by
  simp [valueLine, namePart, line]

theorem text_decimalLine (n : ℕ) (last : Bool) :
    (decimalLine name hname n last).text = line name (ascii (decimal n)) (ending last) := by
  simp [decimalLine, namePart, line]

theorem text_integerLine (z : ℤ) (last : Bool) :
    (integerLine name hname z last).text = line name (ascii (integer z)) (ending last) := by
  simp [integerLine, namePart, line]

theorem text_doubleLine (value : Double) :
    (doubleLine name hname value).text = line name (ascii (formatDouble value)) (ending false) := by
  have hending : ascii (ending false).toList = comma :: ascii "\n".toList := rfl
  simp [doubleLine, namePart, line, hending]

end Lines

theorem reads_open : Reads (ascii "\x7b\n".toList) [.openBrace] :=
  (reads_mark rfl).append (reads_blank rfl)

theorem reads_close : Reads (ascii "\x7d".toList) [.closeBrace] :=
  reads_mark rfl

/-! ### The statistics -/

/-- What the statistics say. -/
def StatsRecord.toValue (stats : StatsRecord) : Json :=
  .object [
    (ascii "capacity_bytes".toList, .scalar (.number (decimal stats.capacityBytes))),
    (ascii "bytes_used".toList, .scalar (.number (decimal stats.bytesUsed))),
    (ascii "fill_ratio".toList, .scalar (.number (formatDouble stats.fillRatio))),
    (ascii "frames_stored".toList, .scalar (.number (decimal stats.framesStored))),
    (ascii "frames_ingested_total".toList, .scalar (.number (decimal stats.framesIngestedTotal))),
    (ascii "frames_evicted_total".toList, .scalar (.number (decimal stats.framesEvictedTotal))),
    (ascii "has_frames".toList, .scalar (boolValue stats.hasFrames)),
    (ascii "session_id".toList, .scalar (.string stats.sessionId)),
    (ascii "span_seconds".toList, .scalar (.number (formatDouble stats.spanSeconds))),
    (ascii "oldest_capture_ts_ns".toList, .scalar (.number (integer stats.oldestCaptureTsNs))),
    (ascii "newest_capture_ts_ns".toList, .scalar (.number (integer stats.newestCaptureTsNs)))]

/-- The parts of `buffer_stats_to_json`. -/
def statsPart (stats : StatsRecord) : Part :=
  .join [.always (ascii "\x7b\n".toList) [.openBrace] reads_open,
    decimalLine "capacity_bytes" (by decide) stats.capacityBytes false,
    decimalLine "bytes_used" (by decide) stats.bytesUsed false,
    doubleLine "fill_ratio" (by decide) stats.fillRatio,
    decimalLine "frames_stored" (by decide) stats.framesStored false,
    decimalLine "frames_ingested_total" (by decide) stats.framesIngestedTotal false,
    decimalLine "frames_evicted_total" (by decide) stats.framesEvictedTotal false,
    valueLine "has_frames" (by decide) (boolPart stats.hasFrames) false,
    valueLine "session_id" (by decide) (stringPart stats.sessionId) false,
    doubleLine "span_seconds" (by decide) stats.spanSeconds,
    integerLine "oldest_capture_ts_ns" (by decide) stats.oldestCaptureTsNs false,
    integerLine "newest_capture_ts_ns" (by decide) stats.newestCaptureTsNs true,
    .always (ascii "\x7d".toList) [.closeBrace] reads_close]

theorem text_statsPart (stats : StatsRecord) :
    (statsPart stats).text = bufferStatsToJson stats := by
  simp only [statsPart, Part.text_join, List.flatMap_cons, List.flatMap_nil, List.append_nil,
    Part.text_always, text_valueLine, text_decimalLine, text_integerLine, text_doubleLine,
    text_stringPart, boolPart]
  rfl

theorem found_statsPart (stats : StatsRecord) :
    (statsPart stats).found = stats.toValue.tokens := by
  simp [statsPart, valueLine, decimalLine, integerLine, doubleLine, namePart, boolPart,
    endingTokens, StatsRecord.toValue, Json.tokens, memberTokens, moreMembers]

theorem isFinite_spanSeconds (stats : StatsRecord) : stats.spanSeconds.IsFinite := by
  unfold StatsRecord.spanSeconds
  split
  · trivial
  · trivial

theorem isFinite_fillRatio_iff (stats : StatsRecord) :
    stats.fillRatio.IsFinite ↔ stats.capacityBytes ≠ 0 := by
  unfold StatsRecord.fillRatio
  split
  · next hzero =>
    refine iff_of_false ?_ (not_not.mpr hzero)
    split
    · exact id
    · exact id
  · next hne => exact iff_of_true trivial hne

theorem isRead_statsPart_iff (stats : StatsRecord) :
    (statsPart stats).isRead ↔ stats.capacityBytes ≠ 0 ∧ Covered stats.sessionId := by
  simp [statsPart, valueLine, decimalLine, integerLine, doubleLine, namePart, boolPart,
    isFinite_fillRatio_iff, isFinite_spanSeconds]

/-! ### The clips -/

def PointOfInterestDTO.toValue (point : PointOfInterestDTO) : Json :=
  .object [
    (ascii "x".toList, .scalar (.number (formatDouble point.x))),
    (ascii "y".toList, .scalar (.number (formatDouble point.y))),
    (ascii "label".toList, .scalar (.string point.label))]

/-- What the descriptor says. -/
def ClipDescriptorDTO.toValue (dto : ClipDescriptorDTO) : Json :=
  .object [
    (ascii "clip_id".toList, .scalar (.string dto.clipId)),
    (ascii "file_uri".toList, .scalar (.string dto.fileUri)),
    (ascii "start_time".toList, .scalar (.string dto.startTimeIso)),
    (ascii "end_time".toList, .scalar (.string dto.endTimeIso)),
    (ascii "points_of_interest".toList,
      .array (dto.pointsOfInterest.map PointOfInterestDTO.toValue)),
    (ascii "sha256_hash".toList, .scalar (.string dto.sha256Hash)),
    (ascii "is_retained".toList, .scalar (boolValue dto.isRetained)),
    (ascii "is_locked_for_audit".toList, .scalar (boolValue dto.isLockedForAudit))]

/-- The coordinates are numbers, and the label has no control character but those of the switch. -/
structure PointOfInterestDTO.Writable (point : PointOfInterestDTO) : Prop where
  x : point.x.IsFinite
  y : point.y.IsFinite
  label : Covered point.label

structure ClipDescriptorDTO.Writable (dto : ClipDescriptorDTO) : Prop where
  clipId : Covered dto.clipId
  fileUri : Covered dto.fileUri
  startTimeIso : Covered dto.startTimeIso
  endTimeIso : Covered dto.endTimeIso
  pointsOfInterest : ∀ point ∈ dto.pointsOfInterest, point.Writable
  sha256Hash : Covered dto.sha256Hash

theorem reads_openPoint : Reads (ascii "\n    \x7b".toList) [.openBrace] := by
  have hblank : Reads (ascii "\n    ".toList) [] := reads_blank rfl
  exact hblank.append (reads_mark rfl)

/-- The parts of a round of the loop, without the comma. -/
def pointPart (point : PointOfInterestDTO) : Part :=
  .join [.always (ascii "\n    \x7b".toList) [.openBrace] reads_openPoint,
    namePart "x" (by decide) [] isBlank_nil, doublePart point.x (ascii " ".toList) isBlank_space,
    namePart "y" (by decide) [] isBlank_nil, doublePart point.y (ascii " ".toList) isBlank_space,
    namePart "label" (by decide) [] isBlank_nil, stringPart point.label,
    .always (ascii "\x7d".toList) [.closeBrace] reads_close]

theorem text_pointPart (point : PointOfInterestDTO) :
    (pointPart point).text = pointToJson point := by
  simp only [pointPart, namePart, Part.text_join, List.flatMap_cons, List.flatMap_nil,
    List.append_nil, List.nil_append, List.append_assoc, Part.text_always, text_doublePart,
    text_stringPart]
  rfl

theorem found_pointPart (point : PointOfInterestDTO) :
    (pointPart point).found = point.toValue.tokens := by
  simp [pointPart, namePart, PointOfInterestDTO.toValue, Json.tokens, memberTokens, moreMembers]

theorem isRead_pointPart_iff (point : PointOfInterestDTO) :
    (pointPart point).isRead ↔ point.Writable := by
  have hparts : (pointPart point).isRead ↔
      point.x.IsFinite ∧ point.y.IsFinite ∧ Covered point.label := by
    simp [pointPart, namePart]
  rw [hparts]
  exact ⟨fun ⟨hx, hy, hlabel⟩ => ⟨hx, hy, hlabel⟩, fun h => ⟨h.x, h.y, h.label⟩⟩

/-- A point behind another one. -/
def nextPointPart (point : PointOfInterestDTO) : Part :=
  .join [.always [comma] [.comma] (reads_comma isBlank_nil), pointPart point]

theorem reads_closePoints : Reads (ascii "\n]".toList) [.closeBracket] := by
  have hblank : Reads (ascii "\n".toList) [] := reads_blank rfl
  exact hblank.append (reads_mark rfl)

theorem reads_openBracket : Reads [openBracket] [.openBracket] :=
  reads_mark rfl

theorem reads_closeBracket : Reads [closeBracket] [.closeBracket] :=
  reads_mark rfl

/-- The array of the points of interest. -/
def pointsPart : List PointOfInterestDTO → Part
  | [] => .join [.always [openBracket] [.openBracket] reads_openBracket,
      .always [closeBracket] [.closeBracket] reads_closeBracket]
  | point :: points => .join [.always [openBracket] [.openBracket] reads_openBracket,
      pointPart point, .join (points.map nextPointPart),
      .always (ascii "\n]".toList) [.closeBracket] reads_closePoints]

/-- Only the first point has no comma in front of it. -/
theorem pointsToJson_cons (point : PointOfInterestDTO) (points : List PointOfInterestDTO) :
    pointsToJson (point :: points) = pointToJson point ++
      ((points.flatMap fun point => comma :: pointToJson point) ++ ascii "\n".toList) := by
  have hnext : (points.mapIdx fun i point =>
      (if i + 1 > 0 then [comma] else []) ++ pointToJson point) =
        points.map fun point => comma :: pointToJson point := by
    rw [List.mapIdx_eq_iff]
    intro i
    rw [List.getElem?_map, if_pos (Nat.succ_pos i)]
    rfl
  rw [pointsToJson, List.mapIdx_cons, List.flatten_cons, hnext, ← List.flatMap_def,
    if_neg (by decide), if_neg (by simp), List.nil_append, List.append_assoc]

theorem text_pointsPart (points : List PointOfInterestDTO) :
    (pointsPart points).text = ascii "[".toList ++ (pointsToJson points ++ ascii "]".toList) := by
  cases points with
  | nil => rfl
  | cons point points =>
    have hnext : ∀ point, (nextPointPart point).text = comma :: pointToJson point := by
      intro point
      simp only [nextPointPart, Part.text_join, List.flatMap_cons, List.flatMap_nil,
        List.append_nil, Part.text_always, text_pointPart, List.singleton_append]
    rw [pointsToJson_cons]
    simp only [pointsPart, Part.text_join, List.flatMap_cons, List.flatMap_nil, List.append_nil,
      List.append_assoc, List.flatMap_map, Part.text_always, text_pointPart, hnext]
    rfl

theorem found_pointsPart (points : List PointOfInterestDTO) :
    (pointsPart points).found = (Json.array (points.map PointOfInterestDTO.toValue)).tokens := by
  cases points with
  | nil => rfl
  | cons point points =>
    have hmore : (points.map nextPointPart).flatMap Part.found ++ [Token.closeBracket] =
        moreItems (points.map PointOfInterestDTO.toValue) := by
      induction points with
      | nil => rfl
      | cons point points ih =>
        rw [List.map_cons, List.flatMap_cons, List.append_assoc, ih, List.map_cons, moreItems]
        simp only [nextPointPart, Part.found_join, List.flatMap_cons, List.flatMap_nil,
          List.append_nil, Part.found_always, found_pointPart, List.cons_append, List.nil_append]
    rw [List.map_cons, Json.tokens, ← hmore]
    simp only [pointsPart, Part.found_join, List.flatMap_cons, List.flatMap_nil, List.append_nil,
      Part.found_always, found_pointPart, List.singleton_append]

theorem isRead_pointsPart_iff (points : List PointOfInterestDTO) :
    (pointsPart points).isRead ↔ ∀ point ∈ points, point.Writable := by
  cases points with
  | nil => simp [pointsPart]
  | cons point points => simp [pointsPart, nextPointPart, isRead_pointPart_iff]

theorem isPlain_clipId : (ascii "clip_id".toList).all isPlain = true := by decide

/-- The parts of `to_json`. -/
def clipPart (dto : ClipDescriptorDTO) : Part :=
  .join [.always (ascii "\x7b\n".toList) [.openBrace] reads_open,
    valueLine "clip_id" isPlain_clipId (stringPart dto.clipId) false,
    valueLine "file_uri" (by decide) (stringPart dto.fileUri) false,
    valueLine "start_time" (by decide) (stringPart dto.startTimeIso) false,
    valueLine "end_time" (by decide) (stringPart dto.endTimeIso) false,
    valueLine "points_of_interest" (by decide) (pointsPart dto.pointsOfInterest) false,
    valueLine "sha256_hash" (by decide) (stringPart dto.sha256Hash) false,
    valueLine "is_retained" (by decide) (boolPart dto.isRetained) false,
    valueLine "is_locked_for_audit" (by decide) (boolPart dto.isLockedForAudit) true,
    .always (ascii "\x7d".toList) [.closeBrace] reads_close]

theorem text_clipPart (dto : ClipDescriptorDTO) : (clipPart dto).text = toJson dto := by
  have hpoints : ∀ text, line "points_of_interest" (ascii "[".toList ++ (text ++ ascii "]".toList))
      (ending false) = line "points_of_interest" (ascii "[".toList ++ text) "],\n" := by
    intro text
    simp [line, ending, ascii]
  simp only [clipPart, Part.text_join, List.flatMap_cons, List.flatMap_nil, List.append_nil,
    Part.text_always, text_valueLine, text_stringPart, text_pointsPart, boolPart, hpoints]
  rfl

theorem found_clipPart (dto : ClipDescriptorDTO) : (clipPart dto).found = dto.toValue.tokens := by
  simp [clipPart, valueLine, namePart, boolPart, found_pointsPart, endingTokens,
    ClipDescriptorDTO.toValue, Json.tokens, memberTokens, moreMembers]

theorem isRead_clipPart_iff (dto : ClipDescriptorDTO) : (clipPart dto).isRead ↔ dto.Writable := by
  have hparts : (clipPart dto).isRead ↔ Covered dto.clipId ∧ Covered dto.fileUri ∧
      Covered dto.startTimeIso ∧ Covered dto.endTimeIso ∧
        (∀ point ∈ dto.pointsOfInterest, point.Writable) ∧ Covered dto.sha256Hash := by
    simp [clipPart, valueLine, namePart, boolPart, isRead_pointsPart_iff]
  rw [hparts]
  constructor
  · rintro ⟨hclip, huri, hstart, hend, hpoints, hhash⟩
    exact ⟨hclip, huri, hstart, hend, hpoints, hhash⟩
  · intro h
    exact ⟨h.clipId, h.fileUri, h.startTimeIso, h.endTimeIso, h.pointsOfInterest, h.sha256Hash⟩

/-! ### The errors -/

def errorValue (what : List UInt8) : Json :=
  .object [(ascii "error".toList, .scalar (.string what))]

theorem reads_openError :
    Reads (ascii "\x7b\"error\":".toList)
      [.openBrace, .scalar (.string (ascii "error".toList)), .colon] := by
  have hname : Reads (quote :: (ascii "error".toList ++ [quote]))
      [.scalar (.string (ascii "error".toList))] :=
    reads_string fun rest => readString_plain (by decide) rest
  exact (reads_mark (b := openBrace) rfl).append (hname.append (reads_mark (b := colon) rfl))

def errorPart (what : List UInt8) : Part :=
  .join [.always (ascii "\x7b\"error\":".toList)
      [.openBrace, .scalar (.string (ascii "error".toList)), .colon] reads_openError,
    stringPart what, .always (ascii "\x7d".toList) [.closeBrace] reads_close]

theorem text_errorPart (what : List UInt8) : (errorPart what).text = errorToJson what := by
  simp only [errorPart, Part.text_join, List.flatMap_cons, List.flatMap_nil, List.append_nil,
    Part.text_always, text_stringPart, quoted, List.cons_append, List.append_assoc]
  rfl

theorem found_errorPart (what : List UInt8) : (errorPart what).found = (errorValue what).tokens := by
  simp [errorPart, errorValue, Json.tokens, memberTokens, moreMembers]

theorem isRead_errorPart_iff (what : List UInt8) : (errorPart what).isRead ↔ Covered what := by
  simp [errorPart]

/-! ### What a reader finds -/

theorem decode_bufferStatsToJson_iff (stats : StatsRecord) :
    JsonText.decode (bufferStatsToJson stats) = some stats.toValue ↔
      stats.capacityBytes ≠ 0 ∧ Covered stats.sessionId := by
  rw [← text_statsPart, (statsPart stats).decode_text_iff (found_statsPart stats)]
  exact isRead_statsPart_iff stats

/-- Statistics that are not read as what they say are no JSON. -/
theorem decode_bufferStatsToJson_eq_none {stats : StatsRecord}
    (h : ¬ (stats.capacityBytes ≠ 0 ∧ Covered stats.sessionId)) :
    JsonText.decode (bufferStatsToJson stats) = none := by
  rw [← text_statsPart]
  exact ((statsPart stats).refuses (mt (isRead_statsPart_iff stats).mp h)).decode_eq

theorem decode_toJson_iff (dto : ClipDescriptorDTO) :
    JsonText.decode (toJson dto) = some dto.toValue ↔ dto.Writable := by
  rw [← text_clipPart, (clipPart dto).decode_text_iff (found_clipPart dto)]
  exact isRead_clipPart_iff dto

theorem decode_errorToJson_iff (what : List UInt8) :
    JsonText.decode (errorToJson what) = some (errorValue what) ↔ Covered what := by
  rw [← text_errorPart, (errorPart what).decode_text_iff (found_errorPart what)]
  exact isRead_errorPart_iff what

/-- The literals are what the others would be. -/
theorem errorToJson_of_literal {text : List UInt8} (h : text ∈ literalErrors) :
    ∃ what, Covered what ∧ text = errorToJson what := by
  simp only [literalErrors, List.mem_cons, List.not_mem_nil, or_false] at h
  rcases h with rfl | rfl | rfl | rfl | rfl
  · exact ⟨ascii "clip not found".toList, by decide, rfl⟩
  · exact ⟨ascii "buffer statistics require a capture buffer".toList, by decide, rfl⟩
  · exact ⟨ascii "invalid event_id".toList, by decide, rfl⟩
  · exact ⟨ascii "no frames captured yet; the buffer clock is not started".toList, by decide, rfl⟩
  · exact ⟨ascii "start_ms must be earlier than end_ms".toList, by decide, rfl⟩

/-- **The texts of the server are JSON that says what it should exactly if** no string in them has a
control character but those of the switch, the coordinates are numbers, and the buffer has a
capacity. -/
theorem jsonTexts_decode_iff (value what : List UInt8) (dto : ClipDescriptorDTO)
    (stats : StatsRecord) :
    ((∀ rest, readString (quote :: (jsonEscape value ++ quote :: rest)) = some (value, rest)) ↔
      Covered value) ∧
    (JsonText.decode (toJson dto) = some dto.toValue ↔ dto.Writable) ∧
    (JsonText.decode (bufferStatsToJson stats) = some stats.toValue ↔
      stats.capacityBytes ≠ 0 ∧ Covered stats.sessionId) ∧
    (JsonText.decode (errorToJson what) = some (errorValue what) ↔ Covered what) ∧
    ∀ text ∈ literalErrors, ∃ what, JsonText.decode text = some (errorValue what) := by
  refine ⟨?_, decode_toJson_iff dto, decode_bufferStatsToJson_iff stats,
    decode_errorToJson_iff what, ?_⟩
  · constructor
    · intro hread
      by_contra hvalue
      have hnone := readString_jsonEscape_eq_none hvalue []
      rw [hread []] at hnone
      cases hnone
    · exact readString_jsonEscape
  · intro text htext
    obtain ⟨what, hcovered, rfl⟩ := errorToJson_of_literal htext
    exact ⟨what, (decode_errorToJson_iff what).mpr hcovered⟩

/-- The session of a recording whose file name has a control character, as `main` names it. -/
def controlSession : List UInt8 :=
  ascii "replay-cam\x01.mp4".toList

/-- One frame of that session is in the buffer. -/
def controlStats : StatsRecord where
  capacityBytes := 16
  bytesUsed := 2
  framesStored := 1
  framesIngestedTotal := 1
  framesEvictedTotal := 0
  hasFrames := true
  oldestCaptureTsNs := 5
  newestCaptureTsNs := 5
  sessionId := controlSession

/-- The statistics of that session are no JSON, nor is an error that names it. What the purge log
writes of it is read back. -/
theorem jsonTexts_control_refused :
    JsonText.decode (bufferStatsToJson controlStats) = none ∧
      readString (quote :: (jsonEscape controlSession ++ [quote])) = none ∧
        readString (jsonString controlSession) = some (controlSession, []) := by
  have hcovered : ¬ Covered controlSession := by decide
  refine ⟨decode_bufferStatsToJson_eq_none fun h => hcovered h.2,
    readString_jsonEscape_eq_none hcovered [], ?_⟩
  have hread := readString_jsonString controlSession []
  rwa [List.append_nil] at hread

/-! ### What the service writes -/

/-- The text holds nothing but letters, digits and marks of ASCII. -/
def IsPrinted (text : List Char) : Prop :=
  ∀ c ∈ text, 0x20 ≤ c.toNat ∧ c.toNat < 0x80

theorem isPrinted_nil : IsPrinted [] :=
  List.forall_mem_nil _

theorem isPrinted_append {text text' : List Char} :
    IsPrinted (text ++ text') ↔ IsPrinted text ∧ IsPrinted text' :=
  List.forall_mem_append

theorem isPrinted_cons {c : Char} {text : List Char} :
    IsPrinted (c :: text) ↔ (0x20 ≤ c.toNat ∧ c.toNat < 0x80) ∧ IsPrinted text :=
  List.forall_mem_cons

theorem isPrinted_of_isDigit {text : List Char} (h : ∀ c ∈ text, c.isDigit = true) :
    IsPrinted text := by
  intro c hc
  have hdigit := h c hc
  simp only [Char.isDigit, Bool.and_eq_true, decide_eq_true_eq] at hdigit
  have hlow : 48 ≤ c.toNat := hdigit.1
  have hhigh : c.toNat ≤ 57 := hdigit.2
  omega

theorem isPrinted_lastDigits (k n : ℕ) : IsPrinted (lastDigits k n) :=
  isPrinted_of_isDigit fun _ hc => isDigit_of_mem_lastDigits hc

theorem isPrinted_integer (z : ℤ) : IsPrinted (integer z) := by
  have hdigits : IsPrinted (decimal z.natAbs) :=
    isPrinted_of_isDigit fun _ hc => isDigit_of_mem_decimal hc
  unfold integer
  split
  · exact isPrinted_cons.mpr ⟨by decide, hdigits⟩
  · exact hdigits

theorem covered_ascii {text : List Char} (h : IsPrinted text) : Covered (ascii text) := by
  refine List.all_eq_true.mpr fun b hb => ?_
  obtain ⟨c, hc, rfl⟩ := List.mem_map.mp hb
  obtain ⟨hlow, hhigh⟩ := h c hc
  have hbyte : c.toUInt8.toNat = c.toNat := by
    show c.toNat % 256 = c.toNat
    exact Nat.mod_eq_of_lt (by omega)
  have hcontrol : ¬ c.toUInt8 < 0x20 := by
    rw [UInt8.lt_iff_toNat_lt, hbyte]
    exact Nat.not_lt.mpr hlow
  simp [isCovered, hcontrol]

theorem isPrinted_toIso8601 (timestamp : TimePoint) : IsPrinted (toIso8601 timestamp) := by
  have hmillis : IsPrinted
      (List.leftpad 3 '0' (integer ((timestamp.tdiv 1000000).tmod 1000))) := by
    rw [List.leftpad, isPrinted_append]
    refine ⟨fun c hc => ?_, isPrinted_integer _⟩
    rw [List.eq_of_mem_replicate hc]
    decide
  -- what is left are the marks between the numbers
  simp only [toIso8601, isPrinted_append, isPrinted_cons, isPrinted_nil, isPrinted_lastDigits,
    isPrinted_integer, hmillis, true_and, and_true]
  decide

/-- `ClipDescriptorController::getClipDescriptor`, of a clip that is found. -/
def ClipDescriptorDTO.ofClip (clip : MediaClip) : ClipDescriptorDTO where
  clipId := clip.clipId.toUTF8.toList
  fileUri := clip.filePath.toUTF8.toList
  startTimeIso := ascii (toIso8601 clip.timeWindow.startTime)
  endTimeIso := ascii (toIso8601 clip.timeWindow.endTime)
  pointsOfInterest := clip.pointsOfInterest.map fun point =>
    { x := .ofRat point.x, y := .ofRat point.y, label := point.label.toUTF8.toList }
  sha256Hash := clip.sha256Hash.toUTF8.toList
  isRetained := clip.isRetained
  isLockedForAudit := clip.isLockedForAudit

/-- Of a clip only its own strings matter. -/
theorem decode_ofClip_iff (clip : MediaClip) :
    JsonText.decode (toJson (.ofClip clip)) = some (ClipDescriptorDTO.ofClip clip).toValue ↔
      Covered clip.clipId.toUTF8.toList ∧ Covered clip.filePath.toUTF8.toList ∧
        Covered clip.sha256Hash.toUTF8.toList ∧
          ∀ point ∈ clip.pointsOfInterest, Covered point.label.toUTF8.toList := by
  rw [decode_toJson_iff]
  constructor
  · intro h
    exact ⟨h.clipId, h.fileUri, h.sha256Hash, fun point hpoint =>
      (h.pointsOfInterest _ (List.mem_map_of_mem hpoint)).label⟩
  · rintro ⟨hclip, hfile, hhash, hlabels⟩
    refine ⟨hclip, hfile, covered_ascii (isPrinted_toIso8601 _),
      covered_ascii (isPrinted_toIso8601 _), fun dto hdto => ?_, hhash⟩
    obtain ⟨point, hpoint, rfl⟩ := List.mem_map.mp hdto
    exact ⟨trivial, trivial, hlabels point hpoint⟩

/-- The statistics of the buffer, as the server gets them. -/
def StatsRecord.ofStats (stats : BufferStats) : StatsRecord where
  capacityBytes := stats.capacityBytes
  bytesUsed := stats.bytesUsed
  framesStored := stats.framesStored
  framesIngestedTotal := stats.framesIngestedTotal
  framesEvictedTotal := stats.framesEvictedTotal
  hasFrames := stats.hasFrames
  oldestCaptureTsNs := stats.oldestCaptureTsNs
  newestCaptureTsNs := stats.newestCaptureTsNs
  sessionId := stats.sessionId.toUTF8.toList

/-- Of the buffer only the id of its session matters, whatever was delivered to it. -/
theorem decode_onFrames_iff {capacity : BufferCapacity} {store : SharedMemoryFrameStore}
    {deliveries : List (TimePoint × CapturedFrame)} {stats : BufferStats}
    (hstats : ((RingBufferRAMFacade.new capacity store).onFrames deliveries).2.stats = stats) :
    JsonText.decode (bufferStatsToJson (.ofStats stats)) =
        some (StatsRecord.ofStats stats).toValue ↔ Covered stats.sessionId.toUTF8.toList := by
  have hbooks : RingBufferRAMFacade.Books 0 (RingBufferRAMFacade.new capacity store) :=
    ⟨RingBuffer.Balanced.new capacity, rfl⟩
  have hcapacity : stats.capacityBytes = capacity.totalBytes :=
    hstats ▸ hbooks.capacity_onFrames deliveries
  have hne : (StatsRecord.ofStats stats).capacityBytes ≠ 0 := by
    show stats.capacityBytes ≠ 0
    rw [hcapacity]
    exact Nat.ne_of_gt capacity.totalBytes_pos
  rw [decode_bufferStatsToJson_iff]
  exact and_iff_right hne

end Http

end Ods.S4
