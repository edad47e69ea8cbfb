import OdsMod2.Framework.FlatJsonSearch
import OdsMod2.S4.Http.EventRequest

/-!
# What the fields of an event request are read as

The body of an event request is a flat JSON object. A field is looked up by searching for its quoted
name, so it is read after the colon that `FlatJson.landing` tells. `readFields_eq_iff` says exactly
for which bodies each field is read as a parser of JSON would read it; those that mention a field
only where they give it are among them (`readable_of_unmistaken`).
-/

namespace Ods.S4.Http

open FlatJson TextStream TextSearch

/-! ### What a parser reads -/

/-- The number as an integer, if it is one. -/
def integer? (n : Number) : Option Int :=
  if n.value.den = 1 then some n.value.num else none

/-- The string of a field as a parser finds it, where a member that is null counts as absent. A
string that is not given is empty. -/
def parsedString (o : FlatObject) (key : List Char) : List Char :=
  ((o.given key).bind Value.quoted).getD []

@[inherit_doc parsedString]
def parsedInt (o : FlatObject) (key : List Char) : Option Int :=
  ((o.given key).bind Value.number?).bind integer?

@[inherit_doc parsedString]
def parsedDouble (doubles : Doubles) (o : FlatObject) (key : List Char) : Option ℚ :=
  ((o.given key).bind Value.number?).map (doubles.nearest ·.value)

def parsedFields (doubles : Doubles) (o : FlatObject) : EventFields where
  eventId := parsedString o "event_id".toList
  captureTsNs := parsedInt o "capture_ts_ns".toList
  preWindowSeconds := parsedDouble doubles o "pre_window_seconds".toList
  postWindowSeconds := parsedDouble doubles o "post_window_seconds".toList
  startMs := parsedInt o "start_ms".toList
  endMs := parsedInt o "end_ms".toList

/-- The names of the fields. -/
def fieldNames : List String :=
  ["event_id", "capture_ts_ns", "pre_window_seconds", "post_window_seconds", "start_ms", "end_ms"]

theorem isWord_fieldNames : ∀ key ∈ fieldNames, IsWord key.toList := by
  decide

/-- A string, an integer of 64 bits, a number that is not negative. -/
def isString (v : Value) : Prop :=
  ∃ content, v = .string content

def isInt64 (v : Value) : Prop :=
  ∃ (n : Number) (z : Int), v = .number n ∧ n.value = z ∧ -2 ^ 63 ≤ z ∧ z ≤ 2 ^ 63 - 1

def isNonNegative (v : Value) : Prop :=
  ∃ n : Number, v = .number n ∧ 0 ≤ n.value

/-- The body of a request: an object in which each field that is given has a value of its type. -/
structure EventBody extends FlatObject where
  eventId_isString : ∀ v ∈ toFlatObject.given "event_id".toList, isString v
  captureTsNs_isInt64 : ∀ v ∈ toFlatObject.given "capture_ts_ns".toList, isInt64 v
  preWindowSeconds_isNonNegative :
    ∀ v ∈ toFlatObject.given "pre_window_seconds".toList, isNonNegative v
  postWindowSeconds_isNonNegative :
    ∀ v ∈ toFlatObject.given "post_window_seconds".toList, isNonNegative v
  startMs_isInt64 : ∀ v ∈ toFlatObject.given "start_ms".toList, isInt64 v
  endMs_isInt64 : ∀ v ∈ toFlatObject.given "end_ms".toList, isInt64 v

/-! ### What is read after a colon -/

/-- The string that is read after the colon of a member: the value, or what the next name begins
with. -/
def shownString (m : Member) (rest : List Member) : List Char :=
  m.value.quoted.getD ((rest.head?.map fun n => (nameText n.name).takeWhile (· ≠ '"')).getD [])

/-- The string that is read at the place where the search ends. -/
def landingString (trail : Blank) : Landing → List Char
  | .nowhere => []
  | .member m rest => shownString m rest
  | .insideName m rest =>
    (between '"' (m.nameRest ++ '"' :: afterNameText trail m rest)).getD []

/-- An integer is read up to the point or the exponent. -/
def shownInt (n : Number) : Option Int :=
  if -2 ^ 63 ≤ n.integerPart ∧ n.integerPart ≤ 2 ^ 63 - 1 then some n.integerPart else none

def shownDouble (doubles : Doubles) (n : Number) : Option ℚ :=
  if doubles.rangeError n.value then none else some (doubles.nearest n.value)

/-- The number that is read there: that of a member, or what the rest of a name begins with. -/
def landingNumber {α : Type} (shown : Number → Option α) (inName : List Char → Option α) :
    Landing → Option α
  | .nowhere => none
  | .member m _ => m.value.number?.bind shown
  | .insideName m _ => inName m.nameRest

def landingInt : Landing → Option Int :=
  landingNumber shownInt fun name => (numeral isIntegerChar name).bind stoll

def landingDouble (doubles : Doubles) : Landing → Option ℚ :=
  landingNumber (shownDouble doubles) fun name => (numeral isDecimalChar name).bind (stod doubles)

/-- The first string behind the colon of a member. -/
theorem between_member (trail : Blank) (m : Member) (rest : List Member) :
    (between '"' (m.body ++ tailText trail rest)).getD [] = shownString m rest := by
  rw [shownString]
  cases hvalue : m.value.quoted with
  | some content =>
    obtain ⟨hvalueText, hcontent⟩ := Value.text_of_quoted hvalue
    -- a string ends at its own quote
    have hself : content.takeWhile (· ≠ '"') = content :=
      List.takeWhile_eq_self_iff.mpr (ne_mark hcontent)
    have htext : m.body ++ tailText trail rest =
        m.beforeValue.text ++ '"' :: (content ++ '"' :: (m.afterValue.text ++ tailText trail rest)) := by
      simp [Member.body, hvalueText]
    rw [htext, between_append m.beforeValue.quote_not_mem, hself]
    rfl
  | none =>
    have hbody : '"' ∉ m.body := by simp [Member.body, Value.not_mem_text hvalue]
    cases rest with
    | nil =>
      have hnone : '"' ∉ m.body ++ tailText trail [] := by simp [hbody, tailText]
      rw [between_eq_none hnone]
      rfl
    | cons n rest =>
      -- the next quote opens the name of the next member
      have hskip : '"' ∉ m.body ++ ',' :: n.before.text := by simp [hbody]
      rw [tailText_cons, ← List.append_assoc, between_append hskip]
      rfl

theorem extractJsonString_text {key : List Char} (hkey : IsWord key) (o : FlatObject) :
    extractJsonString o.text key = landingString o.trail (landing key o.members) := by
  have hsite : afterColon o.text key = (landing key o.members).text o.trail := site_text hkey o
  rw [extractJsonString, hsite]
  cases landing key o.members with
  | nowhere => rfl
  | member m rest => exact between_member o.trail m rest
  | insideName m rest => rfl

/-! ### Numerals -/

/-- The characters are those of a numeral: digits and the minus sign, but no white space and nothing
that another value begins with or that stands behind a value. -/
structure NumeralChars (p : Char → Bool) : Prop where
  digit : ∀ c, c.isDigit = true → p c = true
  minus : p '-' = true
  stops : ∀ c ∈ ['"', 't', 'f', 'n', ',', '}', ' ', '\t', '\r', '\n'], p c = false

theorem isIntegerChar_numeralChars : NumeralChars isIntegerChar where
  digit := by
    intro c hc
    simp [isIntegerChar, hc]
  minus := by decide
  stops := by simp [isIntegerChar]

theorem isDecimalChar_numeralChars : NumeralChars isDecimalChar where
  digit := by
    intro c hc
    simp [isDecimalChar, hc]
  minus := by decide
  stops := by simp [isDecimalChar]

variable {p : Char → Bool}

/-- A name is ended by its quote, for a numeral as well. -/
theorem numeral_name (hp : NumeralChars p) (name rest : List Char) :
    numeral p (name ++ '"' :: rest) = numeral p name := by
  have hspace : Stops isJsonSpace ('"' :: rest) := stops_cons.mpr (by decide)
  have hquote : Stops p ('"' :: rest) := stops_cons.mpr (hp.stops '"' (by simp))
  rw [numeral, dropWhile_append_stops hspace, takeWhile_append_stops hquote, numeral]

/-- Nothing that belongs to a numeral stands behind a value. -/
theorem NumeralChars.stops_afterValue (hp : NumeralChars p) (trail : Blank) (m : Member)
    (rest : List Member) : Stops p (m.afterValue.text ++ tailText trail rest) := by
  have hblank : ∀ c ∈ m.afterValue.text, p c = false := by
    intro c hc
    have h := m.afterValue.blank c hc
    simp only [isBlank, Bool.or_eq_true, decide_eq_true_eq] at h
    rcases h with ((rfl | rfl) | rfl) | rfl <;> exact hp.stops _ (by simp)
  cases hafter : m.afterValue.text with
  | cons c text => exact stops_cons.mpr (hblank c (by simp [hafter]))
  | nil =>
    cases rest with
    | nil => exact stops_cons.mpr (hp.stops '}' (by simp))
    | cons n rest => exact stops_cons.mpr (hp.stops ',' (by simp))

/-- A number begins with a character of a numeral, and no other value does. -/
theorem NumeralChars.takeWhile_text (hp : NumeralChars p) {v : Value} (h : v.number? = none)
    (rest : List Char) : (v.text ++ rest).takeWhile p = [] := by
  cases v with
  | number n => simp [Value.number?] at h
  | _ => exact List.takeWhile_cons_of_neg (by simp [hp.stops])

theorem NumeralChars.takeWhile_number (hp : NumeralChars p) (n : Number) :
    n.text.takeWhile p ≠ [] := by
  obtain ⟨c, text, htext, hc⟩ := n.exists_text
  have hfirst : p c = true := by
    rcases hc with rfl | hc
    · exact hp.minus
    · exact hp.digit c hc
  simp [htext, hfirst]

theorem numeral_member (hp : NumeralChars p) (trail : Blank) (m : Member) (rest : List Member) :
    numeral p (m.body ++ tailText trail rest) =
      m.value.number?.map fun n => n.text.takeWhile p := by
  have hskip : (m.body ++ tailText trail rest).dropWhile isJsonSpace =
      m.value.text ++ (m.afterValue.text ++ tailText trail rest) := by
    rw [Member.body, List.append_assoc, List.append_assoc]
    exact dropWhile_append m.beforeValue.blank (m.value.stops_isBlank _)
  rw [numeral, hskip]
  cases hnumber : m.value.number? with
  | none =>
    rw [hp.takeWhile_text hnumber]
    rfl
  | some n =>
    have htake : (n.text ++ (m.afterValue.text ++ tailText trail rest)).takeWhile p =
        n.text.takeWhile p := takeWhile_append_stops (hp.stops_afterValue trail m rest)
    rw [Value.text_of_number hnumber, htake]
    exact if_neg (hp.takeWhile_number n)

/-- The part of a number that looks like an integer. -/
theorem takeWhile_isIntegerChar (n : Number) :
    n.text.takeWhile isIntegerChar = minus n.negative ++ decimal n.whole := by
  have hsign : ∀ c ∈ minus n.negative ++ decimal n.whole, isIntegerChar c = true := by
    intro c hc
    rcases List.mem_append.mp hc with hc | hc
    · revert hc
      cases n.negative <;> simp +contextual [minus, isIntegerChar]
    · exact isIntegerChar_numeralChars.digit c (isDigit_of_mem_decimal hc)
  have hrest : Stops isIntegerChar n.rest := by
    simpa using n.stops_rest (by decide) (by decide) (by decide) stops_nil
  rw [Number.text, ← List.append_assoc]
  exact takeWhile_append hsign hrest

/-- All of a number looks like a decimal number. -/
theorem takeWhile_isDecimalChar (n : Number) : n.text.takeWhile isDecimalChar = n.text :=
  List.takeWhile_eq_self_iff.mpr fun _ hc => n.isNumeric_of_mem hc

/-- The number is read as its part before the point and the exponent. -/
theorem stoll_number (n : Number) :
    stoll (n.text.takeWhile isIntegerChar) = shownInt n := by
  have hread : readSigned (-2 ^ 63) (2 ^ 63 - 1) (minus n.negative ++ (decimal n.whole ++ [])) =
      if -2 ^ 63 ≤ n.integerPart ∧ n.integerPart ≤ 2 ^ 63 - 1 then some (n.integerPart, []) else none :=
    readSigned_minus_decimal n.negative n.whole stops_nil
  rw [List.append_nil] at hread
  rw [stoll, takeWhile_isIntegerChar, hread, shownInt]
  split <;> rfl

theorem stod_number (doubles : Doubles) (n : Number) :
    stod doubles (n.text.takeWhile isDecimalChar) = shownDouble doubles n := by
  rw [stod, takeWhile_isDecimalChar, n.readDecimal_text]
  rfl

/-- A field of numbers is read at the place where the search ends. -/
theorem numeral_text {α : Type} (hp : NumeralChars p) {convert : List Char → Option α}
    {shown : Number → Option α} (hshown : ∀ n, convert (n.text.takeWhile p) = shown n)
    {key : List Char} (hkey : IsWord key) (o : FlatObject) :
    (do let text ← afterColon o.text key
        let digits ← numeral p text
        convert digits) =
      landingNumber shown (fun name => (numeral p name).bind convert) (landing key o.members) := by
  have hsite : afterColon o.text key = (landing key o.members).text o.trail := site_text hkey o
  rw [hsite]
  cases landing key o.members with
  | nowhere => rfl
  | member m rest =>
    simp only [Landing.text, numeral_member hp, landingNumber, Option.bind_eq_bind,
      Option.bind_some, Option.bind_map, Function.comp_def, hshown]
  | insideName m rest =>
    simp only [Landing.text, numeral_name hp, landingNumber, Option.bind_eq_bind,
      Option.bind_some]

theorem extractJsonInt_text {key : List Char} (hkey : IsWord key) (o : FlatObject) :
    extractJsonInt o.text key = landingInt (landing key o.members) :=
  numeral_text isIntegerChar_numeralChars stoll_number hkey o

theorem extractJsonDouble_text (doubles : Doubles) {key : List Char} (hkey : IsWord key)
    (o : FlatObject) :
    extractJsonDouble doubles o.text key = landingDouble doubles (landing key o.members) :=
  numeral_text isDecimalChar_numeralChars (stod_number doubles) hkey o

/-! ### When a field is read as a parser reads it -/

/-- A field is looked up at its own member, whose value stands in the right form, or where the same
is found as in its own member, if it has one. -/
def ReadsAs {α : Type} (o : FlatObject) (key : List Char) (form : Member → List Member → Prop)
    (shown : Landing → α) (parsed : α) : Prop :=
  match landing key o.members with
  | .member m rest =>
    if m.isNamed key then form m rest else shown (.member m rest) = parsed
  | place => shown place = parsed

/-- A string is read from where the next string begins: a value that is null must not be followed by
a name. -/
def stringForm (m : Member) (rest : List Member) : Prop :=
  m.value.quoted = none → nextName rest = []

/-- An integer is read up to its point or exponent, which must not change it. -/
def intForm (m : Member) (_ : List Member) : Prop :=
  ∀ n, m.value = .number n → n.integerPart = n.value

/-- A decimal number must not be out of the range of `std::stod`. -/
def doubleForm (doubles : Doubles) (m : Member) (_ : List Member) : Prop :=
  ∀ n, m.value = .number n → doubles.rangeError n.value = false

def ReadsString (o : FlatObject) (key : List Char) : Prop :=
  ReadsAs o key stringForm (landingString o.trail) (parsedString o key)

def ReadsInt (o : FlatObject) (key : List Char) : Prop :=
  ReadsAs o key intForm landingInt (parsedInt o key)

def ReadsDouble (doubles : Doubles) (o : FlatObject) (key : List Char) : Prop :=
  ReadsAs o key (doubleForm doubles) (landingDouble doubles) (parsedDouble doubles o key)

/-- Each field is looked up where it is, or where the same stands, and in a form that is read. -/
structure EventBody.Readable (doubles : Doubles) (b : EventBody) : Prop where
  eventId : ReadsString b.toFlatObject "event_id".toList
  captureTsNs : ReadsInt b.toFlatObject "capture_ts_ns".toList
  preWindowSeconds : ReadsDouble doubles b.toFlatObject "pre_window_seconds".toList
  postWindowSeconds : ReadsDouble doubles b.toFlatObject "post_window_seconds".toList
  startMs : ReadsInt b.toFlatObject "start_ms".toList
  endMs : ReadsInt b.toFlatObject "end_ms".toList

/-- What is read at the place where the search ends decides, and at the own member its form. -/
theorem readsAs_iff {α : Type} {o : FlatObject} {key : List Char}
    {form : Member → List Member → Prop} {shown : Landing → α} {parsed : α}
    (hown : ∀ m rest, m ∈ o.members → m.isNamed key = true →
      (shown (.member m rest) = parsed ↔ form m rest)) :
    shown (landing key o.members) = parsed ↔ ReadsAs o key form shown parsed := by
  rw [ReadsAs]
  cases hlanding : landing key o.members with
  | nowhere => rfl
  | insideName m rest => rfl
  | member m rest =>
    show shown (.member m rest) = parsed ↔
      if m.isNamed key then form m rest else shown (.member m rest) = parsed
    split
    · rename_i hname
      exact hown m rest (landing_mem hlanding) hname
    · rfl

theorem shownString_eq_nil {m : Member} (h : m.value.quoted = none) (rest : List Member) :
    shownString m rest = [] ↔ nextName rest = [] := by
  rw [shownString, h]
  cases rest with
  | nil => simp [nextName]
  | cons n rest => exact takeWhile_nameText_eq_nil n.name

theorem extractJsonString_eq_iff {o : FlatObject} {key : List Char} (hkey : IsWord key)
    (htyped : ∀ v ∈ o.given key, isString v) :
    extractJsonString o.text key = parsedString o key ↔ ReadsString o key := by
  rw [extractJsonString_text hkey]
  refine readsAs_iff fun m rest hm hname => ?_
  show shownString m rest = parsedString o key ↔ stringForm m rest
  rw [parsedString, stringForm]
  rcases FlatObject.given_of_find (o.find_of_mem hm hname) with ⟨hnull, hgiven⟩ | hgiven
  · have hquoted : m.value.quoted = none := by rw [hnull]; rfl
    simp [hgiven, hquoted, shownString_eq_nil hquoted]
  · obtain ⟨content, hcontent⟩ := htyped m.value hgiven
    simp [hgiven, hcontent, shownString, Value.quoted]

/-- A number that is an integer. -/
theorem integer?_of_value {n : Number} {z : Int} (h : n.value = z) : integer? n = some z := by
  simp [integer?, h]

theorem extractJsonInt_eq_iff {o : FlatObject} {key : List Char} (hkey : IsWord key)
    (htyped : ∀ v ∈ o.given key, isInt64 v) :
    extractJsonInt o.text key = parsedInt o key ↔ ReadsInt o key := by
  rw [extractJsonInt_text hkey]
  refine readsAs_iff fun m rest hm hname => ?_
  show m.value.number?.bind shownInt = parsedInt o key ↔ intForm m rest
  rw [parsedInt, intForm]
  rcases FlatObject.given_of_find (o.find_of_mem hm hname) with ⟨hnull, hgiven⟩ | hgiven
  · -- null counts as absent, and shows no number
    simp [hgiven, hnull, Value.number?]
  · obtain ⟨n, z, hnumber, hz, hleast, hmost⟩ := htyped m.value hgiven
    have hshown : m.value.number?.bind shownInt = shownInt n := by
      rw [hnumber]
      rfl
    have hparsed : ((o.given key).bind Value.number?).bind integer? = some z := by
      rw [hgiven, hnumber]
      exact integer?_of_value hz
    -- what is read is the integer part, as long as it fits
    have hform : (∀ n, m.value = .number n → n.integerPart = n.value) ↔ n.integerPart = z := by
      simp [hnumber, hz]
    rw [hshown, hparsed, hform, shownInt]
    constructor
    · intro h
      split at h
      · exact Option.some.inj h
      · cases h
    · rintro rfl
      exact if_pos ⟨hleast, hmost⟩

theorem extractJsonDouble_eq_iff (doubles : Doubles) {o : FlatObject} {key : List Char}
    (hkey : IsWord key) (htyped : ∀ v ∈ o.given key, isNonNegative v) :
    extractJsonDouble doubles o.text key = parsedDouble doubles o key ↔
      ReadsDouble doubles o key := by
  rw [extractJsonDouble_text doubles hkey]
  refine readsAs_iff fun m rest hm hname => ?_
  show m.value.number?.bind (shownDouble doubles) = parsedDouble doubles o key ↔
    doubleForm doubles m rest
  rw [parsedDouble, doubleForm]
  rcases FlatObject.given_of_find (o.find_of_mem hm hname) with ⟨hnull, hgiven⟩ | hgiven
  · simp [hgiven, hnull, Value.number?]
  · obtain ⟨n, hnumber, -⟩ := htyped m.value hgiven
    simp [hgiven, hnumber, Value.number?, shownDouble]

theorem readFields_eq_iff (doubles : Doubles) (b : EventBody) :
    readFields doubles b.text = parsedFields doubles b.toFlatObject ↔ b.Readable doubles := by
  rw [readFields, parsedFields, EventFields.mk.injEq,
    extractJsonString_eq_iff (isWord_fieldNames _ (by simp [fieldNames])) b.eventId_isString,
    extractJsonInt_eq_iff (isWord_fieldNames _ (by simp [fieldNames])) b.captureTsNs_isInt64,
    extractJsonDouble_eq_iff doubles (isWord_fieldNames _ (by simp [fieldNames])) b.preWindowSeconds_isNonNegative,
    extractJsonDouble_eq_iff doubles (isWord_fieldNames _ (by simp [fieldNames])) b.postWindowSeconds_isNonNegative,
    extractJsonInt_eq_iff (isWord_fieldNames _ (by simp [fieldNames])) b.startMs_isInt64,
    extractJsonInt_eq_iff (isWord_fieldNames _ (by simp [fieldNames])) b.endMs_isInt64]
  constructor
  · rintro ⟨hid, hcapture, hpre, hpost, hstart, hend⟩
    exact ⟨hid, hcapture, hpre, hpost, hstart, hend⟩
  · rintro ⟨hid, hcapture, hpre, hpost, hstart, hend⟩
    exact ⟨hid, hcapture, hpre, hpost, hstart, hend⟩

/-- The fields of a body are read as a parser reads them exactly if each is looked up where it is,
or where the same stands, and in a form that is read. The request is then the one that was made. -/
theorem parseEventRequest_reads_iff (doubles : Doubles) (b : EventBody) :
    (readFields doubles b.text = parsedFields doubles b.toFlatObject ↔ b.Readable doubles) ∧
      (b.Readable doubles →
        parseEventRequest doubles b.text = (parsedFields doubles b.toFlatObject).request) := by
  have hiff := readFields_eq_iff doubles b
  refine ⟨hiff, fun hreadable => ?_⟩
  rw [parseEventRequest, hiff.mpr hreadable]

/-- The name of a field stands in the body only as the name of its member. -/
structure Unmistaken (o : FlatObject) (key : List Char) : Prop where
  names : ∀ m ∈ o.members, lastPiece [] m.name = key ↔ m.isNamed key = true
  values : ∀ m ∈ o.members, m.value.quoted ≠ some key

theorem Unmistaken.readsAs {α : Type} {o : FlatObject} {key : List Char} (h : Unmistaken o key)
    {form : Member → List Member → Prop} {shown : Landing → α} {parsed : α}
    (hform : ∀ m rest, m ∈ o.members → m.isNamed key = true → form m rest)
    (hnone : o.given key = none → shown .nowhere = parsed) : ReadsAs o key form shown parsed := by
  rw [ReadsAs]
  rcases landing_own h.names h.values with ⟨m, rest, hlanding, hm, hname⟩ | ⟨hlanding, hother⟩
  · simp only [hlanding, hname, if_true]
    exact hform m rest hm hname
  · simp only [hlanding]
    exact hnone (FlatObject.given_eq_none hother)

/-- A body is read as a parser reads it if the names of the fields stand in it only as names, the
event id is not null, an integer is what stands before its point and exponent, and the decimal
numbers are in range. -/
theorem EventBody.readable_of_unmistaken (doubles : Doubles) (b : EventBody)
    (hunmistaken : ∀ key ∈ fieldNames, Unmistaken b.toFlatObject key.toList)
    (hstring : ∀ m ∈ b.members, m.isNamed "event_id".toList = true → m.value.quoted ≠ none)
    (hint : ∀ key ∈ ["capture_ts_ns", "start_ms", "end_ms"], ∀ m ∈ b.members,
      m.isNamed key.toList = true → ∀ n, m.value = .number n → n.integerPart = n.value)
    (hdouble : ∀ key ∈ ["pre_window_seconds", "post_window_seconds"], ∀ m ∈ b.members,
      m.isNamed key.toList = true → ∀ n, m.value = .number n → doubles.rangeError n.value = false) :
    b.Readable doubles := by
  have hreadsInt : ∀ key ∈ ["capture_ts_ns", "start_ms", "end_ms"],
      ReadsInt b.toFlatObject key.toList := by
    intro key hkey
    have hfield : key ∈ fieldNames := by
      revert key
      decide
    refine (hunmistaken key hfield).readsAs (fun m _ => hint key hkey m) fun hnone => ?_
    rw [parsedInt, hnone]
    rfl
  have hreadsDouble : ∀ key ∈ ["pre_window_seconds", "post_window_seconds"],
      ReadsDouble doubles b.toFlatObject key.toList := by
    intro key hkey
    have hfield : key ∈ fieldNames := by
      revert key
      decide
    refine (hunmistaken key hfield).readsAs (fun m _ => hdouble key hkey m) fun hnone => ?_
    rw [parsedDouble, hnone]
    rfl
  have hreadsString : ReadsString b.toFlatObject "event_id".toList := by
    refine (hunmistaken "event_id" (by simp [fieldNames])).readsAs
      (fun m _ hm hname hquoted => absurd hquoted (hstring m hm hname)) fun hnone => ?_
    rw [parsedString, hnone]
    rfl
  exact {
    eventId := hreadsString
    captureTsNs := hreadsInt _ (by simp)
    preWindowSeconds := hreadsDouble _ (by simp)
    postWindowSeconds := hreadsDouble _ (by simp)
    startMs := hreadsInt _ (by simp)
    endMs := hreadsInt _ (by simp) }

/-! ### A value that is taken for a name -/

def noBlank : Blank := ⟨[], by simp⟩

/-- A member written without white space. -/
def compactMember (name value : String) (hname : name.toList.all isPlain = true)
    (hvalue : value.toList.all isPlain = true) : Member where
  before := noBlank
  name := name.toList.pmap NameChar.plain (List.all_eq_true.mp hname)
  afterName := noBlank
  beforeValue := noBlank
  value := .string ⟨value.toList, List.all_eq_true.mp hvalue⟩
  afterValue := noBlank

/-- An object that gives none of the fields. -/
def EventBody.ofOther (o : FlatObject)
    (h : ∀ key ∈ fieldNames, ∀ m ∈ o.members, m.isNamed key.toList = false) : EventBody :=
  have hnone : ∀ {key : String} {P : Value → Prop}, key ∈ fieldNames →
      ∀ v ∈ o.given key.toList, P v := by
    intro key P hkey v hv
    rw [FlatObject.given_eq_none (h key hkey)] at hv
    cases hv
  { o with
    eventId_isString := hnone (by simp [fieldNames])
    captureTsNs_isInt64 := hnone (by simp [fieldNames])
    preWindowSeconds_isNonNegative := hnone (by simp [fieldNames])
    postWindowSeconds_isNonNegative := hnone (by simp [fieldNames])
    startMs_isInt64 := hnone (by simp [fieldNames])
    endMs_isInt64 := hnone (by simp [fieldNames]) }

/-- The body `{"kind":"event_id","zone":"A"}`. -/
def zoneBody : EventBody :=
  .ofOther
    { lead := noBlank
      inside := noBlank
      members := [compactMember "kind" "event_id" (by decide) (by decide),
        compactMember "zone" "A" (by decide) (by decide)]
      trail := noBlank
      distinct := by decide }
    (by decide)

example : zoneBody.text = "\x7b\"kind\":\"event_id\",\"zone\":\"A\"\x7d".toList := by decide

/-- The clip is made for the event "A", although the body names no event. -/
theorem zone_read_as_event_id :
    ¬ ∀ (doubles : Doubles) (b : EventBody),
      parseEventRequest doubles b.text = (parsedFields doubles b.toFlatObject).request := by
  intro h
  have hid := congrArg (fun request => request.toOption.map EventRequest.eventId)
    (h ⟨id, fun _ => false⟩ zoneBody)
  revert hid
  decide

end Ods.S4.Http
