import Mathlib.Data.List.Nodup
import OdsMod2.Framework.DecimalText

/-!
# Flat JSON objects

The JSON objects whose values are not nested, with the text of each: white space stands wherever the
grammar allows it, the members come in any order, a number is written with any fraction and exponent,
and the characters of a name may be escaped. A string value is written without escapes. Two members
never have the same name, whichever way it is written.

The text is a function of the object, so that the objects with their texts are the well-formed texts
and `FlatObject.find` is what a parser finds in them.
-/

namespace FlatJson

open TextStream

/-! ### White space and strings -/

/-- The white space between two tokens. -/
def isBlank (c : Char) : Bool :=
  c = ' ' || c = '\t' || c = '\r' || c = '\n'

structure Blank where
  text : List Char
  blank : ∀ c ∈ text, isBlank c = true

/-- The character stands for itself between quotes. -/
def isPlain (c : Char) : Bool :=
  c ≠ '"' && c ≠ '\\' && 32 ≤ c.toNat

/-- A string without escapes. -/
structure Plain where
  text : List Char
  plain : ∀ c ∈ text, isPlain c = true

/-! ### Names -/

/-- The characters that can stand after a backslash, but for the `u` of a code unit. -/
inductive Escape where
  | quote | backslash | slash | backspace | formFeed | newline | carriageReturn | tab

def Escape.letter : Escape → Char
  | .quote => '"'
  | .backslash => '\\'
  | .slash => '/'
  | .backspace => 'b'
  | .formFeed => 'f'
  | .newline => 'n'
  | .carriageReturn => 'r'
  | .tab => 't'

/-- The code unit it stands for. -/
def Escape.unit : Escape → Nat
  | .quote => 34
  | .backslash => 92
  | .slash => 47
  | .backspace => 8
  | .formFeed => 12
  | .newline => 10
  | .carriageReturn => 13
  | .tab => 9

/-- A hexadecimal digit, in either case. -/
structure Hex where
  value : Fin 16
  capital : Bool

def Hex.char (h : Hex) : Char :=
  if h.value < 10 then Char.ofNat (48 + h.value)
  else if h.capital then Char.ofNat (55 + h.value)
  else Char.ofNat (87 + h.value)

/-- A character of a name, as it is written. -/
inductive NameChar where
  | plain (c : Char) (isPlain : isPlain c = true)
  | escape (e : Escape)
  | unicode (a b c d : Hex)

def NameChar.text : NameChar → List Char
  | .plain c _ => [c]
  | .escape e => ['\\', e.letter]
  | .unicode a b c d => ['\\', 'u', a.char, b.char, c.char, d.char]

/-- The UTF-16 code units of a character. -/
def charUnits (c : Char) : List Nat :=
  if c.toNat < 0x10000 then [c.toNat]
  else [0xD800 + (c.toNat - 0x10000) / 0x400, 0xDC00 + (c.toNat - 0x10000) % 0x400]

/-- The code units that it denotes. -/
def NameChar.units : NameChar → List Nat
  | .plain c _ => charUnits c
  | .escape e => [e.unit]
  | .unicode a b c d => [((a.value * 16 + b.value) * 16 + c.value) * 16 + d.value]

/-- A name between its quotes. -/
def nameText (name : List NameChar) : List Char :=
  name.flatMap NameChar.text

def nameUnits (name : List NameChar) : List Nat :=
  name.flatMap NameChar.units

/-! ### Numbers -/

structure Digits where
  text : List Char
  ne_nil : text ≠ []
  isDigit : ∀ c ∈ text, c.isDigit = true

/-- The sign of an exponent; it may be missing. -/
inductive Sign where
  | none | plus | minus

def Sign.text : Sign → List Char
  | .none => []
  | .plus => ['+']
  | .minus => ['-']

structure Exponent where
  capital : Bool
  sign : Sign
  digits : Digits

def Exponent.text (e : Exponent) : List Char :=
  (if e.capital then 'E' else 'e') :: (e.sign.text ++ e.digits.text)

def Exponent.value (e : Exponent) : Int :=
  match e.sign with
  | .minus => -Nat.ofDigitChars 10 e.digits.text 0
  | _ => Nat.ofDigitChars 10 e.digits.text 0

structure Number where
  negative : Bool
  whole : Nat
  fraction : Option Digits
  exponent : Option Exponent

/-- What follows the digits before the point. -/
def Number.rest (n : Number) : List Char :=
  (n.fraction.elim [] fun digits => '.' :: digits.text) ++ n.exponent.elim [] Exponent.text

def Number.text (n : Number) : List Char :=
  minus n.negative ++ (decimal n.whole ++ n.rest)

def Number.value (n : Number) : ℚ :=
  scientific n.negative n.whole (n.fraction.elim [] Digits.text) (n.exponent.elim 0 Exponent.value)

/-- The number before its point and its exponent. -/
def Number.integerPart (n : Number) : Int :=
  if n.negative then -n.whole else n.whole

/-! ### Objects -/

inductive Value where
  | string (content : Plain)
  | number (n : Number)
  | true
  | false
  | null

def Value.text : Value → List Char
  | .string s => '"' :: (s.text ++ ['"'])
  | .number n => n.text
  | .true => ['t', 'r', 'u', 'e']
  | .false => ['f', 'a', 'l', 's', 'e']
  | .null => ['n', 'u', 'l', 'l']

/-- What stands between the quotes of a string. -/
def Value.quoted : Value → Option (List Char)
  | .string s => some s.text
  | _ => none

def Value.number? : Value → Option Number
  | .number n => some n
  | _ => none

structure Member where
  before : Blank
  name : List NameChar
  afterName : Blank
  beforeValue : Blank
  value : Value
  afterValue : Blank

/-- A member up to its colon. -/
def Member.head (m : Member) : List Char :=
  m.before.text ++ '"' :: (nameText m.name ++ '"' :: m.afterName.text)

/-- A member after its colon. -/
def Member.body (m : Member) : List Char :=
  m.beforeValue.text ++ (m.value.text ++ m.afterValue.text)

/-- The text of an object after one of its members. -/
def tailText (trail : Blank) : List Member → List Char
  | [] => '}' :: trail.text
  | m :: rest => ',' :: (m.head ++ ':' :: (m.body ++ tailText trail rest))

structure FlatObject where
  lead : Blank
  /-- The white space of an object without members. -/
  inside : Blank
  members : List Member
  trail : Blank
  distinct : (members.map fun m => nameUnits m.name).Nodup

def FlatObject.text (o : FlatObject) : List Char :=
  o.lead.text ++ '{' ::
    match o.members with
    | [] => o.inside.text ++ '}' :: o.trail.text
    | m :: rest => m.head ++ ':' :: (m.body ++ tailText o.trail rest)

/-- The name of the member denotes the key, whichever way it is written. -/
def Member.isNamed (m : Member) (key : List Char) : Bool :=
  nameUnits m.name = key.flatMap charUnits

/-- The value of the member with the name. -/
def FlatObject.find (o : FlatObject) (key : List Char) : Option Value :=
  (o.members.find? (·.isNamed key)).map Member.value

/-- The value of the member with the name, where null stands for no value. -/
def FlatObject.given (o : FlatObject) (key : List Char) : Option Value :=
  match o.find key with
  | some .null => none
  | value => value

/-! ### Members by name -/

/-- Names are distinct, so a member is found by its name wherever it stands. -/
theorem find?_isNamed {members : List Member} (h : (members.map fun m => nameUnits m.name).Nodup)
    {m : Member} (hm : m ∈ members) {key : List Char} (hname : m.isNamed key = true) :
    members.find? (·.isNamed key) = some m := by
  have hunits : nameUnits m.name = key.flatMap charUnits := of_decide_eq_true hname
  induction members with
  | nil => simp at hm
  | cons n members ih =>
    obtain ⟨hn, hmembers⟩ := List.nodup_cons.mp h
    rcases List.mem_cons.mp hm with rfl | hm
    · exact List.find?_cons_of_pos hname
    · have hother : n.isNamed key = false := by
        refine decide_eq_false fun hsame => hn ?_
        exact List.mem_map.mpr ⟨m, hm, hunits.trans hsame.symm⟩
      rw [List.find?_cons_of_neg (by simp [hother])]
      exact ih hmembers hm

theorem FlatObject.find_of_mem (o : FlatObject) {m : Member} (hm : m ∈ o.members)
    {key : List Char} (hname : m.isNamed key = true) : o.find key = some m.value := by
  rw [FlatObject.find, find?_isNamed o.distinct hm hname]
  rfl

theorem FlatObject.given_eq_none {o : FlatObject} {key : List Char}
    (h : ∀ m ∈ o.members, m.isNamed key = false) : o.given key = none := by
  have hfind : o.members.find? (·.isNamed key) = none := by
    rw [List.find?_eq_none]
    intro m hm
    simp [h m hm]
  rw [FlatObject.given, FlatObject.find, hfind]
  rfl

/-- A member that is there is null, or gives its value. -/
theorem FlatObject.given_of_find {o : FlatObject} {key : List Char} {v : Value}
    (h : o.find key = some v) : v = .null ∧ o.given key = none ∨ o.given key = some v := by
  rw [FlatObject.given, h]
  cases v with
  | null => exact .inl ⟨rfl, rfl⟩
  | _ => exact .inr rfl

/-! ### Which characters a text is made of -/

theorem Blank.not_mem (b : Blank) {c : Char} (hc : isBlank c = false) : c ∉ b.text := by
  intro hmem
  simp [b.blank c hmem] at hc

theorem Plain.not_mem (s : Plain) {c : Char} (hc : isPlain c = false) : c ∉ s.text := by
  intro hmem
  simp [s.plain c hmem] at hc

@[simp] theorem Blank.quote_not_mem (b : Blank) : '"' ∉ b.text :=
  b.not_mem (by decide)

@[simp] theorem Blank.colon_not_mem (b : Blank) : ':' ∉ b.text :=
  b.not_mem (by decide)

/-- The characters that a number is written with. -/
def isNumeric (c : Char) : Bool :=
  c.isDigit || c = '-' || c = '+' || c = '.' || c = 'e' || c = 'E'

theorem isNumeric_of_isDigit {c : Char} (h : c.isDigit = true) : isNumeric c = true := by
  simp [isNumeric, h]

theorem Exponent.isNumeric_of_mem (e : Exponent) {c : Char} (h : c ∈ e.text) :
    isNumeric c = true := by
  have hletter : isNumeric (if e.capital then 'E' else 'e') = true := by
    split <;> decide
  have hsign : ∀ c ∈ e.sign.text, isNumeric c = true := by
    cases e.sign <;> simp [Sign.text, isNumeric]
  simp only [Exponent.text, List.mem_cons, List.mem_append] at h
  rcases h with rfl | h | h
  · exact hletter
  · exact hsign c h
  · exact isNumeric_of_isDigit (e.digits.isDigit c h)

theorem Number.isNumeric_of_mem (n : Number) {c : Char} (h : c ∈ n.text) : isNumeric c = true := by
  have hminus : ∀ c ∈ minus n.negative, isNumeric c = true := by
    cases n.negative <;> simp [minus, isNumeric]
  simp only [Number.text, Number.rest, List.mem_append] at h
  rcases h with h | h | h | h
  · exact hminus c h
  · exact isNumeric_of_isDigit (isDigit_of_mem_decimal h)
  · cases hfraction : n.fraction with
    | none => simp [hfraction] at h
    | some digits =>
      rcases List.mem_cons.mp (by simpa [hfraction] using h) with rfl | h
      · decide
      · exact isNumeric_of_isDigit (digits.isDigit c h)
  · cases hexponent : n.exponent with
    | none => simp [hexponent] at h
    | some e => exact e.isNumeric_of_mem (by simpa [hexponent] using h)

/-- A number begins with its sign or with a digit. -/
theorem Number.exists_text (n : Number) :
    ∃ c text, n.text = c :: text ∧ (c = '-' ∨ c.isDigit = true) := by
  obtain ⟨c, text, hdecimal, hc⟩ := exists_decimal n.whole
  rw [Number.text, hdecimal]
  cases n.negative with
  | true => exact ⟨'-', c :: text ++ n.rest, rfl, .inl rfl⟩
  | false => exact ⟨c, text ++ n.rest, rfl, .inr hc⟩

theorem isBlank_eq_false {c : Char} (h : c = '-' ∨ c.isDigit = true) : isBlank c = false := by
  rw [Bool.eq_false_iff]
  intro hblank
  simp only [isBlank, Bool.or_eq_true, decide_eq_true_eq] at hblank
  rcases hblank with ((rfl | rfl) | rfl) | rfl <;> exact absurd h (by decide)

/-- No value begins with white space. -/
theorem Value.stops_isBlank (v : Value) (rest : List Char) : Stops isBlank (v.text ++ rest) := by
  cases v with
  | number n =>
    obtain ⟨c, text, htext, hc⟩ := n.exists_text
    rw [Value.text, htext]
    exact stops_cons.mpr (isBlank_eq_false hc)
  | string s => exact stops_cons.mpr (by decide)
  | true => exact stops_cons.mpr (by decide)
  | false => exact stops_cons.mpr (by decide)
  | null => exact stops_cons.mpr (by decide)

/-- A value other than a string is written without quotes. -/
theorem Value.not_mem_text {v : Value} (h : v.quoted = none) : '"' ∉ v.text := by
  cases v with
  | string s => simp [Value.quoted] at h
  | number n =>
    intro hmem
    exact absurd (n.isNumeric_of_mem hmem) (by decide)
  | true => decide
  | false => decide
  | null => decide

theorem Value.text_of_quoted {v : Value} {content : List Char} (h : v.quoted = some content) :
    v.text = '"' :: (content ++ ['"']) ∧ '"' ∉ content := by
  cases v with
  | string s =>
    obtain rfl : s.text = content := Option.some.inj h
    exact ⟨rfl, s.not_mem (by decide)⟩
  | _ => simp [Value.quoted] at h

theorem Value.text_of_number {v : Value} {n : Number} (h : v.number? = some n) :
    v.text = n.text := by
  cases v with
  | number n' =>
    obtain rfl : n' = n := Option.some.inj h
    rfl
  | _ => simp [Value.number?] at h

/-! ### Reading a number back -/

theorem stops_exponent {p : Char → Bool} (hsmall : p 'e' = false) (hcapital : p 'E' = false)
    (e : Option Exponent) {after : List Char} (hafter : Stops p after) :
    Stops p (e.elim [] Exponent.text ++ after) := by
  cases e with
  | none => exact hafter
  | some e =>
    have hletter : p (if e.capital then 'E' else 'e') = false := by
      split <;> assumption
    exact stops_cons.mpr hletter

/-- After its digits before the point, a number goes on with a point, with an exponent, or not at
all. -/
theorem Number.stops_rest {p : Char → Bool} {after : List Char} (n : Number) (hpoint : p '.' = false)
    (hsmall : p 'e' = false) (hcapital : p 'E' = false) (hafter : Stops p after) :
    Stops p (n.rest ++ after) := by
  cases hfraction : n.fraction with
  | some digits => simp [Number.rest, hfraction, hpoint]
  | none =>
    simpa [Number.rest, hfraction] using stops_exponent hsmall hcapital n.exponent hafter

theorem Digits.readDigits_text (d : Digits) :
    readDigits d.text = some (Nat.ofDigitChars 10 d.text 0, []) := by
  have htake : d.text.takeWhile Char.isDigit = d.text := by
    simpa using takeWhile_append d.isDigit stops_nil
  have hdrop : d.text.dropWhile Char.isDigit = [] := by
    simpa using dropWhile_append d.isDigit stops_nil
  simp [readDigits, htake, hdrop, d.ne_nil]

theorem Digits.readSign_text (d : Digits) : readSign d.text = (false, d.text) := by
  have hstops : Stops (fun c => c = '-' || c = '+') d.text := by
    intro c hc
    have hdigit : c.isDigit = true := d.isDigit c (List.mem_of_mem_head? hc)
    rw [Bool.or_eq_false_iff, decide_eq_false_iff_not, decide_eq_false_iff_not]
    constructor <;> rintro rfl <;> exact absurd hdigit (by decide)
  exact readSign_stops hstops

theorem Exponent.readExponent_text (e : Exponent) : readExponent e.text = e.value := by
  have hletter : (if e.capital then 'E' else 'e') = 'e' ∨ (if e.capital then 'E' else 'e') = 'E' := by
    split <;> simp
  rw [Exponent.text, readExponent, if_pos hletter, Exponent.value]
  cases e.sign with
  | none => simp [Sign.text, e.digits.readSign_text, e.digits.readDigits_text]
  | plus => simp [Sign.text, readSign, e.digits.readDigits_text]
  | minus => simp [Sign.text, readSign, e.digits.readDigits_text]

theorem Number.readDecimal_text (n : Number) : readDecimal n.text = some n.value := by
  have hexponent : readExponent (n.exponent.elim [] Exponent.text) =
      n.exponent.elim 0 Exponent.value := by
    cases n.exponent with
    | none => rfl
    | some e => exact e.readExponent_text
  have hstops : Stops Char.isDigit n.rest := by
    simpa using n.stops_rest (by decide) (by decide) (by decide) stops_nil
  have hfraction : readFraction n.rest =
      (n.fraction.elim [] Digits.text, n.exponent.elim [] Exponent.text) := by
    rw [Number.rest]
    cases n.fraction with
    | none =>
      cases n.exponent with
      | none => rfl
      | some e => 
        cases hc : e.capital <;> simp [Exponent.text, readFraction, hc]
    | some digits =>
      have hafter : Stops Char.isDigit (n.exponent.elim [] Exponent.text) := by
        simpa using stops_exponent (by decide) (by decide) n.exponent stops_nil
      simp [readFraction, takeWhile_append digits.isDigit hafter,
        dropWhile_append digits.isDigit hafter]
  rw [Number.text, readDecimal_append n.negative hstops hfraction, hexponent, Number.value]

end FlatJson
