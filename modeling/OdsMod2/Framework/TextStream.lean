import Mathlib.Data.List.Basic
import Mathlib.Data.List.TakeDrop

/-!
# Values written to and read from a text

Formatted input reads a value from the front of a text and leaves the rest: the white space before
it is skipped, the longest prefix that can belong to the value is taken, and the reading fails if
there is none or if the value is out of range. Formatted output writes values next to each other, so
what was written is read back as long as each value is followed by something that cannot belong to
it. `readSigned_integer`, `readUnsigned_decimal` and `readWord_append` say so for numbers and words,
`lines_append` for the lines of a text.
-/

namespace TextStream

/-- The six characters of white space. -/
def isSpace (c : Char) : Bool :=
  c = ' ' || (9 ≤ c.toNat && c.toNat ≤ 13)

/-- What is left after the white space. -/
def skipSpaces (text : List Char) : List Char :=
  text.dropWhile isSpace

/-! ### Writing -/

/-- The digits of a number. -/
def decimal (n : Nat) : List Char :=
  Nat.toDigits 10 n

/-- A number with its sign. -/
def integer (z : Int) : List Char :=
  if z < 0 then '-' :: decimal z.natAbs else decimal z.natAbs

/-! ### Reading -/

def readDigits (text : List Char) : Option (Nat × List Char) :=
  if text.takeWhile Char.isDigit = [] then none
  else some (Nat.ofDigitChars 10 (text.takeWhile Char.isDigit) 0, text.dropWhile Char.isDigit)

/-- Whether there is a minus sign, and what follows the sign. -/
def readSign : List Char → Bool × List Char
  | '-' :: rest => (true, rest)
  | '+' :: rest => (false, rest)
  | text => (false, text)

/-- A signed number of a type with the range. -/
def readSigned (least most : Int) (text : List Char) : Option (Int × List Char) := do
  let (negative, rest) := readSign (skipSpaces text)
  let (magnitude, rest) ← readDigits rest
  let value : Int := if negative then -magnitude else magnitude
  if least ≤ value ∧ value ≤ most then some (value, rest) else none

/-- An unsigned number of a type with so many values; a minus sign wraps it around. -/
def readUnsigned (values : Nat) (text : List Char) : Option (Nat × List Char) := do
  let (negative, rest) := readSign (skipSpaces text)
  let (magnitude, rest) ← readDigits rest
  if magnitude < values then
    some (if negative then (values - magnitude) % values else magnitude, rest)
  else none

/-- A word: the characters up to the next white space. -/
def readWord (text : List Char) : Option (List Char × List Char) :=
  let rest := skipSpaces text
  if rest.takeWhile (!isSpace ·) = [] then none
  else some (rest.takeWhile (!isSpace ·), rest.dropWhile (!isSpace ·))

/-- The lines of a text, whether or not the last one is ended. -/
def lines : List Char → List (List Char)
  | [] => []
  | c :: rest =>
    if c = '\n' then [] :: lines rest
    else
      match lines rest with
      | [] => [[c]]
      | line :: more => (c :: line) :: more

/-! ### Reading back -/

/-- The text does not begin with such a character. -/
def Stops (p : Char → Bool) (text : List Char) : Prop :=
  ∀ c ∈ text.head?, p c = false

@[simp] theorem stops_nil {p : Char → Bool} : Stops p [] := by
  simp [Stops]

@[simp] theorem stops_cons {p : Char → Bool} {c : Char} {text : List Char} :
    Stops p (c :: text) ↔ p c = false := by
  simp [Stops]

theorem takeWhile_append {p : Char → Bool} {taken rest : List Char} (htaken : ∀ c ∈ taken, p c)
    (hrest : Stops p rest) : (taken ++ rest).takeWhile p = taken := by
  rw [List.takeWhile_append_of_pos htaken]
  cases rest with
  | nil => simp
  | cons c rest => rw [List.takeWhile_cons_of_neg (by simpa using hrest), List.append_nil]

theorem dropWhile_append {p : Char → Bool} {taken rest : List Char} (htaken : ∀ c ∈ taken, p c)
    (hrest : Stops p rest) : (taken ++ rest).dropWhile p = rest := by
  rw [List.dropWhile_append_of_pos htaken]
  cases rest with
  | nil => rfl
  | cons c rest => exact List.dropWhile_cons_of_neg (by simpa using hrest)

/-- A text is taken from in the same way when something else stands behind it. -/
theorem takeWhile_append_stops {p : Char → Bool} {text rest : List Char} (h : Stops p rest) :
    (text ++ rest).takeWhile p = text.takeWhile p := by
  induction text with
  | nil =>
    have hnone : ([] ++ rest).takeWhile p = [] := takeWhile_append (by simp) h
    exact hnone
  | cons c text ih =>
    rw [List.cons_append, List.takeWhile_cons, List.takeWhile_cons, ih]

theorem dropWhile_append_stops {p : Char → Bool} {text rest : List Char} (h : Stops p rest) :
    (text ++ rest).dropWhile p = text.dropWhile p ++ rest := by
  induction text with
  | nil =>
    have hall : ([] ++ rest).dropWhile p = rest := dropWhile_append (by simp) h
    exact hall
  | cons c text ih =>
    rw [List.cons_append, List.dropWhile_cons, List.dropWhile_cons, ih]
    split <;> rfl

theorem skipSpaces_append {spaces rest : List Char} (hspaces : ∀ c ∈ spaces, isSpace c)
    (hrest : Stops isSpace rest) : skipSpaces (spaces ++ rest) = rest :=
  dropWhile_append hspaces hrest

theorem isDigit_of_mem_decimal {n : Nat} {c : Char} (h : c ∈ decimal n) : c.isDigit = true :=
  Nat.isDigit_of_mem_toDigits (by decide) (by decide) h

theorem isSpace_of_isDigit {c : Char} (h : c.isDigit = true) : isSpace c = false := by
  simp only [Char.isDigit, Bool.and_eq_true, decide_eq_true_eq] at h
  have hle : 48 ≤ c.toNat := h.1
  have hne : c ≠ ' ' := by
    rintro rfl
    exact absurd hle (by decide)
  simp only [isSpace, hne, decide_false, Bool.false_or, Bool.and_eq_false_iff,
    decide_eq_false_iff_not]
  omega

theorem exists_decimal (n : Nat) : ∃ c rest, decimal n = c :: rest ∧ c.isDigit = true := by
  obtain ⟨c, rest, h⟩ := List.exists_cons_of_ne_nil (Nat.toDigits_ne_nil (n := n) (b := 10))
  exact ⟨c, rest, h, isDigit_of_mem_decimal (n := n) (by rw [decimal, h]; exact List.mem_cons_self)⟩

theorem readDigits_decimal {n : Nat} {rest : List Char} (hrest : Stops Char.isDigit rest) :
    readDigits (decimal n ++ rest) = some (n, rest) := by
  have hdigits : ∀ c ∈ decimal n, c.isDigit = true := fun c hc => isDigit_of_mem_decimal hc
  have hne : decimal n ≠ [] := Nat.toDigits_ne_nil
  rw [readDigits, takeWhile_append hdigits hrest, dropWhile_append hdigits hrest, if_neg hne,
    decimal, Nat.ofDigitChars_ten_toDigits]

theorem readSign_minus (rest : List Char) : readSign ('-' :: rest) = (true, rest) := rfl

theorem readSign_decimal (n : Nat) (rest : List Char) :
    readSign (decimal n ++ rest) = (false, decimal n ++ rest) := by
  obtain ⟨c, tail, h, hc⟩ := exists_decimal n
  rw [h, List.cons_append]
  unfold readSign
  split
  · rename_i heq
    rw [(List.cons.inj heq).1] at hc
    exact absurd hc (by decide)
  · rename_i heq
    rw [(List.cons.inj heq).1] at hc
    exact absurd hc (by decide)
  · rfl

theorem stops_decimal (n : Nat) (rest : List Char) : Stops isSpace (decimal n ++ rest) := by
  obtain ⟨c, tail, h, hc⟩ := exists_decimal n
  rw [h, List.cons_append, stops_cons]
  exact isSpace_of_isDigit hc

theorem readUnsigned_decimal {values n : Nat} (spaces : List Char) {rest : List Char}
    (hspaces : ∀ c ∈ spaces, isSpace c) (hrest : Stops Char.isDigit rest) (hn : n < values) :
    readUnsigned values (spaces ++ (decimal n ++ rest)) = some (n, rest) := by
  simp [readUnsigned, skipSpaces_append hspaces (stops_decimal n rest), readSign_decimal,
    readDigits_decimal hrest, hn]

theorem readSigned_integer {least most z : Int} (spaces : List Char) {rest : List Char}
    (hspaces : ∀ c ∈ spaces, isSpace c) (hrest : Stops Char.isDigit rest) (hleast : least ≤ z)
    (hmost : z ≤ most) :
    readSigned least most (spaces ++ (integer z ++ rest)) = some (z, rest) := by
  unfold integer
  split
  · have hz : -(z.natAbs : Int) = z := by omega
    have hskip : skipSpaces (spaces ++ '-' :: (decimal z.natAbs ++ rest)) =
        '-' :: (decimal z.natAbs ++ rest) :=
      skipSpaces_append hspaces (by simp [isSpace])
    rw [List.cons_append]
    simp only [readSigned, hskip, readSign_minus, readDigits_decimal hrest, Option.bind_eq_bind,
      Option.bind_some, if_true, hz]
    exact if_pos ⟨hleast, hmost⟩
  · have hz : (z.natAbs : Int) = z := by omega
    simp only [readSigned, skipSpaces_append hspaces (stops_decimal _ rest), readSign_decimal,
      readDigits_decimal hrest, Option.bind_eq_bind, Option.bind_some, Bool.false_eq_true, if_false,
      hz]
    exact if_pos ⟨hleast, hmost⟩

theorem readWord_append (spaces : List Char) {word rest : List Char} (hspaces : ∀ c ∈ spaces, isSpace c)
    (hword : ∀ c ∈ word, isSpace c = false) (hne : word ≠ []) (hrest : Stops (!isSpace ·) rest) :
    readWord (spaces ++ (word ++ rest)) = some (word, rest) := by
  have hstops : Stops isSpace (word ++ rest) := by
    obtain ⟨c, tail, rfl⟩ := List.exists_cons_of_ne_nil hne
    rw [List.cons_append, stops_cons]
    exact hword c List.mem_cons_self
  have htaken : ∀ c ∈ word, (!isSpace c) = true := fun c hc => by simp [hword c hc]
  simp [readWord, skipSpaces_append hspaces hstops, takeWhile_append htaken hrest,
    dropWhile_append htaken hrest, hne]

/-- Where there is only white space, there is no word. -/
theorem readWord_spaces {spaces : List Char} (hspaces : ∀ c ∈ spaces, isSpace c) :
    readWord spaces = none := by
  have hskip : skipSpaces spaces = [] := by
    rw [← List.append_nil spaces]
    exact skipSpaces_append hspaces stops_nil
  simp [readWord, hskip]

theorem isSpace_of_readWord {text word rest : List Char} (h : readWord text = some (word, rest)) :
    ∀ c ∈ word, isSpace c = false := by
  simp only [readWord] at h
  split at h
  · cases h
  · obtain ⟨rfl, -⟩ := Prod.mk.inj (Option.some.inj h)
    intro c hc
    simpa using List.all_eq_true.mp List.all_takeWhile c hc

theorem lines_append {line rest : List Char} (hline : '\n' ∉ line) :
    lines (line ++ '\n' :: rest) = line :: lines rest := by
  induction line with
  | nil => simp [lines]
  | cons c line ih =>
    obtain ⟨hc, hline⟩ : '\n' ≠ c ∧ '\n' ∉ line := by simpa using hline
    simp [lines, Ne.symm hc, ih hline]

end TextStream
