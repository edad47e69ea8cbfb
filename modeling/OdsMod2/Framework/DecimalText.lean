import Mathlib.Algebra.Field.Rat
import OdsMod2.Framework.TextStream

/-!
# Decimal numbers in a text

A decimal number has a sign, digits before and after a point and an exponent, and all of them but
one digit may be missing. `readDecimal` reads the longest such number from the front of a text, with
the value it denotes exactly; the rounding to a floating-point format is left to its user.
-/

namespace TextStream

/-- The sign of a number, as it is written. -/
def minus (negative : Bool) : List Char :=
  if negative then ['-'] else []

/-- The value of a decimal number from its parts. -/
def scientific (negative : Bool) (whole : Nat) (fraction : List Char) (exponent : Int) : ℚ :=
  (if negative then -1 else 1) *
    (whole + Nat.ofDigitChars 10 fraction 0 / 10 ^ fraction.length) * 10 ^ exponent

/-- The digits after a point, and what follows them. -/
def readFraction : List Char → List Char × List Char
  | '.' :: rest => (rest.takeWhile Char.isDigit, rest.dropWhile Char.isDigit)
  | text => ([], text)

/-- The exponent; a letter without digits after it does not belong to the number. -/
def readExponent : List Char → Int
  | [] => 0
  | c :: rest =>
    if c = 'e' ∨ c = 'E' then
      match readDigits (readSign rest).2 with
      | some (n, _) => if (readSign rest).1 then -n else n
      | none => 0
    else 0

/-- The decimal number at the front of the text, if there is a digit in it. -/
def readDecimal (text : List Char) : Option ℚ :=
  let (negative, rest) := readSign (skipSpaces text)
  let whole := rest.takeWhile Char.isDigit
  let (fraction, rest) := readFraction (rest.dropWhile Char.isDigit)
  if whole = [] ∧ fraction = [] then none
  else some (scientific negative (Nat.ofDigitChars 10 whole 0) fraction (readExponent rest))

theorem skipSpaces_stops {text : List Char} (h : Stops isSpace text) : skipSpaces text = text := by
  have hspaces : ∀ c ∈ ([] : List Char), isSpace c := by simp
  exact skipSpaces_append hspaces h

theorem readSign_stops {text : List Char} (h : Stops (fun c => c = '-' || c = '+') text) :
    readSign text = (false, text) := by
  unfold readSign
  split
  · simp at h
  · simp at h
  · rfl

/-- A sign, or the lack of one, is read in front of digits. -/
theorem readSign_minus_decimal (negative : Bool) (whole : Nat) (rest : List Char) :
    readSign (skipSpaces (minus negative ++ (decimal whole ++ rest))) =
      (negative, decimal whole ++ rest) := by
  cases negative with
  | true =>
    have hskip : skipSpaces ('-' :: (decimal whole ++ rest)) = '-' :: (decimal whole ++ rest) :=
      skipSpaces_stops (by simp [isSpace])
    exact congrArg readSign hskip
  | false =>
    have hskip : skipSpaces (decimal whole ++ rest) = decimal whole ++ rest :=
      skipSpaces_stops (stops_decimal whole rest)
    exact (congrArg readSign hskip).trans (readSign_decimal whole rest)

/-- A number in decimal is read with its sign, and within the range. -/
theorem readSigned_minus_decimal {least most : Int} (negative : Bool) (whole : Nat)
    {rest : List Char} (hrest : Stops Char.isDigit rest) :
    readSigned least most (minus negative ++ (decimal whole ++ rest)) =
      let value : Int := if negative then -whole else whole
      if least ≤ value ∧ value ≤ most then some (value, rest) else none := by
  simp [readSigned, readSign_minus_decimal, readDigits_decimal hrest]

/-- Digits before the point, digits after it and an exponent are read as what they denote together. -/
theorem readDecimal_append {whole : Nat} {fraction exponent rest : List Char} (negative : Bool)
    (hrest : Stops Char.isDigit rest) (hfraction : readFraction rest = (fraction, exponent)) :
    readDecimal (minus negative ++ (decimal whole ++ rest)) =
      some (scientific negative whole fraction (readExponent exponent)) := by
  have hdigits : ∀ c ∈ decimal whole, c.isDigit = true := fun c hc => isDigit_of_mem_decimal hc
  have hne : decimal whole ≠ [] := Nat.toDigits_ne_nil
  have hwhole : Nat.ofDigitChars 10 (decimal whole) 0 = whole := by
    rw [decimal, Nat.ofDigitChars_ten_toDigits]
  simp only [readDecimal, readSign_minus_decimal, takeWhile_append hdigits hrest,
    dropWhile_append hdigits hrest, hfraction, hne, false_and, if_false, hwhole]

end TextStream
