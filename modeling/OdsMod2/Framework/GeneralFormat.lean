import Mathlib.Algebra.Order.Field.Power
import Mathlib.Data.Int.Log
import Mathlib.Data.List.DropRight
import Mathlib.Data.Rat.Floor
import Mathlib.Tactic.FieldSimp
import Mathlib.Tactic.Linarith
import Mathlib.Tactic.LinearCombination
import Mathlib.Tactic.Positivity
import OdsMod2.Framework.DecimalText

/-!
# Numbers with so many significant digits

The general format of a number rounds it to a number of significant digits, half to even, drops the
zeros at the end, and writes an exponent if the number is very large or very small. It is how a C++
stream writes a floating-point number unless it is told otherwise.

What is written denotes the rounded number (`readDecimal_general`). So a number that has no more
digits comes back as it was, and so does what a floating-point format makes of it, as long as that is
much closer to it than one digit (`rounded_near`).
-/

namespace TextStream

/-! ### Rounding -/

/-- The nearest natural number, a tie going to the even one. -/
def nearestEven (y : ℚ) : ℕ :=
  let below := ⌊y⌋₊
  if 2 * (y - below) < 1 ∨ (2 * (y - below) = 1 ∧ below % 2 = 0) then below else below + 1

/-- The significant digits of a positive number, as a number of so many digits, and the exponent of
the first of them. -/
def significand (precision : ℕ) (y : ℚ) : ℕ × ℤ :=
  let exponent := Int.log 10 y
  let digits := nearestEven (y / 10 ^ (exponent - (precision - 1 : ℤ)))
  -- rounding up may need one more digit
  if digits = 10 ^ precision then (10 ^ (precision - 1), exponent + 1) else (digits, exponent)

/-- The number that is written for `x`. -/
def rounded (precision : ℕ) (x : ℚ) : ℚ :=
  if x = 0 then 0
  else
    let (digits, exponent) := significand precision |x|
    (if x < 0 then -1 else 1) * digits * 10 ^ (exponent - (precision - 1 : ℤ))

/-! ### Writing -/

/-- The last digits of a number, so many of them. -/
def lastDigits : ℕ → ℕ → List Char
  | 0, _ => []
  | k + 1, n => lastDigits k (n / 10) ++ [Nat.digitChar (n % 10)]

/-- A number with so many digits behind the point; zeros at the end are dropped, and then the point
if nothing is behind it. -/
def pointed (k n : ℕ) : List Char :=
  decimal (n / 10 ^ k) ++
    match (lastDigits k n).rdropWhile (· = '0') with
    | [] => []
    | fraction => '.' :: fraction

/-- An exponent has a sign and at least two digits. -/
def exponentText (exponent : ℤ) : List Char :=
  'e' :: (if exponent < 0 then '-' else '+') ::
    (if exponent.natAbs < 10 then '0' :: decimal exponent.natAbs else decimal exponent.natAbs)

/-- `%g` with the precision. -/
def general (precision : ℕ) (x : ℚ) : List Char :=
  if x = 0 then decimal 0
  else
    let (digits, exponent) := significand precision |x|
    minus (decide (x < 0)) ++
      if -4 ≤ exponent ∧ exponent < precision then
        pointed (precision - 1 - exponent).toNat digits
      else
        pointed (precision - 1) digits ++ exponentText exponent

example : general 6 (1 / 4) = "0.25".toList := by decide +kernel

example : general 6 (-123456789) = "-1.23457e+08".toList := by decide +kernel

/-! ### Reading back -/

theorem length_lastDigits (k n : ℕ) : (lastDigits k n).length = k := by
  induction k generalizing n with
  | zero => rfl
  | succ k ih => rw [lastDigits, List.length_append, ih, List.length_singleton]

theorem isDigit_of_mem_lastDigits {k n : ℕ} {c : Char} (h : c ∈ lastDigits k n) :
    c.isDigit = true := by
  induction k generalizing n with
  | zero => cases h
  | succ k ih =>
    rw [lastDigits, List.mem_append, List.mem_singleton] at h
    rcases h with hfront | rfl
    · exact ih hfront
    · rw [Nat.isDigit_digitChar]
      exact decide_eq_true (Nat.mod_lt _ (by decide))

theorem ofDigitChars_lastDigits (k n : ℕ) :
    Nat.ofDigitChars 10 (lastDigits k n) 0 = n % 10 ^ k := by
  induction k generalizing n with
  | zero => simp [lastDigits, Nat.mod_one]
  | succ k ih =>
    rw [lastDigits, Nat.ofDigitChars_append, ih,
      Nat.ofDigitChars_cons_digitChar_of_lt_ten (Nat.mod_lt _ (by decide)), Nat.ofDigitChars_nil,
      Nat.pow_succ, Nat.mul_comm (10 ^ k) 10, Nat.mod_mul, Nat.add_comm]

/-- What digits behind the point denote. -/
def fractionValue (fraction : List Char) : ℚ :=
  Nat.ofDigitChars 10 fraction 0 / 10 ^ fraction.length

/-- Zeros at the end denote nothing. -/
theorem fractionValue_rdropWhile (fraction : List Char) :
    fractionValue (fraction.rdropWhile (· = '0')) = fractionValue fraction := by
  induction fraction using List.reverseRecOn with
  | nil => rfl
  | append_singleton fraction c ih =>
    by_cases hc : c = '0'
    · rw [List.rdropWhile_concat_pos _ fraction c (decide_eq_true hc), ih, hc]
      have hzero : Nat.ofDigitChars 10 (fraction ++ ['0']) 0 =
          10 * Nat.ofDigitChars 10 fraction 0 := by
        rw [Nat.ofDigitChars_append]
        simp [Nat.ofDigitChars_cons]
      unfold fractionValue
      rw [hzero, List.length_append, List.length_singleton, pow_succ]
      push_cast
      field_simp
    · rw [List.rdropWhile_concat_neg _ fraction c (by simpa using hc)]

/-- A number with its digits behind the point, read in front of an exponent or of nothing. -/
theorem readDecimal_pointed (negative : Bool) (k n : ℕ) {rest : List Char}
    (hrest : Stops (fun c => c.isDigit || c = '.') rest) :
    readDecimal (minus negative ++ (pointed k n ++ rest)) =
      some ((if negative then -1 else 1) * ((n : ℚ) / 10 ^ k) * 10 ^ readExponent rest) := by
  have hdigit : Stops Char.isDigit rest := fun c hc => (Bool.or_eq_false_iff.mp (hrest c hc)).1
  have hvalue : ((n / 10 ^ k : ℕ) : ℚ) + fractionValue ((lastDigits k n).rdropWhile (· = '0')) =
      (n : ℚ) / 10 ^ k := by
    rw [fractionValue_rdropWhile, fractionValue, ofDigitChars_lastDigits, length_lastDigits]
    have hsplit : (n : ℚ) = (10 ^ k : ℕ) * (n / 10 ^ k : ℕ) + (n % 10 ^ k : ℕ) := by
      exact_mod_cast (Nat.div_add_mod n (10 ^ k)).symm
    rw [eq_div_iff (by positivity), add_mul, div_mul_cancel₀ _ (by positivity), hsplit]
    push_cast
    ring
  have hdigits : ∀ c ∈ (lastDigits k n).rdropWhile (· = '0'), c.isDigit = true := fun c hc =>
    isDigit_of_mem_lastDigits ((List.rdropWhile_prefix _ _).subset hc)
  unfold pointed
  rw [List.append_assoc]
  generalize (lastDigits k n).rdropWhile (· = '0') = fraction at hvalue hdigits ⊢
  cases fraction with
  | nil =>
    -- no point
    have hfraction : readFraction rest = ([], rest) := by
      unfold readFraction
      split
      · rw [stops_cons] at hrest
        exact absurd hrest (by decide)
      · rfl
    show readDecimal (minus negative ++ (decimal (n / 10 ^ k) ++ rest)) = _
    rw [readDecimal_append negative hdigit hfraction, ← hvalue]
    rfl
  | cons c fraction =>
    have hfraction : readFraction ('.' :: (c :: fraction) ++ rest) = (c :: fraction, rest) :=
      congrArg₂ Prod.mk (takeWhile_append hdigits hdigit) (dropWhile_append hdigits hdigit)
    show readDecimal (minus negative ++ (decimal (n / 10 ^ k) ++
      ('.' :: (c :: fraction) ++ rest))) = _
    rw [readDecimal_append negative (by simp) hfraction, ← hvalue]
    rfl

theorem readExponent_exponentText (exponent : ℤ) :
    readExponent (exponentText exponent) = exponent := by
  have hdigits : ∀ n : ℕ, readDigits (if n < 10 then '0' :: decimal n else decimal n) =
      some (n, []) := by
    intro n
    have hplain : readDigits (decimal n) = some (n, []) := by
      have h : readDigits (decimal n ++ []) = some (n, []) := readDigits_decimal stops_nil
      rwa [List.append_nil] at h
    split
    · -- a zero in front
      have hall : ∀ c ∈ '0' :: decimal n, c.isDigit = true := by
        intro c hc
        rcases List.mem_cons.mp hc with rfl | hc
        · rfl
        · exact isDigit_of_mem_decimal hc
      have htake : ('0' :: decimal n ++ []).takeWhile Char.isDigit = _ :=
        takeWhile_append hall stops_nil
      have hdrop : ('0' :: decimal n ++ []).dropWhile Char.isDigit = _ :=
        dropWhile_append hall stops_nil
      rw [List.append_nil] at htake hdrop
      rw [readDigits, htake, hdrop, if_neg (List.cons_ne_nil _ _), Nat.ofDigitChars_cons]
      simp [decimal]
    · exact hplain
  unfold exponentText readExponent
  by_cases hneg : exponent < 0
  · simp only [hneg, if_true, true_or]
    rw [readSign_minus, hdigits]
    simp only [if_true]
    omega
  · have hplus : ∀ rest, readSign ('+' :: rest) = (false, rest) := fun _ => rfl
    simp only [hneg, if_false, true_or, if_true]
    rw [hplus, hdigits]
    simp only [Bool.false_eq_true, if_false]
    omega

/-- **What is written denotes the rounded number.** -/
theorem readDecimal_general {precision : ℕ} (hprecision : 0 < precision) (x : ℚ) :
    readDecimal (general precision x) = some (rounded precision x) := by
  unfold general rounded
  by_cases hx : x = 0
  · rw [if_pos hx, if_pos hx]
    have hzero : readDecimal (minus false ++ (decimal 0 ++ [])) = _ :=
      readDecimal_append false stops_nil (rfl : readFraction [] = ([], []))
    simpa [minus, scientific] using hzero
  rw [if_neg hx, if_neg hx]
  obtain ⟨digits, exponent⟩ := significand precision |x|
  have hpred : ((precision - 1 : ℕ) : ℤ) = (precision : ℤ) - 1 := by omega
  have hsign : (if decide (x < 0) = true then (-1 : ℚ) else 1) = if x < 0 then -1 else 1 := by
    simp only [decide_eq_true_eq]
  dsimp only
  split
  · next hfixed =>
    -- the digits with the point where it belongs
    have hpow : (10 : ℚ) ^ (exponent - (precision - 1 : ℤ)) =
        (10 ^ (precision - 1 - exponent : ℤ).toNat)⁻¹ := by
      rw [← zpow_natCast, ← zpow_neg]
      congr 1
      omega
    have hread : readDecimal (minus (decide (x < 0)) ++
        (pointed (precision - 1 - exponent : ℤ).toNat digits ++ [])) = _ :=
      readDecimal_pointed _ _ _ stops_nil
    rw [List.append_nil] at hread
    rw [hread, hsign, hpow, readExponent, zpow_zero, mul_one, div_eq_mul_inv, mul_assoc]
  · -- the point behind the first digit, and an exponent
    have hpow : (10 : ℚ) ^ (exponent - (precision - 1 : ℤ)) =
        (10 ^ (precision - 1))⁻¹ * 10 ^ exponent := by
      rw [← zpow_natCast, ← zpow_neg, ← zpow_add₀ (by norm_num)]
      congr 1
      omega
    rw [readDecimal_pointed (decide (x < 0)) (precision - 1) digits (by simp [exponentText]),
      readExponent_exponentText, hsign, hpow, div_eq_mul_inv, mul_assoc, mul_assoc, mul_assoc]

/-! ### The characters -/

theorem mem_pointed {k n : ℕ} {c : Char} (h : c ∈ pointed k n) : c.isDigit = true ∨ c = '.' := by
  have hdigits : ∀ c ∈ (lastDigits k n).rdropWhile (· = '0'), c.isDigit = true := fun c hc =>
    isDigit_of_mem_lastDigits ((List.rdropWhile_prefix _ _).subset hc)
  unfold pointed at h
  rcases List.mem_append.mp h with hwhole | hfraction
  · exact .inl (isDigit_of_mem_decimal hwhole)
  · split at hfraction
    · cases hfraction
    · rcases List.mem_cons.mp hfraction with hpoint | hfraction
      · exact .inr hpoint
      · exact .inl (hdigits c hfraction)

theorem mem_exponentText {exponent : ℤ} {c : Char} (h : c ∈ exponentText exponent) :
    c.isDigit = true ∨ c ∈ ['e', '-', '+'] := by
  unfold exponentText at h
  rcases List.mem_cons.mp h with rfl | h
  · exact .inr List.mem_cons_self
  rcases List.mem_cons.mp h with rfl | h
  · right
    split <;> simp
  · left
    split at h
    · rcases List.mem_cons.mp h with rfl | h
      · rfl
      · exact isDigit_of_mem_decimal h
    · exact isDigit_of_mem_decimal h

/-- A number is written with digits, signs, a point and the letter of the exponent. -/
theorem mem_general {precision : ℕ} {x : ℚ} {c : Char} (h : c ∈ general precision x) :
    c.isDigit = true ∨ c ∈ ['.', 'e', '-', '+'] := by
  have hpoint : ∀ {k n : ℕ}, c ∈ pointed k n → c.isDigit = true ∨ c ∈ ['.', 'e', '-', '+'] := by
    intro k n hc
    exact (mem_pointed hc).imp_right fun hc => by simp [hc]
  unfold general at h
  split at h
  · exact .inl (isDigit_of_mem_decimal h)
  · rcases List.mem_append.mp h with hsign | h
    · right
      unfold minus at hsign
      split at hsign
      · simp [List.mem_singleton.mp hsign]
      · cases hsign
    · split at h
      · exact hpoint h
      · rcases List.mem_append.mp h with h | h
        · exact hpoint h
        · exact (mem_exponentText h).imp_right fun hc => List.mem_cons_of_mem _ hc

/-! ### Numbers that come back -/

/-- A number between two that are rounded to `n`. -/
theorem nearestEven_le {y : ℚ} {n : ℕ} (h : y ≤ n) : nearestEven y ≤ n := by
  have hfloor : ⌊y⌋₊ ≤ n := Nat.floor_le_of_le h
  show (if 2 * (y - ⌊y⌋₊) < 1 ∨ (2 * (y - ⌊y⌋₊) = 1 ∧ ⌊y⌋₊ % 2 = 0) then ⌊y⌋₊ else ⌊y⌋₊ + 1) ≤ n
  split
  · exact hfloor
  · rename_i hup
    rcases hfloor.lt_or_eq with hlt | heq
    · exact hlt
    -- nothing is left to round up
    · refine absurd (.inl ?_) hup
      rw [heq]
      linarith

theorem nearestEven_eq {y : ℚ} {n : ℕ} (hy : 0 ≤ y) (h : |y - n| < 1 / 2) : nearestEven y = n := by
  obtain ⟨hlow, hhigh⟩ := abs_lt.mp h
  have hfloor := Nat.floor_le hy
  have hfloor' := Nat.lt_floor_add_one y
  unfold nearestEven
  dsimp only
  rcases le_or_gt (n : ℚ) y with hle | hlt
  · -- rounded down
    have hbelow : ⌊y⌋₊ = n := by
      rw [Nat.floor_eq_iff hy]
      exact ⟨hle, by linarith⟩
    rw [hbelow, if_pos (.inl (by linarith))]
  · -- rounded up, from the upper half of the unit below `n`
    have hpos : 0 < n := by
      by_contra hzero
      rw [Nat.eq_zero_of_not_pos hzero] at hlt
      exact absurd hy (not_le.mpr (by exact_mod_cast hlt))
    have hpred : ((n - 1 : ℕ) : ℚ) = n - 1 := by
      rw [Nat.cast_sub hpos, Nat.cast_one]
    have hbelow : ⌊y⌋₊ = n - 1 := by
      rw [Nat.floor_eq_iff hy, hpred]
      exact ⟨by linarith, by linarith⟩
    rw [hbelow, hpred, if_neg ?_, Nat.sub_add_cancel hpos]
    rintro (hclose | ⟨htie, -⟩)
    · linarith
    · linarith

/-- A decimal number of at most so many significant digits. -/
def HasDigits (precision : ℕ) (d : ℚ) : Prop :=
  ∃ z e : ℤ, z.natAbs < 10 ^ precision ∧ d = z * 10 ^ e

/-- Filled up with zeros, the number has exactly so many digits. -/
theorem HasDigits.exists_significand {precision : ℕ} {d : ℚ} (h : HasDigits precision d)
    (hprecision : 0 < precision) (hd : d ≠ 0) :
    ∃ (n : ℕ) (exponent : ℤ), 10 ^ (precision - 1) ≤ n ∧ n < 10 ^ precision ∧
      |d| = n * 10 ^ (exponent - (precision - 1 : ℤ)) := by
  obtain ⟨z, e, hlt, rfl⟩ := h
  have hz : z.natAbs ≠ 0 := by
    intro hz
    rw [Int.natAbs_eq_zero.mp hz, Int.cast_zero, zero_mul] at hd
    exact hd rfl
  have hlog : Nat.log 10 z.natAbs < precision := Nat.log_lt_of_lt_pow hz hlt
  have hlow := Nat.pow_log_le_self 10 hz
  have hhigh := Nat.lt_pow_succ_log_self (b := 10) (by decide) z.natAbs
  -- there are `l` digits behind the first one, and `k` zeros to fill up with
  generalize Nat.log 10 z.natAbs = l at hlog hlow hhigh
  obtain ⟨k, rfl⟩ : ∃ k, precision = l + 1 + k := ⟨precision - (l + 1), by omega⟩
  refine ⟨z.natAbs * 10 ^ k, e + l, ?_, ?_, ?_⟩
  · calc 10 ^ (l + 1 + k - 1) = 10 ^ l * 10 ^ k := by
          rw [← pow_add]
          congr 1
          omega
      _ ≤ z.natAbs * 10 ^ k := Nat.mul_le_mul_right _ hlow
  · calc z.natAbs * 10 ^ k < 10 ^ (l + 1) * 10 ^ k :=
          Nat.mul_lt_mul_of_pos_right hhigh (by positivity)
      _ = 10 ^ (l + 1 + k) := (pow_add _ _ _).symm
  · have habs : |((z : ℚ) * 10 ^ e)| = z.natAbs * 10 ^ e := by
      rw [abs_mul, abs_of_pos (show (0 : ℚ) < 10 ^ e by positivity), Nat.cast_natAbs, Int.cast_abs]
    have hpow : (10 : ℚ) ^ (e + l - ((l + 1 + k : ℕ) - 1 : ℤ)) = 10 ^ e * (10 ^ k)⁻¹ := by
      rw [← zpow_natCast, ← zpow_neg, ← zpow_add₀ (by norm_num)]
      congr 1
      omega
    rw [habs, hpow]
    push_cast
    field_simp

theorem log_ten_eq {y : ℚ} {e : ℤ} (hlow : 10 ^ e ≤ y) (hhigh : y < 10 ^ (e + 1)) :
    Int.log 10 y = e := by
  have hy : 0 < y := (zpow_pos (by norm_num) e).trans_le hlow
  have hle := (Int.zpow_le_iff_le_log (b := 10) (by decide) hy).mp (by exact_mod_cast hlow)
  have hlt := (Int.lt_zpow_iff_log_lt (b := 10) (by decide) hy).mp (by exact_mod_cast hhigh)
  omega

section Near

variable {precision p n : ℕ} {exponent : ℤ} {a y : ℚ}

/-! A number in units of its last digit, of which there are `p` behind the first. -/

theorem unit_pos (exponent : ℤ) (p : ℕ) : (0 : ℚ) < 10 ^ (exponent - (p : ℤ)) :=
  zpow_pos (by norm_num) _

theorem ten_zpow_eq (exponent : ℤ) (p : ℕ) :
    (10 : ℚ) ^ exponent = 10 ^ p * 10 ^ (exponent - (p : ℤ)) := by
  rw [← zpow_natCast, ← zpow_add₀ (by norm_num)]
  congr 1
  omega

/-- With as many digits in front, the digits are those of the number of units. -/
theorem significand_of_ge (hlow : 10 ^ p ≤ y) (hhigh : y < 10 ^ (p + 1)) (hdigits : nearestEven y = n)
    (hn : n ≠ 10 ^ (p + 1)) :
    significand (p + 1) (y * 10 ^ (exponent - (p : ℤ))) = (n, exponent) := by
  have hunit := unit_pos exponent p
  have hlog : Int.log 10 (y * 10 ^ (exponent - (p : ℤ))) = exponent := by
    apply log_ten_eq
    · rw [ten_zpow_eq exponent p]
      exact mul_le_mul_of_nonneg_right hlow hunit.le
    · rw [zpow_add_one₀ (by norm_num), ten_zpow_eq exponent p, mul_right_comm, ← pow_succ]
      exact mul_lt_mul_of_pos_right hhigh hunit
  have hcast : ((p + 1 : ℕ) : ℤ) - 1 = p := by omega
  unfold significand
  dsimp only
  rw [hlog, hcast, mul_div_cancel_right₀ y hunit.ne', hdigits, if_neg hn]

/-- With one digit less in front, rounding carries if it comes to the power of ten. -/
theorem significand_of_lt (hlow : 10 ^ p * 10⁻¹ ≤ y) (hhigh : y < 10 ^ p)
    (hdigits : nearestEven (10 * y) = 10 ^ (p + 1)) :
    significand (p + 1) (y * 10 ^ (exponent - (p : ℤ))) = (10 ^ p, exponent) := by
  have hunit := unit_pos exponent p
  have hlog : Int.log 10 (y * 10 ^ (exponent - (p : ℤ))) = exponent - 1 := by
    apply log_ten_eq
    · rw [zpow_sub_one₀ (by norm_num), ten_zpow_eq exponent p, mul_right_comm]
      exact mul_le_mul_of_nonneg_right hlow hunit.le
    · rw [sub_add_cancel, ten_zpow_eq exponent p]
      exact mul_lt_mul_of_pos_right hhigh hunit
  -- the unit is a tenth of the one above
  have hshift : (10 : ℚ) ^ (exponent - 1 - (p : ℤ)) = 10 ^ (exponent - (p : ℤ)) / 10 := by
    rw [sub_right_comm, zpow_sub_one₀ (by norm_num), div_eq_mul_inv]
  have hscaled : y * 10 ^ (exponent - (p : ℤ)) / (10 ^ (exponent - (p : ℤ)) / 10) = 10 * y := by
    field_simp
  have hcast : ((p + 1 : ℕ) : ℤ) - 1 = p := by omega
  unfold significand
  dsimp only
  rw [hlog, hcast, hshift, hscaled, hdigits, if_pos rfl, Nat.add_sub_cancel, sub_add_cancel]

/-- Much closer to a number of so many digits than one digit, a number is rounded to it. Just below a
power of ten it has one digit less in front, and rounding carries. -/
theorem significand_near (hprecision : 0 < precision) (hlow : 10 ^ (precision - 1) ≤ n)
    (hhigh : n < 10 ^ precision)
    (hnear : |a - n * 10 ^ (exponent - (precision - 1 : ℤ))| * 10 ^ (precision + 1) ≤
      n * 10 ^ (exponent - (precision - 1 : ℤ))) :
    significand precision a = (n, exponent) := by
  obtain ⟨p, rfl⟩ : ∃ p, precision = p + 1 := ⟨precision - 1, by omega⟩
  have hcast : ((p + 1 : ℕ) : ℤ) - 1 = p := by omega
  rw [hcast] at hnear
  rw [Nat.add_sub_cancel] at hlow
  have hunit := unit_pos exponent p
  obtain ⟨y, rfl⟩ : ∃ y, a = y * 10 ^ (exponent - (p : ℤ)) :=
    ⟨a / 10 ^ (exponent - (p : ℤ)), (div_mul_cancel₀ a hunit.ne').symm⟩
  have hclose : |y - n| * 10 ^ (p + 2) ≤ n := by
    rw [← sub_mul, abs_mul, abs_of_pos hunit, mul_right_comm] at hnear
    exact le_of_mul_le_mul_right hnear hunit
  have hhigh' : (n : ℚ) + 1 ≤ 10 ^ (p + 1) := by exact_mod_cast hhigh
  have hbound : |y - n| ≤ 1 / 10 := by
    refine le_of_mul_le_mul_right (hclose.trans ?_) (show (0 : ℚ) < 10 ^ (p + 2) by positivity)
    rw [pow_succ (10 : ℚ) (p + 1)]
    linarith
  obtain ⟨hleft, hright⟩ := abs_le.mp hbound
  have hone : (1 : ℚ) ≤ 10 ^ p := one_le_pow₀ (by norm_num)
  rcases le_or_gt ((10 : ℚ) ^ p) y with hge | hlt
  · have hdigits : nearestEven y = n := nearestEven_eq (by linarith) (by linarith)
    exact significand_of_ge hge (by linarith) hdigits hhigh.ne
  · -- just below a power of ten, much closer than a tenth
    have hn : n = 10 ^ p := by
      have hlt' : (n : ℚ) < 10 ^ p + 1 := by linarith
      have hlt'' : n < 10 ^ p + 1 := by exact_mod_cast hlt'
      omega
    rw [hn, pow_add] at hclose
    push_cast at hclose
    have hclose' : |y - 10 ^ p| ≤ 1 / 100 := by
      refine le_of_mul_le_mul_right ?_ (show (0 : ℚ) < 10 ^ p by positivity)
      linarith
    obtain ⟨hleft', hright'⟩ := abs_le.mp hclose'
    have hdigits : nearestEven (10 * y) = 10 ^ (p + 1) := by
      apply nearestEven_eq
      · linarith
      · rw [Nat.cast_pow, Nat.cast_ofNat, pow_succ, abs_lt]
        constructor
        · linarith
        · linarith
    rw [hn]
    exact significand_of_lt (by linarith) hlt hdigits

/-- **A number of no more digits comes back**, and so does a number near it. -/
theorem rounded_near (hprecision : 0 < precision) {d x : ℚ} (hd : HasDigits precision d)
    (hnear : |x - d| * 10 ^ (precision + 1) ≤ |d|) : rounded precision x = d := by
  by_cases hzero : d = 0
  · rw [hzero, sub_zero, abs_zero] at hnear
    have hx : |x| ≤ 0 := le_of_mul_le_mul_right (by simpa using hnear)
      (show (0 : ℚ) < 10 ^ (precision + 1) by positivity)
    rw [abs_nonpos_iff.mp hx, rounded, if_pos rfl, hzero]
  have hpos : 0 < |d| := abs_pos.mpr hzero
  -- nearer than zero, so on the same side of it
  have hlt : |x - d| < |d| := by
    have hone : (1 : ℚ) < 10 ^ (precision + 1) := one_lt_pow₀ (by norm_num) (by omega)
    by_contra hge
    have hscaled := (lt_mul_iff_one_lt_right hpos).mpr hone
    have hmono := mul_le_mul_of_nonneg_right (not_lt.mp hge) (show (0 : ℚ) ≤ 10 ^ (precision + 1) by
      positivity)
    linarith
  have hx : x ≠ 0 := by
    rintro rfl
    rw [zero_sub, abs_neg] at hlt
    exact lt_irrefl _ hlt
  have hsign : x < 0 ↔ d < 0 := by
    rcases lt_or_gt_of_ne hzero with hneg | hpos'
    · rw [abs_of_neg hneg] at hlt
      have := (abs_lt.mp hlt).2
      exact iff_of_true (by linarith) hneg
    · rw [abs_of_pos hpos'] at hlt
      have := (abs_lt.mp hlt).1
      exact iff_of_false (by linarith) (by linarith)
  obtain ⟨n, exponent, hlow, hhigh, habs⟩ := hd.exists_significand hprecision hzero
  have hclose : abs (|x| - |d|) * 10 ^ (precision + 1) ≤ |d| :=
    (mul_le_mul_of_nonneg_right (abs_abs_sub_abs_le x d) (by positivity)).trans hnear
  rw [habs] at hclose
  have hsignificand := significand_near hprecision hlow hhigh hclose
  rw [rounded, if_neg hx, hsignificand]
  dsimp only
  rw [mul_assoc, ← habs]
  by_cases hneg : d < 0
  · rw [if_pos (hsign.mpr hneg), abs_of_neg hneg]
    ring
  · rw [if_neg (mt hsign.mp hneg), abs_of_nonneg (not_lt.mp hneg), one_mul]

end Near

end TextStream
