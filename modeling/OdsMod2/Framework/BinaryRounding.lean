import OdsMod2.Framework.GeneralFormat

/-!
# Rounding to a binary significand

A floating-point operation gives the exact result rounded to the nearest number whose significand
has so many bits, half to even (`toBinary`). Three facts carry what a program may conclude from such
results: the rounding keeps the sign and the order (`toBinary_nonneg_iff`, `toBinary_mono`), and it
moves a number by a tiny part of it at most (`toBinary_near`). Whole numbers of that many bits are not
moved at all (`toBinary_natCast`).
-/

namespace TextStream

/-! ### The nearest natural number -/

section NearestEven

variable {y z : ℚ}

theorem nearestEven_cases (y : ℚ) :
    (nearestEven y = ⌊y⌋₊ ∧ (2 * (y - ⌊y⌋₊) < 1 ∨ (2 * (y - ⌊y⌋₊) = 1 ∧ ⌊y⌋₊ % 2 = 0))) ∨
      (nearestEven y = ⌊y⌋₊ + 1 ∧
        ¬ (2 * (y - ⌊y⌋₊) < 1 ∨ (2 * (y - ⌊y⌋₊) = 1 ∧ ⌊y⌋₊ % 2 = 0))) := by
  unfold nearestEven
  dsimp only
  by_cases hdown : 2 * (y - ⌊y⌋₊) < 1 ∨ (2 * (y - ⌊y⌋₊) = 1 ∧ ⌊y⌋₊ % 2 = 0)
  · rw [if_pos hdown]
    exact Or.inl ⟨rfl, hdown⟩
  · rw [if_neg hdown]
    exact Or.inr ⟨rfl, hdown⟩

theorem floor_le_nearestEven (y : ℚ) : ⌊y⌋₊ ≤ nearestEven y := by
  rcases nearestEven_cases y with ⟨h, -⟩ | ⟨h, -⟩
  · rw [h]
  · rw [h]
    exact Nat.le_succ _

theorem nearestEven_le_floor (y : ℚ) : nearestEven y ≤ ⌊y⌋₊ + 1 := by
  rcases nearestEven_cases y with ⟨h, -⟩ | ⟨h, -⟩
  · rw [h]
    exact Nat.le_succ _
  · rw [h]

theorem le_nearestEven {n : ℕ} (h : (n : ℚ) ≤ y) : n ≤ nearestEven y :=
  (Nat.le_floor h).trans (floor_le_nearestEven y)

theorem nearestEven_mono (h : y ≤ z) : nearestEven y ≤ nearestEven z := by
  rcases (Nat.floor_le_floor h).lt_or_eq with hlt | heq
  · calc nearestEven y ≤ ⌊y⌋₊ + 1 := nearestEven_le_floor y
      _ ≤ ⌊z⌋₊ := hlt
      _ ≤ nearestEven z := floor_le_nearestEven z
  · rcases nearestEven_cases z with ⟨hz, hdown⟩ | ⟨hz, -⟩
    · -- both lie above one number, and the lower one is rounded down with the upper one
      rcases nearestEven_cases y with ⟨hy, -⟩ | ⟨-, hup⟩
      · rw [hy, hz, heq]
      · refine absurd ?_ hup
        rw [heq]
        rcases hdown with hless | ⟨htie, heven⟩
        · exact Or.inl (by linarith)
        · rcases h.lt_or_eq with hlt | rfl
          · exact Or.inl (by linarith)
          · exact Or.inr ⟨htie, heven⟩
    · rw [hz, ← heq]
      exact nearestEven_le_floor y

theorem nearestEven_near (hy : 0 ≤ y) : |(nearestEven y : ℚ) - y| ≤ 1 / 2 := by
  have hlow := Nat.floor_le hy
  have hhigh := Nat.lt_floor_add_one y
  rcases nearestEven_cases y with ⟨h, hdown⟩ | ⟨h, hup⟩
  · rw [h, abs_le]
    rcases hdown with hless | ⟨htie, -⟩
    · exact ⟨by linarith, by linarith⟩
    · exact ⟨by linarith, by linarith⟩
  · have hless : 1 ≤ 2 * (y - ⌊y⌋₊) := not_lt.mp fun hlt => hup (Or.inl hlt)
    rw [h, abs_le]
    push_cast
    exact ⟨by linarith, by linarith⟩

theorem nearestEven_natCast (n : ℕ) : nearestEven n = n :=
  nearestEven_eq (Nat.cast_nonneg n) (by rw [sub_self, abs_zero]; norm_num)

end NearestEven

end TextStream

namespace BinaryRounding

open TextStream

/-- The distance between neighbours at `x`, with so many bits behind the first one. -/
def quantum (bits : ℕ) (x : ℚ) : ℚ :=
  2 ^ (Int.log 2 |x| - bits)

/-- The nearest number with so many bits behind the first one. The range of the exponent is not
limited. -/
def toBinary (bits : ℕ) (x : ℚ) : ℚ :=
  (if x < 0 then -1 else 1) * nearestEven (|x| / quantum bits x) * quantum bits x

variable {bits : ℕ} {x y : ℚ}

theorem quantum_pos (bits : ℕ) (x : ℚ) : 0 < quantum bits x :=
  zpow_pos two_pos _

theorem toBinary_of_nonneg (hx : 0 ≤ x) :
    toBinary bits x = nearestEven (x / quantum bits x) * quantum bits x := by
  rw [toBinary, if_neg (not_lt.mpr hx), one_mul, abs_of_nonneg hx]

theorem toBinary_nonneg (hx : 0 ≤ x) : 0 ≤ toBinary bits x := by
  rw [toBinary_of_nonneg hx]
  exact mul_nonneg (Nat.cast_nonneg _) (quantum_pos bits x).le

@[simp] theorem toBinary_zero : toBinary bits 0 = 0 := by
  rw [toBinary_of_nonneg le_rfl, zero_div]
  have hzero : nearestEven 0 = 0 := by exact_mod_cast nearestEven_natCast 0
  rw [hzero, Nat.cast_zero, zero_mul]

/-- In units of the distance, a power of two is a whole number. -/
theorem zpow_div_quantum (hx : 0 ≤ x) {k : ℤ} {n : ℕ} (hk : k = Int.log 2 x + n) :
    (2 : ℚ) ^ k / quantum bits x = (2 ^ (n + bits) : ℕ) := by
  rw [quantum, abs_of_nonneg hx, ← zpow_sub₀ two_ne_zero, hk]
  push_cast
  rw [← zpow_natCast]
  congr 1
  push_cast
  ring

/-- What is below a power of two is not rounded beyond it. -/
theorem toBinary_le_zpow (hx : 0 ≤ x) {k : ℤ} (h : x ≤ 2 ^ k) : toBinary bits x ≤ 2 ^ k := by
  rcases hx.lt_or_eq with hpos | rfl
  · have hlog : Int.log 2 x ≤ k := by
      calc Int.log 2 x ≤ Int.log 2 ((2 : ℚ) ^ k) := Int.log_mono_right hpos h
        _ = k := Int.log_zpow one_lt_two k
    obtain ⟨n, hn⟩ := Int.le.dest hlog
    have hdiv : (2 : ℚ) ^ k / quantum bits x = (2 ^ (n + bits) : ℕ) := zpow_div_quantum hx hn.symm
    have hle : nearestEven (x / quantum bits x) ≤ 2 ^ (n + bits) := by
      apply nearestEven_le
      rw [← hdiv]
      exact div_le_div_of_nonneg_right h (quantum_pos bits x).le
    rw [toBinary_of_nonneg hx, ← le_div_iff₀ (quantum_pos bits x), hdiv]
    exact_mod_cast hle
  · rw [toBinary_zero]
    exact zpow_nonneg zero_le_two k

/-- What is above a power of two is not rounded below it. -/
theorem zpow_le_toBinary {k : ℤ} (h : 2 ^ k ≤ x) : 2 ^ k ≤ toBinary bits x := by
  have hpos : 0 < x := (zpow_pos two_pos k).trans_le h
  have hlog : k ≤ Int.log 2 x := (Int.zpow_le_iff_le_log one_lt_two hpos).mp (by exact_mod_cast h)
  have hdiv : (2 : ℚ) ^ Int.log 2 x / quantum bits x = (2 ^ (0 + bits) : ℕ) :=
    zpow_div_quantum hpos.le (add_zero _).symm
  have hlow : (2 : ℚ) ^ Int.log 2 x ≤ x := by
    exact_mod_cast Int.zpow_log_le_self one_lt_two hpos
  have hle : 2 ^ (0 + bits) ≤ nearestEven (x / quantum bits x) := by
    apply le_nearestEven
    rw [← hdiv]
    exact div_le_div_of_nonneg_right hlow (quantum_pos bits x).le
  calc (2 : ℚ) ^ k ≤ 2 ^ Int.log 2 x := zpow_le_zpow_right₀ one_le_two hlog
    _ ≤ toBinary bits x := by
      rw [toBinary_of_nonneg hpos.le, ← div_le_iff₀ (quantum_pos bits x), hdiv]
      exact_mod_cast hle

theorem toBinary_pos (hx : 0 < x) : 0 < toBinary bits x := by
  have hlow : (2 : ℚ) ^ Int.log 2 x ≤ x := by
    exact_mod_cast Int.zpow_log_le_self one_lt_two hx
  exact (zpow_pos two_pos _).trans_le (zpow_le_toBinary hlow)

theorem toBinary_neg (hx : 0 < x) : toBinary bits (-x) = -toBinary bits x := by
  have hquantum : quantum bits (-x) = quantum bits x := by
    rw [quantum, quantum, abs_neg]
  rw [toBinary, toBinary, if_pos (neg_lt_zero.mpr hx), if_neg (not_lt.mpr hx.le), abs_neg, hquantum,
    one_mul, neg_one_mul, neg_mul]

/-- **The rounding keeps the sign.** -/
theorem toBinary_nonneg_iff : 0 ≤ toBinary bits x ↔ 0 ≤ x := by
  refine ⟨fun h => ?_, toBinary_nonneg⟩
  by_contra hneg
  have hpos : 0 < -x := neg_pos.mpr (not_le.mp hneg)
  have hround : toBinary bits x = -toBinary bits (-x) := by
    rw [← toBinary_neg hpos, neg_neg]
  rw [hround, neg_nonneg] at h
  exact absurd (toBinary_pos hpos) (not_lt.mpr h)

/-- **The rounding keeps the order.** -/
theorem toBinary_mono (hx : 0 ≤ x) (h : x ≤ y) : toBinary bits x ≤ toBinary bits y := by
  rcases hx.lt_or_eq with hpos | rfl
  · rcases (Int.log_mono_right (b := 2) hpos h).lt_or_eq with hlt | heq
    · -- a power of two lies between them
      have hbelow : x ≤ 2 ^ (Int.log 2 x + 1) := by
        exact_mod_cast (Int.lt_zpow_succ_log_self one_lt_two x).le
      have habove : (2 : ℚ) ^ (Int.log 2 x + 1) ≤ y := by
        have hlog : (2 : ℚ) ^ Int.log 2 y ≤ y := by
          exact_mod_cast Int.zpow_log_le_self one_lt_two (hpos.trans_le h)
        exact (zpow_le_zpow_right₀ one_le_two hlt).trans hlog
      exact (toBinary_le_zpow hx hbelow).trans (zpow_le_toBinary habove)
    · have hquantum : quantum bits x = quantum bits y := by
        rw [quantum, quantum, abs_of_nonneg hx, abs_of_nonneg (hx.trans h), heq]
      have hle : nearestEven (x / quantum bits y) ≤ nearestEven (y / quantum bits y) :=
        nearestEven_mono (div_le_div_of_nonneg_right h (quantum_pos bits y).le)
      rw [toBinary_of_nonneg hx, toBinary_of_nonneg (hx.trans h), hquantum]
      exact mul_le_mul_of_nonneg_right (by exact_mod_cast hle) (quantum_pos bits y).le
  · rw [toBinary_zero]
    exact toBinary_nonneg h

/-- **The rounding moves a number by a tiny part of it.** -/
theorem toBinary_near (hx : 0 ≤ x) : |toBinary bits x - x| ≤ x / 2 ^ (bits + 1) := by
  rcases hx.lt_or_eq with hpos | rfl
  · have hq := quantum_pos bits x
    have hlog : (2 : ℚ) ^ Int.log 2 x ≤ x := by
      exact_mod_cast Int.zpow_log_le_self one_lt_two hpos
    have hsplit : quantum bits x = 2 ^ Int.log 2 x / 2 ^ bits := by
      rw [quantum, abs_of_pos hpos, zpow_sub₀ two_ne_zero, zpow_natCast]
    have hnear := nearestEven_near (div_nonneg hx hq.le)
    have hfactor : toBinary bits x - x =
        (nearestEven (x / quantum bits x) - x / quantum bits x) * quantum bits x := by
      rw [toBinary_of_nonneg hx, sub_mul, div_mul_cancel₀ x hq.ne']
    calc |toBinary bits x - x|
        = |(nearestEven (x / quantum bits x) : ℚ) - x / quantum bits x| * quantum bits x := by
          rw [hfactor, abs_mul, abs_of_pos hq]
      _ ≤ 1 / 2 * quantum bits x := mul_le_mul_of_nonneg_right hnear hq.le
      _ = 2 ^ Int.log 2 x / 2 ^ (bits + 1) := by
          rw [hsplit, pow_succ]
          field_simp
      _ ≤ x / 2 ^ (bits + 1) := div_le_div_of_nonneg_right hlog (by positivity)
  · rw [toBinary_zero, sub_zero, abs_zero, zero_div]

/-- A whole number that has no more bits is not moved. -/
theorem toBinary_natCast {n : ℕ} (h : n < 2 ^ (bits + 1)) : toBinary bits n = n := by
  rcases Nat.eq_zero_or_pos n with rfl | hpos
  · rw [Nat.cast_zero, toBinary_zero]
  · have hx : (0 : ℚ) ≤ n := Nat.cast_nonneg n
    have hlog : Int.log 2 (n : ℚ) ≤ bits := by
      have hlt : Int.log 2 (n : ℚ) < (bits + 1 : ℕ) := by
        apply (Int.lt_zpow_iff_log_lt one_lt_two (by exact_mod_cast hpos)).mp
        exact_mod_cast h
      push_cast at hlt
      omega
    obtain ⟨k, hk⟩ := Int.le.dest hlog
    have hinverse : (quantum bits n)⁻¹ = 2 ^ k := by
      rw [quantum, abs_of_nonneg hx, ← zpow_neg, ← zpow_natCast]
      congr 1
      omega
    have hwhole : (n : ℚ) / quantum bits n = (n * 2 ^ k : ℕ) := by
      rw [div_eq_mul_inv, hinverse]
      push_cast
      rfl
    rw [toBinary_of_nonneg hx, hwhole, nearestEven_natCast, ← hwhole,
      div_mul_cancel₀ _ (quantum_pos bits n).ne']

end BinaryRounding
