import Mathlib.Algebra.Order.Ring.Int
import Mathlib.Tactic.Ring

/-!
# Integers of 64 bits

A sum or a product is the mathematical one where that fits in the 64 bits, and is otherwise another
number that differs by a multiple of `2 ^ 64` (`wrap`). Whether it fits can be read off the result
(`wrap_eq_self_iff`).

The two ends of an interval around a point are computed apart, and either may wrap around. An end that
does has come past the other one, so the interval is upside down (`fits_of_wrap_lt`): the order of the
two ends alone tells that nothing has wrapped around.
-/

namespace TwosComplement

/-- The number is one of the type. -/
def Fits (z : ℤ) : Prop :=
  -9223372036854775808 ≤ z ∧ z ≤ 9223372036854775807

instance (z : ℤ) : Decidable (Fits z) :=
  inferInstanceAs (Decidable (_ ∧ _))

/-- What is stored when the number is computed. -/
def wrap (z : ℤ) : ℤ :=
  Int.bmod z 18446744073709551616

variable {z : ℤ}

theorem fits_wrap (z : ℤ) : Fits (wrap z) := by
  have hle : -((18446744073709551616 : ℤ) / 2) ≤ wrap z := Int.le_bmod (by decide)
  have hlt : wrap z < (18446744073709551616 + 1) / 2 := Int.bmod_lt (by decide)
  exact ⟨by omega, by omega⟩

theorem wrap_of_fits (h : Fits z) : wrap z = z := by
  obtain ⟨hle, hge⟩ := h
  exact Int.bmod_eq_of_le (by omega) (by omega)

/-- Nothing is lost exactly if the number fits. -/
theorem wrap_eq_self_iff : wrap z = z ↔ Fits z := by
  constructor
  · intro h
    rw [← h]
    exact fits_wrap z
  · exact wrap_of_fits

/-- Below the type, by less than its size. -/
theorem wrap_of_lt (hlow : -27670116110564327424 ≤ z) (hlt : z < -9223372036854775808) :
    wrap z = z + 18446744073709551616 := by
  calc wrap z
      = wrap (z + 18446744073709551616) := (Int.add_bmod_right z _).symm
    _ = z + 18446744073709551616 := wrap_of_fits ⟨by omega, by omega⟩

/-- Above the type, by less than its size. -/
theorem wrap_of_gt (hgt : 9223372036854775807 < z) (hhigh : z < 27670116110564327424) :
    wrap z = z - 18446744073709551616 := by
  calc wrap z
      = wrap (z - 18446744073709551616) := (Int.sub_bmod_right z _).symm
    _ = z - 18446744073709551616 := wrap_of_fits ⟨by omega, by omega⟩

/-- It does not matter what was lost of a summand. -/
theorem wrap_add_wrap (x y : ℤ) : wrap (x + wrap y) = wrap (x + y) :=
  Int.add_bmod_bmod

theorem wrap_wrap_sub (x y : ℤ) : wrap (wrap x - y) = wrap (x - y) :=
  Int.bmod_sub_bmod

/-- What has been moved from one point to another is moved back. -/
theorem wrap_move_back (x y : ℤ) (hz : Fits z) :
    wrap (x + wrap (wrap (y + wrap (z - x)) - y)) = z := by
  calc wrap (x + wrap (wrap (y + wrap (z - x)) - y))
      = wrap (x + (y + (z - x) - y)) := by
        rw [wrap_add_wrap y, wrap_wrap_sub, wrap_add_wrap]
    _ = wrap z := by ring_nf
    _ = z := wrap_of_fits hz

theorem Fits.sub_lt {x y : ℤ} (hx : Fits x) (hy : Fits y) : x - y < 18446744073709551616 := by
  obtain ⟨-, hhigh⟩ := hx
  obtain ⟨hlow, -⟩ := hy
  omega

/-- What is moved on from a point of the type is behind it exactly if it leaves the type. -/
theorem le_wrap_add_iff {x y : ℤ} (hx : Fits x) (hy : 0 ≤ y) (hlt : y < 18446744073709551616) :
    x ≤ wrap (x + y) ↔ Fits (x + y) := by
  obtain ⟨hlow, hhigh⟩ := hx
  constructor
  · intro hle
    by_contra hnot
    have habove : 9223372036854775807 < x + y := by
      unfold Fits at hnot
      omega
    rw [wrap_of_gt habove (by omega)] at hle
    omega
  · intro hfits
    rw [wrap_of_fits hfits]
    exact Int.le_add_of_nonneg_right hy

/-- **An interval that wraps around is upside down.** -/
theorem fits_of_wrap_lt {center before after : ℤ} (hcenter : Fits center) (hbefore : Fits before)
    (hafter : Fits after) (hbefore_nonneg : 0 ≤ before) (hafter_nonneg : 0 ≤ after)
    (hlt : wrap (center - before) < wrap (center + after)) :
    Fits (center - before) ∧ Fits (center + after) := by
  obtain ⟨hcenter_low, hcenter_high⟩ := hcenter
  obtain ⟨-, hbefore_high⟩ := hbefore
  obtain ⟨-, hafter_high⟩ := hafter
  by_cases hstart : Fits (center - before)
  · by_cases hend : Fits (center + after)
    · exact ⟨hstart, hend⟩
    · -- the end comes back below the start
      have habove : 9223372036854775807 < center + after := by
        unfold Fits at hend
        omega
      rw [wrap_of_fits hstart, wrap_of_gt habove (by omega)] at hlt
      omega
  · -- the start comes back above whatever the end is
    have hbelow : center - before < -9223372036854775808 := by
      unfold Fits at hstart
      omega
    rw [wrap_of_lt (by omega) hbelow] at hlt
    by_cases hend : Fits (center + after)
    · rw [wrap_of_fits hend] at hlt
      omega
    · unfold Fits at hend
      rw [wrap_of_gt (by omega) (by omega)] at hlt
      omega

end TwosComplement
