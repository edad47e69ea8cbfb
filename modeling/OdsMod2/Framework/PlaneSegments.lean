import Mathlib.Analysis.Convex.Segment
import Mathlib.Data.Sign.Basic
import Mathlib.LinearAlgebra.AffineSpace.FiniteDimensional
import Mathlib.Tactic.FieldSimp
import Mathlib.Tactic.Linarith
import Mathlib.Tactic.LinearCombination

/-!
# Segments of the plane and the test by orientation

For three points of the plane, `turn p q r` is positive, negative or zero as the way from `p` by `q` to
`r` turns to one side, to the other, or not at all. Two segments are often tested with it: they are
taken to meet when the ends of each lie on different sides of the other (`Straddle`), a line itself
counting as a third side.

The test is exact for segments that do not lie on one line, in every position, with ends that touch
and with segments of length zero (`straddle_iff`). Segments on one line never straddle each other,
whether they overlap or not.

Two identities carry the proof: `turn p q` is affine along the other segment (`turn_lineMap`), and the
two differences of turns are opposite (`turn_sub_turn`).
-/

namespace PlaneSegments

variable {K : Type*} [Field K]

/-- Which way `p`, `q`, `r` turn. -/
def turn (p q r : K × K) : K :=
  (q.2 - p.2) * (r.1 - q.1) - (q.1 - p.1) * (r.2 - q.2)

section Turn

variable (p q r s : K × K) (t : K)

/-- A point of a line on the way from `r` to `s`. -/
theorem turn_lineMap :
    turn p q (AffineMap.lineMap r s t) = (1 - t) * turn p q r + t * turn p q s := by
  simp only [turn, AffineMap.lineMap_apply, vsub_eq_sub, vadd_eq_add, Prod.fst_add, Prod.snd_add,
    Prod.smul_fst, Prod.smul_snd, Prod.fst_sub, Prod.snd_sub, smul_eq_mul]
  ring

/-- On its own line, a segment does not turn. -/
theorem turn_lineMap_self : turn p q (AffineMap.lineMap p q t) = 0 := by
  rw [turn_lineMap]
  unfold turn
  ring

theorem turn_sub_turn : turn p q r - turn p q s = turn r s q - turn r s p := by
  unfold turn
  ring

end Turn

/-! ### Four points on one line -/

section Collinear

variable {p q r s : K × K}

theorem turn_eq_zero_of_collinear {points : Set (K × K)} (h : Collinear K points)
    (hp : p ∈ points) (hq : q ∈ points) (hr : r ∈ points) : turn p q r = 0 := by
  obtain ⟨origin, direction, hline⟩ := (collinear_iff_exists_forall_eq_smul_vadd points).mp h
  obtain ⟨a, rfl⟩ := hline p hp
  obtain ⟨b, rfl⟩ := hline q hq
  obtain ⟨c, rfl⟩ := hline r hr
  simp only [turn, vadd_eq_add, Prod.fst_add, Prod.snd_add, Prod.smul_fst, Prod.smul_snd,
    smul_eq_mul]
  ring

/-- A point that does not turn away from two others is on their line. -/
theorem exists_lineMap_of_turn_eq_zero (hne : p ≠ q) (h : turn p q r = 0) :
    ∃ t : K, r = AffineMap.lineMap p q t := by
  have hturn : (q.2 - p.2) * (r.1 - p.1) = (q.1 - p.1) * (r.2 - p.2) := by
    unfold turn at h
    linear_combination h
  by_cases hx : q.1 - p.1 = 0
  · -- the line is vertical, so it is the second coordinate that tells
    have hy : q.2 - p.2 ≠ 0 := by
      intro hy
      exact hne (Prod.ext (sub_eq_zero.mp hx).symm (sub_eq_zero.mp hy).symm)
    refine ⟨(r.2 - p.2) / (q.2 - p.2), Prod.ext ?_ ?_⟩
    · rw [hx, zero_mul, mul_eq_zero, or_iff_right hy] at hturn
      simp [AffineMap.lineMap_apply, hx, sub_eq_zero.mp hturn]
    · simp [AffineMap.lineMap_apply, hy]
  · refine ⟨(r.1 - p.1) / (q.1 - p.1), Prod.ext ?_ ?_⟩
    · simp [AffineMap.lineMap_apply, hx]
    · have hsnd : r.2 - p.2 = (r.1 - p.1) / (q.1 - p.1) * (q.2 - p.2) := by
        field_simp
        linear_combination -hturn
      simp [AffineMap.lineMap_apply, ← hsnd]

/-- The four points are on one line. -/
def OnLine (p q r s : K × K) : Prop :=
  Collinear K {p, q, r, s}

theorem OnLine.swap (h : OnLine r s p q) : OnLine p q r s := by
  have hset : ({p, q, r, s} : Set (K × K)) = {r, s, p, q} := by
    ext x
    simp only [Set.mem_insert_iff, Set.mem_singleton_iff]
    tauto
  unfold OnLine
  rw [hset]
  exact h

/-- Two points that do not turn from the line through two others are on it. -/
theorem onLine_of_turn_eq_zero (hpq : p ≠ q) (hr : turn p q r = 0) (hs : turn p q s = 0) :
    OnLine r s p q := by
  obtain ⟨t, ht⟩ := exists_lineMap_of_turn_eq_zero hpq hr
  obtain ⟨u, hu⟩ := exists_lineMap_of_turn_eq_zero hpq hs
  apply collinear_insert_insert_of_mem_affineSpan_pair
  · rw [ht]
    exact AffineMap.lineMap_mem_affineSpan_pair t p q
  · rw [hu]
    exact AffineMap.lineMap_mem_affineSpan_pair u p q

/-- Four points are on one line if and only if neither two turn from the other two. -/
theorem onLine_iff_turn :
    OnLine p q r s ↔
      turn p q r = 0 ∧ turn p q s = 0 ∧ turn r s p = 0 ∧ turn r s q = 0 := by
  constructor
  · intro h
    have hmem : p ∈ ({p, q, r, s} : Set (K × K)) ∧ q ∈ ({p, q, r, s} : Set (K × K)) ∧
        r ∈ ({p, q, r, s} : Set (K × K)) ∧ s ∈ ({p, q, r, s} : Set (K × K)) := by
      simp
    obtain ⟨hp, hq, hr, hs⟩ := hmem
    exact ⟨turn_eq_zero_of_collinear h hp hq hr, turn_eq_zero_of_collinear h hp hq hs,
      turn_eq_zero_of_collinear h hr hs hp, turn_eq_zero_of_collinear h hr hs hq⟩
  · rintro ⟨hr, hs, hp, hq⟩
    by_cases hpq : p = q
    · by_cases hrs : r = s
      · -- two points
        unfold OnLine
        rw [hpq, hrs, Set.insert_eq_of_mem (Set.mem_insert q _), Set.pair_eq_singleton]
        exact collinear_pair K q s
      · -- the other two span the line
        exact onLine_of_turn_eq_zero hrs hp hq
    · exact (onLine_of_turn_eq_zero hpq hr hs).swap

end Collinear

/-! ### The test -/

section Straddle

variable [LinearOrder K] [IsStrictOrderedRing K] {p q r s : K × K}

/-- The ends of each segment are on different sides of the other. -/
def Straddle (p q r s : K × K) : Prop :=
  SignType.sign (turn p q r) ≠ SignType.sign (turn p q s) ∧
    SignType.sign (turn r s p) ≠ SignType.sign (turn r s q)

omit [IsStrictOrderedRing K] in
/-- Of two numbers of different signs, `0` lies between. -/
theorem zero_between {a b : K} (h : SignType.sign a ≠ SignType.sign b) (hlt : a < b) :
    a ≤ 0 ∧ 0 ≤ b := by
  constructor
  · by_contra ha
    have hb : 0 < b := (not_le.mp ha).trans hlt
    exact h ((sign_pos (not_le.mp ha)).trans (sign_pos hb).symm)
  · by_contra hb
    have ha : a < 0 := hlt.trans (not_le.mp hb)
    exact h ((sign_neg ha).trans (sign_neg (not_le.mp hb)).symm)

/-- The point where a value changes its sign. -/
theorem crossing_mem {a b : K} (h : SignType.sign a ≠ SignType.sign b) :
    a - b ≠ 0 ∧ 0 ≤ a / (a - b) ∧ a / (a - b) ≤ 1 := by
  have hne : a - b ≠ 0 := by
    intro heq
    exact h (congrArg SignType.sign (sub_eq_zero.mp heq))
  refine ⟨hne, ?_⟩
  rcases lt_or_gt_of_ne hne with hneg | hpos
  · -- numerator and denominator are both negative
    obtain ⟨ha, hb⟩ := zero_between h (sub_neg.mp hneg)
    refine ⟨div_nonneg_of_nonpos ha hneg.le, ?_⟩
    rw [div_le_one_of_neg hneg]
    linarith
  · obtain ⟨hb, ha⟩ := zero_between h.symm (sub_pos.mp hpos)
    refine ⟨div_nonneg ha hpos.le, ?_⟩
    rw [div_le_one hpos]
    linarith

theorem mean_pos {a b t : K} (ha : 0 < a) (hb : 0 < b) (h₀ : 0 ≤ t) (h₁ : t ≤ 1) :
    0 < (1 - t) * a + t * b := by
  rcases h₀.eq_or_lt with rfl | hpos
  · simpa using ha
  · exact add_pos_of_nonneg_of_pos (mul_nonneg (sub_nonneg.mpr h₁) ha.le) (mul_pos hpos hb)

/-- A mean of two values of one sign has that sign. -/
theorem eq_zero_of_mean {a b t : K} (h : SignType.sign a = SignType.sign b) (h₀ : 0 ≤ t)
    (h₁ : t ≤ 1) (hmean : (1 - t) * a + t * b = 0) : a = 0 ∧ b = 0 := by
  rcases lt_trichotomy a 0 with ha | ha | ha
  · have hb : b < 0 := sign_eq_neg_one_iff.mp (h.symm.trans (sign_neg ha))
    have hpos := mean_pos (neg_pos.mpr ha) (neg_pos.mpr hb) h₀ h₁
    have hzero : (1 - t) * -a + t * -b = 0 := by linear_combination -hmean
    exact absurd hzero hpos.ne'
  · have hb : b = 0 := by
      rw [ha, sign_zero] at h
      exact sign_eq_zero_iff.mp h.symm
    exact ⟨ha, hb⟩
  · have hb : 0 < b := sign_eq_one_iff.mp (h.symm.trans (sign_pos ha))
    exact absurd hmean (mean_pos ha hb h₀ h₁).ne'

/-- Segments whose ends are on different sides of each other meet where both lines cross. -/
theorem Straddle.exists_mem (h : Straddle p q r s) :
    ∃ x, x ∈ segment K p q ∧ x ∈ segment K r s := by
  obtain ⟨hne, h₀, h₁⟩ := crossing_mem h.1
  obtain ⟨-, h₀', h₁'⟩ := crossing_mem h.2
  have hopposite : turn r s p - turn r s q = -(turn p q r - turn p q s) := by
    rw [turn_sub_turn p q r s]
    ring
  -- the two ways to the crossing lead to one point
  have hsame : AffineMap.lineMap p q (turn r s p / (turn r s p - turn r s q)) =
      AffineMap.lineMap r s (turn p q r / (turn p q r - turn p q s)) := by
    rw [hopposite]
    refine Prod.ext ?_ ?_
    · simp only [AffineMap.lineMap_apply, vsub_eq_sub, vadd_eq_add, Prod.fst_add, Prod.smul_fst,
        Prod.fst_sub, smul_eq_mul]
      field_simp
      unfold turn
      ring
    · simp only [AffineMap.lineMap_apply, vsub_eq_sub, vadd_eq_add, Prod.snd_add, Prod.smul_snd,
        Prod.snd_sub, smul_eq_mul]
      field_simp
      unfold turn
      ring
  refine ⟨_, ?_, lineMap_mem_segment K r s ⟨h₀, h₁⟩⟩
  rw [← hsame]
  exact lineMap_mem_segment K p q ⟨h₀', h₁'⟩

/-- Of two segments that meet, one has its ends on different sides of the other, unless all is on one
line. -/
theorem turn_eq_zero_of_sign_eq {x : K × K} (hx : x ∈ segment K p q) (hx' : x ∈ segment K r s)
    (h : SignType.sign (turn p q r) = SignType.sign (turn p q s)) :
    turn p q r = 0 ∧ turn p q s = 0 ∧ turn r s p = 0 ∧ turn r s q = 0 := by
  rw [segment_eq_image_lineMap] at hx hx'
  obtain ⟨t, ⟨ht₀, ht₁⟩, rfl⟩ := hx
  obtain ⟨u, ⟨hu₀, hu₁⟩, hu⟩ := hx'
  have hturn : (1 - u) * turn p q r + u * turn p q s = 0 := by
    rw [← turn_lineMap, hu, turn_lineMap_self]
  have hturn' : (1 - t) * turn r s p + t * turn r s q = 0 := by
    rw [← turn_lineMap, ← hu, turn_lineMap_self]
  obtain ⟨hr, hs⟩ := eq_zero_of_mean h hu₀ hu₁ hturn
  -- the turns of the first two ends are equal, since those of the others are
  have hequal : turn r s p = turn r s q := by
    have hdiff := turn_sub_turn r s p q
    rw [hr, hs, sub_self] at hdiff
    exact sub_eq_zero.mp hdiff
  obtain ⟨hp, hq⟩ := eq_zero_of_mean (congrArg SignType.sign hequal) ht₀ ht₁ hturn'
  exact ⟨hr, hs, hp, hq⟩

/-- **The test is exact off a common line.** -/
theorem straddle_iff :
    Straddle p q r s ↔
      (∃ x, x ∈ segment K p q ∧ x ∈ segment K r s) ∧ ¬ OnLine p q r s := by
  rw [onLine_iff_turn]
  constructor
  · intro h
    refine ⟨h.exists_mem, ?_⟩
    rintro ⟨hr, hs, -⟩
    exact h.1 (by rw [hr, hs])
  · rintro ⟨⟨x, hx, hx'⟩, hline⟩
    refine ⟨fun h => hline (turn_eq_zero_of_sign_eq hx hx' h), fun h => hline ?_⟩
    obtain ⟨hp, hq, hr, hs⟩ := turn_eq_zero_of_sign_eq hx' hx h
    exact ⟨hr, hs, hp, hq⟩

end Straddle

end PlaneSegments
