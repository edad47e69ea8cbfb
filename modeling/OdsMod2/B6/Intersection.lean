import Mathlib.Data.Real.Basic
import Mathlib.Data.Rat.Cast.Order
import OdsMod2.B6.PolygonValidator
import OdsMod2.Framework.PlaneSegments

/-!
# Which polygons the validator lets through

The two loops of `isValidPolygon` go through the pairs of edges that are not neighbours, the last and
the first edge being neighbours too (`mem_edgePairs`), and `doIntersect` tests each pair by orientation.
Off a common line that test is exact, also where a vertex touches an edge. Two edges on one line have
four orientations of zero, and the test takes them to be apart: the case is missing.

An overlap on a line is therefore seen only if other edges meet off a line as well (`OverlapSeen`), as
they mostly do: where an edge leaves the line inside another edge, it touches that edge. What slips
through is an edge that runs back over its neighbour and is run back over in turn
(`foldedSide_is_valid`).
-/

namespace Ods.B6

open PlaneSegments

/-- The point in the real plane. -/
noncomputable def Point.toPlane (point : Point) : ℝ × ℝ :=
  ((point.x : ℝ), (point.y : ℝ))

namespace PolygonValidator

/-! ### The closed polygon -/

section ClosedPolygon

variable (points : List Point)

/-- The corners, counted round and round. -/
noncomputable def corner (i : Nat) : ℝ × ℝ :=
  (points.getD (i % points.length) ⟨0, 0⟩).toPlane

/-- From a corner to the next one. -/
noncomputable def edge (i : Nat) : Set (ℝ × ℝ) :=
  segment ℝ (corner points i) (corner points (i + 1))

/-- The edges are different and share no corner of the outline. -/
def NonAdjacent (n i j : Nat) : Prop :=
  i < n ∧ j < n ∧ i ≠ j ∧ (i + 1) % n ≠ j ∧ (j + 1) % n ≠ i

instance (n i j : Nat) : Decidable (NonAdjacent n i j) :=
  inferInstanceAs (Decidable (_ ∧ _))

def Meet (i j : Nat) : Prop :=
  ∃ x, x ∈ edge points i ∧ x ∈ edge points j

def OnOneLine (i j : Nat) : Prop :=
  OnLine (corner points i) (corner points (i + 1)) (corner points j) (corner points (j + 1))

/-- No two edges that are not neighbours have a point in common. -/
def EdgesApart : Prop :=
  ∀ i j, NonAdjacent points.length i j → ¬ Meet points i j

/-- If edges on one line meet, then so do edges that are not on one line. -/
def OverlapSeen : Prop :=
  (∃ i j, NonAdjacent points.length i j ∧ Meet points i j ∧ OnOneLine points i j) →
    ∃ i j, NonAdjacent points.length i j ∧ Meet points i j ∧ ¬ OnOneLine points i j

end ClosedPolygon

/-! ### The test of one pair -/

/-- The side a value of `orientation` stands for. -/
def side (val : ℚ) : Nat :=
  if val = 0 then 0 else if val > 0 then 1 else 2

theorem side_ne_iff {a b : ℚ} : side a ≠ side b ↔ SignType.sign a ≠ SignType.sign b := by
  unfold side
  rcases lt_trichotomy a 0 with ha | rfl | ha
  all_goals rcases lt_trichotomy b 0 with hb | rfl | hb
  all_goals simp [*, ne_of_gt, ne_of_lt, not_lt_of_gt, sign_pos, sign_neg]

theorem sign_turn (p q r : Point) :
    SignType.sign (turn p.toPlane q.toPlane r.toPlane) =
      SignType.sign ((q.y - p.y) * (r.x - q.x) - (q.x - p.x) * (r.y - q.y)) := by
  have hcast : turn p.toPlane q.toPlane r.toPlane =
      (((q.y - p.y) * (r.x - q.x) - (q.x - p.x) * (r.y - q.y) : ℚ) : ℝ) := by
    unfold turn Point.toPlane
    push_cast
    rfl
  rw [hcast]
  exact (Rat.cast_strictMono (K := ℝ)).sign_comp (f := Rat.castHom ℝ) _

theorem doIntersect_point (p₁ q₁ p₂ q₂ : Point) :
    ∃ meets, doIntersect (.point p₁) (.point q₁) (.point p₂) (.point q₂) = .ok meets ∧
      (meets = true ↔ Straddle p₁.toPlane q₁.toPlane p₂.toPlane q₂.toPlane) := by
  refine ⟨_, rfl, ?_⟩
  rw [decide_eq_true_iff]
  unfold Straddle
  rw [sign_turn, sign_turn, sign_turn, sign_turn, ← side_ne_iff, ← side_ne_iff]
  rfl

/-! ### The loops -/

/-- The two loops go through the pairs of edges that are not neighbours, each pair once. -/
theorem mem_edgePairs {n i j : Nat} : (i, j) ∈ edgePairs n ↔ i < j ∧ NonAdjacent n i j := by
  have hmem : (i, j) ∈ edgePairs n ↔
      i < n ∧ (i + 2 ≤ j ∧ j < i + 2 + (n - (i + 2))) ∧ ¬ (i = 0 ∧ j = n - 1) := by
    simp only [edgePairs, List.mem_flatMap, List.mem_range, List.mem_map, List.mem_filter,
      List.mem_range'_1, Prod.mk.injEq]
    constructor
    · rintro ⟨i', hi, j', ⟨hj, hskip⟩, rfl, rfl⟩
      exact ⟨hi, hj, not_and_or.mpr (by simpa using hskip)⟩
    · rintro ⟨hi, hj, hskip⟩
      exact ⟨i, hi, j, ⟨hj, by simpa using not_and_or.mp hskip⟩, rfl, rfl⟩
  rw [hmem]
  unfold NonAdjacent
  constructor
  · rintro ⟨hi, ⟨hj, hj'⟩, hskip⟩
    -- only the last edge is followed by one of a smaller number
    have hnext : (i + 1) % n = i + 1 := Nat.mod_eq_of_lt (by omega)
    refine ⟨by omega, hi, by omega, by omega, by omega, ?_⟩
    rcases Nat.lt_or_ge (j + 1) n with hlt | hge
    · rw [Nat.mod_eq_of_lt hlt]
      omega
    · have hlast : j + 1 = n := by omega
      rw [hlast, Nat.mod_self]
      omega
  · rintro ⟨hij, hi, hj, -, hnext, hlast⟩
    rw [Nat.mod_eq_of_lt (show i + 1 < n by omega)] at hnext
    refine ⟨hi, ⟨by omega, by omega⟩, ?_⟩
    rintro ⟨rfl, rfl⟩
    rw [Nat.sub_add_cancel (by omega), Nat.mod_self] at hlast
    exact hlast rfl

section Loops

variable {points : List Point}

theorem vertexAt_map_point {i : Nat} (h : i < points.length) :
    ∃ point, Polygon.vertexAt (points.map .point) i = .point point ∧
      point.toPlane = corner points i := by
  refine ⟨points[i], ?_, ?_⟩
  · simp [Polygon.vertexAt, h]
  · simp [corner, Nat.mod_eq_of_lt h, h]

theorem corner_mod (i : Nat) : corner points (i % points.length) = corner points i := by
  unfold corner
  rw [Nat.mod_mod]

/-- The edges of a pair of loop indices straddle each other. -/
def StraddleAt (points : List Point) (i j : Nat) : Prop :=
  Straddle (corner points i) (corner points (i + 1)) (corner points j) (corner points (j + 1))

theorem allApart_point {pairs : List (Nat × Nat)}
    (h : ∀ pair ∈ pairs, pair.1 < points.length ∧ pair.2 < points.length) :
    ∃ valid, allApart (points.map .point) pairs = .ok valid ∧
      (valid = true ↔ ∀ pair ∈ pairs, ¬ StraddleAt points pair.1 pair.2) := by
  induction pairs with
  | nil => exact ⟨true, rfl, by simp⟩
  | cons pair pairs ih =>
    obtain ⟨i, j⟩ := pair
    obtain ⟨⟨hi, hj⟩, hpairs⟩ := List.forall_mem_cons.mp h
    obtain ⟨valid, hvalid, hiff⟩ := ih hpairs
    have hpos : 0 < points.length := by omega
    -- the four ends are in the list, so each has coordinates
    obtain ⟨p₁, hp₁, hcorner₁⟩ := vertexAt_map_point hi
    obtain ⟨q₁, hq₁, hcorner₁'⟩ := vertexAt_map_point (Nat.mod_lt (i + 1) hpos)
    obtain ⟨p₂, hp₂, hcorner₂⟩ := vertexAt_map_point hj
    obtain ⟨q₂, hq₂, hcorner₂'⟩ := vertexAt_map_point (Nat.mod_lt (j + 1) hpos)
    obtain ⟨meets, hmeets, htest⟩ := doIntersect_point p₁ q₁ p₂ q₂
    rw [hcorner₁, hcorner₁', hcorner₂, hcorner₂', corner_mod, corner_mod] at htest
    -- the loop returns at the first pair that meets
    refine ⟨if meets then false else valid, ?_, ?_⟩
    · simp only [allApart, List.length_map, hp₁, hq₁, hp₂, hq₂, hmeets, hvalid]
      cases meets <;> rfl
    · rw [List.forall_mem_cons, ← hiff]
      show _ ↔ ¬ Straddle _ _ _ _ ∧ valid = true
      rw [← htest]
      cases meets <;> simp

/-- The validator looks for edges that straddle each other, among those that are not neighbours. -/
theorem isValidPolygon_straddle (hn : 4 ≤ points.length) :
    isValidPolygon (points.map .point) = .ok true ↔
      ∀ i j, NonAdjacent points.length i j → ¬ StraddleAt points i j := by
  have hbounds : ∀ pair ∈ edgePairs points.length,
      pair.1 < points.length ∧ pair.2 < points.length := fun pair hpair => lt_of_mem_edgePairs hpair
  obtain ⟨valid, hvalid, hiff⟩ := allApart_point hbounds
  have hresult : isValidPolygon (points.map .point) = .ok valid := by
    unfold isValidPolygon
    rw [List.length_map, if_neg (by omega), hvalid]
  rw [hresult, Except.ok.injEq, hiff]
  constructor
  · intro hapart i j hnon hstraddle
    -- the pair comes up once, the smaller index first
    rcases Nat.lt_or_gt_of_ne hnon.2.2.1 with hlt | hgt
    · exact hapart (i, j) (mem_edgePairs.mpr ⟨hlt, hnon⟩) hstraddle
    · obtain ⟨hi, hj, hne, hnext, hnext'⟩ := hnon
      exact hapart (j, i) (mem_edgePairs.mpr ⟨hgt, hj, hi, hne.symm, hnext', hnext⟩)
        hstraddle.symm
  · rintro hapart ⟨i, j⟩ hpair
    exact hapart i j (mem_edgePairs.mp hpair).2

end Loops

theorem straddleAt_iff {points : List Point} {i j : Nat} :
    StraddleAt points i j ↔ Meet points i j ∧ ¬ OnOneLine points i j :=
  straddle_iff

/-- **What the validator decides.** A polygon of four or more points is let through exactly if no two
of its edges meet that are not neighbours, if and only if its overlaps on a line are seen elsewhere. -/
theorem isValidPolygon_iff (points : List Point) (hn : 4 ≤ points.length) :
    (isValidPolygon (points.map .point) = .ok true ↔ EdgesApart points) ↔ OverlapSeen points := by
  rw [isValidPolygon_straddle hn]
  simp only [straddleAt_iff]
  unfold EdgesApart OverlapSeen
  constructor
  · rintro hexact ⟨i, j, hnon, hmeet, -⟩
    by_contra hnone
    refine hexact.mp ?_ i j hnon hmeet
    rintro k l hnon' ⟨hmeet', hline⟩
    exact hnone ⟨k, l, hnon', hmeet', hline⟩
  · intro hseen
    constructor
    · intro hvalid i j hnon hmeet
      by_cases hline : OnOneLine points i j
      · obtain ⟨k, l, hnon', hmeet', hline'⟩ := hseen ⟨i, j, hnon, hmeet, hline⟩
        exact hvalid k l hnon' ⟨hmeet', hline'⟩
      · exact hvalid i j hnon ⟨hmeet, hline⟩
    · intro hapart i j hnon hstraddle
      exact hapart i j hnon hstraddle.1

/-- A square whose lower side runs forth, half way back and forth again. -/
def foldedSide : List Point :=
  [⟨0, 0⟩, ⟨3 / 4, 0⟩, ⟨1 / 4, 0⟩, ⟨1, 0⟩, ⟨1, 1⟩, ⟨0, 1⟩]

theorem isValidPolygon_iff_foldedSide :
    (isValidPolygon (foldedSide.map .point) = .ok true ↔ EdgesApart foldedSide) ↔
      OverlapSeen foldedSide :=
  isValidPolygon_iff foldedSide (by decide)

/-- Its first and its third edge have the half of the side between the folds in common. -/
theorem foldedSide_is_valid :
    ¬ ∀ points : List Point, 4 ≤ points.length →
      (isValidPolygon (points.map .point) = .ok true ↔ EdgesApart points) := by
  intro h
  have hvalid : isValidPolygon (foldedSide.map .point) = .ok true := by
    decide +kernel
  -- two thirds of the way forth, and one third of the way when it runs forth again
  have hforth : AffineMap.lineMap (corner foldedSide 0) (corner foldedSide 1) (2 / 3 : ℝ) =
      ((1 / 2, 0) : ℝ × ℝ) := by
    norm_num [corner, foldedSide, Point.toPlane, AffineMap.lineMap_apply]
  have hagain : AffineMap.lineMap (corner foldedSide 2) (corner foldedSide 3) (1 / 3 : ℝ) =
      ((1 / 2, 0) : ℝ × ℝ) := by
    norm_num [corner, foldedSide, Point.toPlane, AffineMap.lineMap_apply]
  refine (h foldedSide (by decide)).mp hvalid 0 2 (by decide) ⟨(1 / 2, 0), ?_, ?_⟩
  · rw [← hforth]
    exact lineMap_mem_segment ℝ _ _ ⟨by norm_num, by norm_num⟩
  · rw [← hagain]
    exact lineMap_mem_segment ℝ _ _ ⟨by norm_num, by norm_num⟩

end PolygonValidator

end Ods.B6
