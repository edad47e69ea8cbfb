import Mathlib.Algebra.Order.Floor.Ring
import Mathlib.Data.Prod.Lex
import Mathlib.Data.Rat.Floor
import OdsMod2.Framework.Collect
import OdsMod2.Framework.ExceptList
import OdsMod2.Framework.Pairing
import OdsMod2.Framework.SortBy
import OdsMod2.S5.Heatmap

/-!
# The density of points on a grid

`GridDensityCalculator` counts the points of each square of a grid, and relates the counts to the
largest one. A square is addressed by row and column, the quotients of the coordinates rounded down,
so that the squares cover the plane once, on both sides of zero (`inSquare_iff`).
-/

namespace Ods.S5

structure GridDensityCalculator where
  cellSize : ℚ
  cellSize_pos : 0 < cellSize

def GridDensityCalculator.create (cellSize : ℚ) : Except SpaceRaised GridDensityCalculator :=
  if h : cellSize ≤ 0 then .error (.invalidHeatmapGrid "cell_size deve ser maior que zero.")
  else .ok ⟨cellSize, not_le.mp h⟩

namespace GridDensityCalculator

variable (calculator : GridDensityCalculator)

/-- `_bucket_for`: row and column. -/
def bucketFor (point : WorldCoordinate) : Int × Int :=
  (⌊point.y / calculator.cellSize⌋, ⌊point.x / calculator.cellSize⌋)

/-- The `Counter` of the buckets. -/
def bucketCounts (points : List WorldCoordinate) : List ((Int × Int) × Nat) :=
  collect 0 (fun count (_ : WorldCoordinate) => count + 1)
    (points.map fun point => (calculator.bucketFor point, point))

/-- The largest count; there is one wherever this is asked. -/
def peakCount (counts : List ((Int × Int) × Nat)) : Nat :=
  ((counts.map Prod.snd).max?).getD 0

/-- `sorted`: by row, by column, and by count where both are the same. -/
def sortedCounts (counts : List ((Int × Int) × Nat)) : List ((Int × Int) × Nat) :=
  sortBy (fun item => toLex (toLex item.1, item.2)) counts

/-- The cell of a count. Its position is the corner of the square, `x` before `y`. -/
def cellFor (peakCount : Nat) (item : (Int × Int) × Nat) : Except SpaceRaised SpatialCell := do
  let position ← WorldCoordinate.create (some (item.1.2 * calculator.cellSize))
    (some (item.1.1 * calculator.cellSize))
  SpatialCell.create position (some (item.2 / peakCount))

/-- `calculate`. -/
def calculate (points : List WorldCoordinate) (gridId : String) : Except SpaceRaised HeatmapGrid :=
  if points = [] then HeatmapGrid.create gridId []
  else do
    let counts := calculator.bucketCounts points
    let cells ← (sortedCounts counts).mapM (calculator.cellFor (peakCount counts))
    HeatmapGrid.create gridId cells

/-! ### Squares -/

/-- The corner of the square of a bucket. -/
def corner (bucket : Int × Int) : WorldCoordinate :=
  ⟨bucket.2 * calculator.cellSize, bucket.1 * calculator.cellSize⟩

/-- The half-open square at a position. -/
def InSquare (position point : WorldCoordinate) : Prop :=
  (position.x ≤ point.x ∧ point.x < position.x + calculator.cellSize) ∧
    position.y ≤ point.y ∧ point.y < position.y + calculator.cellSize

instance (position point : WorldCoordinate) : Decidable (calculator.InSquare position point) :=
  inferInstanceAs (Decidable ((_ ∧ _) ∧ _ ∧ _))

/-- A quotient rounded down is the number of the interval. -/
theorem floor_div_eq_iff {a s : ℚ} (hs : 0 < s) {n : Int} :
    ⌊a / s⌋ = n ↔ n * s ≤ a ∧ a < n * s + s := by
  rw [Int.floor_eq_iff, le_div_iff₀ hs, div_lt_iff₀ hs, add_mul, one_mul]

/-- **A point lies in the square of its bucket, and in no other one.** -/
theorem inSquare_iff {bucket : Int × Int} {point : WorldCoordinate} :
    calculator.InSquare (calculator.corner bucket) point ↔ calculator.bucketFor point = bucket := by
  rw [bucketFor, Prod.ext_iff, floor_div_eq_iff calculator.cellSize_pos,
    floor_div_eq_iff calculator.cellSize_pos, and_comm]
  rfl

theorem corner_injective : Function.Injective calculator.corner := by
  intro bucket bucket' h
  have hx := congrArg WorldCoordinate.x h
  have hy := congrArg WorldCoordinate.y h
  have hne : calculator.cellSize ≠ 0 := calculator.cellSize_pos.ne'
  refine Prod.ext ?_ ?_
  · exact Int.cast_injective (mul_right_cancel₀ hne hy)
  · exact Int.cast_injective (mul_right_cancel₀ hne hx)

/-! ### Counts -/

section Counts

variable {points : List WorldCoordinate}

def buckets (points : List WorldCoordinate) : List (Int × Int) :=
  points.map calculator.bucketFor

/-- How many points lie in the square of a bucket. -/
def countAt (points : List WorldCoordinate) (bucket : Int × Int) : Nat :=
  points.countP fun point => calculator.bucketFor point = bucket

theorem foldl_succ {α : Type} (xs : List α) (n : Nat) :
    xs.foldl (fun count _ => count + 1) n = n + xs.length := by
  induction xs generalizing n with
  | nil => rfl
  | cons x xs ih =>
    rw [List.foldl_cons, ih, List.length_cons]
    omega

theorem mem_bucketCounts_iff {bucket : Int × Int} {count : Nat} :
    (bucket, count) ∈ calculator.bucketCounts points ↔
      bucket ∈ calculator.buckets points ∧ count = calculator.countAt points bucket := by
  rw [bucketCounts, mem_collect_iff, foldl_succ, Nat.zero_add, List.map_map, valuesOf,
    List.length_map, ← List.countP_eq_length_filter, List.countP_map]
  rfl

theorem nodup_buckets (points : List WorldCoordinate) :
    ((calculator.bucketCounts points).map Prod.fst).Nodup :=
  nodup_keys_collect _

/-- The counts are the same in any order of the points. -/
theorem bucketCounts_perm {points' : List WorldCoordinate} (h : points.Perm points') :
    (calculator.bucketCounts points).Perm (calculator.bucketCounts points') := by
  rw [List.perm_ext_iff_of_nodup (calculator.nodup_buckets points).of_map
    (calculator.nodup_buckets points').of_map]
  rintro ⟨bucket, count⟩
  rw [mem_bucketCounts_iff, mem_bucketCounts_iff, countAt, h.countP_eq,
    buckets, (h.map calculator.bucketFor).mem_iff]
  rfl

/-- Every point is counted once. -/
theorem sum_bucketCounts (points : List WorldCoordinate) :
    ((calculator.bucketCounts points).map Prod.snd).sum = points.length := by
  have hall : ∀ point ∈ points,
      calculator.bucketFor point ∈ (calculator.bucketCounts points).map Prod.fst := by
    intro point hpoint
    have hmem : calculator.bucketFor point ∈ calculator.buckets points := List.mem_map_of_mem hpoint
    exact List.mem_map.mpr ⟨(_, _), calculator.mem_bucketCounts_iff.mpr ⟨hmem, rfl⟩, rfl⟩
  -- the points, bucket by bucket
  have hclasses := classes_perm_self calculator.bucketFor (calculator.nodup_buckets points) hall
  calc ((calculator.bucketCounts points).map Prod.snd).sum
      = (((calculator.bucketCounts points).map Prod.fst).map (calculator.countAt points)).sum := by
        rw [List.map_map]
        refine congrArg List.sum (List.map_congr_left fun item hitem => ?_)
        exact (calculator.mem_bucketCounts_iff.mp hitem).2
    _ = (((calculator.bucketCounts points).map Prod.fst).flatMap fun bucket =>
          points.filter fun point => decide (calculator.bucketFor point = bucket)).length := by
        rw [List.length_flatMap]
        refine congrArg List.sum (List.map_congr_left fun bucket _ => ?_)
        exact List.countP_eq_length_filter
    _ = points.length := hclasses.length_eq

theorem countAt_pos {bucket : Int × Int} (h : bucket ∈ calculator.buckets points) :
    0 < calculator.countAt points bucket := by
  obtain ⟨point, hpoint, rfl⟩ := List.mem_map.mp h
  exact List.countP_pos_iff.mpr ⟨point, hpoint, decide_eq_true rfl⟩

/-! ### The peak -/

theorem peakCount_eq_iff {counts : List ((Int × Int) × Nat)} (hcounts : counts ≠ []) {peak : Nat} :
    peakCount counts = peak ↔
      peak ∈ counts.map Prod.snd ∧ ∀ count ∈ counts.map Prod.snd, count ≤ peak := by
  rw [peakCount, ← List.max?_eq_some_iff]
  cases hmax : (counts.map Prod.snd).max? with
  | none => exact absurd (List.map_eq_nil_iff.mp (List.max?_eq_none_iff.mp hmax)) hcounts
  | some count => exact Option.some_inj.symm

theorem peakCount_perm {counts counts' : List ((Int × Int) × Nat)} (h : counts.Perm counts') :
    peakCount counts = peakCount counts' := by
  by_cases hcounts : counts = []
  · subst hcounts
    rw [← h.nil_eq]
  · have hcounts' : counts' ≠ [] := fun hnone => hcounts (hnone ▸ h).eq_nil
    obtain ⟨hmem, hle⟩ := (peakCount_eq_iff hcounts').mp rfl
    refine (peakCount_eq_iff hcounts).mpr ⟨(h.map Prod.snd).mem_iff.mpr hmem, fun count hcount => ?_⟩
    exact hle count ((h.map Prod.snd).mem_iff.mp hcount)

theorem bucketCounts_ne_nil (hpoints : points ≠ []) : calculator.bucketCounts points ≠ [] := by
  intro hnone
  have hsum := calculator.sum_bucketCounts points
  rw [hnone] at hsum
  exact hpoints (List.length_eq_zero_iff.mp hsum.symm)

/-- Every square that is counted has a point. -/
theorem count_pos {item : (Int × Int) × Nat} (h : item ∈ calculator.bucketCounts points) :
    0 < item.2 := by
  obtain ⟨hbucket, hcount⟩ := calculator.mem_bucketCounts_iff.mp h
  exact (calculator.countAt_pos hbucket).trans_eq hcount.symm

end Counts

/-! ### The cells -/

/-- The cell of a count, which is never refused. -/
def cellOf (peak : Nat) (item : (Int × Int) × Nat) : SpatialCell :=
  ⟨calculator.corner item.1, item.2 / peak, div_nonneg (Nat.cast_nonneg _) (Nat.cast_nonneg _)⟩

theorem cellFor_eq_ok (peak : Nat) (item : (Int × Int) × Nat) :
    calculator.cellFor peak item = .ok (calculator.cellOf peak item) :=
  SpatialCell.create_eq_ok _ _

/-- The counts of some points as cells. -/
def cellsOf (points : List WorldCoordinate) : List SpatialCell :=
  (sortedCounts (calculator.bucketCounts points)).map
    (calculator.cellOf (peakCount (calculator.bucketCounts points)))

theorem calculate_eq {points : List WorldCoordinate} (hpoints : points ≠ []) (gridId : String) :
    calculator.calculate points gridId = HeatmapGrid.create gridId (calculator.cellsOf points) := by
  have hcells : (sortedCounts (calculator.bucketCounts points)).mapM
      (calculator.cellFor (peakCount (calculator.bucketCounts points))) =
        .ok (calculator.cellsOf points) := by
    refine mapM_eq_ok_iff.mpr (List.forall₂_map_right_iff.mpr ?_)
    exact List.forall₂_same.mpr fun item _ => calculator.cellFor_eq_ok _ item
  rw [calculate, if_neg hpoints]
  dsimp only
  rw [hcells]
  rfl

/-- Lists of the same counts are sorted alike. -/
theorem sortedCounts_eq {counts counts' : List ((Int × Int) × Nat)} (h : counts.Perm counts') :
    sortedCounts counts = sortedCounts counts' := by
  have hkey : Function.Injective
      fun item : (Int × Int) × Nat => toLex (toLex item.1, item.2) := fun _ _ hsame => hsame
  exact sortBy_eq_of_perm hkey h

section Cells

variable {points : List WorldCoordinate}

theorem mem_cellsOf_iff {cell : SpatialCell} :
    cell ∈ calculator.cellsOf points ↔ ∃ item ∈ calculator.bucketCounts points,
      calculator.cellOf (peakCount (calculator.bucketCounts points)) item = cell := by
  rw [cellsOf, List.mem_map]
  simp only [sortedCounts, mem_sortBy]

theorem nodup_positions (points : List WorldCoordinate) :
    ((calculator.cellsOf points).map SpatialCell.position).Nodup := by
  have hperm := ((sortBy_perm (fun item : (Int × Int) × Nat => toLex (toLex item.1, item.2))
    (calculator.bucketCounts points)).map Prod.fst).map calculator.corner
  rw [cellsOf, List.map_map]
  rw [List.map_map] at hperm
  -- different buckets have different corners
  exact hperm.nodup_iff.mpr ((calculator.nodup_buckets points).map calculator.corner_injective)

/-- The points of a square are those of its bucket. -/
theorem countP_inSquare (points : List WorldCoordinate) (bucket : Int × Int) :
    (points.countP fun point => calculator.InSquare (calculator.corner bucket) point) =
      calculator.countAt points bucket := by
  refine List.countP_congr fun point _ => ?_
  rw [decide_eq_true_iff, decide_eq_true_iff, inSquare_iff]

/-- Every point lies in the square of one cell. -/
theorem existsUnique_cell {point : WorldCoordinate} (hpoint : point ∈ points) :
    ∃! cell, cell ∈ calculator.cellsOf points ∧ calculator.InSquare cell.position point := by
  have hbucket : calculator.bucketFor point ∈ calculator.buckets points :=
    List.mem_map_of_mem hpoint
  refine ⟨_, ⟨calculator.mem_cellsOf_iff.mpr ⟨_, calculator.mem_bucketCounts_iff.mpr
    ⟨hbucket, rfl⟩, rfl⟩, calculator.inSquare_iff.mpr rfl⟩, ?_⟩
  -- another cell with the point has the same bucket, and there is one entry for it
  rintro cell ⟨hcell, hsquare⟩
  obtain ⟨⟨bucket, count⟩, hitem, rfl⟩ := calculator.mem_cellsOf_iff.mp hcell
  obtain rfl := calculator.inSquare_iff.mp hsquare
  obtain ⟨-, rfl⟩ := calculator.mem_bucketCounts_iff.mp hitem
  rfl

/-- A density times the peak is the count again. -/
theorem density_mul_peak {peak : Nat} (hpos : 0 < peak) (item : (Int × Int) × Nat) :
    (calculator.cellOf peak item).density * peak = item.2 :=
  div_mul_cancel₀ _ (Nat.cast_pos.mpr hpos).ne'

theorem peakCount_pos (hpoints : points ≠ []) : 0 < peakCount (calculator.bucketCounts points) := by
  obtain ⟨hpeak, -⟩ := (peakCount_eq_iff (calculator.bucketCounts_ne_nil hpoints)).mp rfl
  obtain ⟨top, htop, htopCount⟩ := List.mem_map.mp hpeak
  exact (calculator.count_pos htop).trans_eq htopCount

/-- The cells share out the points. -/
theorem density_eq_countP (hpoints : points ≠ []) {cell : SpatialCell}
    (hcell : cell ∈ calculator.cellsOf points) :
    cell.density * peakCount (calculator.bucketCounts points) =
      (points.countP fun point => calculator.InSquare cell.position point : Nat) := by
  obtain ⟨⟨bucket, count⟩, hitem, rfl⟩ := calculator.mem_cellsOf_iff.mp hcell
  rw [calculator.density_mul_peak (calculator.peakCount_pos hpoints),
    (calculator.mem_bucketCounts_iff.mp hitem).2]
  exact congrArg Nat.cast (calculator.countP_inSquare points bucket).symm

theorem sum_densities (hpoints : points ≠ []) :
    ((calculator.cellsOf points).map fun cell =>
      cell.density * (peakCount (calculator.bucketCounts points) : ℚ)).sum = points.length := by
  have hcounts : ((sortedCounts (calculator.bucketCounts points)).map Prod.snd).sum =
      points.length := by
    rw [sortedCounts, ((sortBy_perm _ _).map Prod.snd).sum_eq, calculator.sum_bucketCounts]
  -- the sum of the counts, taken in the rationals
  have hcast := map_list_sum (Nat.castAddMonoidHom ℚ)
    ((sortedCounts (calculator.bucketCounts points)).map Prod.snd)
  rw [hcounts, List.map_map] at hcast
  rw [cellsOf, List.map_map]
  refine Eq.trans (congrArg List.sum (List.map_congr_left fun item _ => ?_)) hcast.symm
  exact calculator.density_mul_peak (calculator.peakCount_pos hpoints) item

theorem density_range (hpoints : points ≠ []) {cell : SpatialCell}
    (hcell : cell ∈ calculator.cellsOf points) : 0 < cell.density ∧ cell.density ≤ 1 := by
  obtain ⟨item, hitem, rfl⟩ := calculator.mem_cellsOf_iff.mp hcell
  obtain ⟨-, hlargest⟩ := (peakCount_eq_iff (calculator.bucketCounts_ne_nil hpoints)).mp rfl
  have hpos : (0 : ℚ) < peakCount (calculator.bucketCounts points) :=
    Nat.cast_pos.mpr (calculator.peakCount_pos hpoints)
  refine ⟨div_pos (Nat.cast_pos.mpr (calculator.count_pos hitem)) hpos, ?_⟩
  exact (div_le_one hpos).mpr (Nat.cast_le.mpr (hlargest _ (List.mem_map_of_mem hitem)))

theorem exists_densest (hpoints : points ≠ []) :
    ∃ cell ∈ calculator.cellsOf points, cell.density = 1 := by
  obtain ⟨hpeak, -⟩ := (peakCount_eq_iff (calculator.bucketCounts_ne_nil hpoints)).mp rfl
  -- a bucket with the largest count
  obtain ⟨top, htop, htopCount⟩ := List.mem_map.mp hpeak
  refine ⟨_, calculator.mem_cellsOf_iff.mpr ⟨top, htop, rfl⟩, ?_⟩
  have hpos : (0 : ℚ) < peakCount (calculator.bucketCounts points) :=
    Nat.cast_pos.mpr (calculator.peakCount_pos hpoints)
  exact (div_eq_one_iff_eq hpos.ne').mpr (congrArg Nat.cast htopCount)

theorem calculate_eq_ok (hpoints : points ≠ []) {gridId : String}
    (hnamed : isBlank gridId = false) :
    calculator.calculate points gridId = .ok ⟨gridId, calculator.cellsOf points, hnamed⟩ := by
  rw [calculator.calculate_eq hpoints, HeatmapGrid.create_eq_ok hnamed]

theorem cellsOf_perm {points' : List WorldCoordinate} (hperm : points'.Perm points) :
    calculator.cellsOf points' = calculator.cellsOf points := by
  have hcounts := calculator.bucketCounts_perm hperm
  unfold cellsOf
  rw [sortedCounts_eq hcounts, peakCount_perm hcounts]

end Cells

/-- **The grid of some points.** -/
theorem calculate_partitions (points : List WorldCoordinate) (hpoints : points ≠ [])
    (gridId : String) (hnamed : isBlank gridId = false) :
    ∃ grid, calculator.calculate points gridId = .ok grid ∧ grid.gridId = gridId ∧
      (grid.cells.map SpatialCell.position).Nodup ∧
      (∀ point ∈ points,
        ∃! cell, cell ∈ grid.cells ∧ calculator.InSquare cell.position point) ∧
      (∃ peak : Nat, 0 < peak ∧
        (∀ cell ∈ grid.cells, cell.density * peak =
          (points.countP fun point => calculator.InSquare cell.position point : Nat)) ∧
        (grid.cells.map fun cell => cell.density * (peak : ℚ)).sum = points.length) ∧
      (∀ cell ∈ grid.cells, 0 < cell.density ∧ cell.density ≤ 1) ∧
      (∃ cell ∈ grid.cells, cell.density = 1) ∧
      ∀ points' : List WorldCoordinate, points'.Perm points →
        calculator.calculate points' gridId = .ok grid := by
  refine ⟨⟨gridId, calculator.cellsOf points, hnamed⟩, calculator.calculate_eq_ok hpoints hnamed,
    rfl, calculator.nodup_positions points, fun point => calculator.existsUnique_cell,
    ⟨_, calculator.peakCount_pos hpoints, fun cell => calculator.density_eq_countP hpoints,
      calculator.sum_densities hpoints⟩,
    fun cell => calculator.density_range hpoints, calculator.exists_densest hpoints, ?_⟩
  intro points' hperm
  have hpoints' : points' ≠ [] := fun hnone => hpoints (hnone ▸ hperm).nil_eq.symm
  rw [calculator.calculate_eq_ok hpoints' hnamed]
  congr 2
  exact calculator.cellsOf_perm hperm

theorem unit_pos : (0 : ℚ) < 1 := one_pos

/-- Squares of one metre. -/
def metreGrid : GridDensityCalculator :=
  ⟨1, unit_pos⟩

theorem grid_named : isBlank "grid-01" = false := by
  decide

/-- Two points on the two sides of the origin. -/
theorem calculate_partitions_origin :
    ∃ grid, metreGrid.calculate [⟨1 / 2, 0⟩, ⟨-1 / 2, 0⟩] "grid-01" = .ok grid ∧
      (grid.cells.map SpatialCell.position).Nodup := by
  obtain ⟨grid, hok, -, hnodup, -⟩ := metreGrid.calculate_partitions [⟨1 / 2, 0⟩, ⟨-1 / 2, 0⟩]
    (List.cons_ne_nil _ _) "grid-01" grid_named
  exact ⟨grid, hok, hnodup⟩

end GridDensityCalculator

end Ods.S5
