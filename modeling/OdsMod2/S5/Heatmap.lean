import Mathlib.Algebra.Order.Ring.Rat
import OdsMod2.S5.Metrics

/-!
# Points and heat maps

The value objects of the space. Numbers are finite: what Python calls `inf` and `nan` is refused by
the constructors, and what is left is taken as an exact number.
-/

namespace Ods.S5

/-- A `float`: a number, or one that is not finite. -/
abbrev Float64 := Option ℚ

/-- The domain errors about points, cells and grids. -/
inductive SpaceRaised where
  | invalidWorldCoordinate (x y : Float64)
  | invalidSpatialCell (density : Float64)
  | invalidHeatmapGrid (message : String)
  deriving DecidableEq

@[ext] structure WorldCoordinate where
  x : ℚ
  y : ℚ
  deriving DecidableEq

def WorldCoordinate.create (x y : Float64) : Except SpaceRaised WorldCoordinate :=
  match x, y with
  | some x, some y => .ok ⟨x, y⟩
  | x, y => .error (.invalidWorldCoordinate x y)

/-- A place in the grid and how dense it is there. -/
structure SpatialCell where
  position : WorldCoordinate
  density : ℚ
  density_nonneg : 0 ≤ density

theorem SpatialCell.nonneg_of_not_neg {density : ℚ} (h : ¬ density < 0) : 0 ≤ density :=
  not_lt.mp h

def SpatialCell.create (position : WorldCoordinate) (density : Float64) :
    Except SpaceRaised SpatialCell :=
  match density with
  | none => .error (.invalidSpatialCell none)
  | some density =>
    if h : density < 0 then .error (.invalidSpatialCell (some density))
    else .ok ⟨position, density, nonneg_of_not_neg h⟩

theorem SpatialCell.create_eq_ok (position : WorldCoordinate) {density : ℚ} (h : 0 ≤ density) :
    create position (some density) = .ok ⟨position, density, h⟩ :=
  dif_neg (not_lt.mpr h)

structure HeatmapGrid where
  gridId : String
  cells : List SpatialCell
  named : isBlank gridId = false

def HeatmapGrid.create (gridId : String) (cells : List SpatialCell) :
    Except SpaceRaised HeatmapGrid :=
  if h : isBlank gridId = true then .error (.invalidHeatmapGrid "grid_id não pode ser vazio.")
  else .ok ⟨gridId, cells, named_of_not_blank h⟩

theorem HeatmapGrid.create_eq_ok {gridId : String} (hnamed : isBlank gridId = false)
    (cells : List SpatialCell) : create gridId cells = .ok ⟨gridId, cells, hnamed⟩ :=
  dif_neg (by rw [hnamed]; decide)

theorem HeatmapGrid.create_of_blank {gridId : String} (hblank : isBlank gridId = true)
    (cells : List SpatialCell) :
    create gridId cells = .error (.invalidHeatmapGrid "grid_id não pode ser vazio.") :=
  dif_pos hblank

end Ods.S5
