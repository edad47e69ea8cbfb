import Mathlib.LinearAlgebra.Matrix.Notation
import OdsMod2.S5.GridDensity
import OdsMod2.S5.HeatmapStore

/-!
# From pixels to the heat maps that are served

`GenerateHeatmapUseCase` sends the pixels of a camera through a homography into the plane of the world,
counts them there on a grid, and stores the grid for an instant. A pixel that the homography sends to
infinity ends it before anything is stored.

Over any number of runs, `get_heatmap` answers with one grid for each instant at which something was
counted, and with the cells of all the runs for that instant (`heatmaps_served`). A homography stands for
a map of the plane, and any multiple of it for the same one: it makes no difference which is used.

All this is said of exact arithmetic. As `float`s, two multiples of a homography may send a pixel to
two sides of a bound between cells, and a product may be too large to be finite.
-/

namespace Ods.S5

open Matrix

inductive HeatmapRaised where
  | invalidHomographyMatrix (message : String)
  | invalidTimeWindow (raised : Raised)
  | space (raised : SpaceRaised)

/-- What `__post_init__` lets through is finite. -/
structure PixelCoordinate where
  u : ℚ
  v : ℚ

/-- Three rows of three finite numbers. -/
structure HomographyMatrix where
  matrix : Matrix (Fin 3) (Fin 3) ℚ

namespace HomographyMatrix

variable (homography : HomographyMatrix) (pixel : PixelCoordinate)

/-- `x`, `y` and `w`. -/
def homogeneous : Fin 3 → ℚ :=
  homography.matrix *ᵥ ![pixel.u, pixel.v, 1]

/-- `project` in exact arithmetic. -/
def project : Except HeatmapRaised WorldCoordinate :=
  let point := homography.homogeneous pixel
  if point 2 = 0 then
    .error (.invalidHomographyMatrix
      "Projeção inválida: componente homogênea w resultou em zero.")
  else (WorldCoordinate.create (some (point 0 / point 2)) (some (point 1 / point 2))).mapError .space

/-- The pixel does not go to infinity. -/
def OnPlane : Prop :=
  homography.homogeneous pixel 2 ≠ 0

instance : Decidable (homography.OnPlane pixel) :=
  inferInstanceAs (Decidable (_ ≠ _))

def worldPoint : WorldCoordinate :=
  ⟨homography.homogeneous pixel 0 / homography.homogeneous pixel 2,
    homography.homogeneous pixel 1 / homography.homogeneous pixel 2⟩

/-- The same map of the plane. -/
def scaled (factor : ℚ) : HomographyMatrix :=
  ⟨factor • homography.matrix⟩

end HomographyMatrix

structure HeatmapQueryDTO where
  gridId : String
  cells : List (ℚ × ℚ × ℚ)

def SpatialCell.toTuple (cell : SpatialCell) : ℚ × ℚ × ℚ :=
  (cell.position.x, cell.position.y, cell.density)

def HeatmapQueryDTO.fromEntity (grid : HeatmapGrid) : HeatmapQueryDTO :=
  ⟨grid.gridId, grid.cells.map SpatialCell.toTuple⟩

/-- The arguments of `GenerateHeatmapUseCase.execute`. -/
structure HeatmapCall where
  pixels : List PixelCoordinate
  homography : HomographyMatrix
  gridId : String
  timestamp : Datetime

/-- `GenerateHeatmapUseCase.execute`, with the table it leaves. -/
def generateHeatmap (calculator : GridDensityCalculator) (call : HeatmapCall)
    (table : List HeatmapRow) : Except HeatmapRaised HeatmapQueryDTO × List HeatmapRow :=
  match call.pixels.mapM call.homography.project with
  | .error raised => (.error raised, table)
  | .ok worldPoints =>
    match calculator.calculate worldPoints call.gridId with
    | .error raised => (.error (.space raised), table)
    | .ok grid => (.ok (.fromEntity grid), saveHeatmapGrid grid call.timestamp table)

/-- The table after some runs, and what they have returned. -/
def generateAll (calculator : GridDensityCalculator) (calls : List HeatmapCall) :
    List HeatmapRow × List (Except HeatmapRaised HeatmapQueryDTO) :=
  calls.foldl (fun run call =>
    ((generateHeatmap calculator call run.1).2, run.2 ++ [(generateHeatmap calculator call run.1).1]))
    ([], [])

/-- `get_heatmap`. -/
def getHeatmap (orderBy : List HeatmapRow → List HeatmapRow) (gridId : String)
    (startTime endTime : Datetime) (table : List HeatmapRow) :
    Except HeatmapRaised (List HeatmapQueryDTO) := do
  let window ← (TimeWindow.create startTime endTime).mapError .invalidTimeWindow
  let grids ← (queryHeatmap orderBy gridId window table).mapError .space
  return grids.map .fromEntity

/-! ### One run -/

section Project

variable {homography : HomographyMatrix} {pixel : PixelCoordinate}

theorem project_eq_ok (h : homography.OnPlane pixel) :
    homography.project pixel = .ok (homography.worldPoint pixel) := by
  rw [HomographyMatrix.project]
  exact if_neg h

theorem project_eq_error (h : ¬ homography.OnPlane pixel) :
    homography.project pixel = .error (.invalidHomographyMatrix
      "Projeção inválida: componente homogênea w resultou em zero.") := by
  rw [HomographyMatrix.project]
  exact if_pos (not_not.mp h)

theorem homogeneous_scaled (homography : HomographyMatrix) (factor : ℚ) (pixel : PixelCoordinate) :
    (homography.scaled factor).homogeneous pixel = factor • homography.homogeneous pixel :=
  smul_mulVec _ _ _

/-- A multiple of a homography projects every pixel to the same point. -/
theorem project_scaled (homography : HomographyMatrix) {factor : ℚ} (h : factor ≠ 0)
    (pixel : PixelCoordinate) :
    (homography.scaled factor).project pixel = homography.project pixel := by
  unfold HomographyMatrix.project
  rw [homogeneous_scaled]
  -- the factor cancels, and makes no component zero
  simp only [Pi.smul_apply, smul_eq_mul, mul_div_mul_left _ _ h, mul_eq_zero, h, false_or]

end Project

namespace HeatmapCall

variable (call : HeatmapCall)

def worldPoints : List WorldCoordinate :=
  call.pixels.map call.homography.worldPoint

/-- Every pixel has a point, and the grid a name. -/
def Succeeds : Prop :=
  (∀ pixel ∈ call.pixels, call.homography.OnPlane pixel) ∧ isBlank call.gridId = false

instance : Decidable call.Succeeds :=
  inferInstanceAs (Decidable (_ ∧ _))

/-- The cells of the points. -/
def cells (calculator : GridDensityCalculator) : List SpatialCell :=
  calculator.cellsOf call.worldPoints

end HeatmapCall

section Call

variable {calculator : GridDensityCalculator} {call : HeatmapCall}

/-- A grid of no points has no cells. -/
theorem calculate_eq_create (calculator : GridDensityCalculator) (points : List WorldCoordinate)
    (gridId : String) :
    calculator.calculate points gridId = HeatmapGrid.create gridId (calculator.cellsOf points) := by
  by_cases hpoints : points = []
  · rw [hpoints]
    rfl
  · exact calculator.calculate_eq hpoints gridId

/-- What a run that succeeds saves. -/
def HeatmapCall.save (calculator : GridDensityCalculator) (call : HeatmapCall) (h : call.Succeeds) :
    HeatmapSave :=
  (⟨call.gridId, call.cells calculator, h.2⟩, call.timestamp)

theorem generateHeatmap_of_succeeds (h : call.Succeeds) (table : List HeatmapRow) :
    generateHeatmap calculator call table =
      (.ok (.fromEntity (call.save calculator h).1),
        saveHeatmapGrid (call.save calculator h).1 call.timestamp table) := by
  have hpoints : call.pixels.mapM call.homography.project = .ok call.worldPoints := by
    refine mapM_eq_ok_iff.mpr (List.forall₂_map_right_iff.mpr (List.forall₂_same.mpr ?_))
    exact fun pixel hpixel => project_eq_ok (h.1 pixel hpixel)
  rw [generateHeatmap, hpoints]
  dsimp only
  rw [calculate_eq_create, HeatmapGrid.create_eq_ok h.2]
  rfl

/-- What fails has stored nothing. -/
theorem generateHeatmap_of_not_succeeds (calculator : GridDensityCalculator)
    (h : ¬ call.Succeeds) (table : List HeatmapRow) :
    ∃ raised, generateHeatmap calculator call table = (.error raised, table) := by
  unfold generateHeatmap
  cases hpoints : call.pixels.mapM call.homography.project with
  | error raised => exact ⟨raised, rfl⟩
  | ok worldPoints =>
    -- all pixels have been projected, so it is the name that is missing
    have honPlane : ∀ pixel ∈ call.pixels, call.homography.OnPlane pixel := by
      intro pixel hpixel
      obtain ⟨point, -, hpoint⟩ := Forall₂.exists_of_mem (mapM_eq_ok_iff.mp hpoints) hpixel
      by_contra hinfinity
      rw [project_eq_error hinfinity] at hpoint
      cases hpoint
    have hblank : isBlank call.gridId = true := by
      rw [← Bool.not_eq_false]
      exact fun hnamed => h ⟨honPlane, hnamed⟩
    dsimp only
    rw [calculate_eq_create, HeatmapGrid.create_of_blank hblank]
    exact ⟨_, rfl⟩

theorem cells_eq_nil_iff : call.cells calculator = [] ↔ call.pixels = [] := by
  constructor
  · intro h
    by_contra hpixels
    have hpoints : call.worldPoints ≠ [] := fun hnone => hpixels (List.map_eq_nil_iff.mp hnone)
    -- where there are points, one of the buckets is the densest
    obtain ⟨cell, hcell, -⟩ := calculator.exists_densest hpoints
    rw [show calculator.cellsOf call.worldPoints = [] from h] at hcell
    cases hcell
  · intro h
    rw [HeatmapCall.cells, HeatmapCall.worldPoints, h]
    rfl

end Call

/-! ### Any number of runs -/

section Runs

variable (calculator : GridDensityCalculator)

/-- What the runs that succeed save. -/
def savesOf (calls : List HeatmapCall) : List HeatmapSave :=
  calls.flatMap fun call => if h : call.Succeeds then [call.save calculator h] else []

theorem generateAll_concat (calls : List HeatmapCall) (call : HeatmapCall) :
    generateAll calculator (calls ++ [call]) =
      ((generateHeatmap calculator call (generateAll calculator calls).1).2,
        (generateAll calculator calls).2 ++
          [(generateHeatmap calculator call (generateAll calculator calls).1).1]) :=
  List.foldl_concat ..

theorem generateAll_table (calls : List HeatmapCall) :
    (generateAll calculator calls).1 = tableOf (savesOf calculator calls) := by
  induction calls using List.reverseRecOn with
  | nil => rfl
  | append_singleton calls call ih =>
    rw [generateAll_concat, savesOf, List.flatMap_append, List.flatMap_singleton]
    change (generateHeatmap calculator call (generateAll calculator calls).1).2 =
      tableOf (savesOf calculator calls ++ _)
    by_cases h : call.Succeeds
    · rw [dif_pos h, tableOf_concat, generateHeatmap_of_succeeds h, ih]
      rfl
    · obtain ⟨raised, hraised⟩ := generateHeatmap_of_not_succeeds calculator h
        (generateAll calculator calls).1
      rw [dif_neg h, List.append_nil, hraised]
      exact ih

/-- What the client of a run is told. -/
def Answers (call : HeatmapCall) (answer : Except HeatmapRaised HeatmapQueryDTO) : Prop :=
  (call.Succeeds → answer = .ok ⟨call.gridId, (call.cells calculator).map SpatialCell.toTuple⟩) ∧
    (¬ call.Succeeds → ∃ raised, answer = .error raised)

theorem generateAll_answers (calls : List HeatmapCall) :
    List.Forall₂ (Answers calculator) calls (generateAll calculator calls).2 := by
  induction calls using List.reverseRecOn with
  | nil => exact .nil
  | append_singleton calls call ih =>
    rw [generateAll_concat]
    refine List.rel_append ih (.cons ⟨fun h => ?_, fun h => ?_⟩ .nil)
    · rw [generateHeatmap_of_succeeds h]
      rfl
    · obtain ⟨raised, hraised⟩ := generateHeatmap_of_not_succeeds calculator h
        (generateAll calculator calls).1
      exact ⟨raised, congrArg Prod.fst hraised⟩

/-- The cells that a run contributes to a query. -/
def HeatmapCall.stamped (gridId : String) (window : TimeWindow) (call : HeatmapCall) :
    List (Datetime × SpatialCell) :=
  if call.Succeeds ∧ call.gridId = gridId ∧ window.startTime ≤ call.timestamp ∧
      call.timestamp ≤ window.endTime then
    (call.cells calculator).map fun cell => (call.timestamp, cell)
  else []

theorem stampedCells_savesOf (gridId : String) (window : TimeWindow) (calls : List HeatmapCall) :
    stampedCells (savesIn gridId window (savesOf calculator calls)) =
      calls.flatMap (HeatmapCall.stamped calculator gridId window) := by
  induction calls with
  | nil => rfl
  | cons call calls ih =>
    rw [savesOf, List.flatMap_cons, savesIn_append, stampedCells_append, List.flatMap_cons]
    refine congrArg₂ _ ?_ ih
    by_cases h : call.Succeeds
    · rw [dif_pos h, savesIn, HeatmapCall.stamped]
      by_cases hin : call.gridId = gridId ∧ window.startTime ≤ call.timestamp ∧
          call.timestamp ≤ window.endTime
      · rw [List.filter_cons_of_pos (by rw [decide_eq_true_iff]; exact hin), List.filter_nil,
          if_pos ⟨h, hin⟩]
        exact List.append_nil _
      · rw [List.filter_cons_of_neg (by rw [decide_eq_true_iff]; exact hin), List.filter_nil,
          if_neg fun hall => hin hall.2]
        rfl
    · rw [dif_neg h, HeatmapCall.stamped, if_neg fun hall => h hall.1]
      rfl

/-- The run counts for the grid at the instant. -/
def HeatmapCall.CountsFor (gridId : String) (timestamp : Datetime) (call : HeatmapCall) : Prop :=
  call.Succeeds ∧ call.gridId = gridId ∧ call.timestamp = timestamp

instance (gridId : String) (timestamp : Datetime) (call : HeatmapCall) :
    Decidable (call.CountsFor gridId timestamp) :=
  inferInstanceAs (Decidable (_ ∧ _ ∧ _))

/-- The cells of the runs for a grid and an instant. -/
def cellsFor (gridId : String) (timestamp : Datetime) (calls : List HeatmapCall) :
    List SpatialCell :=
  (calls.filter fun call => decide (call.CountsFor gridId timestamp)).flatMap
    fun call => call.cells calculator

theorem mem_stamped_iff {gridId : String} {window : TimeWindow} {call : HeatmapCall}
    {timestamp : Datetime} :
    timestamp ∈ (call.stamped calculator gridId window).map Prod.fst ↔
      (window.startTime ≤ timestamp ∧ timestamp ≤ window.endTime) ∧
        call.CountsFor gridId timestamp ∧ call.pixels ≠ [] := by
  unfold HeatmapCall.stamped HeatmapCall.CountsFor
  split
  · next h =>
    obtain ⟨hsucceeds, hgrid, hstart, hend⟩ := h
    rw [List.map_map, List.mem_map]
    constructor
    · rintro ⟨cell, hcell, rfl⟩
      -- a run without pixels has no cells to bear an instant
      refine ⟨⟨hstart, hend⟩, ⟨hsucceeds, hgrid, rfl⟩, fun hnone => ?_⟩
      rw [cells_eq_nil_iff.mpr hnone] at hcell
      cases hcell
    · rintro ⟨-, ⟨-, -, rfl⟩, hpixels⟩
      obtain ⟨cell, hcell⟩ := List.exists_mem_of_ne_nil _ (mt cells_eq_nil_iff.mp hpixels)
      exact ⟨cell, hcell, rfl⟩
  · next h =>
    refine iff_of_false List.not_mem_nil ?_
    rintro ⟨⟨hstart, hend⟩, ⟨hsucceeds, hgrid, rfl⟩, -⟩
    exact h ⟨hsucceeds, hgrid, hstart, hend⟩

theorem valuesOf_stamped {gridId : String} {window : TimeWindow} {timestamp : Datetime}
    (hin : window.startTime ≤ timestamp ∧ timestamp ≤ window.endTime) (calls : List HeatmapCall) :
    valuesOf timestamp (calls.flatMap (HeatmapCall.stamped calculator gridId window)) =
      cellsFor calculator gridId timestamp calls := by
  induction calls with
  | nil => rfl
  | cons call calls ih =>
    rw [List.flatMap_cons, valuesOf, List.filter_append, List.map_append]
    change _ ++ valuesOf timestamp (calls.flatMap _) = _
    rw [ih, cellsFor, cellsFor]
    by_cases hcounts : call.CountsFor gridId timestamp
    · obtain ⟨hsucceeds, hgrid, htime⟩ := hcounts
      rw [List.filter_cons_of_pos (by rw [decide_eq_true_iff]; exact ⟨hsucceeds, hgrid, htime⟩),
        List.flatMap_cons, HeatmapCall.stamped, if_pos ⟨hsucceeds, hgrid, htime ▸ hin⟩,
        List.filter_eq_self.mpr]
      · rw [List.map_map]
        exact congrArg (· ++ _) (List.map_id _)
      · intro stamped hstamped
        obtain ⟨cell, -, rfl⟩ := List.mem_map.mp hstamped
        exact decide_eq_true htime
    · rw [List.filter_cons_of_neg (by rw [decide_eq_true_iff]; exact hcounts),
        List.filter_eq_nil_iff.mpr]
      · rfl
      · intro stamped hstamped hkey
        -- a cell of it that bears the instant would make the run count
        unfold HeatmapCall.stamped at hstamped
        split at hstamped
        · next h =>
          obtain ⟨cell, -, rfl⟩ := List.mem_map.mp hstamped
          exact hcounts ⟨h.1, h.2.1, of_decide_eq_true hkey⟩
        · cases hstamped

/-- What a query is answered with. -/
def Serves (gridId : String) (window : TimeWindow) (calls : List HeatmapCall)
    (served : List HeatmapQueryDTO) : Prop :=
  ∃ instants : List Datetime, instants.Pairwise (· < ·) ∧
    (∀ timestamp, timestamp ∈ instants ↔
      (window.startTime ≤ timestamp ∧ timestamp ≤ window.endTime) ∧
        ∃ call ∈ calls, call.CountsFor gridId timestamp ∧ call.pixels ≠ []) ∧
    List.Forall₂ (fun grid timestamp => grid.gridId = gridId ∧
      grid.cells.Perm ((cellsFor calculator gridId timestamp calls).map SpatialCell.toTuple))
      served instants

/-- **A query after any number of runs.** -/
theorem getHeatmap_serves {orderBy : List HeatmapRow → List HeatmapRow}
    (horder : OrdersByTimestamp orderBy) (calls : List HeatmapCall) (gridId : String)
    (window : TimeWindow) :
    ∃ served, getHeatmap orderBy gridId window.startTime window.endTime
        (generateAll calculator calls).1 = .ok served ∧
      Serves calculator gridId window calls served := by
  obtain ⟨entries, grids, hentries, hquery, hgrids⟩ :=
    queryHeatmap_eq_ok horder gridId window (savesOf calculator calls)
  -- the controller builds the window once more
  have hwindow : TimeWindow.create window.startTime window.endTime = .ok window :=
    dif_pos window.ordered
  have hmem : ∀ timestamp, timestamp ∈ entries.map Prod.fst ↔
      (window.startTime ≤ timestamp ∧ timestamp ≤ window.endTime) ∧
        ∃ call ∈ calls, call.CountsFor gridId timestamp ∧ call.pixels ≠ [] := by
    intro timestamp
    rw [hentries.mem_iff, stampedCells_savesOf, List.map_flatMap, List.mem_flatMap]
    simp only [mem_stamped_iff]
    constructor
    · rintro ⟨call, hcall, hin, hcounts⟩
      exact ⟨hin, call, hcall, hcounts⟩
    · rintro ⟨hin, call, hcall, hcounts⟩
      exact ⟨call, hcall, hin, hcounts⟩
  refine ⟨grids.map .fromEntity, ?_, entries.map Prod.fst, hentries.increasing, hmem, ?_⟩
  · rw [getHeatmap, hwindow, generateAll_table]
    change (do
      let grids ← (queryHeatmap orderBy gridId window (tableOf (savesOf calculator calls))).mapError
        HeatmapRaised.space
      return grids.map HeatmapQueryDTO.fromEntity) = _
    rw [hquery]
    rfl
  · rw [List.forall₂_map_left_iff, List.forall₂_map_right_iff]
    refine List.forall₂_iff_zip.mpr ⟨hgrids.length_eq, fun {grid entry} hpair => ?_⟩
    obtain ⟨hgrid, hcells⟩ := (List.forall₂_iff_zip.mp hgrids).2 hpair
    have hentry := (List.of_mem_zip hpair).2
    have hin := ((hmem entry.1).mp (List.mem_map_of_mem hentry)).1
    refine ⟨hgrid, ?_⟩
    have hown := hentries.cells entry hentry
    rw [stampedCells_savesOf, valuesOf_stamped calculator hin, ← hcells] at hown
    exact hown.map SpatialCell.toTuple

/-- The calls are made with multiples of the homographies. -/
def Rescaled (call call' : HeatmapCall) : Prop :=
  ∃ factor : ℚ, factor ≠ 0 ∧
    call' = { call with homography := call.homography.scaled factor }

theorem generateAll_rescaled {calls calls' : List HeatmapCall}
    (h : List.Forall₂ Rescaled calls calls') :
    generateAll calculator calls' = generateAll calculator calls := by
  have hcall : ∀ call call' table, Rescaled call call' →
      generateHeatmap calculator call' table = generateHeatmap calculator call table := by
    rintro call call' table ⟨factor, hfactor, rfl⟩
    have hproject : (call.homography.scaled factor).project = call.homography.project :=
      funext fun pixel => project_scaled call.homography hfactor pixel
    unfold generateHeatmap
    dsimp only
    rw [hproject]
  unfold generateAll
  generalize (([], []) : List HeatmapRow × List (Except HeatmapRaised HeatmapQueryDTO)) = run
  induction h generalizing run with
  | nil => rfl
  | cons hfirst _ ih =>
    rw [List.foldl_cons, List.foldl_cons, hcall _ _ _ hfirst]
    exact ih _

end Runs

/-- **The heat maps that are served**, after any number of runs. -/
theorem heatmaps_served (calculator : GridDensityCalculator)
    {orderBy : List HeatmapRow → List HeatmapRow} (horder : OrdersByTimestamp orderBy)
    (calls : List HeatmapCall) :
    List.Forall₂ (Answers calculator) calls (generateAll calculator calls).2 ∧
      (∀ gridId (window : TimeWindow), ∃ served,
        getHeatmap orderBy gridId window.startTime window.endTime
            (generateAll calculator calls).1 = .ok served ∧
          Serves calculator gridId window calls served) ∧
      ∀ calls', List.Forall₂ Rescaled calls calls' →
        generateAll calculator calls' = generateAll calculator calls :=
  ⟨generateAll_answers calculator calls,
    fun gridId window => getHeatmap_serves calculator horder calls gridId window,
    fun _ h => generateAll_rescaled calculator h⟩

/-- A camera that looks over the horizon, which is the line `v = 1` of its image. -/
def levelCamera : HomographyMatrix :=
  ⟨!![1, 0, 0; 0, 1, 0; 0, 1, -1]⟩

def horizonCall : HeatmapCall where
  pixels := [⟨0, 0⟩, ⟨0, 1⟩]
  homography := levelCamera
  gridId := "grid-01"
  timestamp := savedMinute

theorem horizonCall_fails : ¬ horizonCall.Succeeds := by
  rintro ⟨honPlane, -⟩
  refine honPlane ⟨0, 1⟩ (List.mem_cons_of_mem _ List.mem_cons_self) ?_
  decide +kernel

/-- One pixel on the horizon, and nothing is counted. -/
theorem heatmaps_served_horizon :
    (∃ raised, (generateAll GridDensityCalculator.metreGrid [horizonCall]).2 = [.error raised]) ∧
      ∃ served, getHeatmap (sortBy HeatmapRow.timestamp) "grid-01" untilSavedMinute.startTime
        untilSavedMinute.endTime
          (generateAll GridDensityCalculator.metreGrid [horizonCall]).1 = .ok served ∧ served = [] := by
  obtain ⟨hanswers, hserved, -⟩ :=
    heatmaps_served GridDensityCalculator.metreGrid sortBy_ordersByTimestamp [horizonCall]
  constructor
  · generalize (generateAll GridDensityCalculator.metreGrid [horizonCall]).2 = answers at hanswers
    obtain ⟨answer, rest, hanswer, hrest, rfl⟩ := List.forall₂_cons_left_iff.mp hanswers
    obtain rfl := List.forall₂_nil_left_iff.mp hrest
    obtain ⟨raised, rfl⟩ := hanswer.2 horizonCall_fails
    exact ⟨raised, rfl⟩
  · obtain ⟨served, hok, instants, -, hmem, hgrids⟩ := hserved "grid-01" untilSavedMinute
    refine ⟨served, hok, ?_⟩
    have hnone : instants = [] := by
      refine List.eq_nil_iff_forall_not_mem.mpr fun timestamp htimestamp => ?_
      obtain ⟨-, call, hcall, hcounts, -⟩ := (hmem timestamp).mp htimestamp
      rw [List.mem_singleton.mp hcall] at hcounts
      exact horizonCall_fails hcounts.1
    rw [hnone] at hgrids
    exact List.forall₂_nil_right_iff.mp hgrids

end Ods.S5
