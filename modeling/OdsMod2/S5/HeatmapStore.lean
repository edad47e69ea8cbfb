import Mathlib.Data.List.Dedup
import Mathlib.Data.List.Perm.Basic
import OdsMod2.Framework.Collect
import OdsMod2.Framework.ExceptList
import OdsMod2.Framework.SortBy
import OdsMod2.S5.Heatmap

/-!
# Storing heat maps

A grid is stored as one row for each cell, with the grid's id and an instant. Nothing in a row tells
which save it came from, and on the way back rows are put together by their instants. Two grids of
one id and one instant come back as one (`roundTrips_iff`).
-/

namespace Ods.S5

/-! ### The table -/

/-- The columns of `heatmap_cells`. -/
structure HeatmapRow where
  gridId : String
  timestamp : Datetime
  x : ℚ
  y : ℚ
  density : ℚ

def HeatmapRow.ofCell (gridId : String) (timestamp : Datetime) (cell : SpatialCell) : HeatmapRow :=
  ⟨gridId, timestamp, cell.position.x, cell.position.y, cell.density⟩

/-- `save_heatmap_grid`. -/
def saveHeatmapGrid (grid : HeatmapGrid) (timestamp : Datetime) (table : List HeatmapRow) :
    List HeatmapRow :=
  table ++ grid.cells.map (HeatmapRow.ofCell grid.gridId timestamp)

/-- One turn of the loop over the rows: the constructors check again. -/
def cellOfRow (row : HeatmapRow) : Except SpaceRaised (Datetime × SpatialCell) := do
  let position ← WorldCoordinate.create (some row.x) (some row.y)
  let cell ← SpatialCell.create position (some row.density)
  return (row.timestamp, cell)

/-- The `WHERE` clause. -/
def selectRows (gridId : String) (window : TimeWindow) (table : List HeatmapRow) : List HeatmapRow :=
  table.filter fun row => row.gridId = gridId ∧ window.startTime ≤ row.timestamp ∧
    row.timestamp ≤ window.endTime

/-- `query_heatmap`. Rows of one instant come in whatever order the engine has for them. -/
def queryHeatmap (orderBy : List HeatmapRow → List HeatmapRow) (gridId : String)
    (window : TimeWindow) (table : List HeatmapRow) : Except SpaceRaised (List HeatmapGrid) := do
  let cells ← (orderBy (selectRows gridId window table)).mapM cellOfRow
  let gridsByTimestamp := collect [] (fun cells cell => cells ++ [cell]) cells
  gridsByTimestamp.mapM fun entry => HeatmapGrid.create gridId entry.2

/-- What `ORDER BY timestamp` promises. -/
def OrdersByTimestamp (orderBy : List HeatmapRow → List HeatmapRow) : Prop :=
  ∀ rows, (orderBy rows).Perm rows ∧
    (orderBy rows).Pairwise fun row row' => row.timestamp ≤ row'.timestamp

/-! ### Saves -/

/-- A grid and the instant it is saved for. -/
abbrev HeatmapSave := HeatmapGrid × Datetime

def tableOf (saves : List HeatmapSave) : List HeatmapRow :=
  saves.foldl (fun table save => saveHeatmapGrid save.1 save.2 table) []

/-- The saves that a query is about. -/
def savesIn (gridId : String) (window : TimeWindow) (saves : List HeatmapSave) :
    List HeatmapSave :=
  saves.filter fun save => save.1.gridId = gridId ∧ window.startTime ≤ save.2 ∧
    save.2 ≤ window.endTime

/-- The cells of some saves, with their instants. -/
def stampedCells (saves : List HeatmapSave) : List (Datetime × SpatialCell) :=
  saves.flatMap fun save => save.1.cells.map fun cell => (save.2, cell)

def rowOf (gridId : String) (stamped : Datetime × SpatialCell) : HeatmapRow :=
  HeatmapRow.ofCell gridId stamped.1 stamped.2

/-- The query answers with one grid for each save, by time, and each has the cells of its save. -/
def RoundTrips (answer : Except SpaceRaised (List HeatmapGrid)) (gridId : String)
    (saves : List HeatmapSave) : Prop :=
  ∃ grids, answer = .ok grids ∧ ∃ ordered : List HeatmapSave, ordered.Perm saves ∧
    (ordered.Pairwise fun save save' => save.2 ≤ save'.2) ∧
    List.Forall₂ (fun grid save => grid.gridId = gridId ∧ grid.cells.Perm save.1.cells)
      grids ordered

theorem tableOf_concat (saves : List HeatmapSave) (save : HeatmapSave) :
    tableOf (saves ++ [save]) = saveHeatmapGrid save.1 save.2 (tableOf saves) :=
  List.foldl_concat ..

theorem savesIn_append (gridId : String) (window : TimeWindow) (saves saves' : List HeatmapSave) :
    savesIn gridId window (saves ++ saves') =
      savesIn gridId window saves ++ savesIn gridId window saves' :=
  List.filter_append ..

theorem stampedCells_append (saves saves' : List HeatmapSave) :
    stampedCells (saves ++ saves') = stampedCells saves ++ stampedCells saves' :=
  List.flatMap_append

/-- The rows that a query selects are those of the cells of its saves. -/
theorem selectRows_tableOf (gridId : String) (window : TimeWindow) (saves : List HeatmapSave) :
    selectRows gridId window (tableOf saves) =
      (stampedCells (savesIn gridId window saves)).map
        (rowOf gridId) := by
  induction saves using List.reverseRecOn with
  | nil => rfl
  | append_singleton saves save ih =>
    obtain ⟨grid, timestamp⟩ := save
    rw [tableOf_concat, saveHeatmapGrid, selectRows, List.filter_append]
    change selectRows gridId window (tableOf saves) ++ _ = _
    rw [ih, savesIn_append, stampedCells_append, List.map_append]
    refine congrArg _ ?_
    dsimp only
    rw [savesIn]
    -- the rows of one save are all selected, or none is
    by_cases hin : grid.gridId = gridId ∧ window.startTime ≤ timestamp ∧ timestamp ≤ window.endTime
    · rw [List.filter_cons_of_pos (by simpa using hin), List.filter_eq_self.mpr]
      · rw [List.filter_nil, stampedCells, List.flatMap_singleton, List.map_map, ← hin.1]
        rfl
      · intro row hrow
        obtain ⟨cell, -, rfl⟩ := List.mem_map.mp hrow
        exact decide_eq_true hin
    · rw [List.filter_cons_of_neg (by simpa using hin), List.filter_eq_nil_iff.mpr]
      · rfl
      · intro row hrow hselected
        obtain ⟨cell, -, rfl⟩ := List.mem_map.mp hrow
        exact hin (of_decide_eq_true hselected)

theorem cellOfRow_ofCell (gridId : String) (timestamp : Datetime) (cell : SpatialCell) :
    cellOfRow (HeatmapRow.ofCell gridId timestamp cell) = .ok (timestamp, cell) := by
  change (do
    let cell ← SpatialCell.create cell.position (some cell.density)
    return (timestamp, cell)) = _
  rw [SpatialCell.create_eq_ok _ cell.density_nonneg]
  rfl

/-! ### What a query answers -/

section Query

variable {orderBy : List HeatmapRow → List HeatmapRow} {gridId : String} {window : TimeWindow}
  {saves : List HeatmapSave}

/-- The entries of the dictionary, from cells in any order that the engine allows. -/
structure Regrouped (saves : List HeatmapSave) (entries : List (Datetime × List SpatialCell)) :
    Prop where
  increasing : (entries.map Prod.fst).Pairwise (· < ·)
  mem_iff : ∀ timestamp,
    timestamp ∈ entries.map Prod.fst ↔ timestamp ∈ (stampedCells saves).map Prod.fst
  cells : ∀ entry ∈ entries, entry.2.Perm (valuesOf entry.1 (stampedCells saves))

theorem foldl_snoc {α : Type} (xs ys : List α) : ys.foldl (fun xs y => xs ++ [y]) xs = xs ++ ys := by
  induction ys generalizing xs with
  | nil => exact (List.append_nil xs).symm
  | cons y ys ih => rw [List.foldl_cons, ih, List.append_assoc, List.singleton_append]

theorem regrouped_collect {cells : List (Datetime × SpatialCell)}
    (hperm : cells.Perm (stampedCells saves))
    (hsorted : (cells.map Prod.fst).Pairwise (· ≤ ·)) :
    Regrouped saves (collect [] (fun cells cell => cells ++ [cell]) cells) := by
  refine ⟨?_, fun timestamp => ?_, fun entry hentry => ?_⟩
  · -- in order, and each key once
    refine (hsorted.sublist (keys_collect_sublist cells)).imp₂
      (fun _ _ hle hne => lt_of_le_of_ne hle hne) (nodup_keys_collect cells)
  · rw [mem_keys_collect, (hperm.map Prod.fst).mem_iff]
  · obtain ⟨-, hcells⟩ := mem_collect_iff.mp hentry
    rw [hcells, foldl_snoc, List.nil_append]
    exact (hperm.filter _).map _

/-- The rows that the engine returns are the cells of the saves again, by time. -/
theorem mapM_cellOfRow (horder : OrdersByTimestamp orderBy) (gridId : String) (window : TimeWindow)
    (saves : List HeatmapSave) :
    ∃ cells, (orderBy (selectRows gridId window (tableOf saves))).mapM cellOfRow = .ok cells ∧
      cells.Perm (stampedCells (savesIn gridId window saves)) ∧
      (cells.map Prod.fst).Pairwise (· ≤ ·) := by
  obtain ⟨hperm, hsorted⟩ := horder (selectRows gridId window (tableOf saves))
  rw [selectRows_tableOf] at hperm hsorted ⊢
  -- the rows in the order of the engine are the cells in some order
  obtain ⟨cells, hcells, hrows⟩ := exists_perm_of_perm_map hperm
  rw [hrows] at hsorted ⊢
  refine ⟨cells, mapM_eq_ok_iff.mpr (List.forall₂_map_left_iff.mpr ?_), hcells, ?_⟩
  · exact List.forall₂_same.mpr fun stamped _ => cellOfRow_ofCell gridId stamped.1 stamped.2
  · rw [List.pairwise_map] at hsorted ⊢
    exact hsorted

theorem named_of_stampedCells {stamped : Datetime × SpatialCell}
    (h : stamped ∈ stampedCells (savesIn gridId window saves)) : isBlank gridId = false := by
  obtain ⟨save, hsave, -⟩ := List.mem_flatMap.mp h
  exact (of_decide_eq_true (List.mem_filter.mp hsave).2).1 ▸ save.1.named

/-- **The answer to a query**: the entries of the dictionary as grids. -/
theorem queryHeatmap_eq_ok (horder : OrdersByTimestamp orderBy) (gridId : String)
    (window : TimeWindow) (saves : List HeatmapSave) :
    ∃ entries grids, Regrouped (savesIn gridId window saves) entries ∧
      queryHeatmap orderBy gridId window (tableOf saves) = .ok grids ∧
      List.Forall₂ (fun grid entry => grid.gridId = gridId ∧ grid.cells = entry.2)
        grids entries := by
  obtain ⟨cells, hok, hperm, hsorted⟩ :=
    mapM_cellOfRow horder gridId window saves
  -- the dictionary, in the order in which its keys came
  have hentries := regrouped_collect hperm hsorted
  obtain ⟨grids, hgrids⟩ : ∃ grids : List HeatmapGrid, List.Forall₂
      (fun entry grid => HeatmapGrid.create gridId entry.2 = .ok grid ∧
        grid.gridId = gridId ∧ grid.cells = entry.2)
      (collect [] (fun cells cell => cells ++ [cell]) cells) grids := by
    refine exists_forall₂ fun entry hentry => ?_
    -- an entry has a row, and a row comes from a grid that is named
    have hkey := (hentries.mem_iff entry.1).mp (List.mem_map_of_mem hentry)
    obtain ⟨stamped, hstamped, -⟩ := List.mem_map.mp hkey
    have hnamed := named_of_stampedCells hstamped
    exact ⟨_, HeatmapGrid.create_eq_ok hnamed entry.2, rfl, rfl⟩
  refine ⟨_, grids, hentries, ?_, hgrids.flip.imp fun _ _ h => h.2⟩
  rw [queryHeatmap, hok]
  exact mapM_eq_ok_iff.mpr (hgrids.imp fun _ _ h => h.1)

end Query

/-! ### When grids come back as they were -/

section RoundTrip

variable {saves : List HeatmapSave} {entries : List (Datetime × List SpatialCell)}

/-- The instants of the cells are those of the saves, as none is without cells. -/
theorem mem_stamps_iff (hcells : ∀ save ∈ saves, save.1.cells ≠ []) {timestamp : Datetime} :
    timestamp ∈ (stampedCells saves).map Prod.fst ↔ timestamp ∈ saves.map Prod.snd := by
  constructor
  · intro h
    obtain ⟨stamped, hstamped, rfl⟩ := List.mem_map.mp h
    obtain ⟨save, hsave, hcell⟩ := List.mem_flatMap.mp hstamped
    obtain ⟨cell, -, rfl⟩ := List.mem_map.mp hcell
    exact List.mem_map_of_mem hsave
  · intro h
    obtain ⟨save, hsave, rfl⟩ := List.mem_map.mp h
    -- a save without cells would leave no trace
    obtain ⟨cell, hcell⟩ := List.exists_mem_of_ne_nil _ (hcells save hsave)
    have hstamped : (save.2, cell) ∈ stampedCells saves :=
      List.mem_flatMap.mpr ⟨save, hsave, List.mem_map_of_mem hcell⟩
    exact List.mem_map_of_mem hstamped

/-- The cells of an instant are those of the saves for it. -/
theorem valuesOf_stampedCells (timestamp : Datetime) (saves : List HeatmapSave) :
    valuesOf timestamp (stampedCells saves) =
      (saves.filter fun save => decide (save.2 = timestamp)).flatMap fun save => save.1.cells := by
  induction saves with
  | nil => rfl
  | cons save saves ih =>
    have hsplit : stampedCells (save :: saves) =
        (save.1.cells.map fun cell => (save.2, cell)) ++ stampedCells saves := rfl
    rw [hsplit, valuesOf, List.filter_append, List.map_append]
    change _ ++ valuesOf timestamp (stampedCells saves) = _
    rw [ih]
    -- all cells of a save have its instant
    by_cases htime : save.2 = timestamp
    · rw [List.filter_cons_of_pos (by simpa using htime), List.flatMap_cons,
        List.filter_eq_self.mpr]
      · rw [List.map_map]
        exact congrArg (· ++ _) (List.map_id _)
      · intro stamped hstamped
        obtain ⟨cell, -, rfl⟩ := List.mem_map.mp hstamped
        exact decide_eq_true htime
    · rw [List.filter_cons_of_neg (by simpa using htime), List.filter_eq_nil_iff.mpr]
      · rfl
      · intro stamped hstamped hkey
        obtain ⟨cell, -, rfl⟩ := List.mem_map.mp hstamped
        exact htime (of_decide_eq_true hkey)

/-- As many entries as saves, and no two saves are for one instant. -/
theorem Regrouped.nodup_of_length (h : Regrouped saves entries)
    (hcells : ∀ save ∈ saves, save.1.cells ≠ []) (hlength : entries.length = saves.length) :
    (saves.map Prod.snd).Nodup := by
  -- one entry for each different instant
  have hperm : (saves.map Prod.snd).dedup.Perm (entries.map Prod.fst) := by
    rw [List.perm_ext_iff_of_nodup (List.nodup_dedup _) (h.increasing.imp ne_of_lt)]
    intro timestamp
    rw [List.mem_dedup, h.mem_iff, mem_stamps_iff hcells]
  -- as many instants as saves leave nothing to drop
  have hsame : (saves.map Prod.snd).dedup = saves.map Prod.snd := by
    refine (List.dedup_sublist _).eq_of_length (hperm.length_eq.trans ?_)
    rw [List.length_map, List.length_map, hlength]
  exact hsame ▸ List.nodup_dedup _

/-- Without two saves for one instant, each entry is that of its save. -/
theorem Regrouped.forall₂_of_nodup (h : Regrouped saves entries)
    (hcells : ∀ save ∈ saves, save.1.cells ≠ []) (hnodup : (saves.map Prod.snd).Nodup) :
    List.Forall₂ (fun entry save => entry.2.Perm save.1.cells) entries (sortBy Prod.snd saves) := by
  have hperm := sortBy_perm Prod.snd saves
  have hnodup' : ((sortBy Prod.snd saves).map Prod.snd).Nodup :=
    (hperm.map Prod.snd).nodup_iff.mpr hnodup
  -- the same instants, increasing on both sides
  have hkeys : entries.map Prod.fst = (sortBy Prod.snd saves).map Prod.snd := by
    have hmem : (entries.map Prod.fst).Perm ((sortBy Prod.snd saves).map Prod.snd) := by
      rw [List.perm_ext_iff_of_nodup (h.increasing.imp ne_of_lt) hnodup']
      intro timestamp
      rw [h.mem_iff, mem_stamps_iff hcells, (hperm.map Prod.snd).mem_iff]
    refine hmem.eq_of_pairwise (fun _ _ _ _ hle hge => le_antisymm hle hge)
      (h.increasing.imp le_of_lt) (List.pairwise_map.mpr (sorted_sortBy saves))
  have hpairs : List.Forall₂ (fun entry save => entry.1 = save.2) entries
      (sortBy Prod.snd saves) := by
    have hequal : List.Forall₂ Eq (entries.map Prod.fst) ((sortBy Prod.snd saves).map Prod.snd) := by
      rw [List.forall₂_eq_eq_eq]
      exact hkeys
    exact List.forall₂_map_right_iff.mp (List.forall₂_map_left_iff.mp hequal)
  obtain ⟨hlength, hzip⟩ := List.forall₂_iff_zip.mp hpairs
  refine List.forall₂_iff_zip.mpr ⟨hlength, fun {entry save} hmem => ?_⟩
  obtain ⟨hentry, hsave⟩ := List.of_mem_zip hmem
  -- the saves of its instant are one
  have hown := h.cells entry hentry
  rw [hzip hmem, valuesOf_stampedCells,
    filter_key_eq_singleton hnodup (hperm.mem_iff.mp hsave), List.flatMap_singleton] at hown
  exact hown

end RoundTrip

section RoundTrips

variable {orderBy : List HeatmapRow → List HeatmapRow} {saves : List HeatmapSave} {gridId : String}
  {window : TimeWindow}

/-- One grid for each save needs one instant for each. -/
theorem RoundTrips.nodup (horder : OrdersByTimestamp orderBy)
    (hcells : ∀ save ∈ saves, save.1.cells ≠ [])
    (h : RoundTrips (queryHeatmap orderBy gridId window (tableOf saves)) gridId
      (savesIn gridId window saves)) :
    ((savesIn gridId window saves).map Prod.snd).Nodup := by
  obtain ⟨entries, grids, hentries, hok, hgrids⟩ := queryHeatmap_eq_ok horder gridId window saves
  obtain ⟨grids', hok', ordered, hperm, -, hall⟩ := h
  rw [hok] at hok'
  obtain rfl := Except.ok.inj hok'
  refine hentries.nodup_of_length (fun save hsave => hcells save (List.mem_of_mem_filter hsave)) ?_
  -- the answer has as many grids as entries, and as many as saves
  rw [← hgrids.length_eq, hall.length_eq, hperm.length_eq]

theorem RoundTrips.of_nodup (horder : OrdersByTimestamp orderBy)
    (hcells : ∀ save ∈ saves, save.1.cells ≠ [])
    (hnodup : ((savesIn gridId window saves).map Prod.snd).Nodup) :
    RoundTrips (queryHeatmap orderBy gridId window (tableOf saves)) gridId
      (savesIn gridId window saves) := by
  obtain ⟨entries, grids, hentries, hok, hgrids⟩ := queryHeatmap_eq_ok horder gridId window saves
  have hown := hentries.forall₂_of_nodup
    (fun save hsave => hcells save (List.mem_of_mem_filter hsave)) hnodup
  refine ⟨grids, hok, sortBy Prod.snd (savesIn gridId window saves), sortBy_perm _ _,
    sorted_sortBy _, (Forall₂.comp hgrids hown).imp ?_⟩
  rintro grid save ⟨entry, ⟨hid, hsame⟩, hown⟩
  exact ⟨hid, hsame ▸ hown⟩

end RoundTrips

/-- **When grids come back as they were.** -/
theorem roundTrips_iff {orderBy : List HeatmapRow → List HeatmapRow}
    (horder : OrdersByTimestamp orderBy) (saves : List HeatmapSave)
    (hcells : ∀ save ∈ saves, save.1.cells ≠ []) (gridId : String) (window : TimeWindow) :
    RoundTrips (queryHeatmap orderBy gridId window (tableOf saves)) gridId
        (savesIn gridId window saves) ↔
      ((savesIn gridId window saves).map Prod.snd).Nodup :=
  ⟨RoundTrips.nodup horder hcells, RoundTrips.of_nodup horder hcells⟩

/-- An engine that leaves rows of one instant as they were inserted. -/
theorem sortBy_ordersByTimestamp : OrdersByTimestamp (sortBy HeatmapRow.timestamp) :=
  fun rows => ⟨sortBy_perm _ _, sorted_sortBy rows⟩

theorem heatmap_named : isBlank "grid-01" = false := by
  decide

theorem savedMinute_inRange : 60000000 < 3652059 * 86400 * 1000000 := by
  decide

/-- One cell, and everybody is in it. -/
def oneCell : HeatmapGrid :=
  ⟨"grid-01", [⟨⟨1, 2⟩, 1, zero_le_one⟩], heatmap_named⟩

def savedMinute : Datetime :=
  ⟨60000000, savedMinute_inRange⟩

def untilSavedMinute : TimeWindow where
  startTime := ⟨0, (Nat.zero_le _).trans_lt savedMinute_inRange⟩
  endTime := savedMinute
  ordered := by decide

theorem oneCell_saved {saves : List HeatmapSave} (hsaves : ∀ save ∈ saves, save.1 = oneCell) :
    ∀ save ∈ saves, save.1.cells ≠ [] := by
  intro save hsave
  rw [hsaves save hsave]
  exact List.cons_ne_nil _ _

theorem roundTrips_iff_oneSave :
    RoundTrips (queryHeatmap (sortBy HeatmapRow.timestamp) "grid-01" untilSavedMinute
        (tableOf [(oneCell, savedMinute)])) "grid-01"
        (savesIn "grid-01" untilSavedMinute [(oneCell, savedMinute)]) ↔
      ((savesIn "grid-01" untilSavedMinute [(oneCell, savedMinute)]).map Prod.snd).Nodup :=
  roundTrips_iff sortBy_ordersByTimestamp [(oneCell, savedMinute)]
    (oneCell_saved fun save hsave => by rw [List.mem_singleton.mp hsave]) "grid-01" untilSavedMinute

/-- The grid is generated twice for one instant, and comes back as one grid of two cells. -/
theorem two_generations_merged :
    ¬ ∀ (saves : List HeatmapSave) (gridId : String) (window : TimeWindow),
      (∀ save ∈ saves, save.1.cells ≠ []) →
        RoundTrips (queryHeatmap (sortBy HeatmapRow.timestamp) gridId window (tableOf saves)) gridId
          (savesIn gridId window saves) := by
  intro h
  have hcells : ∀ save ∈ [(oneCell, savedMinute), (oneCell, savedMinute)], save.1.cells ≠ [] := by
    refine oneCell_saved fun save hsave => ?_
    rcases List.mem_cons.mp hsave with rfl | hsave
    · rfl
    · rw [List.mem_singleton.mp hsave]
  have hnodup := RoundTrips.nodup sortBy_ordersByTimestamp hcells
    (h _ "grid-01" untilSavedMinute hcells)
  exact absurd hnodup (by decide +kernel)

end Ods.S5
