import OdsMod2.S5.Aggregation

/-!
# Hierarchical roll-up

Metrics are rolled up in steps, seconds into minutes, minutes into quarters and these into hours.
Rolling up the groups of any nested partition gives the numbers of rolling up all metrics at once
(`rollup_partition`): counts and stays add up, peaks have a maximum, and the average is the quotient
of two sums.

The average of metrics without any entry is not weighted. It does no harm as long as such a metric
has the average zero, which is what aggregation produces and what a roll-up keeps.
-/

namespace Ods.S5

/-! ### Nested groups -/

/-- A partition into groups, none of them empty, nested to any depth. Each group has the zone and
the window of the metric it is rolled up to. -/
inductive RollupTree where
  | leaf (metric : OccupancyMetric)
  | group (first : RollupTree) (rest : List RollupTree) (zoneId : String)
      (named : isBlank zoneId = false) (window : TimeWindow)

mutual

def RollupTree.leaves : RollupTree → List OccupancyMetric
  | .leaf metric => [metric]
  | .group first rest _ _ _ => first.leaves ++ RollupTree.leavesAll rest

def RollupTree.leavesAll : List RollupTree → List OccupancyMetric
  | [] => []
  | tree :: trees => tree.leaves ++ RollupTree.leavesAll trees

end

mutual

/-- Each group is rolled up, and then the results. -/
def RollupTree.rolledUp : RollupTree → Except Raised OccupancyMetric
  | .leaf metric => .ok metric
  | .group first rest zoneId _ window => do
    let metric ← first.rolledUp
    let metrics ← RollupTree.rolledUpAll rest
    rollup (metric :: metrics) zoneId window

def RollupTree.rolledUpAll : List RollupTree → Except Raised (List OccupancyMetric)
  | [] => .ok []
  | tree :: trees => do
    let metric ← tree.rolledUp
    let metrics ← RollupTree.rolledUpAll trees
    return metric :: metrics

end

/-! ### What a metric says of its leaves -/

/-- Without entries, there is no stay either. -/
def OccupancyMetric.Quiet (metric : OccupancyMetric) : Prop :=
  metric.totalCount = 0 → metric.dwellTimeAvg = 0

/-- The time spent in all visits together. -/
def OccupancyMetric.stayed (metric : OccupancyMetric) : ℚ :=
  metric.dwellTimeAvg * metric.totalCount

structure Consolidates (metric : OccupancyMetric) (leaves : List OccupancyMetric) : Prop where
  totalCount : metric.totalCount = (leaves.map OccupancyMetric.totalCount).sum
  stayed : metric.stayed = (leaves.map OccupancyMetric.stayed).sum
  occupancyPeak_le : ∀ bound, metric.occupancyPeak ≤ bound ↔
    ∀ leaf ∈ leaves, leaf.occupancyPeak ≤ bound
  quiet : metric.Quiet

/-- Nobody has stayed if nobody has come. -/
theorem aggregate_quiet {events : List NormalizedEvent} {zoneId : String} {window : TimeWindow}
    {metric : OccupancyMetric} (h : aggregate events zoneId window = .ok metric) : metric.Quiet := by
  intro hnobody
  have hfields := OccupancyMetric.create_fields h
  have hentries : ofType enterEventType events = [] := by
    refine List.length_eq_zero_iff.mp (Int.natCast_eq_zero.mp ?_)
    rw [← hfields.2.2.2, hnobody]
  rw [OccupancyMetric.create_dwellTimeAvg h, hentries]
  rfl

section Consolidates

variable {metric metric' : OccupancyMetric} {leaves leaves' : List OccupancyMetric}

theorem Consolidates.self (hquiet : metric.Quiet) : Consolidates metric [metric] where
  totalCount := List.sum_singleton.symm
  stayed := List.sum_singleton.symm
  occupancyPeak_le bound :=
    (List.forall_mem_singleton (p := fun leaf : OccupancyMetric => leaf.occupancyPeak ≤ bound)).symm
  quiet := hquiet

/-- The leaves settle all numbers. -/
theorem Consolidates.numbers (h : Consolidates metric leaves) (h' : Consolidates metric' leaves')
    (hperm : leaves.Perm leaves') :
    metric.totalCount = metric'.totalCount ∧ metric.occupancyPeak = metric'.occupancyPeak ∧
      metric.dwellTimeAvg = metric'.dwellTimeAvg := by
  have hcount : metric.totalCount = metric'.totalCount := by
    rw [h.totalCount, h'.totalCount, (hperm.map _).sum_eq]
  have hbounds : ∀ bound, metric.occupancyPeak ≤ bound ↔ metric'.occupancyPeak ≤ bound := by
    intro bound
    rw [h.occupancyPeak_le, h'.occupancyPeak_le]
    exact forall_congr' fun leaf => by rw [hperm.mem_iff]
  have hpeak : metric.occupancyPeak = metric'.occupancyPeak :=
    le_antisymm ((hbounds _).mpr le_rfl) ((hbounds _).mp le_rfl)
  refine ⟨hcount, hpeak, ?_⟩
  by_cases hzero : metric.totalCount = 0
  · rw [h.quiet hzero, h'.quiet (hcount ▸ hzero)]
  · have hstayed : metric.stayed = metric'.stayed := by
      rw [h.stayed, h'.stayed, (hperm.map _).sum_eq]
    unfold OccupancyMetric.stayed at hstayed
    rw [← hcount] at hstayed
    exact mul_right_cancel₀ (Int.cast_ne_zero.mpr hzero) hstayed

end Consolidates

/-! ### Rolling up keeps it -/

section Groups

variable {metrics : List OccupancyMetric} {groups : List (List OccupancyMetric)}

theorem totalCount_flatten (h : List.Forall₂ Consolidates metrics groups) :
    (metrics.map OccupancyMetric.totalCount).sum =
      (groups.flatten.map OccupancyMetric.totalCount).sum := by
  induction h with
  | nil => rfl
  | cons hfirst _ ih =>
    rw [List.map_cons, List.sum_cons, ih, hfirst.totalCount, List.flatten_cons, List.map_append,
      List.sum_append]

theorem stayed_flatten (h : List.Forall₂ Consolidates metrics groups) :
    (metrics.map OccupancyMetric.stayed).sum =
      (groups.flatten.map OccupancyMetric.stayed).sum := by
  induction h with
  | nil => rfl
  | cons hfirst _ ih =>
    rw [List.map_cons, List.sum_cons, ih, hfirst.stayed, List.flatten_cons, List.map_append,
      List.sum_append]

theorem peak_flatten (h : List.Forall₂ Consolidates metrics groups) (bound : Int) :
    (∀ metric ∈ metrics, metric.occupancyPeak ≤ bound) ↔
      ∀ leaf ∈ groups.flatten, leaf.occupancyPeak ≤ bound := by
  induction h with
  | nil => rfl
  | cons hfirst _ ih =>
    rw [List.forall_mem_cons, ih, hfirst.occupancyPeak_le, List.flatten_cons,
      List.forall_mem_append]

theorem quiet_of_forall₂ (h : List.Forall₂ Consolidates metrics groups) :
    ∀ metric ∈ metrics, metric.Quiet := by
  induction h with
  | nil => exact List.forall_mem_nil _
  | cons hfirst _ ih => exact List.forall_mem_cons.mpr ⟨hfirst.quiet, ih⟩

end Groups

section Average

variable {metrics : List OccupancyMetric}

theorem totalCount_eq_zero (hzero : (metrics.map OccupancyMetric.totalCount).sum = 0) :
    ∀ metric ∈ metrics, metric.totalCount = 0 := by
  intro metric hmetric
  refine List.all_zero_of_le_zero_le_of_sum_eq_zero ?_ hzero (List.mem_map_of_mem hmetric)
  intro count hcount
  obtain ⟨other, -, rfl⟩ := List.mem_map.mp hcount
  exact other.totalCount_nonneg

/-- Where nobody entered, the average that is not weighted is zero as well. -/
theorem weightedDwellTimeAvg_zero (hquiet : ∀ metric ∈ metrics, metric.Quiet)
    (hzero : (metrics.map OccupancyMetric.totalCount).sum = 0) :
    weightedDwellTimeAvg metrics 0 = 0 := by
  have havgs : (metrics.map OccupancyMetric.dwellTimeAvg).sum = 0 := by
    refine List.sum_eq_zero fun avg havg => ?_
    obtain ⟨metric, hmetric, rfl⟩ := List.mem_map.mp havg
    exact hquiet metric hmetric (totalCount_eq_zero hzero metric hmetric)
  rw [weightedDwellTimeAvg, if_pos rfl, havgs, zero_div]

theorem weightedDwellTimeAvg_mul (metrics : List OccupancyMetric) :
    weightedDwellTimeAvg metrics (metrics.map OccupancyMetric.totalCount).sum *
        ((metrics.map OccupancyMetric.totalCount).sum : Int) =
      (metrics.map OccupancyMetric.stayed).sum := by
  by_cases hzero : (metrics.map OccupancyMetric.totalCount).sum = 0
  · have hstayed : (metrics.map OccupancyMetric.stayed).sum = 0 := by
      refine List.sum_eq_zero fun stayed hmem => ?_
      obtain ⟨metric, hmetric, rfl⟩ := List.mem_map.mp hmem
      rw [OccupancyMetric.stayed, totalCount_eq_zero hzero metric hmetric, Int.cast_zero, mul_zero]
    rw [hzero, hstayed, Int.cast_zero, mul_zero]
  · rw [weightedDwellTimeAvg, if_neg hzero]
    exact div_mul_cancel₀ _ (Int.cast_ne_zero.mpr hzero)

end Average

/-- **One group.** -/
theorem rollup_consolidates {metrics : List OccupancyMetric} {groups : List (List OccupancyMetric)}
    (h : List.Forall₂ Consolidates metrics groups) (hmetrics : metrics ≠ []) {zoneId : String}
    (hnamed : isBlank zoneId = false) (window : TimeWindow) :
    ∃ metric, rollup metrics zoneId window = .ok metric ∧ Consolidates metric groups.flatten := by
  obtain ⟨first, rest, rfl⟩ := List.exists_cons_of_ne_nil hmetrics
  obtain ⟨metric, hok⟩ := rollup_cons_eq_ok first rest hnamed window
  obtain ⟨-, -, hpeak, hcount⟩ := OccupancyMetric.create_fields hok
  have havg := OccupancyMetric.create_dwellTimeAvg hok
  refine ⟨metric, hok, ?_, ?_, fun bound => ?_, fun hzero => ?_⟩
  · rw [hcount, totalCount_flatten h]
  · rw [OccupancyMetric.stayed, havg, hcount, weightedDwellTimeAvg_mul, stayed_flatten h]
  · rw [hpeak, foldl_max_le_iff, ← peak_flatten h, List.forall_mem_cons, List.forall_mem_map]
  · rw [havg, ← hcount, hzero]
    exact weightedDwellTimeAvg_zero (quiet_of_forall₂ h) (hcount ▸ hzero)

mutual

/-- **A tree of groups.** -/
theorem RollupTree.rolledUp_consolidates :
    ∀ tree : RollupTree, (∀ leaf ∈ tree.leaves, leaf.Quiet) →
      ∃ metric, tree.rolledUp = .ok metric ∧ Consolidates metric tree.leaves
  | .leaf metric, hquiet => ⟨metric, rfl, .self (hquiet metric (List.mem_singleton_self metric))⟩
  | .group first rest zoneId named window, hquiet => by
    obtain ⟨hfirst, hrest⟩ := List.forall_mem_append.mp hquiet
    obtain ⟨metric, hmetric, hconsolidates⟩ := first.rolledUp_consolidates hfirst
    obtain ⟨metrics, groups, hmetrics, hall, hleaves⟩ := RollupTree.rolledUpAll_consolidates rest hrest
    obtain ⟨result, hresult, hnumbers⟩ :=
      rollup_consolidates (.cons hconsolidates hall) (List.cons_ne_nil _ _) named window
    refine ⟨result, ?_, ?_⟩
    · rw [RollupTree.rolledUp, hmetric, hmetrics]
      exact hresult
    · rw [RollupTree.leaves, ← hleaves]
      exact hnumbers

theorem RollupTree.rolledUpAll_consolidates :
    ∀ trees : List RollupTree, (∀ leaf ∈ RollupTree.leavesAll trees, leaf.Quiet) →
      ∃ metrics groups, RollupTree.rolledUpAll trees = .ok metrics ∧
        List.Forall₂ Consolidates metrics groups ∧ groups.flatten = RollupTree.leavesAll trees
  | [], _ => ⟨[], [], rfl, .nil, rfl⟩
  | tree :: trees, hquiet => by
    obtain ⟨hfirst, hrest⟩ := List.forall_mem_append.mp hquiet
    obtain ⟨metric, hmetric, hconsolidates⟩ := tree.rolledUp_consolidates hfirst
    obtain ⟨metrics, groups, hmetrics, hall, hleaves⟩ := RollupTree.rolledUpAll_consolidates trees hrest
    refine ⟨metric :: metrics, tree.leaves :: groups, ?_, .cons hconsolidates hall, ?_⟩
    · rw [RollupTree.rolledUpAll, hmetric, hmetrics]
      rfl
    · rw [List.flatten_cons, hleaves, RollupTree.leavesAll]

end

/-- All at once is the tree of one level. -/
theorem rollup_flat {metrics : List OccupancyMetric} (hmetrics : metrics ≠ [])
    (hquiet : ∀ metric ∈ metrics, metric.Quiet) {zoneId : String} (hnamed : isBlank zoneId = false)
    (window : TimeWindow) :
    ∃ metric, rollup metrics zoneId window = .ok metric ∧ Consolidates metric metrics := by
  have hsingle : List.Forall₂ Consolidates metrics (metrics.map fun metric => [metric]) := by
    refine List.forall₂_map_right_iff.mpr (List.forall₂_same.mpr fun metric hmetric => ?_)
    exact .self (hquiet metric hmetric)
  obtain ⟨metric, hok, hconsolidates⟩ := rollup_consolidates hsingle hmetrics hnamed window
  refine ⟨metric, hok, ?_⟩
  have hflatten : (metrics.map fun metric => [metric]).flatten = metrics := by
    rw [← List.flatMap_def, List.flatMap_singleton']
  exact hflatten ▸ hconsolidates

/-- No group is empty. -/
theorem RollupTree.leaves_ne_nil : ∀ tree : RollupTree, tree.leaves ≠ []
  | .leaf metric => List.cons_ne_nil metric []
  | .group first rest _ _ _ => by
    rw [RollupTree.leaves]
    exact List.append_ne_nil_of_left_ne_nil first.leaves_ne_nil _

/-- **Partition independence.** -/
theorem rollup_partition (tree : RollupTree) {metrics : List OccupancyMetric}
    (hperm : metrics.Perm tree.leaves)
    (hquiet : ∀ metric ∈ metrics, metric.totalCount = 0 → metric.dwellTimeAvg = 0)
    {zoneId : String} (hnamed : isBlank zoneId = false) (window : TimeWindow) :
    ∃ nested flat, tree.rolledUp = .ok nested ∧ rollup metrics zoneId window = .ok flat ∧
      nested.totalCount = flat.totalCount ∧ nested.occupancyPeak = flat.occupancyPeak ∧
      nested.dwellTimeAvg = flat.dwellTimeAvg ∧
      (flat.totalCount = 0 → flat.dwellTimeAvg = 0) ∧
      (∀ metrics', metrics'.Perm metrics → ∃ flat', rollup metrics' zoneId window = .ok flat' ∧
        flat'.totalCount = flat.totalCount ∧ flat'.occupancyPeak = flat.occupancyPeak ∧
        flat'.dwellTimeAvg = flat.dwellTimeAvg) ∧
      ∀ events zoneId' window' metric, aggregate events zoneId' window' = .ok metric →
        metric.totalCount = 0 → metric.dwellTimeAvg = 0 := by
  have hmetrics : metrics ≠ [] := fun hnone =>
    tree.leaves_ne_nil (List.nil_perm.mp (hnone ▸ hperm))
  -- both ways consolidate the same leaves, and the numbers depend on nothing else
  obtain ⟨nested, hnested, htree⟩ :=
    tree.rolledUp_consolidates fun leaf hleaf => hquiet leaf (hperm.mem_iff.mpr hleaf)
  obtain ⟨flat, hflat, hlist⟩ := rollup_flat hmetrics hquiet hnamed window
  obtain ⟨hcount, hpeak, havg⟩ := htree.numbers hlist hperm.symm
  refine ⟨nested, flat, hnested, hflat, hcount, hpeak, havg, hlist.quiet, fun metrics' hperm' => ?_,
    fun _ _ _ _ hok => aggregate_quiet hok⟩
  have hmetrics' : metrics' ≠ [] := fun hnone =>
    hmetrics (List.nil_perm.mp (hnone ▸ hperm'))
  obtain ⟨flat', hflat', hlist'⟩ := rollup_flat hmetrics'
    (fun metric hmetric => hquiet metric (hperm'.mem_iff.mp hmetric)) hnamed window
  exact ⟨flat', hflat', hlist'.numbers hlist hperm'⟩

theorem midnight_inRange : 0 < 3652059 * 86400 * 1000000 := by
  decide

theorem minute_inRange : 60000000 < 3652059 * 86400 * 1000000 := by
  decide

theorem midnight_lt_minute : (⟨0, midnight_inRange⟩ : Datetime) < ⟨60000000, minute_inRange⟩ := by
  decide

def firstMinute : TimeWindow :=
  ⟨⟨0, midnight_inRange⟩, ⟨60000000, minute_inRange⟩, midnight_lt_minute⟩

theorem quietAvg_nonneg : (0 : ℚ) ≤ 0 := le_rfl

theorem quietCount_nonneg : (0 : Int) ≤ 0 := le_rfl

theorem peak_nonneg_one : (0 : Int) ≤ 1 := zero_le_one

theorem busyAvg_nonneg : (0 : ℚ) ≤ 2 := zero_le_two

theorem busyCount_nonneg : (0 : Int) ≤ 3 := zero_le_three

/-- Three entries that stayed for two seconds. -/
def busyMetric : OccupancyMetric :=
  ⟨"zone-01", firstMinute, 2, 1, 3, zone_named, busyAvg_nonneg, peak_nonneg_one, busyCount_nonneg⟩

/-- Somebody was there, but nobody entered. -/
def quietMetric : OccupancyMetric :=
  ⟨"zone-01", firstMinute, 0, 1, 0, zone_named, quietAvg_nonneg, peak_nonneg_one, quietCount_nonneg⟩

/-- A group of a group without entries, and one with. -/
def mixedTree : RollupTree :=
  .group (.group (.leaf quietMetric) [.leaf quietMetric] "zone-01" zone_named firstMinute)
    [.leaf busyMetric] "zone-01" zone_named firstMinute

theorem rollup_partition_mixedTree :
    ∃ nested flat, mixedTree.rolledUp = .ok nested ∧
      rollup [busyMetric, quietMetric, quietMetric] "zone-01" firstMinute = .ok flat ∧
      nested.totalCount = flat.totalCount ∧ nested.occupancyPeak = flat.occupancyPeak ∧
      nested.dwellTimeAvg = flat.dwellTimeAvg := by
  have hperm : [busyMetric, quietMetric, quietMetric].Perm mixedTree.leaves :=
    (List.Perm.swap quietMetric busyMetric [quietMetric]).trans
      (.cons _ (.swap quietMetric busyMetric []))
  have hquiet : ∀ metric ∈ [busyMetric, quietMetric, quietMetric],
      metric.totalCount = 0 → metric.dwellTimeAvg = 0 := by
    intro metric hmetric hzero
    rcases List.mem_cons.mp hmetric with rfl | hmetric
    · exact absurd hzero (by decide)
    · obtain rfl : metric = quietMetric := by simpa using hmetric
      rfl
  obtain ⟨nested, flat, hnested, hflat, hcount, hpeak, havg, -⟩ :=
    rollup_partition mixedTree hperm hquiet zone_named firstMinute
  exact ⟨nested, flat, hnested, hflat, hcount, hpeak, havg⟩

end Ods.S5
