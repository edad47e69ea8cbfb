import Mathlib.Data.List.Chain
import OdsMod2.Framework.ExceptList
import OdsMod2.S5.Aggregation

/-!
# Rolling up aggregates

Cut a stream of complete visits into groups that follow one another in time, aggregate each group
and roll the metrics up: the result is the aggregate of the whole stream.

Counts and dwell times add up over any groups of complete visits, since within a group every entry
has its exit. The peak needs the order of the groups: the sweep over a group comes back to zero, so
the sweep over the stream starts afresh in each (`peakConcurrency_append`).
-/

namespace Ods.S5

/-! ### Groups of visits -/

/-- Somebody comes and goes. -/
structure Visit where
  enter : NormalizedEvent
  exit : NormalizedEvent
  enters : enter.eventType = enterEventType
  exits : exit.eventType = exitEventType
  ordered : enter.timestamp ≤ exit.timestamp

def Visit.events (visit : Visit) : List NormalizedEvent :=
  [visit.enter, visit.exit]

/-- The events of some visits, in any order. -/
def CompleteVisits (events : List NormalizedEvent) : Prop :=
  ∃ visits : List Visit, events.Perm (visits.flatMap Visit.events)

/-- Everything in one group happens before anything in the other. -/
def Earlier (group group' : List NormalizedEvent) : Prop :=
  ∀ event ∈ group, ∀ event' ∈ group', event.timestamp < event'.timestamp

def entered (events : List NormalizedEvent) : Nat :=
  (ofType enterEventType events).length

/-- The time spent in all visits together. -/
def dwellSum (events : List NormalizedEvent) : ℚ :=
  secondsSum (ofType exitEventType events) - secondsSum (ofType enterEventType events)

def peak (events : List NormalizedEvent) : Int :=
  peakConcurrency (ofType enterEventType events) (ofType exitEventType events)

theorem length_ofType (eventType : String) (events : List NormalizedEvent) :
    (ofType eventType events).length =
      (events.filter fun event => event.eventType = eventType).length :=
  length_sortBy _

theorem secondsSum_ofType (eventType : String) (events : List NormalizedEvent) :
    secondsSum (ofType eventType events) =
      secondsSum (events.filter fun event => event.eventType = eventType) :=
  ((sortBy_perm _ _).map _).sum_eq

theorem secondsSum_append (events events' : List NormalizedEvent) :
    secondsSum (events ++ events') = secondsSum events + secondsSum events' := by
  rw [secondsSum, List.map_append, List.sum_append]
  rfl

section Append

variable (events events' : List NormalizedEvent)

theorem entered_append : entered (events ++ events') = entered events + entered events' := by
  rw [entered, length_ofType, List.filter_append, List.length_append, ← length_ofType,
    ← length_ofType]
  rfl

theorem dwellSum_append : dwellSum (events ++ events') = dwellSum events + dwellSum events' := by
  simp only [dwellSum, secondsSum_ofType, List.filter_append, secondsSum_append]
  ring

end Append

/-! ### Complete visits -/

section Complete

variable {events events' : List NormalizedEvent}

theorem CompleteVisits.nil : CompleteVisits [] :=
  ⟨[], .refl _⟩

theorem CompleteVisits.append (h : CompleteVisits events) (h' : CompleteVisits events') :
    CompleteVisits (events ++ events') := by
  obtain ⟨visits, hperm⟩ := h
  obtain ⟨visits', hperm'⟩ := h'
  refine ⟨visits ++ visits', ?_⟩
  rw [List.flatMap_append]
  exact hperm.append hperm'

theorem filter_visits (visits : List Visit) :
    (visits.flatMap Visit.events).filter (fun event => event.eventType = enterEventType) =
        visits.map Visit.enter ∧
      (visits.flatMap Visit.events).filter (fun event => event.eventType = exitEventType) =
        visits.map Visit.exit := by
  induction visits with
  | nil => exact ⟨rfl, rfl⟩
  | cons visit visits ih =>
    obtain ⟨ihEnter, ihExit⟩ := ih
    have hne : enterEventType ≠ exitEventType := by decide
    simp only [List.flatMap_cons, Visit.events, List.filter_cons, visit.enters, visit.exits, hne,
      hne.symm, decide_true, decide_false, if_true, if_false, Bool.false_eq_true, List.map_cons,
      List.cons_append, List.nil_append]
    exact ⟨congrArg _ ihEnter, congrArg _ ihExit⟩

/-- As many leave as enter. -/
theorem CompleteVisits.left_eq_entered (h : CompleteVisits events) :
    (ofType exitEventType events).length = entered events := by
  obtain ⟨visits, hperm⟩ := h
  rw [entered, length_ofType, length_ofType, (hperm.filter _).length_eq, (hperm.filter _).length_eq,
    (filter_visits visits).1, (filter_visits visits).2, List.length_map, List.length_map]

theorem secondsSum_visits (visits : List Visit) :
    secondsSum (visits.map Visit.enter) ≤ secondsSum (visits.map Visit.exit) := by
  unfold secondsSum
  rw [List.map_map, List.map_map]
  refine List.sum_le_sum fun visit _ => ?_
  exact div_le_div_of_nonneg_right (Nat.cast_le.mpr visit.ordered) (by norm_num)

theorem CompleteVisits.dwellSum_nonneg (h : CompleteVisits events) : 0 ≤ dwellSum events := by
  obtain ⟨visits, hperm⟩ := h
  rw [dwellSum, secondsSum_ofType, secondsSum_ofType, sub_nonneg]
  calc secondsSum (events.filter fun event => event.eventType = enterEventType)
      = secondsSum (visits.map Visit.enter) := by
        rw [← (filter_visits visits).1]
        exact ((hperm.filter _).map _).sum_eq
    _ ≤ secondsSum (visits.map Visit.exit) := secondsSum_visits visits
    _ = secondsSum (events.filter fun event => event.eventType = exitEventType) := by
        rw [← (filter_visits visits).2]
        exact ((hperm.filter _).map _).sum_eq.symm

/-- The average over complete visits. -/
theorem CompleteVisits.averageDwellTime (h : CompleteVisits events) :
    averageDwellTime (ofType enterEventType events) (ofType exitEventType events) =
      dwellSum events / entered events := by
  have hlength := h.left_eq_entered
  rw [averageDwellTime_eq, hlength, entered, List.take_length, min_self, ← entered, ← hlength,
    List.take_length, hlength]
  rfl

end Complete

/-! ### The peak -/

section Peak

variable {group group' : List NormalizedEvent}

theorem mem_ofType {eventType : String} {event : NormalizedEvent} {events : List NormalizedEvent}
    (h : event ∈ ofType eventType events) : event ∈ events :=
  (List.mem_filter.mp (mem_sortBy.mp h)).1

theorem ofType_append (hearlier : Earlier group group') (eventType : String) :
    ofType eventType (group ++ group') = ofType eventType group ++ ofType eventType group' := by
  rw [ofType, List.filter_append]
  exact sortBy_append fun event hevent event' hevent' =>
    hearlier event (List.mem_filter.mp hevent).1 event' (List.mem_filter.mp hevent').1

/-- The timeline of two groups is one timeline after the other. -/
theorem timeline_append {entries exits entries' exits' : List NormalizedEvent}
    (hearlier : Earlier (entries ++ exits) (entries' ++ exits')) :
    timeline (entries ++ entries') (exits ++ exits') =
      timeline entries exits ++ timeline entries' exits' := by
  -- the cut: no later than some event of the first group
  let front : Datetime × Int → Bool := fun item =>
    decide (∃ event ∈ entries ++ exits, item.1 ≤ event.timestamp)
  have hfront : ∀ (events : List NormalizedEvent) (delta : Int), events ⊆ entries ++ exits →
      ∀ item ∈ events.map fun event => (event.timestamp, delta), front item = true := by
    intro events delta hsubset item hitem
    obtain ⟨event, hevent, rfl⟩ := List.mem_map.mp hitem
    exact decide_eq_true ⟨event, hsubset hevent, le_rfl⟩
  have hback : ∀ (events : List NormalizedEvent) (delta : Int), events ⊆ entries' ++ exits' →
      ∀ item ∈ events.map fun event => (event.timestamp, delta), front item = false := by
    intro events delta hsubset item hitem
    obtain ⟨event', hevent', rfl⟩ := List.mem_map.mp hitem
    refine decide_eq_false ?_
    rintro ⟨event, hevent, hle⟩
    exact absurd hle (not_le.mpr (hearlier event hevent event' (hsubset hevent')))
  have hkeep : ∀ items : List (Datetime × Int), (∀ item ∈ items, front item = true) →
      items.filter front = items ∧ items.filter (fun item => !front item) = [] := by
    intro items h
    refine ⟨List.filter_eq_self.mpr h, List.filter_eq_nil_iff.mpr fun item hitem => ?_⟩
    rw [h item hitem]
    decide
  have hdrop : ∀ items : List (Datetime × Int), (∀ item ∈ items, front item = false) →
      items.filter front = [] ∧ items.filter (fun item => !front item) = items := by
    intro items h
    refine ⟨List.filter_eq_nil_iff.mpr fun item hitem => ?_,
      List.filter_eq_self.mpr fun item hitem => ?_⟩
    · rw [h item hitem]
      decide
    · rw [h item hitem]
      rfl
  -- each of the four lists lies on one side of the cut
  have hentries := hkeep _ (hfront entries 1 (List.subset_append_left _ _))
  have hexits := hkeep _ (hfront exits (-1) (List.subset_append_right _ _))
  have hentries' := hdrop _ (hback entries' 1 (List.subset_append_left _ _))
  have hexits' := hdrop _ (hback exits' (-1) (List.subset_append_right _ _))
  rw [timeline, List.map_append, List.map_append, sortBy_eq_append (p := front)]
  · simp only [List.filter_append, hentries.1, hentries.2, hexits.1, hexits.2, hentries'.1,
      hentries'.2, hexits'.1, hexits'.2, List.append_nil, List.nil_append]
    rfl
  · -- in front of the cut is earlier than behind it
    intro item _ item' _ hitem hitem'
    obtain ⟨event, hevent, hle⟩ := of_decide_eq_true hitem
    refine lt_of_le_of_lt hle (not_le.mp fun hle' => ?_)
    exact of_decide_eq_false hitem' ⟨event, hevent, hle'⟩

theorem peak_nonneg (events : List NormalizedEvent) : 0 ≤ peak events :=
  peakConcurrency_nonneg _ _

/-- The sweep over complete visits comes back to zero. -/
theorem timeline_sum_zero (hcomplete : CompleteVisits group) :
    ((timeline (ofType enterEventType group) (ofType exitEventType group)).map Prod.snd).sum = 0 := by
  rw [timeline, ((sortBy_perm _ _).map Prod.snd).sum_eq]
  simp only [List.map_append, List.map_map, List.sum_append, Function.comp_def, List.map_const',
    List.sum_replicate, hcomplete.left_eq_entered, entered]
  simp

theorem peak_append (hcomplete : CompleteVisits group) (hearlier : Earlier group group') :
    peak (group ++ group') = max (peak group) (peak group') := by
  have hsplit : timeline (ofType enterEventType (group ++ group'))
      (ofType exitEventType (group ++ group')) =
        timeline (ofType enterEventType group) (ofType exitEventType group) ++
          timeline (ofType enterEventType group') (ofType exitEventType group') := by
    rw [ofType_append hearlier, ofType_append hearlier]
    refine timeline_append fun event hevent event' hevent' => hearlier event ?_ event' ?_
    · exact (List.mem_append.mp hevent).elim mem_ofType mem_ofType
    · exact (List.mem_append.mp hevent').elim mem_ofType mem_ofType
  have hback : ((timeline (ofType enterEventType group)
      (ofType exitEventType group)).foldl occupancyStep (0, 0)) = (0, peak group) := by
    refine Prod.ext ?_ rfl
    rw [foldl_occupancyStep_fst, timeline_sum_zero hcomplete]
    rfl
  calc peak (group ++ group')
      = ((timeline (ofType enterEventType group') (ofType exitEventType group')).foldl occupancyStep
          (0, peak group)).2 := by
        rw [peak, peakConcurrency, hsplit, List.foldl_append, hback]
    _ = ((timeline (ofType enterEventType group') (ofType exitEventType group')).foldl
          occupancyStep (0, max (peak group) 0)).2 := by
        rw [max_eq_left (peak_nonneg group)]
    _ = max (peak group) (peak group') := foldl_occupancyStep_max _ _ _ _

end Peak

/-! ### Rolling up -/

section RollUp

variable {zoneId : String} {groups : List (List NormalizedEvent × TimeWindow)}

/-- The numbers of the metric are those of the events. -/
structure Summarizes (metric : OccupancyMetric) (events : List NormalizedEvent) : Prop where
  dwellTimeAvg : metric.dwellTimeAvg = dwellSum events / entered events
  occupancyPeak : metric.occupancyPeak = peak events
  totalCount : metric.totalCount = entered events

theorem aggregate_eq {events : List NormalizedEvent} (hcomplete : CompleteVisits events)
    (zoneId : String) (window : TimeWindow) :
    aggregate events zoneId window =
      OccupancyMetric.create zoneId window (dwellSum events / entered events) (peak events)
        (entered events) := by
  rw [← hcomplete.averageDwellTime]
  rfl

theorem aggregate_summarizes {events : List NormalizedEvent} (hcomplete : CompleteVisits events)
    (hnamed : isBlank zoneId = false) (window : TimeWindow) :
    ∃ metric, aggregate events zoneId window = .ok metric ∧ Summarizes metric events := by
  rw [aggregate_eq hcomplete, OccupancyMetric.create_eq_ok hnamed
    (div_nonneg hcomplete.dwellSum_nonneg (Nat.cast_nonneg _)) (peak_nonneg events)
    (Int.natCast_nonneg _)]
  exact ⟨_, rfl, rfl, rfl, rfl⟩

/-- All groups are aggregated. -/
theorem mapM_aggregate (hnamed : isBlank zoneId = false)
    (hcomplete : ∀ group ∈ groups, CompleteVisits group.1) :
    ∃ metrics, (groups.mapM fun group => aggregate group.1 zoneId group.2) = .ok metrics ∧
      List.Forall₂ (fun metric group => Summarizes metric group.1) metrics groups := by
  obtain ⟨metrics, hmetrics⟩ := exists_forall₂ fun group hgroup =>
    aggregate_summarizes (hcomplete group hgroup) hnamed group.2
  refine ⟨metrics, mapM_eq_ok_iff.mpr (hmetrics.imp fun _ _ h => h.1), ?_⟩
  exact (hmetrics.imp fun _ _ h => h.2).flip

def stream (groups : List (List NormalizedEvent × TimeWindow)) : List NormalizedEvent :=
  groups.flatMap Prod.fst

theorem stream_cons (group : List NormalizedEvent × TimeWindow)
    (groups : List (List NormalizedEvent × TimeWindow)) :
    stream (group :: groups) = group.1 ++ stream groups := rfl

theorem stream_complete (hcomplete : ∀ group ∈ groups, CompleteVisits group.1) :
    CompleteVisits (stream groups) := by
  induction groups with
  | nil => exact .nil
  | cons group groups ih =>
    obtain ⟨hfirst, hrest⟩ := List.forall_mem_cons.mp hcomplete
    exact hfirst.append (ih hrest)

theorem sum_totalCount {metrics : List OccupancyMetric}
    (h : List.Forall₂ (fun metric group => Summarizes metric group.1) metrics groups) :
    (metrics.map OccupancyMetric.totalCount).sum = entered (stream groups) := by
  induction h with
  | nil => rfl
  | cons hfirst _ ih =>
    rw [List.map_cons, List.sum_cons, ih, hfirst.totalCount, stream_cons, entered_append, Nat.cast_add]

/-- A metric weighs what its group has spent. -/
theorem Summarizes.weight {metric : OccupancyMetric} {events : List NormalizedEvent}
    (hcomplete : CompleteVisits events) (h : Summarizes metric events) :
    metric.dwellTimeAvg * metric.totalCount = dwellSum events := by
  rw [h.dwellTimeAvg, h.totalCount, Int.cast_natCast]
  by_cases hzero : entered events = 0
  · -- nobody came, nobody left
    have hentries : ofType enterEventType events = [] := List.length_eq_zero_iff.mp hzero
    have hexits : ofType exitEventType events = [] :=
      List.length_eq_zero_iff.mp (hcomplete.left_eq_entered.trans hzero)
    rw [hzero, Nat.cast_zero, mul_zero, dwellSum, hentries, hexits, sub_self]
  · exact div_mul_cancel₀ _ (Nat.cast_ne_zero.mpr hzero)

theorem sum_weights {metrics : List OccupancyMetric}
    (hcomplete : ∀ group ∈ groups, CompleteVisits group.1)
    (h : List.Forall₂ (fun metric group => Summarizes metric group.1) metrics groups) :
    (metrics.map fun metric => metric.dwellTimeAvg * (metric.totalCount : ℚ)).sum =
      dwellSum (stream groups) := by
  induction h with
  | nil => exact (sub_self _).symm
  | cons hsummary _ ih =>
    obtain ⟨hfirst, hrest⟩ := List.forall_mem_cons.mp hcomplete
    rw [List.map_cons, List.sum_cons, ih hrest, hsummary.weight hfirst, stream_cons,
      dwellSum_append]

/-- Without any visit, all averages are zero. -/
theorem sum_dwellTimeAvg_eq_zero {metrics : List OccupancyMetric}
    (h : List.Forall₂ (fun metric group => Summarizes metric group.1) metrics groups)
    (hnobody : entered (stream groups) = 0) :
    (metrics.map OccupancyMetric.dwellTimeAvg).sum = 0 := by
  induction h with
  | nil => rfl
  | cons hsummary _ ih =>
    rw [stream_cons, entered_append, Nat.add_eq_zero_iff] at hnobody
    rw [List.map_cons, List.sum_cons, ih hnobody.2, hsummary.dwellTimeAvg, hnobody.1, Nat.cast_zero,
      div_zero, add_zero]

theorem weightedDwellTimeAvg_eq {metrics : List OccupancyMetric}
    (hcomplete : ∀ group ∈ groups, CompleteVisits group.1)
    (h : List.Forall₂ (fun metric group => Summarizes metric group.1) metrics groups) :
    weightedDwellTimeAvg metrics (entered (stream groups)) =
      dwellSum (stream groups) / entered (stream groups) := by
  unfold weightedDwellTimeAvg
  split
  · next hzero =>
    have hnobody : entered (stream groups) = 0 := Int.natCast_eq_zero.mp hzero
    rw [sum_dwellTimeAvg_eq_zero h hnobody, hnobody, zero_div, Nat.cast_zero, div_zero]
  · rw [sum_weights hcomplete h, Int.cast_natCast]

theorem foldl_max_peak {metrics : List OccupancyMetric}
    (hcomplete : ∀ group ∈ groups, CompleteVisits group.1)
    (hordered : groups.Pairwise fun group group' => Earlier group.1 group'.1)
    (h : List.Forall₂ (fun metric group => Summarizes metric group.1) metrics groups)
    {initial : Int} (hinitial : 0 ≤ initial) :
    (metrics.map OccupancyMetric.occupancyPeak).foldl max initial =
      max initial (peak (stream groups)) := by
  induction h generalizing initial with
  | nil => exact (max_eq_left hinitial).symm
  | @cons metric group metrics groups hsummary _ ih =>
    obtain ⟨hfirst, hrest⟩ := List.forall_mem_cons.mp hcomplete
    obtain ⟨hearlier, hordered⟩ := List.pairwise_cons.mp hordered
    have hstream : Earlier group.1 (stream groups) := by
      intro event hevent event' hevent'
      obtain ⟨group', hgroup', hmem⟩ := List.mem_flatMap.mp hevent'
      exact hearlier group' hgroup' event hevent event' hmem
    rw [List.map_cons, List.foldl_cons, ih hrest hordered (le_max_of_le_left hinitial),
      hsummary.occupancyPeak, stream_cons, peak_append hfirst hstream, max_assoc]

/-- Each group that is not empty is earlier than the next one that is not. -/
def InOrder (groups : List (List NormalizedEvent × TimeWindow)) : Prop :=
  ((groups.map Prod.fst).filter fun group => !group.isEmpty).IsChain Earlier

theorem InOrder.pairwise (h : InOrder groups) :
    groups.Pairwise fun group group' => Earlier group.1 group'.1 := by
  -- a group that is not empty carries the order on
  let Before : List NormalizedEvent → List NormalizedEvent → Prop := fun group group' =>
    group' ≠ [] ∧ Earlier group group'
  have htrans : Trans Before Before Before := by
    refine ⟨fun {first second third} h h' => ⟨h'.1, fun event hevent event' hevent' => ?_⟩⟩
    obtain ⟨between, hbetween⟩ := List.exists_mem_of_ne_nil second h.1
    exact (h.2 event hevent between hbetween).trans (h'.2 between hbetween event' hevent')
  have hchain : ((groups.map Prod.fst).filter fun group => !group.isEmpty).IsChain Before := by
    refine List.IsChain.imp_of_mem_imp (fun group group' _ hgroup' hearlier => ⟨?_, hearlier⟩) h
    rintro rfl
    exact absurd (List.mem_filter.mp hgroup').2 (by decide)
  have hpairwise := List.pairwise_filter.mp (List.isChain_iff_pairwise.mp hchain)
  refine (List.pairwise_map.mp hpairwise).imp
    fun {group group'} hbefore event hevent event' hevent' => ?_
  refine (hbefore ?_ ?_).2 event hevent event' hevent'
  · rw [List.isEmpty_eq_false_iff.mpr (List.ne_nil_of_mem hevent)]
    rfl
  · rw [List.isEmpty_eq_false_iff.mpr (List.ne_nil_of_mem hevent')]
    rfl

/-- **Roll-up after aggregation is direct aggregation.** -/
theorem rollup_of_aggregates (zoneId : String) (hgroups : groups ≠ [])
    (hcomplete : ∀ group ∈ groups, CompleteVisits group.1) (hordered : InOrder groups)
    (targetWindow : TimeWindow) :
    (do
      let metrics ← groups.mapM fun group => aggregate group.1 zoneId group.2
      rollup metrics zoneId targetWindow) =
    aggregate (groups.flatMap Prod.fst) zoneId targetWindow := by
  cases hnamed : isBlank zoneId with
  | true =>
    -- nothing can be aggregated for a blank zone
    obtain ⟨group, groups, rfl⟩ := List.exists_cons_of_ne_nil hgroups
    rw [List.mapM_cons, aggregate, aggregateIn, OccupancyMetric.create_of_blank hnamed, aggregate,
      aggregateIn, OccupancyMetric.create_of_blank hnamed]
    rfl
  | false =>
    obtain ⟨metrics, hmetrics, hsummaries⟩ := mapM_aggregate hnamed hcomplete
    have hcount := sum_totalCount hsummaries
    have havg := weightedDwellTimeAvg_eq hcomplete hsummaries
    rw [hmetrics]
    refine Eq.trans ?_ (aggregate_eq (stream_complete hcomplete) zoneId targetWindow).symm
    have hpeak := foldl_max_peak hcomplete hordered.pairwise hsummaries le_rfl
    rw [max_eq_right (peak_nonneg _)] at hpeak
    cases metrics with
    | nil =>
      cases hsummaries
      exact absurd rfl hgroups
    | cons metric metrics =>
      rw [List.map_cons, List.foldl_cons, max_eq_right metric.occupancyPeak_nonneg] at hpeak
      show rollup (metric :: metrics) zoneId targetWindow = _
      rw [rollup]
      rw [hcount, hpeak, havg]

end RollUp

/-- A visit of five seconds. -/
def firstVisit : Visit where
  enter := ⟨"enter", "cam-1", ⟨0, by decide⟩, enter_typed, camera_placed⟩
  exit := ⟨"exit", "cam-1", ⟨5000000, by decide⟩, exit_typed, camera_placed⟩
  enters := rfl
  exits := rfl
  ordered := by decide

/-- A visit of one second in the next minute. -/
def secondVisit : Visit where
  enter := ⟨"enter", "cam-1", ⟨61000000, by decide⟩, enter_typed, camera_placed⟩
  exit := ⟨"exit", "cam-1", ⟨62000000, by decide⟩, exit_typed, camera_placed⟩
  enters := rfl
  exits := rfl
  ordered := by decide

/-- The first three minutes; nobody comes in the last. -/
def threeMinutes : List (List NormalizedEvent × TimeWindow) :=
  [(firstVisit.events, ⟨⟨0, by decide⟩, ⟨60000000, by decide⟩, by decide⟩),
    (secondVisit.events, ⟨⟨60000000, by decide⟩, ⟨120000000, by decide⟩, by decide⟩),
    ([], ⟨⟨120000000, by decide⟩, ⟨180000000, by decide⟩, by decide⟩)]

theorem rollup_of_aggregates_threeMinutes :
    (do
      let metrics ← threeMinutes.mapM fun group => aggregate group.1 "zone-01" group.2
      rollup metrics "zone-01" ⟨⟨0, by decide⟩, ⟨180000000, by decide⟩, by decide⟩) =
    aggregate (threeMinutes.flatMap Prod.fst) "zone-01"
      ⟨⟨0, by decide⟩, ⟨180000000, by decide⟩, by decide⟩ := by
  refine rollup_of_aggregates "zone-01" (List.cons_ne_nil _ _) ?_ ?_ _
  · intro group hgroup
    simp only [List.mem_cons, List.not_mem_nil, or_false] at hgroup
    rcases hgroup with rfl | rfl | rfl
    · exact ⟨[firstVisit], .refl _⟩
    · exact ⟨[secondVisit], .refl _⟩
    · exact .nil
  · show List.IsChain Earlier [firstVisit.events, secondVisit.events]
    exact .cons_cons (by unfold Earlier; decide) (.singleton _)

end Ods.S5
