import OdsMod2.Framework.Pairing
import OdsMod2.S5.VisitMetrics

/-!
# The peak among unmatched exits

The sweep starts from nobody, so whoever leaves without having entered takes one off the level of
everybody behind. The peak of a sweep is the largest number of entries up to an instant less the
exits before it (`le_peak_iff`), and what complete visits among the same events can show at an
instant are the pairs of an entry up to it and an exit from it on, at one origin
(`exists_visits_iff`). Whether the sweep shows as many compares the two.
-/

namespace Ods.S5

/-! ### What the sweep counts -/

def entriesUpTo (events : List NormalizedEvent) (t : Datetime) : Nat :=
  events.countP fun event => event.eventType = enterEventType ∧ event.timestamp ≤ t

def exitsBefore (events : List NormalizedEvent) (t : Datetime) : Nat :=
  events.countP fun event => event.eventType = exitEventType ∧ event.timestamp < t

theorem levelAt_arrivals (entries : List NormalizedEvent) (t : Datetime) :
    levelAt (arrivals entries) t = (entries.countP fun event => event.timestamp ≤ t : Nat) := by
  induction entries with
  | nil => rfl
  | cons enter entries ih =>
    have hsplit : arrivals (enter :: entries) = arrivals [enter] ++ arrivals entries := rfl
    rw [hsplit, levelAt_append, ih, levelAt_arrival, List.countP_cons, add_comm]
    simp only [Nat.cast_add, Nat.cast_ite, Nat.cast_one, Nat.cast_zero, decide_eq_true_eq]

theorem levelAt_departures (exits : List NormalizedEvent) (t : Datetime) :
    levelAt (departures exits) t = -(exits.countP fun event => event.timestamp < t : Nat) := by
  induction exits with
  | nil => rfl
  | cons exit exits ih =>
    have hsplit : departures (exit :: exits) = departures [exit] ++ departures exits := rfl
    rw [hsplit, levelAt_append, ih, levelAt_departure, List.countP_cons, Nat.cast_add, neg_add,
      add_comm]
    simp only [Nat.cast_ite, Nat.cast_one, Nat.cast_zero, decide_eq_true_eq, apply_ite Neg.neg,
      neg_zero]

/-- The level of an instant, for events of any kind. -/
theorem levelAt_events (events : List NormalizedEvent) (t : Datetime) :
    levelAt (timeline (ofType enterEventType events) (ofType exitEventType events)) t =
      entriesUpTo events t - exitsBefore events t := by
  have hcount (eventType : String) (p : NormalizedEvent → Prop) [DecidablePred p] :
      (ofType eventType events).countP (fun event => p event) =
        events.countP fun event => event.eventType = eventType ∧ p event := by
    rw [(ofType_perm (.refl _) eventType).countP_eq, List.countP_filter]
    refine List.countP_congr fun event _ => ?_
    simp only [Bool.and_eq_true, decide_eq_true_eq, and_comm]
  -- the level does not depend on the order of the timeline
  have hperm : (timeline (ofType enterEventType events) (ofType exitEventType events)).Perm
      (arrivals (ofType enterEventType events) ++ departures (ofType exitEventType events)) :=
    sortBy_perm _ _
  rw [levelAt_perm hperm, levelAt_append, levelAt_arrivals, levelAt_departures, hcount, hcount]
  rfl

/-- **What reaches the peak.** -/
theorem le_peak_iff {events : List NormalizedEvent} {n : Nat} (hn : 0 < n) :
    (n : Int) ≤ peak events ↔ ∃ u, exitsBefore events u + n ≤ entriesUpTo events u := by
  have hsweep : IsGreatest _ (peak events) :=
    isGreatest_sweep (timeline_swept (ofType enterEventType events) (ofType exitEventType events))
  constructor
  · intro hle
    -- the peak is the level of an instant, or the zero that the sweep starts from
    rcases hsweep.1 with hzero | ⟨u, hlevel⟩
    · omega
    · refine ⟨u, ?_⟩
      rw [levelAt_events] at hlevel
      omega
  · rintro ⟨u, hu⟩
    have hlevel := hsweep.2 (.inr ⟨u, rfl⟩)
    rw [levelAt_events] at hlevel
    omega

/-! ### What complete visits show -/

/-- A visit that begins and ends at one origin, the exit later than the entry. -/
def AtOneOrigin (visit : Visit) : Prop :=
  visit.enter.origin = visit.exit.origin ∧ visit.enter.timestamp < visit.exit.timestamp

/-- The events of complete visits, each at one origin. -/
def CompleteByOrigin (part : List NormalizedEvent) : Prop :=
  ∃ visits : List Visit, (∀ visit ∈ visits, AtOneOrigin visit) ∧
    part.Perm (visits.flatMap Visit.events)

def enteredUpTo (events : List NormalizedEvent) (t : Datetime) : List NormalizedEvent :=
  events.filter fun event => event.eventType = enterEventType ∧ event.timestamp ≤ t

def leavingFrom (events : List NormalizedEvent) (t : Datetime) : List NormalizedEvent :=
  events.filter fun event => event.eventType = exitEventType ∧ t ≤ event.timestamp

def atOrigin (origin : String) (events : List NormalizedEvent) : List NormalizedEvent :=
  events.filter fun event => event.origin = origin

/-- The visits to an origin across an instant. An entry at the instant needs a later exit. -/
def pairsAcross (events : List NormalizedEvent) (t : Datetime) (origin : String) : Nat :=
  pairable (fun enter => decide (enter.timestamp < t)) (fun exit => decide (t < exit.timestamp))
    (atOrigin origin (enteredUpTo events t)) (atOrigin origin (leavingFrom events t))

def origins (events : List NormalizedEvent) : List String :=
  (events.map NormalizedEvent.origin).dedup

theorem origins_nodup (events : List NormalizedEvent) : (origins events).Nodup :=
  List.nodup_dedup _

theorem mem_origins {events : List NormalizedEvent} {event : NormalizedEvent} (h : event ∈ events) :
    event.origin ∈ origins events :=
  List.mem_dedup.mpr (List.mem_map_of_mem h)

/-- The most people that complete visits among the events can show at an instant. -/
def insideAt (events : List NormalizedEvent) (t : Datetime) : Nat :=
  ((origins events).map (pairsAcross events t)).sum

/-- Those who are there. -/
def visitsAt (visits : List Visit) (t : Datetime) : List Visit :=
  visits.filter fun visit => visit.enter.timestamp ≤ t ∧ t ≤ visit.exit.timestamp

theorem length_visitsAt (visits : List Visit) (t : Datetime) :
    (visitsAt visits t).length = presentAt visits t :=
  List.countP_eq_length_filter.symm

section Bound

variable {visits : List Visit} {events : List NormalizedEvent}

/-- The entries of some visits are among the entries of all of them. -/
theorem enters_subperm (hpart : (visits.flatMap Visit.events).Subperm events) {some : List Visit}
    (hsome : some.Sublist visits) : (some.map Visit.enter).Subperm events := by
  refine (hsome.map Visit.enter).subperm.trans (.trans ?_ hpart)
  rw [← (filter_visits visits).1]
  exact List.filter_sublist.subperm

theorem exits_subperm (hpart : (visits.flatMap Visit.events).Subperm events) {some : List Visit}
    (hsome : some.Sublist visits) : (some.map Visit.exit).Subperm events := by
  refine (hsome.map Visit.exit).subperm.trans (.trans ?_ hpart)
  rw [← (filter_visits visits).2]
  exact List.filter_sublist.subperm

/-- Elements that all pass a filter are among what the filter leaves. -/
theorem subperm_filter {xs ys : List NormalizedEvent} (h : xs.Subperm ys)
    {p : NormalizedEvent → Bool} (hp : ∀ x ∈ xs, p x = true) : xs.Subperm (ys.filter p) := by
  have hfilter := h.filter p
  rwa [List.filter_eq_self.mpr hp] at hfilter

/-- The visits to one origin across an instant pair entries up to it with exits from it on. -/
theorem pairing_visitsAt (hpart : (visits.flatMap Visit.events).Subperm events)
    (hvisits : ∀ visit ∈ visits, AtOneOrigin visit) (t : Datetime) (origin : String) :
    Pairing (fun enter => decide (enter.timestamp < t)) (fun exit => decide (t < exit.timestamp))
      (atOrigin origin (enteredUpTo events t)) (atOrigin origin (leavingFrom events t))
      (((visitsAt visits t).filter fun visit => visit.enter.origin = origin).map Visit.pair) := by
  have hmem : ∀ visit ∈ (visitsAt visits t).filter (fun visit => visit.enter.origin = origin),
      visit ∈ visits ∧ visit.enter.timestamp ≤ t ∧ t ≤ visit.exit.timestamp ∧
        visit.enter.origin = origin := by
    intro visit hvisit
    obtain ⟨hat, horigin⟩ := List.mem_filter.mp hvisit
    obtain ⟨hmem, hacross⟩ := List.mem_filter.mp hat
    obtain ⟨henter, hexit⟩ := of_decide_eq_true hacross
    exact ⟨hmem, henter, hexit, of_decide_eq_true horigin⟩
  have hsome : ((visitsAt visits t).filter fun visit => visit.enter.origin = origin).Sublist
      visits := List.filter_sublist.trans List.filter_sublist
  refine ⟨?_, ?_, ?_⟩
  · rw [List.map_map]
    -- the entries: up to the instant, and at the origin
    refine subperm_filter (subperm_filter (enters_subperm hpart hsome) ?_) ?_
    · intro enter henter
      obtain ⟨visit, hvisit, rfl⟩ := List.mem_map.mp henter
      exact decide_eq_true ⟨visit.enters, (hmem visit hvisit).2.1⟩
    · intro enter henter
      obtain ⟨visit, hvisit, rfl⟩ := List.mem_map.mp henter
      exact decide_eq_true (hmem visit hvisit).2.2.2
  · rw [List.map_map]
    -- the exits: from the instant on, and at the origin of their entries
    refine subperm_filter (subperm_filter (exits_subperm hpart hsome) ?_) ?_
    · intro exit hexit
      obtain ⟨visit, hvisit, rfl⟩ := List.mem_map.mp hexit
      exact decide_eq_true ⟨visit.exits, (hmem visit hvisit).2.2.1⟩
    · intro exit hexit
      obtain ⟨visit, hvisit, rfl⟩ := List.mem_map.mp hexit
      obtain ⟨hin, -, -, horigin⟩ := hmem visit hvisit
      exact decide_eq_true ((hvisits visit hin).1 ▸ horigin)
  · intro pair hpair
    obtain ⟨visit, hvisit, rfl⟩ := List.mem_map.mp hpair
    obtain ⟨hin, henter, hexit, -⟩ := hmem visit hvisit
    -- a visit has a duration, so one of its ends is not at the instant
    rcases henter.lt_or_eq with hlt | heq
    · exact .inl (decide_eq_true hlt)
    · exact .inr (decide_eq_true (heq ▸ (hvisits visit hin).2))

/-- No complete visits show more. -/
theorem presentAt_le_insideAt (hpart : (visits.flatMap Visit.events).Subperm events)
    (hvisits : ∀ visit ∈ visits, AtOneOrigin visit) (t : Datetime) :
    presentAt visits t ≤ insideAt events t := by
  have hknown : ∀ visit ∈ visitsAt visits t, visit.enter.origin ∈ origins events := by
    intro visit hvisit
    have henter : visit.enter ∈ events :=
      (enters_subperm hpart (List.Sublist.refl visits)).subset
        (List.mem_map_of_mem (List.mem_of_mem_filter hvisit))
    exact mem_origins henter
  -- count the visits origin by origin
  have hclasses := classes_perm_self (fun visit : Visit => visit.enter.origin) (origins_nodup events)
    hknown
  calc presentAt visits t
      = (visitsAt visits t).length := (length_visitsAt visits t).symm
    _ = ((origins events).map fun origin =>
          ((visitsAt visits t).filter
            fun visit => decide (visit.enter.origin = origin)).length).sum := by
        rw [← hclasses.length_eq, List.length_flatMap]
    _ ≤ insideAt events t := by
        refine List.sum_le_sum fun origin _ => ?_
        have hpairing := (pairing_visitsAt hpart hvisits t origin).length_le
        rwa [List.length_map] at hpairing

end Bound

/-! ### Visits that show as many -/

section Attained

variable {events : List NormalizedEvent}

/-- Pairs of an entry and an exit are visits. -/
theorem exists_visits {pairs : List (NormalizedEvent × NormalizedEvent)}
    (h : ∀ pair ∈ pairs, pair.1.eventType = enterEventType ∧ pair.2.eventType = exitEventType ∧
      pair.1.timestamp ≤ pair.2.timestamp) :
    ∃ visits : List Visit, visits.map Visit.pair = pairs := by
  induction pairs with
  | nil => exact ⟨[], rfl⟩
  | cons pair pairs ih =>
    obtain ⟨⟨henters, hexits, hordered⟩, hrest⟩ := List.forall_mem_cons.mp h
    obtain ⟨visits, rfl⟩ := ih hrest
    exact ⟨⟨pair.1, pair.2, henters, hexits, hordered⟩ :: visits, rfl⟩

theorem mem_atOrigin_enteredUpTo {origin : String} {t : Datetime} {event : NormalizedEvent} :
    event ∈ atOrigin origin (enteredUpTo events t) ↔ event ∈ events ∧
      event.eventType = enterEventType ∧ event.timestamp ≤ t ∧ event.origin = origin := by
  simp only [atOrigin, enteredUpTo, List.mem_filter, decide_eq_true_eq, and_assoc]

theorem mem_atOrigin_leavingFrom {origin : String} {t : Datetime} {event : NormalizedEvent} :
    event ∈ atOrigin origin (leavingFrom events t) ↔ event ∈ events ∧
      event.eventType = exitEventType ∧ t ≤ event.timestamp ∧ event.origin = origin := by
  simp only [atOrigin, leavingFrom, List.mem_filter, decide_eq_true_eq, and_assoc]

/-- What the visits of one origin are to be. -/
structure VisitsAcross (events : List NormalizedEvent) (t : Datetime) (origin : String)
    (visits : List Visit) : Prop where
  atOneOrigin : ∀ visit ∈ visits, AtOneOrigin visit
  across : ∀ visit ∈ visits, visit.enter.timestamp ≤ t ∧ t ≤ visit.exit.timestamp
  enters : (visits.map Visit.enter).Subperm (atOrigin origin (enteredUpTo events t))
  exits : (visits.map Visit.exit).Subperm (atOrigin origin (leavingFrom events t))
  length_eq : visits.length = pairsAcross events t origin

theorem exists_visitsAcross (events : List NormalizedEvent) (t : Datetime) (origin : String) :
    ∃ visits, VisitsAcross events t origin visits := by
  -- as many pairs as the counts allow
  obtain ⟨pairs, hpairing, hlength⟩ := exists_pairing_iff.mpr (le_refl (pairsAcross events t origin))
  have henter : ∀ pair ∈ pairs, pair.1 ∈ atOrigin origin (enteredUpTo events t) := fun pair hpair =>
    hpairing.left.subset (List.mem_map_of_mem hpair)
  have hexit : ∀ pair ∈ pairs, pair.2 ∈ atOrigin origin (leavingFrom events t) := fun pair hpair =>
    hpairing.right.subset (List.mem_map_of_mem hpair)
  obtain ⟨visits, rfl⟩ : ∃ visits : List Visit, visits.map Visit.pair = pairs := by
    refine exists_visits fun pair hpair => ?_
    obtain ⟨-, henters, hbefore, -⟩ := mem_atOrigin_enteredUpTo.mp (henter pair hpair)
    obtain ⟨-, hexits, hafter, -⟩ := mem_atOrigin_leavingFrom.mp (hexit pair hpair)
    exact ⟨henters, hexits, hbefore.trans hafter⟩
  refine ⟨visits, ?_, ?_, ?_, ?_, ?_⟩
  · intro visit hvisit
    have hpair : visit.pair ∈ visits.map Visit.pair := List.mem_map_of_mem hvisit
    obtain ⟨-, -, hbefore, horigin⟩ := mem_atOrigin_enteredUpTo.mp (henter _ hpair)
    obtain ⟨-, -, hafter, horigin'⟩ := mem_atOrigin_leavingFrom.mp (hexit _ hpair)
    refine ⟨horigin.trans horigin'.symm, ?_⟩
    -- one end is off the instant, so that the exit is strictly later
    rcases hpairing.good _ hpair with hearlier | hlater
    · exact (of_decide_eq_true hearlier).trans_le hafter
    · exact lt_of_le_of_lt hbefore (of_decide_eq_true hlater)
  · intro visit hvisit
    have hpair : visit.pair ∈ visits.map Visit.pair := List.mem_map_of_mem hvisit
    exact ⟨(mem_atOrigin_enteredUpTo.mp (henter _ hpair)).2.2.1,
      (mem_atOrigin_leavingFrom.mp (hexit _ hpair)).2.2.1⟩
  · have hleft := hpairing.left
    rwa [List.map_map] at hleft
  · have hright := hpairing.right
    rwa [List.map_map] at hright
  · rwa [List.length_map] at hlength

theorem flatMap_subperm {keys : List String} {f g : String → List NormalizedEvent}
    (h : ∀ key, (f key).Subperm (g key)) : (keys.flatMap f).Subperm (keys.flatMap g) := by
  induction keys with
  | nil => exact List.Subperm.refl _
  | cons key keys ih => exact (h key).append ih

/-- What is taken from each origin is taken from all. -/
theorem origins_subperm {part : String → List NormalizedEvent} {whole : List NormalizedEvent}
    (h : ∀ origin, (part origin).Subperm (atOrigin origin whole)) :
    ((origins events).flatMap part).Subperm whole :=
  (flatMap_subperm h).trans
    ((classes_perm NormalizedEvent.origin (origins_nodup events) whole).subperm.trans
      List.filter_sublist.subperm)

theorem visits_perm (visits : List Visit) :
    (visits.flatMap Visit.events).Perm (visits.map Visit.enter ++ visits.map Visit.exit) := by
  induction visits with
  | nil => exact .refl _
  | cons visit visits ih =>
    exact .cons _ ((List.Perm.cons _ ih).trans List.perm_middle.symm)

theorem enters_exits_subperm {enters exits : List NormalizedEvent} {t : Datetime}
    (henters : enters.Subperm (enteredUpTo events t)) (hexits : exits.Subperm (leavingFrom events t)) :
    (enters ++ exits).Subperm events := by
  -- entries and exits are different events, so together they are a part of all
  refine (henters.append hexits).trans (.trans (.append ?_ ?_)
    (List.filter_append_perm (fun event => decide (event.eventType = enterEventType)) events).subperm)
  · refine (List.monotone_filter_right _ fun event hevent => ?_).subperm
    exact decide_eq_true (of_decide_eq_true hevent).1
  · refine (List.monotone_filter_right _ fun event hevent => ?_).subperm
    rw [(of_decide_eq_true hevent).1]
    decide

/-- **Complete visits that show the most.** -/
theorem exists_visits_insideAt (events : List NormalizedEvent) (t : Datetime) :
    ∃ visits : List Visit, (∀ visit ∈ visits, AtOneOrigin visit) ∧
      (visits.flatMap Visit.events).Subperm events ∧ presentAt visits t = insideAt events t := by
  -- for every origin the most visits across the instant
  choose family hfamily using exists_visitsAcross events t
  refine ⟨(origins events).flatMap family, ?_, ?_, ?_⟩
  · intro visit hvisit
    obtain ⟨origin, -, hmem⟩ := List.mem_flatMap.mp hvisit
    exact (hfamily origin).atOneOrigin visit hmem
  · refine (visits_perm _).subperm.trans (enters_exits_subperm (t := t) ?_ ?_)
    · rw [List.map_flatMap]
      exact origins_subperm fun origin => (hfamily origin).enters
    · rw [List.map_flatMap]
      exact origins_subperm fun origin => (hfamily origin).exits
  · -- nobody of them has left yet, or is still to come
    have hall : visitsAt ((origins events).flatMap family) t = (origins events).flatMap family := by
      refine List.filter_eq_self.mpr fun visit hvisit => ?_
      obtain ⟨origin, -, hmem⟩ := List.mem_flatMap.mp hvisit
      exact decide_eq_true ((hfamily origin).across visit hmem)
    rw [← length_visitsAt, hall, List.length_flatMap, insideAt]
    exact congrArg List.sum (List.map_congr_left fun origin _ => (hfamily origin).length_eq)

end Attained

/-! ### When the peak shows them -/

/-- No complete visits among the events have a higher peak, and whoever enters is seen. -/
def PeakNotHidden (events : List NormalizedEvent) : Prop :=
  (∀ part : List NormalizedEvent, part.Sublist events → CompleteByOrigin part →
    peak part ≤ peak events) ∧
  ((∃ event ∈ events, event.eventType = enterEventType) → 1 ≤ peak events)

/-- As many as visits can show at an instant, and one at least, are left at some instant when every
exit before it has taken off one entry. -/
def ExitsCovered (events : List NormalizedEvent) : Prop :=
  (∃ event ∈ events, event.eventType = enterEventType) →
    ∀ t, ∃ u, exitsBefore events u + max 1 (insideAt events t) ≤ entriesUpTo events u

theorem exists_enter_of_insideAt {events : List NormalizedEvent} {t : Datetime}
    (h : 0 < insideAt events t) : ∃ event ∈ events, event.eventType = enterEventType := by
  obtain ⟨visits, -, hpart, hpresent⟩ := exists_visits_insideAt events t
  rw [← hpresent, ← length_visitsAt] at h
  obtain ⟨visit, hvisit⟩ := List.exists_mem_of_length_pos h
  refine ⟨visit.enter, ?_, visit.enters⟩
  exact (enters_subperm hpart (List.Sublist.refl visits)).subset
    (List.mem_map_of_mem (List.mem_of_mem_filter hvisit))

/-- **When exits hide nobody.** -/
theorem peakNotHidden_iff (events : List NormalizedEvent) :
    PeakNotHidden events ↔ ExitsCovered events := by
  constructor
  · rintro ⟨hparts, hone⟩ hentered t
    refine (le_peak_iff (lt_max_of_lt_left one_pos)).mp ?_
    rw [Nat.cast_max]
    refine max_le (hone hentered) ?_
    -- a part with the most visits at the instant shows them all
    obtain ⟨visits, hvisits, ⟨part, hperm, hsublist⟩, hpresent⟩ := exists_visits_insideAt events t
    -- the visits in the order in which they stand among the events
    calc (insideAt events t : Int)
        = presentAt visits t := congrArg _ hpresent.symm
      _ ≤ peak part := (isGreatest_peak hperm).2 ⟨t, rfl⟩
      _ ≤ peak events := hparts part hsublist ⟨visits, hvisits, hperm⟩
  · intro hcovered
    refine ⟨fun part hsublist hcomplete => ?_, fun hentered => ?_⟩
    · obtain ⟨visits, hvisits, hperm⟩ := hcomplete
      -- the part has its peak at some instant, where the events allow as many
      obtain ⟨t, ht⟩ := (isGreatest_peak hperm).1
      have hle := presentAt_le_insideAt (hperm.symm.subperm.trans hsublist.subperm) hvisits t
      rw [← ht]
      rcases Nat.eq_zero_or_pos (insideAt events t) with hzero | hpos
      · dsimp only
        rw [Nat.le_zero.mp (hle.trans_eq hzero)]
        exact peak_nonneg events
      · obtain ⟨u, hu⟩ := hcovered (exists_enter_of_insideAt hpos) t
        have hshown := (le_peak_iff (lt_max_of_lt_left one_pos)).mpr ⟨u, hu⟩
        exact (Nat.cast_le.mpr (hle.trans (le_max_right _ _))).trans hshown
    · obtain ⟨event, hevent, henters⟩ := hentered
      obtain ⟨u, hu⟩ := hcovered ⟨event, hevent, henters⟩ event.timestamp
      refine (le_peak_iff one_pos).mpr ⟨u, ?_⟩
      exact (Nat.add_le_add_left (le_max_left _ _) _).trans hu

theorem windowStart_inRange : 0 < 3652059 * 86400 * 1000000 := by
  decide

theorem fiveMinutes_inRange : 300000000 < 3652059 * 86400 * 1000000 := by
  decide

/-- A visit up to the end of the fifth minute. -/
def untilFive (second : Nat) (h : second < 300) : Visit where
  enter := ⟨"enter", "cam-1", ⟨second * 1000000, by omega⟩, enter_typed, camera_placed⟩
  exit := ⟨"exit", "cam-1", ⟨300000000, fiveMinutes_inRange⟩, exit_typed, camera_placed⟩
  enters := rfl
  exits := rfl
  ordered := Datetime.le_iff.mpr (by dsimp only; omega)

/-- Somebody leaves who was there before the window, and then two others come. -/
def leaverFirst : List NormalizedEvent :=
  [⟨"exit", "cam-1", ⟨0, windowStart_inRange⟩, exit_typed, camera_placed⟩,
    (untilFive 61 (by decide)).enter, (untilFive 62 (by decide)).enter,
    (untilFive 61 (by decide)).exit, (untilFive 62 (by decide)).exit]

/-- The level goes from minus one to one, while two are inside. -/
theorem leaver_hides_visitor :
    ((aggregate leaverFirst "zone-01"
        ⟨⟨0, windowStart_inRange⟩, ⟨300000000, fiveMinutes_inRange⟩, by decide⟩).toOption.map
          fun metric => (metric.dwellTimeAvg, metric.occupancyPeak, metric.totalCount)) = some (177 / 2, 1, 2) ∧
      ¬ ∀ events, PeakNotHidden events := by
  refine ⟨by decide +kernel, fun h => ?_⟩
  have hcomplete : CompleteByOrigin leaverFirst.tail := by
    refine ⟨[untilFive 61 (by decide), untilFive 62 (by decide)], ?_, ?_⟩
    · intro visit hvisit
      rcases List.mem_cons.mp hvisit with rfl | hvisit
      · exact ⟨rfl, by decide⟩
      · obtain rfl := List.mem_singleton.mp hvisit
        exact ⟨rfl, by decide⟩
    · exact .cons _ (.swap _ _ _)
  have hle := (h leaverFirst).1 leaverFirst.tail (List.tail_sublist _) hcomplete
  exact absurd hle (by decide +kernel)

end Ods.S5
