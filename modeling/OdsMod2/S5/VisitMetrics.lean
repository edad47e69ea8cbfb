import OdsMod2.Framework.Sweep
import OdsMod2.S5.RollupOfAggregates

/-!
# The metric of complete visits

The strategy knows no visits. It pairs the sorted entries with the sorted exits, whoever they belong
to, and sweeps a timeline of both. For complete visits this makes no difference: the sum of the
stays does not depend on the pairs (`sum_totalSeconds`), and the level of the sweep at an instant is
the number of those who are present (`levelAt_timeline`).
-/

namespace Ods.S5

/-! ### What visits mean -/

def Visit.pair (visit : Visit) : NormalizedEvent × NormalizedEvent :=
  (visit.enter, visit.exit)

/-- The mean of the stays, an arrival and a departure each. -/
def meanStay (stays : List (NormalizedEvent × NormalizedEvent)) : ℚ :=
  if stays = [] then 0
  else (stays.map fun stay => totalSeconds stay.2.timestamp stay.1.timestamp).sum / stays.length

/-- How many are there at an instant. Whoever arrives or leaves at it, is. -/
def presentAt (visits : List Visit) (t : Datetime) : Nat :=
  visits.countP fun visit => visit.enter.timestamp ≤ t ∧ t ≤ visit.exit.timestamp

theorem presentAt_cons (visit : Visit) (visits : List Visit) (t : Datetime) :
    presentAt (visit :: visits) t = presentAt visits t +
      if visit.enter.timestamp ≤ t ∧ t ≤ visit.exit.timestamp then 1 else 0 := by
  rw [presentAt, List.countP_cons]
  simp only [decide_eq_true_eq]
  rfl

section Visits

variable {visits : List Visit} {events : List NormalizedEvent}

theorem ofType_perm {events' : List NormalizedEvent} (h : events.Perm events') (eventType : String) :
    (ofType eventType events).Perm (events'.filter fun event => event.eventType = eventType) :=
  (sortBy_perm _ _).trans (h.filter _)

theorem entries_perm (h : events.Perm (visits.flatMap Visit.events)) :
    (ofType enterEventType events).Perm (visits.map Visit.enter) :=
  (filter_visits visits).1 ▸ ofType_perm h enterEventType

theorem exits_perm (h : events.Perm (visits.flatMap Visit.events)) :
    (ofType exitEventType events).Perm (visits.map Visit.exit) :=
  (filter_visits visits).2 ▸ ofType_perm h exitEventType

theorem entered_visits (h : events.Perm (visits.flatMap Visit.events)) :
    entered events = visits.length := by
  rw [entered, (entries_perm h).length_eq, List.length_map]

/-! ### The average -/

theorem sum_totalSeconds (stays : List (NormalizedEvent × NormalizedEvent)) :
    (stays.map fun stay => totalSeconds stay.2.timestamp stay.1.timestamp).sum =
      secondsSum (stays.map Prod.snd) - secondsSum (stays.map Prod.fst) := by
  induction stays with
  | nil => exact (sub_self _).symm
  | cons stay stays ih =>
    rw [List.map_cons, List.sum_cons, ih, totalSeconds_eq]
    simp only [secondsSum, List.map_cons, List.sum_cons]
    ring

/-- Any pairs of the arrivals and the departures have the mean that the strategy computes. -/
theorem meanStay_eq (h : events.Perm (visits.flatMap Visit.events))
    {stays : List (NormalizedEvent × NormalizedEvent)}
    (harrivals : (stays.map Prod.fst).Perm (visits.map Visit.enter))
    (hdepartures : (stays.map Prod.snd).Perm (visits.map Visit.exit)) :
    meanStay stays = dwellSum events / entered events := by
  have hlength : stays.length = entered events := by
    have hmap := harrivals.length_eq
    rwa [List.length_map, List.length_map, ← entered_visits h] at hmap
  -- sums do not see the order
  have hentries : secondsSum (stays.map Prod.fst) = secondsSum (ofType enterEventType events) :=
    ((harrivals.trans (entries_perm h).symm).map _).sum_eq
  have hexits : secondsSum (stays.map Prod.snd) = secondsSum (ofType exitEventType events) :=
    ((hdepartures.trans (exits_perm h).symm).map _).sum_eq
  unfold meanStay
  split
  · next hnone =>
    rw [← hlength, hnone, List.length_nil, Nat.cast_zero, div_zero]
  · rw [sum_totalSeconds, hentries, hexits, hlength]
    rfl

theorem meanStay_visits (h : events.Perm (visits.flatMap Visit.events)) :
    meanStay (visits.map Visit.pair) = dwellSum events / entered events := by
  refine meanStay_eq h ?_ ?_
  · rw [List.map_map]
    exact .refl _
  · rw [List.map_map]
    exact .refl _

/-! ### The peak -/

def arrivals (entries : List NormalizedEvent) : List (Datetime × Int) :=
  entries.map fun event => (event.timestamp, 1)

def departures (exits : List NormalizedEvent) : List (Datetime × Int) :=
  exits.map fun event => (event.timestamp, -1)

/-- The sort is stable, so the arrivals of an instant stay in front of its departures. -/
theorem timeline_swept (entries exits : List NormalizedEvent) : Swept (timeline entries exits) := by
  have hboth : (arrivals entries ++ departures exits).Pairwise fun item item' => item'.2 ≤ item.2 := by
    refine List.pairwise_append.mpr ⟨?_, ?_, ?_⟩
    · exact List.pairwise_map.mpr (List.pairwise_of_forall fun _ _ => le_rfl)
    · exact List.pairwise_map.mpr (List.pairwise_of_forall fun _ _ => le_rfl)
    · intro item hitem item' hitem'
      obtain ⟨arrival, -, rfl⟩ := List.mem_map.mp hitem
      obtain ⟨departure, -, rfl⟩ := List.mem_map.mp hitem'
      exact neg_one_lt_zero.le.trans zero_le_one
  exact pairwise_sortBy hboth

/-- An entry counts from its instant on. -/
theorem levelAt_arrival (enter : NormalizedEvent) (t : Datetime) :
    levelAt (arrivals [enter]) t = if enter.timestamp ≤ t then 1 else 0 := by
  rw [arrivals, List.map_singleton, levelAt_singleton]
  simp only [countsAt_iff, zero_lt_one, and_true, le_iff_lt_or_eq]

/-- An exit counts after its instant. -/
theorem levelAt_departure (exit : NormalizedEvent) (t : Datetime) :
    levelAt (departures [exit]) t = if exit.timestamp < t then -1 else 0 := by
  rw [departures, List.map_singleton, levelAt_singleton]
  simp only [countsAt_iff, (neg_one_lt_zero (R := Int)).not_gt, and_false, or_false]

/-- A visit counts from its arrival on, and no longer after its departure. -/
theorem levelAt_visit (visit : Visit) (t : Datetime) :
    levelAt (arrivals [visit.enter]) t + levelAt (departures [visit.exit]) t =
      if visit.enter.timestamp ≤ t ∧ t ≤ visit.exit.timestamp then 1 else 0 := by
  rw [levelAt_arrival, levelAt_departure]
  -- before the arrival, during the visit, or after the departure
  have hordered := visit.ordered
  by_cases henter : visit.enter.timestamp ≤ t
  · by_cases hexit : t ≤ visit.exit.timestamp
    · rw [if_pos henter, if_neg (not_lt.mpr hexit), if_pos ⟨henter, hexit⟩, add_zero]
    · rw [if_pos henter, if_pos (not_le.mp hexit), if_neg fun h => hexit h.2, add_neg_cancel]
  · have hbefore : ¬ visit.exit.timestamp < t := fun h => henter (hordered.trans h.le)
    rw [if_neg henter, if_neg hbefore, if_neg fun h => henter h.1, add_zero]

theorem levelAt_visits (visits : List Visit) (t : Datetime) :
    levelAt (arrivals (visits.map Visit.enter)) t + levelAt (departures (visits.map Visit.exit)) t =
      presentAt visits t := by
  induction visits with
  | nil => rfl
  | cons visit visits ih =>
    have harrivals : arrivals ((visit :: visits).map Visit.enter) =
        arrivals [visit.enter] ++ arrivals (visits.map Visit.enter) := rfl
    have hdepartures : departures ((visit :: visits).map Visit.exit) =
        departures [visit.exit] ++ departures (visits.map Visit.exit) := rfl
    rw [harrivals, hdepartures, levelAt_append, levelAt_append, add_add_add_comm, ih, levelAt_visit,
      presentAt_cons, Nat.cast_add, add_comm, Nat.cast_ite, Nat.cast_one, Nat.cast_zero]

/-- The level of an instant is the number of those who are present. -/
theorem levelAt_timeline (h : events.Perm (visits.flatMap Visit.events)) (t : Datetime) :
    levelAt (timeline (ofType enterEventType events) (ofType exitEventType events)) t =
      presentAt visits t := by
  have hperm : (timeline (ofType enterEventType events) (ofType exitEventType events)).Perm
      (arrivals (visits.map Visit.enter) ++ departures (visits.map Visit.exit)) :=
    (sortBy_perm _ _).trans (((entries_perm h).map _).append ((exits_perm h).map _))
  rw [levelAt_perm hperm, levelAt_append, levelAt_visits]

/-- The peak is the largest number of those who are present at an instant. -/
theorem isGreatest_peak (h : events.Perm (visits.flatMap Visit.events)) :
    IsGreatest (Set.range fun t => (presentAt visits t : Int)) (peak events) := by
  have hsweep : IsGreatest _ (peak events) :=
    isGreatest_sweep (timeline_swept (ofType enterEventType events) (ofType exitEventType events))
  have hrange : levelAt (timeline (ofType enterEventType events) (ofType exitEventType events)) =
      fun t => (presentAt visits t : Int) := funext (levelAt_timeline h)
  rw [hrange] at hsweep
  refine ⟨?_, fun level hlevel => hsweep.2 (.inr hlevel)⟩
  rcases hsweep.1 with hzero | hlevel
  · -- the sweep never rose: there is no visit, or else somebody was there when entering
    cases visits with
    | nil => exact ⟨⟨0, by decide⟩, hzero.symm⟩
    | cons visit visits =>
      have hthere := hsweep.2 (.inr ⟨visit.enter.timestamp, rfl⟩)
      rw [hzero] at hthere
      refine ⟨visit.enter.timestamp, ?_⟩
      rw [hzero]
      exact le_antisymm hthere (Int.natCast_nonneg _)
  · exact hlevel

/-- **The metric of complete visits.** -/
theorem aggregate_visits (h : events.Perm (visits.flatMap Visit.events)) {zoneId : String}
    (hnamed : isBlank zoneId = false) (window : TimeWindow) :
    ∃ metric, aggregate events zoneId window = .ok metric ∧
      metric.totalCount = visits.length ∧
      metric.dwellTimeAvg = meanStay (visits.map Visit.pair) ∧
      IsGreatest (Set.range fun t => (presentAt visits t : Int)) metric.occupancyPeak ∧
      (∀ stays, (stays.map Prod.fst).Perm (visits.map Visit.enter) →
        (stays.map Prod.snd).Perm (visits.map Visit.exit) →
          meanStay stays = metric.dwellTimeAvg) ∧
      ∀ events', events'.Perm events → aggregate events' zoneId window = .ok metric := by
  obtain ⟨metric, hok, havg, hpeak, hcount⟩ := aggregate_summarizes ⟨visits, h⟩ hnamed window
  refine ⟨metric, hok, ?_, ?_, ?_, fun stays harrivals hdepartures => ?_, fun events' hperm => ?_⟩
  · rw [hcount, entered_visits h]
  · rw [havg, meanStay_visits h]
  · exact hpeak ▸ isGreatest_peak h
  · rw [havg, meanStay_eq h harrivals hdepartures]
  · -- the other order has the same visits
    have h' := hperm.trans h
    calc aggregate events' zoneId window
        = OccupancyMetric.create zoneId window (dwellSum events' / entered events') (peak events')
            (entered events') := aggregate_eq ⟨visits, h'⟩ zoneId window
      _ = OccupancyMetric.create zoneId window (dwellSum events / entered events) (peak events)
            (entered events) := by
          rw [← meanStay_visits h', ← meanStay_visits h, entered_visits h', ← entered_visits h,
            (isGreatest_peak h').unique (isGreatest_peak h)]
      _ = .ok metric := by rw [← aggregate_eq ⟨visits, h⟩, hok]

end Visits

/-- Somebody comes in the second of the departure of another. -/
def successor : Visit where
  enter := ⟨"enter", "cam-1", firstVisit.exit.timestamp, enter_typed, camera_placed⟩
  exit := secondVisit.exit
  enters := rfl
  exits := rfl
  ordered := by decide

/-- The departures come first and are of the other visit. -/
theorem aggregate_visits_successor :
    ∃ metric, aggregate [successor.exit, firstVisit.exit, successor.enter, firstVisit.enter]
        "zone-01" ⟨⟨0, by decide⟩, ⟨60000000, by decide⟩, by decide⟩ = .ok metric ∧
      metric.totalCount = 2 ∧
      metric.dwellTimeAvg = meanStay ([firstVisit, successor].map Visit.pair) ∧
      IsGreatest (Set.range fun t => (presentAt [firstVisit, successor] t : Int))
        metric.occupancyPeak := by
  have hperm : [successor.exit, firstVisit.exit, successor.enter, firstVisit.enter].Perm
      ([firstVisit, successor].flatMap Visit.events) :=
    List.reverse_perm [firstVisit.enter, successor.enter, firstVisit.exit, successor.exit] |>.trans
      (.cons _ (.swap _ _ _))
  obtain ⟨metric, hok, hcount, havg, hpeak, -⟩ :=
    aggregate_visits hperm zone_named ⟨⟨0, by decide⟩, ⟨60000000, by decide⟩, by decide⟩
  exact ⟨metric, hok, hcount, havg, hpeak⟩

end Ods.S5
