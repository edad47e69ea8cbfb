import OdsMod2.S5.AggregateDwellTime

/-!
# Minute after minute

The use case runs once a minute, so the minute windows of its runs lie side by side. Both bounds of
a window belong to it: the runs lose no entry, and count one that falls on the bound between two
minutes in both of them (`minuteCounts`).
-/

namespace Ods.S5

/-- `t0 + 60 * minutes` seconds. -/
def minuteMark (t0 : Datetime) (minutes : Nat) : Nat :=
  t0.micros + 60 * 1000000 * minutes

/-- The reference times `t0 + 60 s`, `t0 + 120 s`, …; a sum past the last instant raises. -/
def referenceTimes (t0 : Datetime) (k : Nat) : Except Raised (List Datetime) :=
  (List.range k).mapM fun j => t0.minusSeconds (-(60 * ((j + 1 : Nat) : Int)))

/-- One run after the other, with the default window sizes. -/
def aggregateEach (sum : List ℚ → ℚ) (events : List NormalizedEvent) (zoneId : String) :
    List Datetime → SavedMetrics → Except Raised (List (List OccupancyMetricDTO)) × SavedMetrics
  | [], saved => (.ok [], saved)
  | referenceTime :: rest, saved =>
    match aggregateDwellTime sum events zoneId referenceTime defaultWindowSizesSeconds saved with
    | (.error raised, saved) => (.error raised, saved)
    | (.ok dtos, saved) =>
      let (all, saved) := aggregateEach sum events zoneId rest saved
      (all.map (dtos :: ·), saved)

def aggregateMinutes (sum : List ℚ → ℚ) (events : List NormalizedEvent) (zoneId : String)
    (t0 : Datetime) (k : Nat) (saved : SavedMetrics) :
    Except Raised (List (List OccupancyMetricDTO)) × SavedMetrics :=
  match referenceTimes t0 k with
  | .error raised => (.error raised, saved)
  | .ok times => aggregateEach sum events zoneId times saved

/-- The entries that the metrics of a granularity count. -/
def countsOf (granularity : String) (metrics : SavedMetrics) : Int :=
  ((metrics.filter fun saved => saved.2 = granularity).map fun saved => saved.1.totalCount).sum

/-- The entries from one instant to another, both included. -/
def entriesBetween (events : List NormalizedEvent) (first last : Nat) : Nat :=
  events.countP fun event =>
    event.eventType = enterEventType ∧ first ≤ event.timestamp.micros ∧ event.timestamp.micros ≤ last

/-- The entries on a bound between two of the minutes. -/
def sharedEntries (events : List NormalizedEvent) (t0 : Datetime) (k : Nat) : Nat :=
  ((List.range (k - 1)).map fun j =>
    entriesBetween events (minuteMark t0 (j + 1)) (minuteMark t0 (j + 1))).sum

/-! ### One run -/

section Run

variable {sum : List ℚ → ℚ} {events : List NormalizedEvent} {zoneId : String}

/-- If the loop runs through, there is a metric for every window. -/
theorem aggregateWindows_ok {sizes : List Int} {windows : List TimeWindow}
    (hlength : sizes.length = windows.length) {saved saved' : SavedMetrics}
    {dtos : List OccupancyMetricDTO}
    (h : aggregateWindows sum events zoneId (sizes.zip windows) saved = (.ok dtos, saved')) :
    ∃ metrics, List.Forall₂ (fun window metric =>
        aggregateIn (.double sum) (eventsInWindow events window) zoneId window = .ok metric)
        windows metrics ∧
      saved' = saved ++ metrics.zip (sizes.map granularityLabel) := by
  induction windows generalizing sizes saved dtos with
  | nil =>
    rw [List.zip_nil_right] at h
    refine ⟨[], .nil, ?_⟩
    rw [List.zip_nil_left, List.append_nil]
    exact (congrArg Prod.snd h).symm
  | cons window windows ih =>
    cases sizes with
    | nil => cases hlength
    | cons size sizes =>
      rw [List.zip_cons_cons, aggregateWindows] at h
      cases hmetric : aggregateIn (.double sum) (eventsInWindow events window) zoneId window with
      | error raised =>
        rw [hmetric] at h
        cases congrArg Prod.fst h
      | ok metric =>
        rw [hmetric] at h
        dsimp only at h
        -- the other windows find this metric in the store
        cases hrest : aggregateWindows sum events zoneId (sizes.zip windows)
            (saved ++ [(metric, granularityLabel size)]) with
        | mk result saved'' =>
          rw [hrest] at h
          cases result with
          | error raised => cases congrArg Prod.fst h
          | ok dtos' =>
            obtain rfl : saved'' = saved' := congrArg Prod.snd h
            obtain ⟨metrics, hmetrics, hsaved⟩ := ih (Nat.succ.inj hlength) hrest
            refine ⟨metric :: metrics, .cons hmetric hmetrics, ?_⟩
            rw [hsaved, List.map_cons, List.zip_cons_cons, List.append_assoc]
            rfl

theorem entered_eventsInWindow (events : List NormalizedEvent) (window : TimeWindow) :
    (ofType enterEventType (eventsInWindow events window)).length =
      entriesBetween events window.startTime.micros window.endTime.micros := by
  rw [ofType, length_sortBy, eventsInWindow, List.filter_filter, ← List.countP_eq_length_filter,
    entriesBetween]
  refine List.countP_congr fun event _ => ?_
  simp [Datetime.le_iff]

/-- A run saves one metric of the minute before its reference time. -/
theorem aggregateDwellTime_minute {referenceTime : Datetime} {saved saved' : SavedMetrics}
    {dtos : List OccupancyMetricDTO}
    (h : aggregateDwellTime sum events zoneId referenceTime defaultWindowSizesSeconds saved =
      (.ok dtos, saved')) :
    ∃ metrics, saved' = saved ++ metrics ∧
      ∀ first : Nat, first + 60 * 1000000 = referenceTime.micros →
        countsOf "1m" metrics = entriesBetween events first referenceTime.micros := by
  unfold aggregateDwellTime at h
  cases hwindows : generate referenceTime defaultWindowSizesSeconds with
  | error raised =>
    rw [hwindows] at h
    cases congrArg Prod.fst h
  | ok windows =>
    rw [hwindows] at h
    have hends := generate_eq_ok_iff.mp hwindows
    obtain ⟨metrics, hmetrics, hsaved⟩ := aggregateWindows_ok hends.length_eq h
    refine ⟨_, hsaved, fun first hfirst => ?_⟩
    obtain ⟨minute, _, hminute, hlonger, rfl⟩ := List.forall₂_cons_left_iff.mp hends
    obtain ⟨quarter, _, -, hhours, rfl⟩ := List.forall₂_cons_left_iff.mp hlonger
    obtain ⟨hour, _, -, hnone, rfl⟩ := List.forall₂_cons_left_iff.mp hhours
    obtain rfl := List.forall₂_nil_left_iff.mp hnone
    obtain ⟨metric, _, hmetric, hlonger', rfl⟩ := List.forall₂_cons_left_iff.mp hmetrics
    obtain ⟨metric', _, -, hhours', rfl⟩ := List.forall₂_cons_left_iff.mp hlonger'
    obtain ⟨metric'', _, -, hnone', rfl⟩ := List.forall₂_cons_left_iff.mp hhours'
    obtain rfl := List.forall₂_nil_left_iff.mp hnone'
    -- of the three metrics, only that of the minute has its label
    have hcount : countsOf "1m" ([metric, metric', metric''].zip
        (defaultWindowSizesSeconds.map granularityLabel)) = metric.totalCount := by
      simp [countsOf, defaultWindowSizesSeconds, granularityLabel]
    obtain ⟨-, -, -, htotal⟩ := OccupancyMetric.create_fields hmetric
    have hstart : minute.startTime.micros = first := by
      have hmicros := hminute.2
      omega
    rw [hcount, htotal, entered_eventsInWindow, hstart, hminute.1]

end Run

/-! ### All runs -/

theorem countsOf_append (granularity : String) (metrics metrics' : SavedMetrics) :
    countsOf granularity (metrics ++ metrics') =
      countsOf granularity metrics + countsOf granularity metrics' := by
  rw [countsOf, List.filter_append, List.map_append, List.sum_append]
  rfl

/-- An entry on the bound is on both sides of it. -/
theorem entriesBetween_add (events : List NormalizedEvent) {first middle last : Nat}
    (hfirst : first ≤ middle) (hlast : middle ≤ last) :
    entriesBetween events first middle + entriesBetween events middle last =
      entriesBetween events first last + entriesBetween events middle middle := by
  induction events with
  | nil => rfl
  | cons event events ih =>
    unfold entriesBetween at ih ⊢
    simp only [List.countP_cons, decide_eq_true_eq]
    -- an event is before, on, or behind the bound in the middle
    by_cases henter : event.eventType = enterEventType
    · simp only [henter, true_and] at ih ⊢
      split_ifs <;> omega
    · simp only [henter, false_and, if_false]
      omega

theorem minuteMark_le (t0 : Datetime) {j k : Nat} (h : j ≤ k) : minuteMark t0 j ≤ minuteMark t0 k :=
  Nat.add_le_add_left (Nat.mul_le_mul_left _ h) _

theorem sharedEntries_succ (events : List NormalizedEvent) (t0 : Datetime) {k : Nat} (hk : 0 < k) :
    sharedEntries events t0 (k + 1) =
      sharedEntries events t0 k + entriesBetween events (minuteMark t0 k) (minuteMark t0 k) := by
  obtain ⟨n, rfl⟩ := Nat.exists_eq_add_one_of_ne_zero hk.ne'
  rw [sharedEntries, Nat.add_sub_cancel, List.range_succ, List.map_append, List.sum_append,
    List.map_singleton, List.sum_singleton]
  rfl

/-- What the metrics of the first `k` minutes count together. -/
def minuteCounts (events : List NormalizedEvent) (t0 : Datetime) (k : Nat) : Nat :=
  if k = 0 then 0 else entriesBetween events t0.micros (minuteMark t0 k) + sharedEntries events t0 k

/-- One minute more. -/
theorem minuteCounts_succ (events : List NormalizedEvent) (t0 : Datetime) (k : Nat) :
    minuteCounts events t0 (k + 1) =
      minuteCounts events t0 k + entriesBetween events (minuteMark t0 k) (minuteMark t0 (k + 1)) := by
  rw [minuteCounts, if_neg (Nat.add_one_ne_zero k), minuteCounts]
  split
  · next hzero =>
    -- the first minute shares no bound with a minute before it
    rw [hzero]
    exact Nat.add_comm _ _
  · next hzero =>
    have hsplit := entriesBetween_add events (Nat.le_add_right t0.micros (60 * 1000000 * k))
      (minuteMark_le t0 (Nat.le_add_right k 1))
    have hshared := sharedEntries_succ events t0 (Nat.pos_of_ne_zero hzero)
    unfold minuteMark at hsplit hshared ⊢
    omega

/-- The times from `k` minutes after `t0` on. -/
def FollowEach (t0 : Datetime) (times : List Datetime) (k : Nat) : Prop :=
  List.Forall₂ (fun j (time : Datetime) => time.micros = minuteMark t0 (j + 1))
    (List.range' k times.length) times

theorem referenceTimes_ok {t0 : Datetime} {k : Nat} {times : List Datetime}
    (h : referenceTimes t0 k = .ok times) : times.length = k ∧ FollowEach t0 times 0 := by
  have hall := mapM_eq_ok_iff.mp h
  have hlength : times.length = k := by
    rw [← hall.length_eq, List.length_range]
  refine ⟨hlength, ?_⟩
  rw [FollowEach, hlength, ← List.range_eq_range']
  refine hall.imp fun j time htime => ?_
  have hmicros := minusSeconds_eq_ok_iff.mp htime
  unfold minuteMark
  omega

/-- The runs from `k` minutes on. -/
theorem aggregateEach_counts {sum : List ℚ → ℚ} {events : List NormalizedEvent} {zoneId : String}
    {t0 : Datetime} {times : List Datetime} {k : Nat} (htimes : FollowEach t0 times k) {saved saved' : SavedMetrics}
    {dtos : List (List OccupancyMetricDTO)}
    (h : aggregateEach sum events zoneId times saved = (.ok dtos, saved')) :
    ∃ metrics, saved' = saved ++ metrics ∧
      minuteCounts events t0 k + countsOf "1m" metrics =
        (minuteCounts events t0 (k + times.length) : Int) := by
  induction times generalizing k saved dtos with
  | nil =>
    refine ⟨[], ?_, add_zero _⟩
    rw [List.append_nil]
    exact (congrArg Prod.snd h).symm
  | cons time times ih =>
    obtain ⟨htime, hrest⟩ := List.forall₂_cons.mp htimes
    rw [aggregateEach] at h
    cases hrun : aggregateDwellTime sum events zoneId time defaultWindowSizesSeconds saved with
    | mk result saved₁ =>
      rw [hrun] at h
      cases result with
      | error raised => cases congrArg Prod.fst h
      | ok dtos₁ =>
        dsimp only at h
        cases hothers : aggregateEach sum events zoneId times saved₁ with
        | mk others saved₂ =>
          rw [hothers] at h
          cases others with
          | error raised => cases congrArg Prod.fst h
          | ok dtos₂ =>
            obtain rfl : saved₂ = saved' := congrArg Prod.snd h
            obtain ⟨minute, rfl, hminute⟩ := aggregateDwellTime_minute hrun
            obtain ⟨later, rfl, hlater⟩ := ih hrest hothers
            -- the window of this run begins where the one before it ended
            have hfirst : minuteMark t0 k + 60 * 1000000 = time.micros := by
              rw [htime]
              unfold minuteMark
              omega
            refine ⟨minute ++ later, List.append_assoc _ _ _, ?_⟩
            rw [countsOf_append, hminute _ hfirst, htime, ← add_assoc, ← Nat.cast_add,
              ← minuteCounts_succ, hlater, List.length_cons, Nat.add_right_comm, Nat.add_assoc]

/-- **Every entry is counted, one on a bound between two minutes twice.** -/
theorem aggregateMinutes_counts (sum : List ℚ → ℚ) (events : List NormalizedEvent)
    (zoneId : String) (t0 : Datetime) {k : Nat} (hk : 0 < k) {saved saved' : SavedMetrics} {dtos : List (List OccupancyMetricDTO)}
    (h : aggregateMinutes sum events zoneId t0 k saved = (.ok dtos, saved')) :
    ∃ metrics, saved' = saved ++ metrics ∧
      countsOf "1m" metrics =
        entriesBetween events t0.micros (minuteMark t0 k) + sharedEntries events t0 k := by
  unfold aggregateMinutes at h
  cases htimes : referenceTimes t0 k with
  | error raised =>
    rw [htimes] at h
    cases congrArg Prod.fst h
  | ok times =>
    rw [htimes] at h
    obtain ⟨hlength, hfollow⟩ := referenceTimes_ok htimes
    obtain ⟨metrics, hsaved, hcounts⟩ := aggregateEach_counts hfollow h
    refine ⟨metrics, hsaved, ?_⟩
    rw [minuteCounts, if_pos rfl, Nat.cast_zero, zero_add, Nat.zero_add, hlength, minuteCounts,
      if_neg hk.ne', Nat.cast_add] at hcounts
    exact hcounts

theorem nextMinute_inRange : 7260000000 < 3652059 * 86400 * 1000000 := by
  decide

/-- Somebody comes between the first minute and the second. -/
def onTheMinute : List NormalizedEvent :=
  [⟨"enter", "cam-1", ⟨7260000000, nextMinute_inRange⟩, enter_typed, camera_placed⟩]

theorem onTheMinute_runs :
    ∃ dtos saved,
      aggregateMinutes sumCompensated onTheMinute "zone-01" twoHours 2 [] = (.ok dtos, saved) ∧
        countsOf "1m" saved = 2 := by
  have hrun :
      (aggregateMinutes sumCompensated onTheMinute "zone-01" twoHours 2 []).1.isOk = true ∧
        countsOf "1m" (aggregateMinutes sumCompensated onTheMinute "zone-01" twoHours 2 []).2 =
          2 := by
    decide +kernel
  cases houtcome : aggregateMinutes sumCompensated onTheMinute "zone-01" twoHours 2 [] with
  | mk result saved =>
    rw [houtcome] at hrun
    cases result with
    | error raised => cases hrun.1
    | ok dtos => exact ⟨dtos, saved, rfl, hrun.2⟩

theorem aggregateMinutes_counts_onTheMinute :
    ∃ metrics,
      (aggregateMinutes sumCompensated onTheMinute "zone-01" twoHours 2 []).2 = [] ++ metrics ∧
      countsOf "1m" metrics =
        entriesBetween onTheMinute twoHours.micros (minuteMark twoHours 2) +
          sharedEntries onTheMinute twoHours 2 := by
  obtain ⟨dtos, saved, hrun, -⟩ := onTheMinute_runs
  rw [hrun]
  exact aggregateMinutes_counts sumCompensated onTheMinute "zone-01" twoHours two_pos hrun

/-- The entry is counted in both minutes. -/
theorem entry_counted_twice :
    ¬ ∀ (events : List NormalizedEvent) (zoneId : String) (t0 : Datetime) (k : Nat)
      (saved metrics : SavedMetrics) (dtos : List (List OccupancyMetricDTO)), 0 < k →
        aggregateMinutes sumCompensated events zoneId t0 k saved = (.ok dtos, saved ++ metrics) →
          countsOf "1m" metrics = entriesBetween events t0.micros (minuteMark t0 k) := by
  intro h
  obtain ⟨dtos, saved, hrun, hcounts⟩ := onTheMinute_runs
  have honce := h onTheMinute "zone-01" twoHours 2 [] saved dtos two_pos hrun
  rw [hcounts] at honce
  exact absurd honce (by decide)

end Ods.S5
