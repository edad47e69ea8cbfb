import OdsMod2.Framework.ExceptList
import OdsMod2.S5.Aggregation

/-!
# Aggregation over moving windows

`AggregateDwellTimeUseCase` aggregates the events of a zone over windows that end at one instant,
and saves the metrics one by one. A window cuts through visits: the exit of a visit that began
before it is paired with a later entry. When the durations of a window add up to less than nothing,
the metric is refused by its own checks, and the windows before it have been saved already.

The durations are `float`s. Where the exact ones cancel out, what is left of them depends on their
rounding, so the condition is on the sum as it is computed (`ExitsKeepUp`), whatever `sum` rounds.
-/

namespace Ods.S5

/-! ### Windows -/

/-- `MovingWindowGenerator.generate`. -/
def generate (referenceTime : Datetime) (sizesSeconds : List Int) :
    Except Raised (List TimeWindow) :=
  sizesSeconds.mapM fun sizeSeconds => do
    let startTime ← referenceTime.minusSeconds sizeSeconds
    TimeWindow.create startTime referenceTime

/-- The window is the one of this size up to the reference time. -/
def TimeWindow.EndsAt (window : TimeWindow) (referenceTime : Datetime) (sizeSeconds : Int) : Prop :=
  window.endTime = referenceTime ∧
    (window.startTime.micros : Int) + sizeSeconds * 1000000 = referenceTime.micros

/-- There is at most one. -/
theorem TimeWindow.EndsAt.unique {window window' : TimeWindow} {referenceTime : Datetime}
    {sizeSeconds : Int} (h : window.EndsAt referenceTime sizeSeconds)
    (h' : window'.EndsAt referenceTime sizeSeconds) : window = window' := by
  have hmicros := h.2
  have hmicros' := h'.2
  have hstart : window.startTime = window'.startTime := Datetime.ext_micros (by omega)
  have hend : window.endTime = window'.endTime := h.1.trans h'.1.symm
  cases window
  cases window'
  cases hstart
  cases hend
  rfl

/-! ### The use case -/

structure OccupancyMetricDTO where
  zoneId : String
  dwellTimeAvg : ℚ
  occupancyPeak : Int
  totalCount : Int

/-- `OccupancyMetricDTO.from_entity`. -/
def OccupancyMetricDTO.fromEntity (metric : OccupancyMetric) : OccupancyMetricDTO :=
  ⟨metric.zoneId, metric.dwellTimeAvg, metric.occupancyPeak, metric.totalCount⟩

/-- What has been saved in a repository, with its granularity. -/
abbrev SavedMetrics := List (OccupancyMetric × String)

/-- `GRANULARITY_LABELS`, and the label of any other size. -/
def granularityLabel (sizeSeconds : Int) : String :=
  if sizeSeconds = 60 then "1m"
  else if sizeSeconds = 900 then "15m"
  else if sizeSeconds = 3600 then "1h"
  else toString sizeSeconds ++ "s"

def eventsInWindow (events : List NormalizedEvent) (window : TimeWindow) : List NormalizedEvent :=
  events.filter fun event =>
    decide (window.startTime ≤ event.timestamp) && decide (event.timestamp ≤ window.endTime)

/-- The loop of `execute`. -/
def aggregateWindows (sum : List ℚ → ℚ) (events : List NormalizedEvent) (zoneId : String) :
    List (Int × TimeWindow) → SavedMetrics → Except Raised (List OccupancyMetricDTO) × SavedMetrics
  | [], saved => (.ok [], saved)
  | (sizeSeconds, window) :: rest, saved =>
    match aggregateIn (.double sum) (eventsInWindow events window) zoneId window with
    -- what has been saved stays saved
    | .error raised => (.error raised, saved)
    | .ok metric =>
      let (dtos, saved) :=
        aggregateWindows sum events zoneId rest (saved ++ [(metric, granularityLabel sizeSeconds)])
      (dtos.map (OccupancyMetricDTO.fromEntity metric :: ·), saved)

/-- `AggregateDwellTimeUseCase.execute`. -/
def aggregateDwellTime (sum : List ℚ → ℚ) (events : List NormalizedEvent) (zoneId : String)
    (referenceTime : Datetime) (windowSizesSeconds : List Int) (saved : SavedMetrics) :
    Except Raised (List OccupancyMetricDTO) × SavedMetrics :=
  match generate referenceTime windowSizesSeconds with
  | .error raised => (.error raised, saved)
  | .ok windows => aggregateWindows sum events zoneId (windowSizesSeconds.zip windows) saved

/-- `DEFAULT_WINDOW_SIZES_SECONDS`. -/
def defaultWindowSizesSeconds : List Int := [60, 900, 3600]

/-! ### The windows that are generated -/

section Generate

variable {referenceTime : Datetime} {sizeSeconds : Int} {sizesSeconds : List Int}

theorem minusSeconds_eq_ok_iff {startTime : Datetime} :
    referenceTime.minusSeconds sizeSeconds = .ok startTime ↔
      (startTime.micros : Int) + sizeSeconds * 1000000 = referenceTime.micros := by
  unfold Datetime.minusSeconds
  dsimp only
  split
  · next hrange =>
    constructor
    · intro h
      obtain rfl := Except.ok.inj h
      dsimp only
      omega
    · intro h
      exact congrArg Except.ok (Datetime.ext_micros (by dsimp only; omega))
  · next hrange =>
    have hlt := startTime.inRange
    refine ⟨fun h => (by cases h), fun h => absurd ?_ hrange⟩
    omega

theorem generate_eq_ok_iff {windows : List TimeWindow} :
    generate referenceTime sizesSeconds = .ok windows ↔
      List.Forall₂ (fun size window => window.EndsAt referenceTime size) sizesSeconds windows := by
  -- the body of the loop, for one size
  have hwindow : ∀ size (window : TimeWindow),
      (do
        let startTime ← referenceTime.minusSeconds size
        TimeWindow.create startTime referenceTime) = .ok window ↔
        window.EndsAt referenceTime size := by
    intro size window
    constructor
    · intro h
      cases hstart : referenceTime.minusSeconds size with
      | error raised =>
        rw [hstart] at h
        cases h
      | ok startTime =>
        rw [hstart] at h
        change TimeWindow.create startTime referenceTime = .ok window at h
        unfold TimeWindow.create at h
        split at h
        · obtain rfl := Except.ok.inj h
          exact ⟨rfl, minusSeconds_eq_ok_iff.mp hstart⟩
        · cases h
    · rintro ⟨rfl, hmicros⟩
      rw [minusSeconds_eq_ok_iff.mpr hmicros]
      exact dif_pos window.ordered
  rw [generate, mapM_eq_ok_iff]
  exact ⟨fun h => h.imp fun _ _ => (hwindow _ _).mp, fun h => h.imp fun _ _ => (hwindow _ _).mpr⟩

/-- A window that begins within the range of instants. -/
theorem exists_endsAt (hpositive : 0 < sizeSeconds)
    (hrange : sizeSeconds * 1000000 ≤ referenceTime.micros) :
    ∃ window : TimeWindow, window.EndsAt referenceTime sizeSeconds := by
  have hlt := referenceTime.inRange
  refine ⟨⟨⟨(referenceTime.micros - sizeSeconds * 1000000 : Int).toNat, by omega⟩, referenceTime,
    Datetime.lt_iff.mpr ?_⟩, rfl, ?_⟩
  · dsimp only
    omega
  · dsimp only
    omega

end Generate

/-! ### When every window is aggregated -/

/-- The earliest entries and exits, paired by their order, have durations that add up to nothing
negative. -/
def ExitsKeepUp (sum : List ℚ → ℚ) (events : List NormalizedEvent) : Prop :=
  let durations :=
    durations (.double sum) (ofType enterEventType events) (ofType exitEventType events)
  durations = [] ∨ 0 ≤ sum durations

instance (sum : List ℚ → ℚ) (events : List NormalizedEvent) : Decidable (ExitsKeepUp sum events) :=
  inferInstanceAs (Decidable (_ ∨ _))

section Execute

variable {sum : List ℚ → ℚ} {events : List NormalizedEvent} {zoneId : String}

theorem aggregateIn_ok_iff (hnamed : isBlank zoneId = false) (events : List NormalizedEvent)
    (window : TimeWindow) :
    (∃ metric, aggregateIn (.double sum) events zoneId window = .ok metric) ↔
      ExitsKeepUp sum events :=
  (aggregateIn_isOk_iff _ events hnamed window).trans (averageDwellTimeIn_nonneg_iff sum _ _)

/-- The loop runs through. -/
theorem aggregateWindows_eq_ok {sizes : List Int} {windows : List TimeWindow}
    {metrics : List OccupancyMetric} (hlength : sizes.length = windows.length)
    (h : List.Forall₂ (fun window metric =>
      aggregateIn (.double sum) (eventsInWindow events window) zoneId window = .ok metric)
      windows metrics)
    (saved : SavedMetrics) :
    aggregateWindows sum events zoneId (sizes.zip windows) saved =
      (.ok (metrics.map OccupancyMetricDTO.fromEntity),
        saved ++ metrics.zip (sizes.map granularityLabel)) := by
  induction h generalizing sizes saved with
  | nil => rw [List.zip_nil_right, aggregateWindows, List.zip_nil_left, List.append_nil]; rfl
  | @cons window metric windows metrics hmetric _ ih =>
    cases sizes with
    | nil => cases hlength
    | cons size sizes =>
      rw [List.zip_cons_cons, aggregateWindows, hmetric]
      dsimp only
      rw [ih (Nat.succ.inj hlength), List.map_cons, List.map_cons, List.zip_cons_cons,
        List.append_assoc]
      rfl

/-- A window that cannot be aggregated ends the loop. -/
theorem aggregateWindows_eq_error {sizes : List Int} {windows : List TimeWindow}
    (hlength : sizes.length = windows.length) {window : TimeWindow} (hmem : window ∈ windows)
    (hwindow : ∀ metric,
      aggregateIn (.double sum) (eventsInWindow events window) zoneId window ≠ .ok metric)
    (saved : SavedMetrics) :
    ∀ dtos, (aggregateWindows sum events zoneId (sizes.zip windows) saved).1 ≠ .ok dtos := by
  induction windows generalizing sizes saved with
  | nil => cases hmem
  | cons first windows ih =>
    cases sizes with
    | nil => cases hlength
    | cons size sizes =>
      intro dtos hok
      rw [List.zip_cons_cons, aggregateWindows] at hok
      cases hfirst : aggregateIn (.double sum) (eventsInWindow events first) zoneId first with
      | error raised =>
        rw [hfirst] at hok
        cases hok
      | ok metric =>
        rw [hfirst] at hok
        rcases List.mem_cons.mp hmem with rfl | hmem
        · -- the window that cannot be aggregated comes first
          exact hwindow metric hfirst
        · dsimp only at hok
          cases hrest : (aggregateWindows sum events zoneId (sizes.zip windows)
              (saved ++ [(metric, granularityLabel size)])).1 with
          | error raised =>
            rw [hrest] at hok
            cases hok
          -- it is one of the rest
          | ok dtos' => exact ih (Nat.succ.inj hlength) hmem _ dtos' hrest

/-- One metric for each window is returned, and exactly these are saved. -/
def AggregatesAll (zoneId : String) (referenceTime : Datetime) (sizesSeconds : List Int)
    (saved : SavedMetrics) (outcome : Except Raised (List OccupancyMetricDTO) × SavedMetrics) :
    Prop :=
  ∃ metrics : List OccupancyMetric,
    List.Forall₂ (fun size metric =>
      metric.zoneId = zoneId ∧ metric.window.EndsAt referenceTime size) sizesSeconds metrics ∧
    outcome = (.ok (metrics.map OccupancyMetricDTO.fromEntity),
      saved ++ metrics.zip (sizesSeconds.map granularityLabel))

end Execute

/-! ### A window that cuts a visit -/

/-- Two visits, the second still going on. -/
def cutVisits : List NormalizedEvent :=
  [⟨"enter", "cam-1", ⟨6200000000, by decide⟩, by decide, by decide⟩,
    ⟨"exit", "cam-1", ⟨6400000000, by decide⟩, by decide, by decide⟩,
    ⟨"enter", "cam-1", ⟨7000000000, by decide⟩, by decide, by decide⟩]

def twoHours : Datetime :=
  ⟨7200000000, by decide⟩

end Ods.S5
