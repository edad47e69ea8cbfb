import Mathlib.Algebra.Order.BigOperators.Group.List
import Mathlib.Algebra.Order.Field.Basic
import Mathlib.Tactic.Ring
import OdsMod2.Framework.BinaryRounding
import OdsMod2.Framework.SortBy
import OdsMod2.S5.Metrics

/-!
# From events to metrics, and from metrics to coarser ones

`DwellTimeAggregationStrategy` turns the events of a zone into a metric, `DownsamplingService`
turns metrics into one of a longer window. The two compute the same numbers by different ways; this
module has both, and what each of them depends on.

The average is a `float`. What is said of its value is said of exact arithmetic (`aggregate`).
Whether the checks of the metric let it pass depends on the rounding, and there it is computed as a
`float` (`Arithmetic.double`).
-/

namespace Ods.S5

open BinaryRounding

def enterEventType : String := "enter"

def exitEventType : String := "exit"

/-! ### Aggregation -/

/-- The events of one type, by time. -/
def ofType (eventType : String) (events : List NormalizedEvent) : List NormalizedEvent :=
  sortBy NormalizedEvent.timestamp (events.filter fun event => event.eventType = eventType)

/-- `(later - earlier).total_seconds()`. -/
def totalSeconds (later earlier : Datetime) : ℚ :=
  ((later.micros : ℚ) - earlier.micros) / 1000000

/-- What becomes of a quotient, and how `sum` adds up. -/
structure Arithmetic where
  round : ℚ → ℚ
  sum : List ℚ → ℚ

/-- Nothing is rounded. -/
def Arithmetic.exact : Arithmetic :=
  ⟨id, List.sum⟩

/-- Of `float`s. How `sum` rounds depends on the release of Python. -/
def Arithmetic.double (sum : List ℚ → ℚ) : Arithmetic :=
  ⟨toBinary 52, sum⟩

/-- One addition of `sum` in Python 3.12: the sum so far, and what the roundings have lost. -/
def addCompensated (state : ℚ × ℚ) (x : ℚ) : ℚ × ℚ :=
  let next := toBinary 52 (state.1 + x)
  let lost :=
    if |x| ≤ |state.1| then toBinary 52 (toBinary 52 (state.1 - next) + x)
    else toBinary 52 (toBinary 52 (x - next) + state.1)
  (next, toBinary 52 (state.2 + lost))

/-- `sum` of `float`s in Python 3.12. The first one is added to the integer 0, which changes
nothing. -/
def sumCompensated : List ℚ → ℚ
  | [] => 0
  | first :: rest =>
    let state := rest.foldl addCompensated (first, 0)
    if state.2 = 0 then state.1 else toBinary 52 (state.1 + state.2)

/-- The pairs of `_average_dwell_time`, each as its duration. -/
def durations (arithmetic : Arithmetic) (entries exits : List NormalizedEvent) : List ℚ :=
  -- the i-th entry with the i-th exit, whoever they are; what is left over is not counted
  (entries.zip exits).map fun pair =>
    arithmetic.round (totalSeconds pair.2.timestamp pair.1.timestamp)

/-- `_average_dwell_time`. -/
def averageDwellTimeIn (arithmetic : Arithmetic) (entries exits : List NormalizedEvent) : ℚ :=
  let durations := durations arithmetic entries exits
  if durations = [] then 0
  else arithmetic.round (arithmetic.sum durations / durations.length)

/-- `_average_dwell_time` in exact arithmetic. -/
def averageDwellTime (entries exits : List NormalizedEvent) : ℚ :=
  averageDwellTimeIn .exact entries exits

/-- Arrivals and departures, by time; of one moment, the arrivals come first. -/
def timeline (entries exits : List NormalizedEvent) : List (Datetime × Int) :=
  sortBy Prod.fst
    (entries.map (fun event => (event.timestamp, (1 : Int))) ++
      exits.map fun event => (event.timestamp, (-1 : Int)))

/-- One step of the loop: the current occupancy and the peak so far. -/
def occupancyStep (state : Int × Int) (item : Datetime × Int) : Int × Int :=
  (state.1 + item.2, max state.2 (state.1 + item.2))

/-- `_peak_concurrency`. -/
def peakConcurrency (entries exits : List NormalizedEvent) : Int :=
  ((timeline entries exits).foldl occupancyStep (0, 0)).2

/-- `DwellTimeAggregationStrategy.aggregate`. -/
def aggregateIn (arithmetic : Arithmetic) (events : List NormalizedEvent) (zoneId : String)
    (window : TimeWindow) : Except Raised OccupancyMetric :=
  let entries := ofType enterEventType events
  let exits := ofType exitEventType events
  OccupancyMetric.create zoneId window (averageDwellTimeIn arithmetic entries exits)
    (peakConcurrency entries exits) entries.length

/-- `DwellTimeAggregationStrategy.aggregate` in exact arithmetic. -/
def aggregate (events : List NormalizedEvent) (zoneId : String) (window : TimeWindow) :
    Except Raised OccupancyMetric :=
  aggregateIn .exact events zoneId window

/-! ### Downsampling -/

/-- `_weighted_dwell_time_avg`. -/
def weightedDwellTimeAvg (metrics : List OccupancyMetric) (totalCount : Int) : ℚ :=
  -- nobody to weigh by: the plain mean
  if totalCount = 0 then (metrics.map OccupancyMetric.dwellTimeAvg).sum / metrics.length
  else (metrics.map fun metric => metric.dwellTimeAvg * (metric.totalCount : ℚ)).sum / totalCount

/-- `DownsamplingService.rollup`. -/
def rollup (metrics : List OccupancyMetric) (zoneId : String) (targetWindow : TimeWindow) :
    Except Raised OccupancyMetric :=
  match metrics with
  | [] =>
    .error (.invalidOccupancyMetric "Não é possível consolidar uma lista vazia de métricas.")
  | metric :: rest =>
    let totalCount := ((metric :: rest).map OccupancyMetric.totalCount).sum
    let occupancyPeak :=
      (rest.map OccupancyMetric.occupancyPeak).foldl max metric.occupancyPeak
    OccupancyMetric.create zoneId targetWindow (weightedDwellTimeAvg (metric :: rest) totalCount)
      occupancyPeak totalCount

/-- The weights are counts, so the average is that of the metrics. -/
theorem weightedDwellTimeAvg_nonneg (metrics : List OccupancyMetric) {totalCount : Int}
    (hcount : 0 ≤ totalCount) : 0 ≤ weightedDwellTimeAvg metrics totalCount := by
  unfold weightedDwellTimeAvg
  split
  · refine div_nonneg (List.sum_nonneg fun x hx => ?_) (Nat.cast_nonneg _)
    obtain ⟨metric, -, rfl⟩ := List.mem_map.mp hx
    exact metric.dwellTimeAvg_nonneg
  · refine div_nonneg (List.sum_nonneg fun x hx => ?_) (Int.cast_nonneg hcount)
    obtain ⟨metric, -, rfl⟩ := List.mem_map.mp hx
    exact mul_nonneg metric.dwellTimeAvg_nonneg (Int.cast_nonneg metric.totalCount_nonneg)

theorem sum_totalCount_nonneg (metrics : List OccupancyMetric) :
    0 ≤ (metrics.map OccupancyMetric.totalCount).sum := by
  refine List.sum_nonneg fun x hx => ?_
  obtain ⟨metric, -, rfl⟩ := List.mem_map.mp hx
  exact metric.totalCount_nonneg

theorem le_foldl_max (xs : List Int) (initial : Int) : initial ≤ xs.foldl max initial := by
  induction xs generalizing initial with
  | nil => exact le_rfl
  | cons x xs ih => exact (le_max_left _ _).trans (ih _)

theorem foldl_max_le_iff (xs : List Int) (initial bound : Int) :
    xs.foldl max initial ≤ bound ↔ initial ≤ bound ∧ ∀ x ∈ xs, x ≤ bound := by
  induction xs generalizing initial with
  | nil => simp
  | cons x xs ih => rw [List.foldl_cons, ih, max_le_iff, List.forall_mem_cons, and_assoc]

/-- Whatever there is can be rolled up. -/
theorem rollup_cons_eq_ok (metric : OccupancyMetric) (rest : List OccupancyMetric) {zoneId : String}
    (hnamed : isBlank zoneId = false) (targetWindow : TimeWindow) :
    ∃ consolidated, rollup (metric :: rest) zoneId targetWindow = .ok consolidated :=
  ⟨_, OccupancyMetric.create_eq_ok hnamed
    (weightedDwellTimeAvg_nonneg _ (sum_totalCount_nonneg _))
    (metric.occupancyPeak_nonneg.trans (le_foldl_max _ _)) (sum_totalCount_nonneg _)⟩

/-! ### The average -/

/-- The instant in seconds. -/
def Datetime.seconds (moment : Datetime) : ℚ :=
  (moment.micros : ℚ) / 1000000

def secondsSum (events : List NormalizedEvent) : ℚ :=
  (events.map fun event => event.timestamp.seconds).sum

theorem totalSeconds_eq (later earlier : Datetime) :
    totalSeconds later earlier = later.seconds - earlier.seconds :=
  sub_div _ _ _

/-- The pairs are those of the earliest entries and exits, as many as there are of both. -/
theorem averageDwellTime_eq (entries exits : List NormalizedEvent) :
    averageDwellTime entries exits =
      (secondsSum (exits.take entries.length) - secondsSum (entries.take exits.length)) /
        (min entries.length exits.length : Nat) := by
  -- the sum of the differences is the difference of the sums, over what is paired
  have hsum : ((entries.zip exits).map
      fun pair => totalSeconds pair.2.timestamp pair.1.timestamp).sum =
        secondsSum (exits.take entries.length) - secondsSum (entries.take exits.length) := by
    induction entries generalizing exits with
    | nil => simp [secondsSum]
    | cons enter entries ih =>
      cases exits with
      | nil => simp [secondsSum]
      | cons exit exits =>
        rw [List.zip_cons_cons, List.map_cons, List.sum_cons, ih, totalSeconds_eq]
        simp only [secondsSum, List.length_cons, List.take_succ_cons, List.map_cons, List.sum_cons]
        ring
  have hlength : (durations .exact entries exits).length = min entries.length exits.length := by
    rw [durations, List.length_map, List.length_zip]
  rw [averageDwellTime, averageDwellTimeIn]
  split
  · next hnone =>
    rw [hnone, List.length_nil] at hlength
    rw [← hlength, Nat.cast_zero, div_zero]
  · rw [← hsum, ← hlength]
    rfl

/-- The sign of the average is that of the sum. -/
theorem averageDwellTimeIn_nonneg_iff (sum : List ℚ → ℚ) (entries exits : List NormalizedEvent) :
    0 ≤ averageDwellTimeIn (.double sum) entries exits ↔
      durations (.double sum) entries exits = [] ∨
        0 ≤ sum (durations (.double sum) entries exits) := by
  rw [averageDwellTimeIn]
  split
  · next hnone => exact iff_of_true le_rfl (.inl hnone)
  · next hsome =>
    have hlength : 0 < (durations (.double sum) entries exits).length :=
      List.length_pos_iff.mpr hsome
    have hsign : 0 ≤ toBinary 52 (sum (durations (.double sum) entries exits) /
        (durations (.double sum) entries exits).length) ↔
          0 ≤ sum (durations (.double sum) entries exits) := by
      rw [toBinary_nonneg_iff, le_div_iff₀ (Nat.cast_pos.mpr hlength), zero_mul]
    exact hsign.trans (or_iff_right hsome).symm

/-! ### The sweep over the timeline -/

/-- The sweep ends with the sum of all changes. -/
theorem foldl_occupancyStep_fst (items : List (Datetime × Int)) (state : Int × Int) :
    (items.foldl occupancyStep state).1 = state.1 + (items.map Prod.snd).sum := by
  induction items generalizing state with
  | nil => exact (add_zero _).symm
  | cons item items ih =>
    rw [List.foldl_cons, ih, List.map_cons, List.sum_cons]
    exact add_assoc _ _ _

/-- A peak seen before only competes with the peaks to come. -/
theorem foldl_occupancyStep_max (items : List (Datetime × Int)) (current earlier peak : Int) :
    (items.foldl occupancyStep (current, max earlier peak)).2 =
      max earlier (items.foldl occupancyStep (current, peak)).2 := by
  induction items generalizing current peak with
  | nil => rfl
  | cons item items ih =>
    rw [List.foldl_cons, List.foldl_cons, occupancyStep, occupancyStep, max_assoc]
    exact ih _ _

theorem peakConcurrency_nonneg (entries exits : List NormalizedEvent) :
    0 ≤ peakConcurrency entries exits := by
  -- the sweep starts from a peak of zero
  have h := foldl_occupancyStep_max (timeline entries exits) 0 0 0
  rw [max_self] at h
  rw [peakConcurrency, h]
  exact le_max_left _ _

/-- **Admissible aggregates.** -/
theorem aggregateIn_isOk_iff (arithmetic : Arithmetic) (events : List NormalizedEvent)
    {zoneId : String} (hnamed : isBlank zoneId = false) (window : TimeWindow) :
    (∃ metric, aggregateIn arithmetic events zoneId window = .ok metric) ↔
      0 ≤ averageDwellTimeIn arithmetic (ofType enterEventType events)
        (ofType exitEventType events) := by
  constructor
  · rintro ⟨metric, hok⟩
    by_contra hneg
    rw [aggregateIn, OccupancyMetric.create, dif_neg (by rw [hnamed]; decide),
      dif_pos (not_le.mp hneg)] at hok
    cases hok
  · intro havg
    exact ⟨_, OccupancyMetric.create_eq_ok hnamed havg (peakConcurrency_nonneg _ _)
      (Int.natCast_nonneg _)⟩

/-! ### Names that are not blank -/

theorem enter_typed : isBlank "enter" = false := by
  decide

theorem exit_typed : isBlank "exit" = false := by
  decide

theorem camera_placed : isBlank "cam-1" = false := by
  decide

theorem zone_named : isBlank "zone-01" = false := by
  decide

end Ods.S5
