import OdsMod2.S5.AggregateDwellTime

/-!
# The rollup worker and its store

`DownsamplingRollupWorker` is triggered from outside. Each time it consolidates the 1s metrics of
the last minute into a 1m metric, the 1m metrics of the last quarter of an hour into a 15m metric,
and the 15m metrics of the last hour into a 1h metric. Every hop reads what is in the store by then,
the row of the hop before it included, and inserts one row. Nothing is ever replaced: the table has
no key.
-/

namespace Ods.S5

/-! ### The store -/

/-- The columns for counts are of type INTEGER. -/
def maxInteger : Int := 2147483647

/-- `save_occupancy_metric`: a plain insert. -/
def saveOccupancyMetric (metric : OccupancyMetric) (granularity : String) (table : SavedMetrics) :
    Except Raised SavedMetrics :=
  if metric.occupancyPeak ≤ maxInteger ∧ metric.totalCount ≤ maxInteger then
    .ok (table ++ [(metric, granularity)])
  else .error .conversionError

/-- `query_metrics`: the rows whose windows lie inside the given one, by their start. The metrics are
built again from the columns; they were valid when they were saved. -/
def queryMetrics (zoneId : String) (window : TimeWindow) (granularity : String)
    (table : SavedMetrics) : List OccupancyMetric :=
  sortBy (fun metric => metric.window.startTime)
    ((table.filter fun row => decide (row.1.zoneId = zoneId ∧ row.2 = granularity ∧
      window.startTime ≤ row.1.window.startTime ∧
        row.1.window.endTime ≤ window.endTime)).map Prod.fst)

/-! ### Rolling up -/

/-- `RollupMetricsUseCase.execute`. -/
def rollupMetrics (zoneId sourceGranularity : String) (sourceWindow : TimeWindow)
    (targetGranularity : String) (targetWindow : TimeWindow) (table : SavedMetrics) :
    Except Raised OccupancyMetricDTO × SavedMetrics :=
  match rollup (queryMetrics zoneId sourceWindow sourceGranularity table) zoneId targetWindow with
  | .error raised => (.error raised, table)
  | .ok consolidated =>
    match saveOccupancyMetric consolidated targetGranularity table with
    | .error raised => (.error raised, table)
    | .ok table => (.ok (.fromEntity consolidated), table)

/-- `ROLLUP_CHAIN`. -/
def rollupChain : List (String × String × Int) :=
  [("1s", "1m", 60), ("1m", "15m", 900), ("15m", "1h", 3600)]

/-- The loop of `run`. -/
def runChain (zoneId : String) (referenceTime : Datetime) :
    List (String × String × Int) → SavedMetrics → Except Raised Unit × SavedMetrics
  | [], table => (.ok (), table)
  | (sourceGranularity, targetGranularity, windowSeconds) :: rest, table =>
    -- one size, so one window
    match generate referenceTime [windowSeconds] with
    | .error raised => (.error raised, table)
    | .ok windows =>
      match windows.head? with
      | none => (.error .indexError, table)
      | some window =>
        -- source and target window are the same; the next hop finds the new row in the table
        match rollupMetrics zoneId sourceGranularity window targetGranularity window table with
        | (.error raised, table) => (.error raised, table)
        | (.ok _, table) => runChain zoneId referenceTime rest table

/-- `DownsamplingRollupWorker.run`. -/
def run (zoneId : String) (referenceTime : Datetime) (table : SavedMetrics) :
    Except Raised Unit × SavedMetrics :=
  runChain zoneId referenceTime rollupChain table

/-- The worker is triggered at these times, one after the other; every run has to complete. -/
def runAll (zoneId : String) : List Datetime → SavedMetrics → Except Raised SavedMetrics
  | [], table => .ok table
  | referenceTime :: rest, table =>
    match run zoneId referenceTime table with
    | (.error raised, _) => .error raised
    | (.ok _, table) => runAll zoneId rest table

/-! ### What a hop reads and writes -/

/-- Two ends in microseconds; they need not be instants. -/
structure Span where
  start : Int
  stop : Int
  deriving DecidableEq

def TimeWindow.span (window : TimeWindow) : Span :=
  ⟨window.startTime.micros, window.endTime.micros⟩

/-- The last seconds before a reference time. -/
def spanBefore (referenceTime : Datetime) (seconds : Int) : Span :=
  ⟨referenceTime.micros - seconds * 1000000, referenceTime.micros⟩

/-- The condition of the query. -/
def Span.Covers (span inner : Span) : Prop :=
  span.start ≤ inner.start ∧ inner.stop ≤ span.stop

instance (span inner : Span) : Decidable (span.Covers inner) :=
  inferInstanceAs (Decidable (_ ∧ _))

theorem TimeWindow.EndsAt.span_eq {window : TimeWindow} {referenceTime : Datetime} {seconds : Int}
    (h : window.EndsAt referenceTime seconds) : window.span = spanBefore referenceTime seconds := by
  obtain ⟨rfl, hmicros⟩ := h
  rw [TimeWindow.span, spanBefore]
  congr 1
  omega

/-- What the rows of one granularity count within a span. -/
def countWithin (zoneId granularity : String) (span : Span) (table : SavedMetrics) : Int :=
  ((table.filter fun row => decide (row.1.zoneId = zoneId ∧ row.2 = granularity ∧
    span.Covers row.1.window.span)).map fun row => row.1.totalCount).sum

section Hop

variable {zoneId : String} {table table' : SavedMetrics}

theorem sum_queryMetrics (window : TimeWindow) (granularity : String) :
    ((queryMetrics zoneId window granularity table).map OccupancyMetric.totalCount).sum =
      countWithin zoneId granularity window.span table := by
  have hperm := (sortBy_perm (fun metric : OccupancyMetric => metric.window.startTime)
    ((table.filter fun row => decide (row.1.zoneId = zoneId ∧ row.2 = granularity ∧
      window.startTime ≤ row.1.window.startTime ∧
        row.1.window.endTime ≤ window.endTime)).map Prod.fst)).map OccupancyMetric.totalCount
  rw [queryMetrics, hperm.sum_eq, List.map_map, countWithin]
  simp only [Span.Covers, TimeWindow.span, Datetime.le_iff, Nat.cast_le]
  rfl

/-- A hop that completes inserts the count it has read. -/
theorem rollupMetrics_eq_ok {source target : String} {window : TimeWindow}
    {dto : OccupancyMetricDTO}
    (h : rollupMetrics zoneId source window target window table = (.ok dto, table')) :
    ∃ metric : OccupancyMetric, table' = table ++ [(metric, target)] ∧ metric.zoneId = zoneId ∧
      metric.window = window ∧ metric.totalCount = countWithin zoneId source window.span table := by
  unfold rollupMetrics at h
  cases hrollup : rollup (queryMetrics zoneId window source table) zoneId window with
  | error raised =>
    rw [hrollup] at h
    cases h
  | ok metric =>
    rw [hrollup] at h
    dsimp only at h
    unfold saveOccupancyMetric at h
    split at h
    · cases h
    · -- the save appends its row
      next table'' hsaved =>
      split_ifs at hsaved
      obtain rfl := Except.ok.inj hsaved
      obtain rfl := (Prod.ext_iff.mp h).2
      rw [← sum_queryMetrics]
      cases hquery : queryMetrics zoneId window source table with
      | nil =>
        rw [hquery] at hrollup
        cases hrollup
      | cons first rest =>
        rw [hquery] at hrollup
        obtain ⟨hzone, hwindow, -, hcount⟩ := OccupancyMetric.create_fields hrollup
        exact ⟨metric, rfl, hzone, hwindow, hcount⟩

/-- A hop of the worker that completes. -/
theorem runChain_cons_eq_ok {source target : String} {seconds : Int} {referenceTime : Datetime}
    {rest : List (String × String × Int)}
    (h : runChain zoneId referenceTime ((source, target, seconds) :: rest) table = (.ok (), table')) :
    ∃ metric : OccupancyMetric, metric.zoneId = zoneId ∧
      metric.window.span = spanBefore referenceTime seconds ∧
      metric.totalCount = countWithin zoneId source (spanBefore referenceTime seconds) table ∧
      runChain zoneId referenceTime rest (table ++ [(metric, target)]) = (.ok (), table') := by
  rw [runChain] at h
  cases hwindows : generate referenceTime [seconds] with
  | error raised =>
    rw [hwindows] at h
    cases h
  | ok windows =>
    rw [hwindows] at h
    cases generate_eq_ok_iff.mp hwindows with
    -- one size gives one window, which ends at the reference time
    | @cons _ window _ windows hend hnone =>
      dsimp only [List.head?] at h
      rcases hhop : rollupMetrics zoneId source window target window table with ⟨_ | dto, table₁⟩
      · rw [hhop] at h
        cases h
      · rw [hhop] at h
        obtain ⟨metric, rfl, hzone, rfl, hcount⟩ := rollupMetrics_eq_ok hhop
        rw [hend.span_eq] at hcount
        exact ⟨metric, hzone, hend.span_eq, hcount, h⟩

/-- One more row of the granularity that is counted. -/
theorem countWithin_snoc_same {granularity : String} {span : Span} {metric : OccupancyMetric}
    (hzone : metric.zoneId = zoneId) :
    countWithin zoneId granularity span (table ++ [(metric, granularity)]) =
      (if span.Covers metric.window.span then metric.totalCount else 0) +
        countWithin zoneId granularity span table := by
  rw [countWithin, List.filter_append, List.map_append, List.sum_append, add_comm]
  congr 1
  by_cases hcovers : span.Covers metric.window.span
  · simp [hzone, hcovers]
  · simp [hzone, hcovers]

/-- One more row of another granularity. -/
theorem countWithin_snoc_other {granularity granularity' : String} {span : Span}
    {metric : OccupancyMetric} (hne : granularity' ≠ granularity) :
    countWithin zoneId granularity span (table ++ [(metric, granularity')]) =
      countWithin zoneId granularity span table := by
  rw [countWithin, List.filter_append, List.filter_singleton]
  simp only [hne, false_and, and_false, decide_false, cond_false, List.append_nil]
  rfl

end Hop

end Ods.S5
