import OdsMod2.S5.RollupWorker

/-!
# What the rollups count

The windows of successive runs overlap: a 1m row lies in the quarter of an hour of every run of the
next fourteen minutes, and a 15m row in the hour of every run of the next forty-five. So a 1s row
may be counted several times in a 15m row, when several 1m rows inside it count it, and many more
times in a 1h row.

The total counts of all rows are determined by the times of the runs: they are linear in the counts
of the 1s rows (`runAll_coarseRows`). The number of times a run counts a 1s row is the same sum for
the row alone (`timesInQuarter`, `timesInHour`), and `rollup_countsOnce_iff` is about these numbers.
-/

namespace Ods.S5

/-! ### The counts as a function of the run times -/

/-- What the 1m rows of these runs count within a span; `inside` says what the 1s rows count. -/
def minutesWithin (inside : Span → Int) (history : List Datetime) (span : Span) : Int :=
  (history.map fun time =>
    if span.Covers (spanBefore time 60) then inside (spanBefore time 60) else 0).sum

/-- What the 15m rows of these runs, the last run first, count within a span. -/
def quartersWithin (inside : Span → Int) : List Datetime → Span → Int
  | [], _ => 0
  | time :: past, span =>
    (if span.Covers (spanBefore time 900) then
      minutesWithin inside (time :: past) (spanBefore time 900)
    else 0) + quartersWithin inside past span

theorem minutesWithin_cons (inside : Span → Int) (time : Datetime) (past : List Datetime)
    (span : Span) :
    minutesWithin inside (time :: past) span =
      (if span.Covers (spanBefore time 60) then inside (spanBefore time 60) else 0) +
        minutesWithin inside past span := rfl

theorem quartersWithin_cons (inside : Span → Int) (time : Datetime) (past : List Datetime)
    (span : Span) :
    quartersWithin inside (time :: past) span =
      (if span.Covers (spanBefore time 900) then
        minutesWithin inside (time :: past) (spanBefore time 900)
      else 0) + quartersWithin inside past span := rfl

/-- What a row says about counts. -/
structure CoarseRow where
  granularity : String
  span : Span
  totalCount : Int

def CoarseRow.ofEntry (entry : OccupancyMetric × String) : CoarseRow :=
  ⟨entry.2, entry.1.window.span, entry.1.totalCount⟩

/-- The rows that the run at `time` inserts after the runs of `past`. -/
def runRows (inside : Span → Int) (time : Datetime) (past : List Datetime) : List CoarseRow :=
  [⟨"1m", spanBefore time 60, inside (spanBefore time 60)⟩,
    ⟨"15m", spanBefore time 900, minutesWithin inside (time :: past) (spanBefore time 900)⟩,
    ⟨"1h", spanBefore time 3600, quartersWithin inside (time :: past) (spanBefore time 3600)⟩]

/-- The rows that the runs at `times` insert after the runs of `past`. -/
def coarseRows (inside : Span → Int) : List Datetime → List Datetime → List CoarseRow
  | _, [] => []
  | past, time :: times =>
    runRows inside time past ++ coarseRows inside (time :: past) times

section Runs

variable {zoneId : String} {inside : Span → Int} {history : List Datetime}
  {table table' : SavedMetrics}

/-- The table holds what the 1s rows and the runs so far have put there. -/
structure Tallies (zoneId : String) (inside : Span → Int) (history : List Datetime)
    (table : SavedMetrics) : Prop where
  seconds : ∀ span, countWithin zoneId "1s" span table = inside span
  minutes : ∀ span, countWithin zoneId "1m" span table = minutesWithin inside history span
  quarters : ∀ span, countWithin zoneId "15m" span table = quartersWithin inside history span

/-- One run. -/
theorem Tallies.run {time : Datetime} (h : Tallies zoneId inside history table)
    (hrun : run zoneId time table = (.ok (), table')) :
    Tallies zoneId inside (time :: history) table' ∧
      ∃ entries, table' = table ++ entries ∧ entries.map CoarseRow.ofEntry =
        runRows inside time history := by
  obtain ⟨minute, hminuteZone, hminuteSpan, hminute, hrun⟩ := runChain_cons_eq_ok hrun
  obtain ⟨quarter, hquarterZone, hquarterSpan, hquarter, hrun⟩ := runChain_cons_eq_ok hrun
  obtain ⟨hour, hhourZone, hhourSpan, hhour, hrun⟩ := runChain_cons_eq_ok hrun
  have htable : table ++ [(minute, "1m")] ++ [(quarter, "15m")] ++ [(hour, "1h")] = table' :=
    (Prod.ext_iff.mp hrun).2
  subst htable
  rw [h.seconds] at hminute
  -- the 15m row counts the 1m row of its own run, and the 1h row the 15m row
  rw [countWithin_snoc_same hminuteZone, h.minutes, hminuteSpan, hminute,
    ← minutesWithin_cons] at hquarter
  rw [countWithin_snoc_same hquarterZone, countWithin_snoc_other (by decide), h.quarters,
    hquarterSpan, hquarter, ← quartersWithin_cons] at hhour
  refine ⟨⟨fun span => ?_, fun span => ?_, fun span => ?_⟩,
    [(minute, "1m"), (quarter, "15m"), (hour, "1h")], ?_, ?_⟩
  · rw [countWithin_snoc_other (by decide), countWithin_snoc_other (by decide),
      countWithin_snoc_other (by decide), h.seconds]
  · rw [countWithin_snoc_other (by decide), countWithin_snoc_other (by decide),
      countWithin_snoc_same hminuteZone, h.minutes, hminuteSpan, hminute, ← minutesWithin_cons]
  · rw [countWithin_snoc_other (by decide), countWithin_snoc_same hquarterZone,
      countWithin_snoc_other (by decide), h.quarters, hquarterSpan, hquarter, ← quartersWithin_cons]
  · rw [List.append_assoc, List.append_assoc]
    rfl
  · simp only [runRows, List.map_cons, List.map_nil, CoarseRow.ofEntry, hminuteSpan,
      hquarterSpan, hhourSpan, hminute, hquarter, hhour]

/-- **The counts of all rows.** -/
theorem runAll_coarseRows (times : List Datetime) (h : Tallies zoneId inside history table)
    (hruns : runAll zoneId times table = .ok table') :
    ∃ entries, table' = table ++ entries ∧
      entries.map CoarseRow.ofEntry = coarseRows inside history times := by
  induction times generalizing history table with
  | nil =>
    obtain rfl := Except.ok.inj hruns
    exact ⟨[], (List.append_nil _).symm, rfl⟩
  | cons time times ih =>
    rw [runAll] at hruns
    rcases hrun : Ods.S5.run zoneId time table with ⟨_ | _, table₁⟩
    · rw [hrun] at hruns
      cases hruns
    · rw [hrun] at hruns
      obtain ⟨htallies, entries, rfl, hentries⟩ := h.run hrun
      obtain ⟨entries', rfl, hentries'⟩ := ih htallies hruns
      refine ⟨entries ++ entries', List.append_assoc _ _ _, ?_⟩
      rw [List.map_append, hentries, hentries']
      rfl

end Runs

/-! ### How often a row is counted -/

/-- What the 1s rows count within a span. -/
def secondsWithin (rows : List OccupancyMetric) (span : Span) : Int :=
  (rows.map fun row => if span.Covers row.window.span then row.totalCount else 0).sum

/-- A single 1s row that counts one. -/
def alone (window : TimeWindow) (span : Span) : Int :=
  if span.Covers window.span then 1 else 0

/-- How often the 15m row of a run, after those of `past`, counts a 1s row: the number of runs so
far whose minute lies in the quarter of an hour and contains the row. -/
def timesInQuarter (window : TimeWindow) (time : Datetime) (past : List Datetime) : Int :=
  minutesWithin (alone window) (time :: past) (spanBefore time 900)

/-- How often the 1h row of that run counts it: once for each time that a 15m row inside the hour
does. -/
def timesInHour (window : TimeWindow) (time : Datetime) (past : List Datetime) : Int :=
  quartersWithin (alone window) (time :: past) (spanBefore time 3600)

section Linear

variable (f g : Span → Int) (factor : Int) (history : List Datetime) (span : Span)

theorem minutesWithin_add :
    minutesWithin (fun span => f span + g span) history span =
      minutesWithin f history span + minutesWithin g history span := by
  induction history with
  | nil => rfl
  | cons time past ih =>
    rw [minutesWithin_cons, minutesWithin_cons, minutesWithin_cons, ih]
    split <;> ring

theorem minutesWithin_mul :
    minutesWithin (fun span => factor * f span) history span =
      factor * minutesWithin f history span := by
  induction history with
  | nil => exact (mul_zero _).symm
  | cons time past ih =>
    rw [minutesWithin_cons, minutesWithin_cons, ih]
    split <;> ring

theorem quartersWithin_add :
    quartersWithin (fun span => f span + g span) history span =
      quartersWithin f history span + quartersWithin g history span := by
  induction history with
  | nil => rfl
  | cons time past ih =>
    rw [quartersWithin_cons, quartersWithin_cons, quartersWithin_cons, ih, minutesWithin_add]
    split <;> ring

theorem quartersWithin_mul :
    quartersWithin (fun span => factor * f span) history span =
      factor * quartersWithin f history span := by
  induction history with
  | nil => exact (mul_zero _).symm
  | cons time past ih =>
    rw [quartersWithin_cons, quartersWithin_cons, ih, minutesWithin_mul]
    split <;> ring

end Linear

/-- The row, counting nothing. -/
def OccupancyMetric.emptied (metric : OccupancyMetric) : OccupancyMetric :=
  { metric with totalCount := 0, totalCount_nonneg := le_rfl }

/-- A count that depends linearly on those of the 1s rows. -/
structure Linear (total : (Span → Int) → Int) : Prop where
  add : ∀ f g, total (fun span => f span + g span) = total f + total g
  mul : ∀ factor f, total (fun span => factor * f span) = factor * total f

theorem linear_seconds (span : Span) : Linear fun f => f span :=
  ⟨fun _ _ => rfl, fun _ _ => rfl⟩

theorem linear_minutes (history : List Datetime) (span : Span) :
    Linear fun f => minutesWithin f history span :=
  ⟨fun f g => minutesWithin_add f g history span,
    fun factor f => minutesWithin_mul f factor history span⟩

theorem linear_quarters (history : List Datetime) (span : Span) :
    Linear fun f => quartersWithin f history span :=
  ⟨fun f g => quartersWithin_add f g history span,
    fun factor f => quartersWithin_mul f factor history span⟩

/-- It is the sum of what depends on each row. -/
theorem Linear.secondsWithin {total : (Span → Int) → Int} (h : Linear total)
    (rows : List OccupancyMetric) :
    total (secondsWithin rows) =
      (rows.map fun row => row.totalCount * total (alone row.window)).sum := by
  induction rows with
  | nil =>
    have hzero := h.mul 0 fun _ => 0
    rw [zero_mul, zero_mul] at hzero
    exact hzero
  | cons row rows ih =>
    have hsplit : S5.secondsWithin (row :: rows) =
        fun span => row.totalCount * alone row.window span + S5.secondsWithin rows span := by
      funext span
      rw [S5.secondsWithin, List.map_cons, List.sum_cons, alone, mul_ite, mul_one, mul_zero]
      rfl
    rw [hsplit, h.add, h.mul, ih, List.map_cons, List.sum_cons]

/-- With one row counting nothing, it loses what the row stands for. -/
theorem Linear.emptied {total : (Span → Int) → Int} (h : Linear total)
    (before : List OccupancyMetric) (row : OccupancyMetric) (after : List OccupancyMetric) :
    total (S5.secondsWithin (before ++ row :: after)) =
      total (S5.secondsWithin (before ++ row.emptied :: after)) +
        row.totalCount * total (alone row.window) := by
  rw [h.secondsWithin, h.secondsWithin, List.map_append, List.map_append, List.map_cons,
    List.map_cons, List.sum_append, List.sum_append, List.sum_cons, List.sum_cons]
  have hempty : row.emptied.totalCount = 0 := rfl
  rw [hempty, zero_mul]
  ring

/-- It loses at most the count of the row when it counts the row at most once. -/
theorem Linear.loses_le_iff {total : (Span → Int) → Int} (h : Linear total)
    (before : List OccupancyMetric) (row : OccupancyMetric) (after : List OccupancyMetric) :
    total (S5.secondsWithin (before ++ row :: after)) ≤
        total (S5.secondsWithin (before ++ row.emptied :: after)) + row.totalCount ↔
      (0 < row.totalCount → total (alone row.window) ≤ 1) := by
  rw [h.emptied, add_le_add_iff_left]
  constructor
  · intro hle hpositive
    exact (mul_le_iff_le_one_right hpositive).mp hle
  · intro honce
    rcases row.totalCount_nonneg.eq_or_lt with hzero | hpositive
    · rw [← hzero, zero_mul]
    · exact (mul_le_iff_le_one_right hpositive).mpr (honce hpositive)

section Times

variable {window : TimeWindow} {span : Span}

theorem Span.Covers.trans {outer middle inner : Span} (h : outer.Covers middle)
    (h' : middle.Covers inner) : outer.Covers inner :=
  ⟨h.1.trans h'.1, h'.2.trans h.2⟩

theorem alone_nonneg (window : TimeWindow) (span : Span) : 0 ≤ alone window span := by
  unfold alone
  split <;> decide

theorem alone_le_one (window : TimeWindow) (span : Span) : alone window span ≤ 1 := by
  unfold alone
  split <;> decide

theorem minutesWithin_alone_nonneg (window : TimeWindow) (history : List Datetime) (span : Span) :
    0 ≤ minutesWithin (alone window) history span := by
  induction history with
  | nil => exact le_rfl
  | cons time past ih =>
    rw [minutesWithin_cons]
    refine add_nonneg ?_ ih
    split
    · exact alone_nonneg _ _
    · exact le_rfl

theorem quartersWithin_alone_nonneg (window : TimeWindow) (history : List Datetime) (span : Span) :
    0 ≤ quartersWithin (alone window) history span := by
  induction history with
  | nil => exact le_rfl
  | cons time past ih =>
    rw [quartersWithin_cons]
    refine add_nonneg ?_ ih
    split
    · exact minutesWithin_alone_nonneg _ _ _
    · exact le_rfl

/-- A row outside of the span is not counted. -/
theorem minutesWithin_alone_eq_zero (houtside : ¬ span.Covers window.span)
    (history : List Datetime) : minutesWithin (alone window) history span = 0 := by
  induction history with
  | nil => rfl
  | cons time past ih =>
    rw [minutesWithin_cons, ih, add_zero]
    split
    · next hminute => exact if_neg fun hrow => houtside (hminute.trans hrow)
    · rfl

theorem quartersWithin_alone_eq_zero (houtside : ¬ span.Covers window.span)
    (history : List Datetime) : quartersWithin (alone window) history span = 0 := by
  induction history with
  | nil => rfl
  | cons time past ih =>
    rw [quartersWithin_cons, ih, add_zero]
    split
    · next hquarter =>
      exact minutesWithin_alone_eq_zero (fun hrow => houtside (hquarter.trans hrow)) _
    · rfl

end Times

/-- The row counts this much, each 1s row this many times, and none that it does not contain. -/
structure Weighted (rows : List OccupancyMetric) (span : Span) (times : TimeWindow → Int)
    (totalCount : Int) : Prop where
  total : totalCount = (rows.map fun row => row.totalCount * times row.window).sum
  nonneg : ∀ window, 0 ≤ times window
  outside : ∀ window, ¬ span.Covers window.span → times window = 0

theorem weighted_minutes (rows : List OccupancyMetric) (history : List Datetime) (span : Span) :
    Weighted rows span (fun window => minutesWithin (alone window) history span)
      (minutesWithin (secondsWithin rows) history span) where
  total := (linear_minutes history span).secondsWithin rows
  nonneg window := minutesWithin_alone_nonneg window history span
  outside _ houtside := minutesWithin_alone_eq_zero houtside history

theorem weighted_quarters (rows : List OccupancyMetric) (history : List Datetime) (span : Span) :
    Weighted rows span (fun window => quartersWithin (alone window) history span)
      (quartersWithin (secondsWithin rows) history span) where
  total := (linear_quarters history span).secondsWithin rows
  nonneg window := quartersWithin_alone_nonneg window history span
  outside _ houtside := quartersWithin_alone_eq_zero houtside history

/-- Sums that are bounded term by term are equal when all terms are. -/
theorem sum_map_eq_iff {α : Type} {f g : α → Int} {xs : List α} (hle : ∀ x ∈ xs, f x ≤ g x) :
    (xs.map f).sum = (xs.map g).sum ↔ ∀ x ∈ xs, f x = g x := by
  induction xs with
  | nil => exact ⟨fun _ _ h => (by cases h), fun _ => rfl⟩
  | cons x xs ih =>
    obtain ⟨hx, hxs⟩ := List.forall_mem_cons.mp hle
    have hsum := List.sum_le_sum hxs
    rw [List.map_cons, List.map_cons, List.sum_cons, List.sum_cons, List.forall_mem_cons, ← ih hxs]
    omega

section Weighted

variable {rows : List OccupancyMetric} {span : Span} {times : TimeWindow → Int} {totalCount : Int}

/-- Every row with a count is counted at most once. -/
def AtMostOnce (rows : List OccupancyMetric) (times : TimeWindow → Int) : Prop :=
  ∀ row ∈ rows, 0 < row.totalCount → times row.window ≤ 1

theorem Weighted.term_le (h : Weighted rows span times totalCount) (honce : AtMostOnce rows times)
    {row : OccupancyMetric} (hrow : row ∈ rows) :
    row.totalCount * times row.window ≤
      if span.Covers row.window.span then row.totalCount else 0 := by
  split
  · rcases row.totalCount_nonneg.eq_or_lt with hzero | hpositive
    · rw [← hzero, zero_mul]
    · exact mul_le_of_le_one_right row.totalCount_nonneg (honce row hrow hpositive)
  · next houtside => rw [h.outside _ houtside, mul_zero]

theorem Weighted.le (h : Weighted rows span times totalCount) (honce : AtMostOnce rows times) :
    totalCount ≤ secondsWithin rows span := by
  rw [h.total]
  exact List.sum_le_sum fun row hrow => h.term_le honce hrow

theorem Weighted.eq_iff (h : Weighted rows span times totalCount) (honce : AtMostOnce rows times) :
    totalCount = secondsWithin rows span ↔
      ∀ row ∈ rows, 0 < row.totalCount → span.Covers row.window.span → times row.window = 1 := by
  rw [h.total, secondsWithin, sum_map_eq_iff fun row hrow => h.term_le honce hrow]
  refine forall₂_congr fun row _ => ?_
  constructor
  · intro hterm hpositive hcovers
    rw [if_pos hcovers] at hterm
    exact mul_left_cancel₀ hpositive.ne' (hterm.trans (mul_one _).symm)
  · intro hterm
    split
    · next hcovers =>
      rcases row.totalCount_nonneg.eq_or_lt with hzero | hpositive
      · rw [← hzero, zero_mul]
      · rw [hterm hpositive hcovers, mul_one]
    · next houtside => rw [h.outside _ houtside, mul_zero]

end Weighted

/-! ### Taking counts away -/

/-- The same metric with a count that is no higher. -/
structure OccupancyMetric.Lighter (metric lighter : OccupancyMetric) : Prop where
  zoneId : lighter.zoneId = metric.zoneId
  window : lighter.window = metric.window
  occupancyPeak : lighter.occupancyPeak = metric.occupancyPeak
  totalCount : lighter.totalCount ≤ metric.totalCount

def LighterEntry (entry lighter : OccupancyMetric × String) : Prop :=
  entry.1.Lighter lighter.1 ∧ lighter.2 = entry.2

section Lighter

variable {zoneId : String} {table table' lighter : SavedMetrics}

theorem queryMetrics_lighter (h : List.Forall₂ LighterEntry table lighter) (window : TimeWindow)
    (granularity : String) :
    List.Forall₂ OccupancyMetric.Lighter (queryMetrics zoneId window granularity table)
      (queryMetrics zoneId window granularity lighter) := by
  refine forall₂_sortBy (fun _ _ hlighter => congrArg TimeWindow.startTime hlighter.window.symm) ?_
  refine List.rel_map (fun _ _ hentry => hentry.1) (List.rel_filter (fun entry entry' hentry => ?_) h)
  simp only [decide_eq_true_eq, hentry.1.zoneId, hentry.2, hentry.1.window]

theorem sum_totalCount_le {metrics lighters : List OccupancyMetric}
    (h : List.Forall₂ OccupancyMetric.Lighter metrics lighters) :
    (lighters.map OccupancyMetric.totalCount).sum ≤
      (metrics.map OccupancyMetric.totalCount).sum := by
  induction h with
  | nil => exact le_rfl
  | cons hmetric _ ih =>
    rw [List.map_cons, List.map_cons, List.sum_cons, List.sum_cons]
    exact add_le_add hmetric.totalCount ih

theorem map_occupancyPeak {metrics lighters : List OccupancyMetric}
    (h : List.Forall₂ OccupancyMetric.Lighter metrics lighters) :
    lighters.map OccupancyMetric.occupancyPeak = metrics.map OccupancyMetric.occupancyPeak := by
  induction h with
  | nil => rfl
  | cons hmetric _ ih => rw [List.map_cons, List.map_cons, hmetric.occupancyPeak, ih]

theorem rollup_lighter {metrics lighters : List OccupancyMetric} {window : TimeWindow}
    {consolidated : OccupancyMetric}
    (h : List.Forall₂ OccupancyMetric.Lighter metrics lighters)
    (hrollup : rollup metrics zoneId window = .ok consolidated) :
    ∃ consolidated', rollup lighters zoneId window = .ok consolidated' ∧
      consolidated.Lighter consolidated' := by
  cases h with
  | nil => cases hrollup
  | @cons metric metric' rest rest' hmetric hrest =>
    obtain ⟨hzone, hwindow, hpeak, hcount⟩ := OccupancyMetric.create_fields hrollup
    obtain ⟨consolidated', hrollup'⟩ := rollup_cons_eq_ok metric' rest'
      (hzone ▸ consolidated.named) window
    obtain ⟨hzone', hwindow', hpeak', hcount'⟩ := OccupancyMetric.create_fields hrollup'
    refine ⟨consolidated', hrollup', hzone'.trans hzone.symm, hwindow'.trans hwindow.symm, ?_, ?_⟩
    · rw [hpeak, hpeak', map_occupancyPeak hrest, hmetric.occupancyPeak]
    · rw [hcount, hcount']
      exact sum_totalCount_le (.cons hmetric hrest)

theorem rollupMetrics_lighter (h : List.Forall₂ LighterEntry table lighter)
    {source target : String} {window : TimeWindow} {dto : OccupancyMetricDTO}
    (hhop : rollupMetrics zoneId source window target window table = (.ok dto, table')) :
    ∃ dto' lighter', rollupMetrics zoneId source window target window lighter =
      (.ok dto', lighter') ∧ List.Forall₂ LighterEntry table' lighter' := by
  unfold rollupMetrics at hhop ⊢
  cases hrollup : rollup (queryMetrics zoneId window source table) zoneId window with
  | error raised =>
    rw [hrollup] at hhop
    cases hhop
  | ok metric =>
    obtain ⟨metric', hrollup', hlighter⟩ :=
      rollup_lighter (queryMetrics_lighter h window source) hrollup
    rw [hrollup] at hhop
    rw [hrollup']
    dsimp only at hhop ⊢
    unfold saveOccupancyMetric at hhop ⊢
    split_ifs at hhop with hfits
    · obtain rfl := (Prod.ext_iff.mp hhop).2
      rw [if_pos ⟨hlighter.occupancyPeak.trans_le hfits.1, hlighter.totalCount.trans hfits.2⟩]
      exact ⟨_, _, rfl, List.rel_append h (.cons ⟨hlighter, rfl⟩ .nil)⟩
    · cases hhop

theorem runChain_lighter {referenceTime : Datetime} (chain : List (String × String × Int))
    (h : List.Forall₂ LighterEntry table lighter)
    (hrun : runChain zoneId referenceTime chain table = (.ok (), table')) :
    ∃ lighter', runChain zoneId referenceTime chain lighter = (.ok (), lighter') ∧
      List.Forall₂ LighterEntry table' lighter' := by
  induction chain generalizing table lighter with
  | nil =>
    obtain rfl := (Prod.ext_iff.mp hrun).2
    exact ⟨lighter, rfl, h⟩
  | cons hop chain ih =>
    obtain ⟨source, target, seconds⟩ := hop
    rw [runChain] at hrun ⊢
    cases hwindows : generate referenceTime [seconds] with
    | error raised =>
      rw [hwindows] at hrun
      cases hrun
    | ok windows =>
      rw [hwindows] at hrun
      cases windows with
      | nil => cases hrun
      | cons window windows =>
        dsimp only [List.head?] at hrun ⊢
        rcases hhop : rollupMetrics zoneId source window target window table with ⟨_ | dto, table₁⟩
        · rw [hhop] at hrun
          cases hrun
        · rw [hhop] at hrun
          -- the same hop runs on the lighter table, and leaves a lighter one
          obtain ⟨dto', lighter₁, hhop', hlighter⟩ := rollupMetrics_lighter h hhop
          rw [hhop']
          exact ih hlighter hrun

/-- **Runs with less to count** complete as well. -/
theorem runAll_lighter (times : List Datetime) (h : List.Forall₂ LighterEntry table lighter)
    (hruns : runAll zoneId times table = .ok table') :
    ∃ lighter', runAll zoneId times lighter = .ok lighter' := by
  induction times generalizing table lighter with
  | nil => exact ⟨lighter, rfl⟩
  | cons time times ih =>
    rw [runAll] at hruns ⊢
    rcases hrun : Ods.S5.run zoneId time table with ⟨_ | _, table₁⟩
    · rw [hrun] at hruns
      cases hruns
    · rw [hrun] at hruns
      obtain ⟨lighter₁, hrun', hlighter⟩ := runChain_lighter rollupChain h hrun
      rw [show run zoneId time lighter = (.ok (), lighter₁) from hrun']
      exact ih hlighter hruns

end Lighter

/-! ### Counting once -/

/-- A store that holds 1s rows only. -/
def secondRows (rows : List OccupancyMetric) : SavedMetrics :=
  rows.map fun row => (row, "1s")

/-- There are runs at every minute of the span that ends at `time`. -/
def CoveredByRuns (times : List Datetime) (minutes : Nat) (time : Int) : Prop :=
  ∀ k < minutes, ∃ run ∈ times, (run.micros : Int) + k * 60000000 = time

/-- What is said of the counts after all runs: no coarser row counts a 1s row more than once (with
the row counting nothing, the coarser row loses at most the count of the row), none counts more than
the 1s rows inside it, and those covered by runs count as much. -/
structure CountsOnce (zoneId : String) (rows : List OccupancyMetric) (times : List Datetime)
    (table : SavedMetrics) : Prop where
  once : ∀ before row after, rows = before ++ row :: after →
    ∀ table', runAll zoneId times (secondRows (before ++ row.emptied :: after)) = .ok table' →
      List.Forall₂ (fun entry entry' => entry.2 ≠ "1s" →
        entry.1.totalCount ≤ entry'.1.totalCount + row.totalCount) table table'
  atMost : ∀ entry ∈ table, entry.2 ≠ "1s" →
    entry.1.totalCount ≤ secondsWithin rows entry.1.window.span
  covered : ∀ entry ∈ table,
    entry.2 = "15m" ∧ CoveredByRuns times 15 entry.1.window.span.stop ∨
      entry.2 = "1h" ∧ CoveredByRuns times 60 entry.1.window.span.stop →
    entry.1.totalCount = secondsWithin rows entry.1.window.span

/-- The run at `time`, after those of `past`, counts every 1s row with a count at most once in its
15m row and in its 1h row, and exactly once if the row lies in a window that the runs cover. -/
structure RunCountsOnce (rows : List OccupancyMetric) (times : List Datetime) (time : Datetime)
    (past : List Datetime) : Prop where
  quarter : AtMostOnce rows fun window => timesInQuarter window time past
  hour : AtMostOnce rows fun window => timesInHour window time past
  coveredQuarter : CoveredByRuns times 15 time.micros → ∀ row ∈ rows, 0 < row.totalCount →
    (spanBefore time 900).Covers row.window.span → timesInQuarter row.window time past = 1
  coveredHour : CoveredByRuns times 60 time.micros → ∀ row ∈ rows, 0 < row.totalCount →
    (spanBefore time 3600).Covers row.window.span → timesInHour row.window time past = 1

section CountsOnce

variable {zoneId : String} {rows : List OccupancyMetric} {times : List Datetime}
  {table : SavedMetrics}

theorem countWithin_secondRows (hzone : ∀ row ∈ rows, row.zoneId = zoneId) (span : Span) :
    countWithin zoneId "1s" span (secondRows rows) = secondsWithin rows span := by
  induction rows with
  | nil => rfl
  | cons row rows ih =>
    obtain ⟨hrow, hrows⟩ := List.forall_mem_cons.mp hzone
    rw [secondsWithin, List.map_cons, List.sum_cons, ← secondsWithin, ← ih hrows]
    unfold countWithin secondRows
    by_cases hcovers : span.Covers row.window.span
    · simp [hrow, hcovers]
    · simp [hrow, hcovers]

theorem countWithin_secondRows_other {granularity : String} (hne : granularity ≠ "1s")
    (span : Span) : countWithin zoneId granularity span (secondRows rows) = 0 := by
  have hnone : (secondRows rows).filter (fun row => decide (row.1.zoneId = zoneId ∧
      row.2 = granularity ∧ span.Covers row.1.window.span)) = [] := by
    refine List.filter_eq_nil_iff.mpr fun entry hentry hselected => hne ?_
    obtain ⟨row, -, rfl⟩ := List.mem_map.mp hentry
    exact (of_decide_eq_true hselected).2.1.symm
  rw [countWithin, hnone]
  rfl

theorem tallies_secondRows (hzone : ∀ row ∈ rows, row.zoneId = zoneId) :
    Tallies zoneId (secondsWithin rows) [] (secondRows rows) where
  seconds span := countWithin_secondRows hzone span
  minutes span := countWithin_secondRows_other (by decide) span
  quarters span := countWithin_secondRows_other (by decide) span

/-- What holds of all rows holds of the rows of each run. -/
theorem forall₂_coarseRows_iff {R : CoarseRow → CoarseRow → Prop} {f g : Span → Int}
    {past : List Datetime} :
    List.Forall₂ R (coarseRows f past times) (coarseRows g past times) ↔
      ∀ earlier time later, times = earlier ++ time :: later →
        List.Forall₂ R (runRows f time (earlier.reverse ++ past))
          (runRows g time (earlier.reverse ++ past)) := by
  induction times generalizing past with
  | nil =>
    refine ⟨fun _ earlier time later hsplit => ?_, fun _ => .nil⟩
    exact absurd hsplit.symm (List.append_ne_nil_of_right_ne_nil _ (List.cons_ne_nil _ _))
  | cons first times ih =>
    constructor
    · intro h earlier time later hsplit
      rw [coarseRows, coarseRows] at h
      obtain ⟨hfirst, hrest⟩ := (forall₂_append_iff (by rfl)).mp h
      cases earlier with
      | nil =>
        obtain ⟨rfl, rfl⟩ := List.cons.inj hsplit
        exact hfirst
      | cons first' earlier =>
        obtain ⟨rfl, hsplit'⟩ := List.cons.inj hsplit
        rw [List.reverse_cons, List.append_assoc]
        exact ih.mp hrest earlier time later hsplit'
    · intro h
      -- the rows of the first run, and those of the later ones with it in their past
      refine List.rel_append (h [] first times rfl) (ih.mpr fun earlier time later hsplit => ?_)
      have hrun := h (first :: earlier) time later (by rw [hsplit]; rfl)
      rwa [List.reverse_cons, List.append_assoc] at hrun

/-- The rows of a run lose at most the count of a 1s row that is emptied, for every such row, exactly
if none is counted twice. -/
theorem runRows_lose_iff (rows : List OccupancyMetric) (time : Datetime) (past : List Datetime) :
    (∀ before row after, rows = before ++ row :: after →
      List.Forall₂ (fun coarse coarse' => coarse.totalCount ≤ coarse'.totalCount + row.totalCount)
        (runRows (secondsWithin rows) time past)
        (runRows (secondsWithin (before ++ row.emptied :: after)) time past)) ↔
      AtMostOnce rows (fun window => timesInQuarter window time past) ∧
        AtMostOnce rows (fun window => timesInHour window time past) := by
  have hloses : ∀ before row after,
      List.Forall₂ (fun coarse coarse' => coarse.totalCount ≤ coarse'.totalCount + row.totalCount)
        (runRows (secondsWithin (before ++ row :: after)) time past)
        (runRows (secondsWithin (before ++ row.emptied :: after)) time past) ↔
      (0 < row.totalCount → timesInQuarter row.window time past ≤ 1) ∧
        (0 < row.totalCount → timesInHour row.window time past ≤ 1) := by
    intro before row after
    -- the 1m row sums the 1s rows themselves
    have hminute := ((linear_seconds (spanBefore time 60)).loses_le_iff before row after).mpr
      fun _ => alone_le_one _ _
    have hquarter := (linear_minutes (time :: past) (spanBefore time 900)).loses_le_iff before row after
    have hhour := (linear_quarters (time :: past) (spanBefore time 3600)).loses_le_iff before row after
    simp only [runRows, List.forall₂_cons, List.forall₂_nil_left_iff, and_true]
    rw [hquarter, hhour]
    exact and_iff_right hminute
  constructor
  · intro h
    constructor
    · intro row hrow
      obtain ⟨before, after, rfl⟩ := List.append_of_mem hrow
      exact ((hloses before row after).mp (h before row after rfl)).1
    · intro row hrow
      obtain ⟨before, after, rfl⟩ := List.append_of_mem hrow
      exact ((hloses before row after).mp (h before row after rfl)).2
  · rintro ⟨hquarter, hhour⟩ before row after rfl
    have hrow : row ∈ before ++ row :: after := List.mem_append_right _ List.mem_cons_self
    exact (hloses before row after).mpr ⟨hquarter row hrow, hhour row hrow⟩

/-- The rows of one run. -/
theorem runCountsOnce_iff (rows : List OccupancyMetric) (times : List Datetime) (time : Datetime)
    (past : List Datetime) :
    RunCountsOnce rows times time past ↔
      (∀ before row after, rows = before ++ row :: after →
        List.Forall₂ (fun coarse coarse' => coarse.totalCount ≤ coarse'.totalCount + row.totalCount)
          (runRows (secondsWithin rows) time past)
          (runRows (secondsWithin (before ++ row.emptied :: after)) time past)) ∧
      (∀ coarse ∈ runRows (secondsWithin rows) time past,
        coarse.totalCount ≤ secondsWithin rows coarse.span) ∧
      ∀ coarse ∈ runRows (secondsWithin rows) time past,
        coarse.granularity = "15m" ∧ CoveredByRuns times 15 coarse.span.stop ∨
          coarse.granularity = "1h" ∧ CoveredByRuns times 60 coarse.span.stop →
        coarse.totalCount = secondsWithin rows coarse.span := by
  have hquarter := weighted_minutes rows (time :: past) (spanBefore time 900)
  have hhour := weighted_quarters rows (time :: past) (spanBefore time 3600)
  rw [runRows_lose_iff]
  constructor
  · intro h
    refine ⟨⟨h.quarter, h.hour⟩, ?_, ?_⟩
    · -- a sum of rows that are counted at most once is at most their sum
      refine List.forall_mem_cons.mpr ⟨le_rfl, List.forall_mem_cons.mpr ⟨hquarter.le h.quarter,
        List.forall_mem_cons.mpr ⟨hhour.le h.hour, fun _ hnone => (by cases hnone)⟩⟩⟩
    · intro coarse hcoarse hcovered
      simp only [runRows, List.mem_cons, List.not_mem_nil, or_false] at hcoarse
      rcases hcoarse with rfl | rfl | rfl
      · rfl
      · refine (hquarter.eq_iff h.quarter).mpr (h.coveredQuarter ?_)
        exact hcovered.elim And.right fun hne => absurd hne.1 (show "15m" ≠ "1h" by decide)
      · refine (hhour.eq_iff h.hour).mpr (h.coveredHour ?_)
        exact hcovered.elim (fun hne => absurd hne.1 (show "1h" ≠ "15m" by decide)) And.right
  · rintro ⟨⟨hquarterOnce, hhourOnce⟩, -, hcovered⟩
    refine ⟨hquarterOnce, hhourOnce, fun hruns => ?_, fun hruns => ?_⟩
    · exact (hquarter.eq_iff hquarterOnce).mp
        (hcovered _ (List.mem_cons_of_mem _ List.mem_cons_self) (.inl ⟨rfl, hruns⟩))
    · exact (hhour.eq_iff hhourOnce).mp (hcovered _
        (List.mem_cons_of_mem _ (List.mem_cons_of_mem _ List.mem_cons_self)) (.inr ⟨rfl, hruns⟩))

theorem lighter_emptied {before : List OccupancyMetric} {row : OccupancyMetric}
    {after : List OccupancyMetric} (hsplit : rows = before ++ row :: after) :
    List.Forall₂ LighterEntry (secondRows rows)
      (secondRows (before ++ row.emptied :: after)) := by
  have hsame : ∀ metrics : List OccupancyMetric,
      List.Forall₂ LighterEntry (secondRows metrics) (secondRows metrics) :=
    fun metrics => List.forall₂_same.mpr fun _ _ => ⟨⟨rfl, rfl, rfl, le_rfl⟩, rfl⟩
  rw [hsplit, secondRows, secondRows, List.map_append, List.map_append]
  exact List.rel_append (hsame before)
    (.cons ⟨⟨rfl, rfl, rfl, row.totalCount_nonneg⟩, rfl⟩ (hsame after))

theorem coarseRows_ne {inside : Span → Int} {past : List Datetime} :
    ∀ coarse ∈ coarseRows inside past times, coarse.granularity ≠ "1s" := by
  have h : List.Forall₂ (fun coarse _ => coarse.granularity ≠ "1s") (coarseRows inside past times)
      (coarseRows inside past times) := by
    refine forall₂_coarseRows_iff.mpr fun _ time _ _ => .cons ?_ (.cons ?_ (.cons ?_ .nil))
    · exact show "1m" ≠ "1s" by decide
    · exact show "15m" ≠ "1s" by decide
    · exact show "1h" ≠ "1s" by decide
  exact List.forall₂_same.mp h

/-- What is said of the coarser rows of two tables. -/
theorem forall₂_table_iff {R : CoarseRow → CoarseRow → Prop} {rows rows' : List OccupancyMetric}
    {entries : SavedMetrics} (entries' : SavedMetrics) (hlength : rows.length = rows'.length)
    (hcoarse : ∀ coarse ∈ entries.map CoarseRow.ofEntry, coarse.granularity ≠ "1s") :
    List.Forall₂ (fun entry entry' => entry.2 ≠ "1s" →
        R (CoarseRow.ofEntry entry) (CoarseRow.ofEntry entry'))
      (secondRows rows ++ entries) (secondRows rows' ++ entries') ↔
      List.Forall₂ R (entries.map CoarseRow.ofEntry) (entries'.map CoarseRow.ofEntry) := by
  have hseconds : List.Forall₂ (fun entry entry' : OccupancyMetric × String => entry.2 ≠ "1s" →
      R (CoarseRow.ofEntry entry) (CoarseRow.ofEntry entry')) (secondRows rows)
      (secondRows rows') := by
    rw [secondRows, secondRows, List.forall₂_map_left_iff, List.forall₂_map_right_iff]
    exact List.forall₂_iff_zip.mpr ⟨hlength, fun _ hne => absurd rfl hne⟩
  rw [forall₂_append_iff (by rw [secondRows, secondRows, List.length_map, List.length_map, hlength]),
    List.forall₂_map_left_iff, List.forall₂_map_right_iff, and_iff_right hseconds]
  have hentries : ∀ entry ∈ entries, entry.2 ≠ "1s" :=
    fun entry hentry => hcoarse _ (List.mem_map_of_mem hentry)
  constructor
  · intro h
    have hboth := (List.forall₂_and_left _ _).mpr ⟨hentries, h⟩
    exact hboth.imp fun entry entry' hentry => hentry.2 hentry.1
  · intro h
    refine h.imp fun entry entry' hentry => ?_
    exact fun _ => hentry

/-- What is said of all coarser rows is said of the rows of each run. -/
theorem forall_coarse_iff {P : CoarseRow → Prop} (hzone : ∀ row ∈ rows, row.zoneId = zoneId)
    (hruns : runAll zoneId times (secondRows rows) = .ok table) :
    (∀ entry ∈ table, entry.2 ≠ "1s" → P (CoarseRow.ofEntry entry)) ↔
      ∀ earlier time later, times = earlier ++ time :: later →
        ∀ coarse ∈ runRows (secondsWithin rows) time earlier.reverse, P coarse := by
  obtain ⟨entries, rfl, hentries⟩ := runAll_coarseRows times (tallies_secondRows hzone) hruns
  have hcoarse : ∀ coarse ∈ entries.map CoarseRow.ofEntry, coarse.granularity ≠ "1s" := by
    rw [hentries]
    exact coarseRows_ne
  have htable : List.Forall₂ (fun entry _ => entry.2 ≠ "1s" → P (CoarseRow.ofEntry entry))
      (secondRows rows ++ entries) (secondRows rows ++ entries) ↔
      List.Forall₂ (fun coarse _ => P coarse) (entries.map CoarseRow.ofEntry)
        (entries.map CoarseRow.ofEntry) :=
    forall₂_table_iff entries (R := fun coarse _ => P coarse) rfl hcoarse
  rw [List.forall₂_same, hentries, forall₂_coarseRows_iff] at htable
  rw [htable]
  refine forall₂_congr fun earlier time => forall₂_congr fun later _ => ?_
  rw [List.forall₂_same, List.append_nil]

/-- Taking a row away is felt in the rows of each run. -/
theorem once_iff (hzone : ∀ row ∈ rows, row.zoneId = zoneId)
    (hruns : runAll zoneId times (secondRows rows) = .ok table) {before after : List OccupancyMetric}
    {row : OccupancyMetric} (hsplit : rows = before ++ row :: after) :
    (∀ table', runAll zoneId times (secondRows (before ++ row.emptied :: after)) = .ok table' →
      List.Forall₂ (fun entry entry' => entry.2 ≠ "1s" →
        entry.1.totalCount ≤ entry'.1.totalCount + row.totalCount) table table') ↔
      ∀ earlier time later, times = earlier ++ time :: later →
        List.Forall₂ (fun coarse coarse' => coarse.totalCount ≤ coarse'.totalCount + row.totalCount)
          (runRows (secondsWithin rows) time earlier.reverse)
          (runRows (secondsWithin (before ++ row.emptied :: after)) time earlier.reverse) := by
  obtain ⟨table', hruns'⟩ := runAll_lighter times (lighter_emptied hsplit) hruns
  have hzone' : ∀ row' ∈ before ++ row.emptied :: after, row'.zoneId = zoneId := by
    rw [hsplit, List.forall_mem_append, List.forall_mem_cons] at hzone
    rw [List.forall_mem_append, List.forall_mem_cons]
    exact hzone
  have hlength : rows.length = (before ++ row.emptied :: after).length := by
    rw [hsplit, List.length_append, List.length_append]
    rfl
  -- both runs end in the 1s rows and the coarser rows that the times decide
  obtain ⟨entries, rfl, hentries⟩ := runAll_coarseRows times (tallies_secondRows hzone) hruns
  obtain ⟨entries', rfl, hentries'⟩ := runAll_coarseRows times (tallies_secondRows hzone') hruns'
  have hcoarse : ∀ coarse ∈ entries.map CoarseRow.ofEntry, coarse.granularity ≠ "1s" := by
    rw [hentries]
    exact coarseRows_ne
  have htable := forall₂_table_iff entries' (R := fun coarse coarse' =>
    coarse.totalCount ≤ coarse'.totalCount + row.totalCount) hlength hcoarse
  rw [hentries, hentries', forall₂_coarseRows_iff] at htable
  simp only [List.append_nil] at htable
  rw [← htable]
  constructor
  · exact fun h => h _ hruns'
  · intro h table'' hruns''
    rw [hruns'] at hruns''
    obtain rfl := Except.ok.inj hruns''
    exact h

/-- **Counting once.** After any runs that complete, no coarser row counts a 1s row twice and the
covered ones count them all, if and only if this holds of every run when it is made. -/
theorem rollup_countsOnce_iff (hzone : ∀ row ∈ rows, row.zoneId = zoneId)
    (hruns : runAll zoneId times (secondRows rows) = .ok table) :
    CountsOnce zoneId rows times table ↔
      ∀ earlier time later, times = earlier ++ time :: later →
        RunCountsOnce rows times time earlier.reverse := by
  -- two parts are about each row by itself, and so about each run
  have hatMost := forall_coarse_iff (P := fun coarse =>
    coarse.totalCount ≤ secondsWithin rows coarse.span) hzone hruns
  have hcovered := forall_coarse_iff (P := fun coarse =>
    coarse.granularity = "15m" ∧ CoveredByRuns times 15 coarse.span.stop ∨
      coarse.granularity = "1h" ∧ CoveredByRuns times 60 coarse.span.stop →
    coarse.totalCount = secondsWithin rows coarse.span) hzone hruns
  constructor
  · intro h earlier time later htimes
    refine (runCountsOnce_iff rows times time _).mpr ⟨?_, ?_, ?_⟩
    · intro before row after hsplit
      exact (once_iff hzone hruns hsplit).mp (h.once before row after hsplit) earlier time later htimes
    · exact hatMost.mp h.atMost earlier time later htimes
    · exact hcovered.mp (fun entry hentry _ => h.covered entry hentry) earlier time later htimes
  · intro h
    have hparts := fun earlier time later htimes =>
      (runCountsOnce_iff rows times time _).mp (h earlier time later htimes)
    refine ⟨?_, ?_, ?_⟩
    · intro before row after hsplit
      exact (once_iff hzone hruns hsplit).mpr fun earlier time later htimes =>
        (hparts earlier time later htimes).1 before row after hsplit
    · exact hatMost.mpr fun earlier time later htimes => (hparts earlier time later htimes).2.1
    · intro entry hentry hspan
      refine hcovered.mpr (fun earlier time later htimes => (hparts earlier time later htimes).2.2)
        entry hentry ?_ hspan
      rcases hspan with ⟨hgranularity, -⟩ | ⟨hgranularity, -⟩
      · rw [hgranularity]
        decide
      · rw [hgranularity]
        decide

end CountsOnce

/-! ### A retry -/

/-- One 1s row, with one entry, at the end of the first hour. -/
def lastSecond : OccupancyMetric where
  zoneId := "zone-01"
  window := ⟨⟨3599000000, by decide⟩, ⟨3600000000, by decide⟩, by decide⟩
  dwellTimeAvg := 0
  occupancyPeak := 1
  totalCount := 1
  named := by decide
  dwellTimeAvg_nonneg := le_rfl
  occupancyPeak_nonneg := by decide
  totalCount_nonneg := by decide

def oneHour : Datetime :=
  ⟨3600000000, by decide⟩

/-- The table after runs at the end of the first hour. -/
def tableAfter (runs : Nat) : SavedMetrics :=
  match runAll "zone-01" (List.replicate runs oneHour) (secondRows [lastSecond]) with
  | .ok table => table
  | .error _ => []

theorem runAll_tableAfter {runs : Nat}
    (hok : (runAll "zone-01" (List.replicate runs oneHour) (secondRows [lastSecond])).isOk = true) :
    runAll "zone-01" (List.replicate runs oneHour) (secondRows [lastSecond]) =
      .ok (tableAfter runs) := by
  unfold tableAfter
  split
  · next table htable => exact htable
  · next raised hraised =>
    rw [hraised] at hok
    cases hok

theorem rollup_countsOnce_iff_oneRun :
    CountsOnce "zone-01" [lastSecond] (List.replicate 1 oneHour) (tableAfter 1) ↔
      ∀ earlier time later, List.replicate 1 oneHour = earlier ++ time :: later →
        RunCountsOnce [lastSecond] (List.replicate 1 oneHour) time earlier.reverse :=
  rollup_countsOnce_iff (List.forall_mem_singleton.mpr rfl)
    (runAll_tableAfter (by decide +kernel))

/-- A second run at the same time counts the 1m row of the first as well. -/
theorem retry_counts_twice :
    ¬ ∀ (zoneId : String) (rows : List OccupancyMetric) (times : List Datetime)
      (table : SavedMetrics), (∀ row ∈ rows, row.zoneId = zoneId) →
        rows.Pairwise (fun row row' => row.window.endTime ≤ row'.window.startTime ∨
          row'.window.endTime ≤ row.window.startTime) →
          runAll zoneId times (secondRows rows) = .ok table → CountsOnce zoneId rows times table := by
  intro h
  have hcounts := h "zone-01" [lastSecond] (List.replicate 2 oneHour) (tableAfter 2)
    (List.forall_mem_singleton.mpr rfl) (List.pairwise_singleton _ _)
    (runAll_tableAfter (by decide +kernel))
  have htwice : (tableAfter 2).any (fun entry => decide (entry.2 ≠ "1s" ∧
      secondsWithin [lastSecond] entry.1.window.span < entry.1.totalCount)) = true := by
    decide +kernel
  obtain ⟨entry, hentry, htwice⟩ := List.any_eq_true.mp htwice
  obtain ⟨hcoarse, hlt⟩ := of_decide_eq_true htwice
  exact absurd (hcounts.atMost entry hentry hcoarse) (not_le.mpr hlt)

end Ods.S5
