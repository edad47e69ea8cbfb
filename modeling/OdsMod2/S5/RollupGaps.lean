import OdsMod2.S5.RollupWorker

/-!
# Rolling up with gaps

The worker is triggered by the clock, whether or not anything has happened. A hop that finds no rows
raises, and with it the run ends: the hops behind it are not tried. A hop that finds some writes a
row inside the window of the next one, which therefore finds at least this. So only two kinds of
runs consolidate what there is to consolidate (`run_consolidates_iff`): those without any source
rows, and those that begin with the finest.
-/

namespace Ods.S5

/-! ### What the hops find -/

/-- A hop of the chain: source, target, and seconds of the window. -/
abbrev Hop := String × String × Int

/-- The window of a hop, where the calendar has one. -/
def hopWindow (referenceTime : Datetime) (windowSeconds : Int) : Option TimeWindow :=
  match generate referenceTime [windowSeconds] with
  | .ok windows => windows.head?
  | .error _ => none

/-- The source rows inside the window of a hop. -/
def sourceRows (zoneId : String) (referenceTime : Datetime) (table : SavedMetrics) (hop : Hop) :
    List OccupancyMetric :=
  match hopWindow referenceTime hop.2.2 with
  | some window => queryMetrics zoneId window hop.1 table
  | none => []

/-- The hops, one after the other: those that find source rows at that moment write a row of the
target with their window. -/
inductive HopsConsolidate (zoneId : String) (referenceTime : Datetime) :
    List Hop → SavedMetrics → SavedMetrics → Prop
  | done (table : SavedMetrics) : HopsConsolidate zoneId referenceTime [] table table
  | idle {hop : Hop} {rest : List Hop} {table table' : SavedMetrics}
      (hnone : sourceRows zoneId referenceTime table hop = [])
      (hrest : HopsConsolidate zoneId referenceTime rest table table') :
      HopsConsolidate zoneId referenceTime (hop :: rest) table table'
  | written {hop : Hop} {rest : List Hop} {table table' : SavedMetrics} {metric : OccupancyMetric}
      (hsome : sourceRows zoneId referenceTime table hop ≠ []) (hzone : metric.zoneId = zoneId)
      (hwindow : hopWindow referenceTime hop.2.2 = some metric.window)
      (hrest : HopsConsolidate zoneId referenceTime rest (table ++ [(metric, hop.2.1)]) table') :
      HopsConsolidate zoneId referenceTime (hop :: rest) table table'

/-- The metric of these rows fits into the columns for counts. -/
def Fits (metrics : List OccupancyMetric) : Prop :=
  (∀ metric ∈ metrics, metric.occupancyPeak ≤ maxInteger) ∧
    (metrics.map OccupancyMetric.totalCount).sum ≤ maxInteger

/-- There is nothing to consolidate, or there is something for the first hop, and all that there is
fits into a row. -/
def NothingOrFromTheFirst (zoneId : String) (referenceTime : Datetime) (chain : List Hop)
    (table : SavedMetrics) : Prop :=
  (∀ hop ∈ chain, sourceRows zoneId referenceTime table hop = []) ∨
    (∀ hop ∈ chain.head?, sourceRows zoneId referenceTime table hop ≠ []) ∧
      Fits (chain.flatMap (sourceRows zoneId referenceTime table))

/-! ### Windows of one reference time -/

section Windows

variable {referenceTime : Datetime} {seconds : Int}

theorem hopWindow_eq_some_iff {window : TimeWindow} :
    hopWindow referenceTime seconds = some window ↔ window.EndsAt referenceTime seconds := by
  unfold hopWindow
  cases hwindows : generate referenceTime [seconds] with
  | error raised =>
    refine ⟨fun h => (by cases h), fun h => ?_⟩
    -- a window that exists would have been generated
    have hok := generate_eq_ok_iff.mpr (.cons h .nil)
    rw [hwindows] at hok
    cases hok
  | ok windows =>
    cases generate_eq_ok_iff.mp hwindows with
    | @cons _ first _ others hfirst hnone =>
      constructor
      · intro h
        exact Option.some.inj h ▸ hfirst
      · intro h
        exact congrArg some (hfirst.unique h)

/-- A longer window that exists has the shorter ones inside. -/
theorem exists_shorter {longer : TimeWindow} {seconds' : Int} (hpos : 0 < seconds)
    (hle : seconds ≤ seconds') (h : longer.EndsAt referenceTime seconds') :
    ∃ window : TimeWindow, window.EndsAt referenceTime seconds := by
  obtain ⟨-, hmicros⟩ := h
  have hlt := referenceTime.inRange
  refine ⟨⟨⟨(referenceTime.micros - seconds * 1000000 : Int).toNat, by omega⟩, referenceTime, ?_⟩,
    rfl, ?_⟩
  · rw [Datetime.lt_iff]
    dsimp only
    omega
  · dsimp only
    omega

theorem inside_longer {window longer : TimeWindow} {seconds' : Int} (hle : seconds ≤ seconds')
    (h : window.EndsAt referenceTime seconds) (h' : longer.EndsAt referenceTime seconds') :
    longer.startTime ≤ window.startTime ∧ window.endTime ≤ longer.endTime := by
  obtain ⟨hend, hmicros⟩ := h
  obtain ⟨hend', hmicros'⟩ := h'
  refine ⟨?_, (hend.trans hend'.symm).le⟩
  rw [Datetime.le_iff]
  omega

end Windows

/-! ### One hop -/

section OneHop

variable {zoneId : String} {referenceTime : Datetime} {table : SavedMetrics} {hop : Hop}
  {rest : List Hop}

theorem queryMetrics_zone {window : TimeWindow} {granularity : String} {metric : OccupancyMetric}
    (h : metric ∈ queryMetrics zoneId window granularity table) : metric.zoneId = zoneId := by
  obtain ⟨row, hrow, rfl⟩ := List.mem_map.mp (mem_sortBy.mp h)
  exact (of_decide_eq_true (List.mem_filter.mp hrow).2).1

/-- What a hop does with the rows that it finds. -/
theorem rollupMetrics_of_rows {source target : String} {window : TimeWindow}
    (hrows : queryMetrics zoneId window source table ≠ []) :
    (Fits (queryMetrics zoneId window source table) →
      ∃ metric : OccupancyMetric, metric.zoneId = zoneId ∧ metric.window = window ∧
        (∀ bound, metric.occupancyPeak ≤ bound ↔
          ∀ row ∈ queryMetrics zoneId window source table, row.occupancyPeak ≤ bound) ∧
        metric.totalCount =
          ((queryMetrics zoneId window source table).map OccupancyMetric.totalCount).sum ∧
        ∃ dto, rollupMetrics zoneId source window target window table =
          (.ok dto, table ++ [(metric, target)])) ∧
    (¬ Fits (queryMetrics zoneId window source table) →
      ∃ raised, rollupMetrics zoneId source window target window table = (.error raised, table)) := by
  obtain ⟨first, others, hquery⟩ := List.exists_cons_of_ne_nil hrows
  -- a row bears the zone, and no row has a blank one
  have hnamed : isBlank zoneId = false := by
    have hzone : first.zoneId = zoneId := queryMetrics_zone (hquery ▸ List.mem_cons_self)
    exact hzone ▸ first.named
  obtain ⟨metric, hrollup⟩ := rollup_cons_eq_ok first others hnamed window
  obtain ⟨hzone, hwindow, hpeak, hcount⟩ := OccupancyMetric.create_fields hrollup
  have hbound : ∀ bound, metric.occupancyPeak ≤ bound ↔
      ∀ row ∈ first :: others, row.occupancyPeak ≤ bound := by
    intro bound
    rw [hpeak, foldl_max_le_iff, List.forall_mem_cons, List.forall_mem_map]
  have hfits : Fits (first :: others) ↔
      metric.occupancyPeak ≤ maxInteger ∧ metric.totalCount ≤ maxInteger := by
    rw [Fits, hbound, hcount]
  unfold rollupMetrics
  rw [hquery, hrollup]
  dsimp only
  -- the metric is there; whether it is stored is up to the columns
  unfold saveOccupancyMetric
  refine ⟨fun h => ⟨metric, hzone, hwindow, hbound, hcount, ?_⟩, fun h => ?_⟩
  · rw [if_pos (hfits.mp h)]
    exact ⟨_, rfl⟩
  · rw [if_neg (mt hfits.mpr h)]
    exact ⟨_, rfl⟩

theorem sourceRows_of_window {window : TimeWindow}
    (hwindow : hopWindow referenceTime hop.2.2 = some window) :
    sourceRows zoneId referenceTime table hop = queryMetrics zoneId window hop.1 table := by
  rw [sourceRows, hwindow]

theorem sourceRows_of_no_window (hwindow : hopWindow referenceTime hop.2.2 = none) :
    sourceRows zoneId referenceTime table hop = [] := by
  rw [sourceRows, hwindow]

/-- A hop that has its window goes on with what the roll-up leaves, or stops with it. -/
theorem runChain_of_window {window : TimeWindow}
    (hwindow : hopWindow referenceTime hop.2.2 = some window) :
    (∀ dto after, rollupMetrics zoneId hop.1 window hop.2.1 window table = (.ok dto, after) →
      runChain zoneId referenceTime (hop :: rest) table = runChain zoneId referenceTime rest after) ∧
    (∀ raised after, rollupMetrics zoneId hop.1 window hop.2.1 window table = (.error raised, after) →
      runChain zoneId referenceTime (hop :: rest) table = (.error raised, after)) := by
  obtain ⟨source, target, seconds⟩ := hop
  rw [runChain]
  cases hwindows : generate referenceTime [seconds] with
  | error raised =>
    rw [hopWindow, hwindows] at hwindow
    cases hwindow
  | ok windows =>
    rw [hopWindow, hwindows] at hwindow
    dsimp only at hwindow ⊢
    rw [hwindow]
    dsimp only
    constructor
    · intro dto after hrun
      rw [hrun]
    · intro raised after hrun
      rw [hrun]

/-- The calendar begins within the window. -/
theorem runChain_of_no_window (hwindow : hopWindow referenceTime hop.2.2 = none) :
    ∃ raised, runChain zoneId referenceTime (hop :: rest) table = (.error raised, table) := by
  obtain ⟨source, target, seconds⟩ := hop
  rw [runChain]
  cases hwindows : generate referenceTime [seconds] with
  | error raised => exact ⟨raised, rfl⟩
  | ok windows =>
    rw [hopWindow, hwindows] at hwindow
    dsimp only at hwindow ⊢
    rw [hwindow]
    exact ⟨_, rfl⟩

/-- **A hop without source rows ends the run.** -/
theorem runChain_of_idle (rest : List Hop)
    (hnone : sourceRows zoneId referenceTime table hop = []) :
    ∃ raised, runChain zoneId referenceTime (hop :: rest) table = (.error raised, table) := by
  cases hwindow : hopWindow referenceTime hop.2.2 with
  | none => exact runChain_of_no_window hwindow
  | some window =>
    rw [sourceRows_of_window hwindow] at hnone
    have hrun : ∃ raised, rollupMetrics zoneId hop.1 window hop.2.1 window table =
        (.error raised, table) := by
      rw [rollupMetrics, hnone]
      exact ⟨_, rfl⟩
    obtain ⟨raised, hrun⟩ := hrun
    exact ⟨raised, (runChain_of_window hwindow).2 raised table hrun⟩

/-- A hop that finds rows which fit writes their metric, and the run goes on. -/
theorem runChain_of_fits (rest : List Hop)
    (hsome : sourceRows zoneId referenceTime table hop ≠ [])
    (hfits : Fits (sourceRows zoneId referenceTime table hop)) :
    ∃ metric : OccupancyMetric, metric.zoneId = zoneId ∧
      hopWindow referenceTime hop.2.2 = some metric.window ∧
      (∀ bound, metric.occupancyPeak ≤ bound ↔
        ∀ row ∈ sourceRows zoneId referenceTime table hop, row.occupancyPeak ≤ bound) ∧
      metric.totalCount =
        ((sourceRows zoneId referenceTime table hop).map OccupancyMetric.totalCount).sum ∧
      runChain zoneId referenceTime (hop :: rest) table =
        runChain zoneId referenceTime rest (table ++ [(metric, hop.2.1)]) := by
  cases hwindow : hopWindow referenceTime hop.2.2 with
  | none => exact absurd (sourceRows_of_no_window hwindow) hsome
  | some window =>
    rw [sourceRows_of_window hwindow] at hsome hfits ⊢
    obtain ⟨metric, hzone, rfl, hpeak, hcount, dto, hrun⟩ := (rollupMetrics_of_rows hsome).1 hfits
    exact ⟨metric, hzone, rfl, hpeak, hcount, (runChain_of_window hwindow).1 dto _ hrun⟩

/-- A hop whose rows do not fit ends the run as well. -/
theorem runChain_of_not_fits (rest : List Hop)
    (hsome : sourceRows zoneId referenceTime table hop ≠ [])
    (hfits : ¬ Fits (sourceRows zoneId referenceTime table hop)) :
    ∃ raised, runChain zoneId referenceTime (hop :: rest) table = (.error raised, table) := by
  cases hwindow : hopWindow referenceTime hop.2.2 with
  | none => exact runChain_of_no_window hwindow
  | some window =>
    rw [sourceRows_of_window hwindow] at hsome hfits
    obtain ⟨raised, hrun⟩ := (rollupMetrics_of_rows hsome).2 hfits
    exact ⟨raised, (runChain_of_window hwindow).2 raised table hrun⟩

/-- What a hop finds once the hop before it has written: the row of that hop, if it has its own
granularity, and what it would have found anyway. -/
theorem sourceRows_snoc (table : SavedMetrics) (granularity : String) {metric : OccupancyMetric}
    {seconds : Int} (hzone : metric.zoneId = zoneId)
    (hwindow : metric.window.EndsAt referenceTime seconds)
    (hle : seconds ≤ hop.2.2) :
    (sourceRows zoneId referenceTime (table ++ [(metric, granularity)]) hop).Perm
      ((if granularity = hop.1 ∧ (hopWindow referenceTime hop.2.2).isSome then [metric] else []) ++
        sourceRows zoneId referenceTime table hop) := by
  cases hlonger : hopWindow referenceTime hop.2.2 with
  | none =>
    rw [sourceRows_of_no_window hlonger, sourceRows_of_no_window hlonger]
    simp
  | some longer =>
    have hinside := inside_longer hle hwindow (hopWindow_eq_some_iff.mp hlonger)
    rw [sourceRows_of_window hlonger, sourceRows_of_window hlonger, queryMetrics, queryMetrics]
    -- sorting changes the order only
    refine (sortBy_perm _ _).trans (.trans ?_ ((sortBy_perm _ _).symm.append_left _))
    rw [List.filter_append, List.map_append]
    refine List.perm_append_comm.trans (.append (.of_eq ?_) (.refl _))
    -- the new row lies in the window, so its granularity decides
    by_cases hsource : granularity = hop.1
    · rw [if_pos ⟨hsource, rfl⟩, List.filter_singleton, decide_eq_true ⟨hzone, hsource, hinside⟩]
      rfl
    · rw [if_neg fun h => hsource h.1, List.filter_singleton,
        decide_eq_false fun h => hsource h.2.1]
      rfl

end OneHop

/-! ### Before and after -/

section HopsConsolidate

variable {zoneId : String} {referenceTime : Datetime} {chain : List Hop}
  {table table' : SavedMetrics}

/-- Rows are only added. -/
theorem HopsConsolidate.prefix_of (h : HopsConsolidate zoneId referenceTime chain table table') :
    table <+: table' := by
  induction h with
  | done table => exact List.prefix_refl _
  | idle _ _ ih => exact ih
  | written _ _ _ _ ih => exact (List.prefix_append _ _).trans ih

/-- Where nothing is written, there was nothing to write. -/
theorem consolidates_self_iff :
    HopsConsolidate zoneId referenceTime chain table table ↔
      ∀ hop ∈ chain, sourceRows zoneId referenceTime table hop = [] := by
  induction chain with
  | nil => exact ⟨fun _ _ h => absurd h List.not_mem_nil, fun _ => .done table⟩
  | cons hop rest ih =>
    rw [List.forall_mem_cons]
    constructor
    · intro h
      cases h with
      | idle hnone hrest => exact ⟨hnone, ih.mp hrest⟩
      | written _ _ _ hrest =>
        -- a row has been added, and the table is as long as before
        have hlength := hrest.prefix_of.length_le
        rw [List.length_append, List.length_singleton] at hlength
        omega
    · rintro ⟨hnone, hrest⟩
      exact .idle hnone (ih.mpr hrest)

/-- The row that a hop writes is the one that the store has after it. -/
theorem consolidates_written_iff {hop : Hop} {metric : OccupancyMetric}
    (hsome : sourceRows zoneId referenceTime table hop ≠ []) (hzone : metric.zoneId = zoneId)
    (hwindow : hopWindow referenceTime hop.2.2 = some metric.window)
    (hinit : (table ++ [(metric, hop.2.1)]) <+: table') :
    HopsConsolidate zoneId referenceTime (hop :: chain) table table' ↔
      HopsConsolidate zoneId referenceTime chain (table ++ [(metric, hop.2.1)]) table' := by
  constructor
  · intro h
    cases h with
    | idle hnone _ => exact absurd hnone hsome
    | @written _ _ _ _ metric' _ _ _ hrest =>
      -- both rows stand behind the same table in the same result
      have hsame : table ++ [(metric', hop.2.1)] = table ++ [(metric, hop.2.1)] := by
        refine (List.prefix_of_prefix_length_le hrest.prefix_of hinit ?_).eq_of_length ?_
        · rw [List.length_append, List.length_append, List.length_singleton, List.length_singleton]
        · rw [List.length_append, List.length_append, List.length_singleton, List.length_singleton]
      exact hsame ▸ hrest
  · exact fun h => .written hsome hzone hwindow h

/-- A run only adds rows. -/
theorem prefix_runChain (zoneId : String) (referenceTime : Datetime) (chain : List Hop)
    (table : SavedMetrics) : table <+: (runChain zoneId referenceTime chain table).2 := by
  induction chain generalizing table with
  | nil => exact List.prefix_refl _
  | cons hop rest ih =>
    by_cases hsome : sourceRows zoneId referenceTime table hop = []
    · obtain ⟨raised, hrun⟩ := runChain_of_idle rest hsome
      exact hrun ▸ List.prefix_refl _
    · by_cases hfits : Fits (sourceRows zoneId referenceTime table hop)
      · obtain ⟨metric, -, -, -, -, hrun⟩ := runChain_of_fits rest hsome hfits
        rw [hrun]
        exact (List.prefix_append _ _).trans (ih _)
      · obtain ⟨raised, hrun⟩ := runChain_of_not_fits rest hsome hfits
        exact hrun ▸ List.prefix_refl _

end HopsConsolidate

/-! ### The chain -/

/-- Every hop reads what the one before it writes, in a window that has the other's inside. -/
def Linked : List Hop → Prop
  | [] => True
  | hop :: rest =>
    0 < hop.2.2 ∧ (∀ later ∈ rest, hop.2.2 ≤ later.2.2) ∧
      (∀ next ∈ rest.head?, next.1 = hop.2.1) ∧ (∀ later ∈ rest.tail, later.1 ≠ hop.2.1) ∧ Linked rest

theorem Linked.tail {hop : Hop} {rest : List Hop} (h : Linked (hop :: rest)) : Linked rest :=
  h.2.2.2.2

theorem linked_rollupChain : Linked rollupChain := by
  simp [rollupChain, Linked]

theorem Fits.perm {metrics metrics' : List OccupancyMetric} (hperm : metrics.Perm metrics')
    (h : Fits metrics) : Fits metrics' := by
  refine ⟨fun metric hmetric => h.1 metric (hperm.mem_iff.mpr hmetric), ?_⟩
  have hsum := (hperm.map OccupancyMetric.totalCount).sum_eq
  exact hsum ▸ h.2

theorem Fits.of_append {metrics metrics' : List OccupancyMetric} (h : Fits (metrics ++ metrics')) :
    Fits metrics := by
  obtain ⟨hpeaks, hcounts⟩ := h
  rw [List.map_append, List.sum_append] at hcounts
  exact ⟨fun metric hmetric => hpeaks metric (List.mem_append_left _ hmetric),
    (le_add_of_nonneg_right (sum_totalCount_nonneg _)).trans hcounts⟩

/-- The row of some rows fits along with others exactly if they do themselves. -/
theorem fits_cons_iff {metric : OccupancyMetric} {rows others : List OccupancyMetric}
    (hpeak : ∀ bound, metric.occupancyPeak ≤ bound ↔ ∀ row ∈ rows, row.occupancyPeak ≤ bound)
    (hcount : metric.totalCount = (rows.map OccupancyMetric.totalCount).sum) :
    Fits (metric :: others) ↔ Fits (rows ++ others) := by
  rw [Fits, Fits, List.forall_mem_cons, hpeak, List.forall_mem_append, List.map_cons, List.sum_cons,
    hcount, List.map_append, List.sum_append]

section Chain

variable {zoneId : String} {referenceTime : Datetime} {table : SavedMetrics} {hop : Hop}
  {rest : List Hop}

/-- Where one window begins before the calendar, so do the longer ones. -/
theorem no_longer_window (zoneId : String) (table : SavedMetrics) (hlinked : Linked (hop :: rest))
    (hwindow : hopWindow referenceTime hop.2.2 = none) :
    ∀ later ∈ hop :: rest, sourceRows zoneId referenceTime table later = [] := by
  obtain ⟨hpos, hlonger, -⟩ := hlinked
  intro later hlater
  refine sourceRows_of_no_window (Option.eq_none_iff_forall_ne_some.mpr fun window hsome => ?_)
  have hle : hop.2.2 ≤ later.2.2 := by
    rcases List.mem_cons.mp hlater with rfl | hmem
    · exact le_rfl
    · exact hlonger later hmem
  obtain ⟨shorter, hends⟩ := exists_shorter hpos hle (hopWindow_eq_some_iff.mp hsome)
  rw [hopWindow_eq_some_iff.mpr hends] at hwindow
  cases hwindow

/-- Behind a hop that has written, the next one finds its row, and nothing else has changed. -/
theorem flatMap_sourceRows_snoc {next : Hop} {later : List Hop}
    (hlinked : Linked (hop :: next :: later)) {metric : OccupancyMetric} (hzone : metric.zoneId = zoneId)
    (hends : metric.window.EndsAt referenceTime hop.2.2) {window : TimeWindow}
    (hwindow : hopWindow referenceTime next.2.2 = some window) :
    sourceRows zoneId referenceTime (table ++ [(metric, hop.2.1)]) next ≠ [] ∧
      ((next :: later).flatMap
        (sourceRows zoneId referenceTime (table ++ [(metric, hop.2.1)]))).Perm
          (metric :: (next :: later).flatMap (sourceRows zoneId referenceTime table)) := by
  obtain ⟨-, hlonger, hnext, hothers, -⟩ := hlinked
  have hfound : (sourceRows zoneId referenceTime (table ++ [(metric, hop.2.1)]) next).Perm
      (metric :: sourceRows zoneId referenceTime table next) := by
    have hsnoc := sourceRows_snoc table hop.2.1 hzone hends (hlonger next List.mem_cons_self)
    rwa [hwindow, if_pos ⟨(hnext next rfl).symm, rfl⟩] at hsnoc
  -- the hops behind it read other granularities
  have hsame : ∀ other ∈ later,
      (sourceRows zoneId referenceTime (table ++ [(metric, hop.2.1)]) other).Perm
        (sourceRows zoneId referenceTime table other) := by
    intro other hother
    have hsnoc := sourceRows_snoc table hop.2.1 hzone hends
      (hlonger other (List.mem_cons_of_mem _ hother))
    rwa [if_neg fun h => hothers other hother h.1.symm] at hsnoc
  refine ⟨fun hnone => ?_, hfound.append (List.Perm.flatMap_left later hsame)⟩
  have hlength := hfound.length_eq
  rw [hnone] at hlength
  cases hlength

/-- The hops behind one that has written: the next one finds its row. -/
theorem nothingOrFromTheFirst_snoc (hlinked : Linked (hop :: rest)) {metric : OccupancyMetric}
    (hfits : Fits (sourceRows zoneId referenceTime table hop)) (hzone : metric.zoneId = zoneId)
    (hwindow : hopWindow referenceTime hop.2.2 = some metric.window)
    (hpeak : ∀ bound, metric.occupancyPeak ≤ bound ↔
      ∀ row ∈ sourceRows zoneId referenceTime table hop, row.occupancyPeak ≤ bound)
    (hcount : metric.totalCount =
      ((sourceRows zoneId referenceTime table hop).map OccupancyMetric.totalCount).sum) :
    NothingOrFromTheFirst zoneId referenceTime rest (table ++ [(metric, hop.2.1)]) ↔
      Fits ((hop :: rest).flatMap (sourceRows zoneId referenceTime table)) := by
  have hends := hopWindow_eq_some_iff.mp hwindow
  rw [List.flatMap_cons]
  cases rest with
  | nil =>
    rw [List.flatMap_nil, List.append_nil]
    exact iff_of_true (.inl fun hop hmem => absurd hmem List.not_mem_nil) hfits
  | cons next later =>
    cases hnextWindow : hopWindow referenceTime next.2.2 with
    | none =>
      -- no window for the next hop, and none for a longer one
      have hnone := no_longer_window zoneId table hlinked.tail hnextWindow
      rw [List.flatMap_eq_nil_iff.mpr hnone, List.append_nil]
      exact iff_of_true (.inl (no_longer_window zoneId _ hlinked.tail hnextWindow)) hfits
    | some window =>
      obtain ⟨hsome, hall⟩ := flatMap_sourceRows_snoc hlinked hzone hends hnextWindow
      rw [← fits_cons_iff hpeak hcount]
      constructor
      · rintro (hnothing | ⟨-, hfit⟩)
        · exact absurd (hnothing next List.mem_cons_self) hsome
        · exact hfit.perm hall
      · intro hfit
        refine .inr ⟨fun first hfirst => ?_, hfit.perm hall.symm⟩
        obtain rfl := Option.some.inj hfirst
        exact hsome

theorem runChain_consolidates_iff {chain : List Hop} (hlinked : Linked chain) :
    HopsConsolidate zoneId referenceTime chain table (runChain zoneId referenceTime chain table).2 ↔
      NothingOrFromTheFirst zoneId referenceTime chain table := by
  induction chain generalizing table with
  | nil => exact iff_of_true (.done table) (.inl fun hop hmem => absurd hmem List.not_mem_nil)
  | cons hop rest ih =>
    by_cases hsome : sourceRows zoneId referenceTime table hop = []
    · -- the run ends here, which is right only if nothing is left to do
      obtain ⟨raised, hrun⟩ := runChain_of_idle rest hsome
      rw [hrun, consolidates_self_iff]
      exact ⟨.inl, fun h => h.resolve_right fun hfirst => hfirst.1 hop rfl hsome⟩
    -- with rows for the first hop, what is left of the condition is that all fits
    have hfirst : NothingOrFromTheFirst zoneId referenceTime (hop :: rest) table ↔
        Fits ((hop :: rest).flatMap (sourceRows zoneId referenceTime table)) := by
      constructor
      · rintro (hnothing | ⟨-, hfit⟩)
        · exact absurd (hnothing hop List.mem_cons_self) hsome
        · exact hfit
      · intro hfit
        refine .inr ⟨fun first hhead => ?_, hfit⟩
        obtain rfl := Option.some.inj hhead
        exact hsome
    -- the row is stored and the next hop finds it, or it is refused and the run ends
    by_cases hfits : Fits (sourceRows zoneId referenceTime table hop)
    · obtain ⟨metric, hzone, hwindow, hpeak, hcount, hrun⟩ :=
        runChain_of_fits rest hsome hfits
      rw [hrun, consolidates_written_iff hsome hzone hwindow (prefix_runChain _ _ _ _),
        ih hlinked.tail, hfirst]
      exact nothingOrFromTheFirst_snoc hlinked hfits hzone hwindow hpeak hcount
    · obtain ⟨raised, hrun⟩ := runChain_of_not_fits rest hsome hfits
      rw [hrun, consolidates_self_iff, hfirst]
      refine iff_of_false (fun h => hsome (h hop List.mem_cons_self)) fun hfit => hfits ?_
      exact Fits.of_append hfit

end Chain

/-- **When a run consolidates all there is.** -/
theorem run_consolidates_iff (zoneId : String) (referenceTime : Datetime) (table : SavedMetrics) :
    HopsConsolidate zoneId referenceTime rollupChain table (run zoneId referenceTime table).2 ↔
      NothingOrFromTheFirst zoneId referenceTime rollupChain table :=
  runChain_consolidates_iff linked_rollupChain

/-- The rows of a zone in which nothing has happened, as the aggregation leaves them. -/
def aggregatedRows : SavedMetrics :=
  (aggregateDwellTime sumCompensated [] "zone-01" twoHours defaultWindowSizesSeconds []).2

/-- There are no 1s rows, and the 1m row is not consolidated. -/
theorem minute_row_left_behind :
    ¬ ∀ (zoneId : String) (referenceTime : Datetime) (table : SavedMetrics),
      HopsConsolidate zoneId referenceTime rollupChain table (run zoneId referenceTime table).2 := by
  intro h
  have hidle : sourceRows "zone-01" twoHours aggregatedRows ("1s", "1m", 60) = [] := by
    decide +kernel
  have hfound : sourceRows "zone-01" twoHours aggregatedRows ("1m", "15m", 900) ≠ [] := by
    decide +kernel
  obtain ⟨raised, hrun⟩ : ∃ raised, run "zone-01" twoHours aggregatedRows =
      (.error raised, aggregatedRows) := runChain_of_idle _ hidle
  have hall := h "zone-01" twoHours aggregatedRows
  rw [hrun] at hall
  -- nothing was written, so the second hop must not have found anything
  refine hfound (consolidates_self_iff.mp hall _ ?_)
  exact .tail _ (.head _)

end Ods.S5
