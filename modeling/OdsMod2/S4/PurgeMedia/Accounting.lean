import Mathlib.Algebra.BigOperators.Group.Finset.Piecewise
import OdsMod2.S4.PurgeMedia.Deadline

/-!
# What a sweep accounts for

The sizes are measured when the candidates are loaded, the outcome for each clip is decided when its
turn comes. In a sweep in which nothing fails the two agree: nobody writes meanwhile, so a file that
is there when it is removed is the file that was measured, and a file that is not there any more was
removed with an earlier clip, which has counted it.

`Booked` says what the entries of a part of a sweep stand for, record by record, and `Frees` that
their bytes are what the files have lost. Both are additive: the parts of a sweep follow one another,
and the entries are appended. The first holds for every strategy, the second needs the sizes of the
candidates, and so that a strategy selects among the candidates it is shown, as `IRetentionStrategy`
asks.
-/

namespace Ods.S4

open Prog

/-- `PurgeReport::bytesFreed`, in a `uintmax_t`. -/
def PurgeReport.bytesFreed (report : PurgeReport) : ℕ :=
  report.purged.foldl (fun total entry => (total + entry.bytesFreed) % 2 ^ 64) 0

/-- The bytes of some entries, without wrapping around. -/
def totalFreed (entries : List PurgeLogEntry) : ℕ :=
  (entries.map PurgeLogEntry.bytesFreed).sum

theorem totalFreed_append (entries entries' : List PurgeLogEntry) :
    totalFreed (entries ++ entries') = totalFreed entries + totalFreed entries' := by
  unfold totalFreed
  rw [List.map_append, List.sum_append]

theorem PurgeReport.bytesFreed_eq (report : PurgeReport) :
    report.bytesFreed = totalFreed report.purged % 2 ^ 64 := by
  -- the accumulator is the sum so far
  have hfold : ∀ (entries : List PurgeLogEntry) (total : ℕ),
      entries.foldl (fun total entry => (total + entry.bytesFreed) % 2 ^ 64) (total % 2 ^ 64) =
        (total + totalFreed entries) % 2 ^ 64 := by
    intro entries
    induction entries with
    | nil => exact fun _ => rfl
    | cons entry entries ih =>
      intro total
      rw [List.foldl_cons, Nat.mod_add_mod, ih]
      unfold totalFreed
      rw [List.map_cons, List.sum_cons, Nat.add_assoc]
  have hsum := hfold report.purged 0
  rw [Nat.zero_add] at hsum
  exact hsum

namespace ServiceState

/-- What the files under these paths weigh. A path counts once, however many clips name it. -/
def totalSize (s : ServiceState) (paths : Finset String) : ℕ :=
  ∑ path ∈ paths, s.weight path

theorem weight_dropFile (s : ServiceState) (path : String) :
    (s.dropFile path).weight = Function.update s.weight path 0 := by
  ext other
  unfold weight
  rw [dropFile_files]
  by_cases hother : other = path
  · rw [hother, Function.update_self, Function.update_self]
    rfl
  · rw [Function.update_of_ne hother, Function.update_of_ne hother]

/-- A file that goes takes its bytes along. -/
theorem totalSize_dropFile (s : ServiceState) {paths : Finset String} {path : String}
    (hmem : path ∈ paths) :
    s.weight path + (s.dropFile path).totalSize paths = s.totalSize paths := by
  unfold totalSize
  rw [weight_dropFile, Finset.sum_update_of_mem hmem, Nat.zero_add,
    Finset.sdiff_singleton_eq_erase, Finset.add_sum_erase _ _ hmem]

end ServiceState

/-- The interface: a subset of the candidates. -/
def RetentionStrategy.SelectsSubset (strategy : RetentionStrategy) : Prop :=
  ∀ candidates context selected, strategy.selectClipsToPurge candidates context = .ok selected →
    ∀ candidate ∈ selected, candidate ∈ candidates

theorem selectsSubset_lgpd (policy : RetentionPolicy) :
    (LgpdRetentionStrategy policy).SelectsSubset := by
  intro candidates context selected hselect candidate hmem
  obtain rfl := Except.ok.inj hselect
  exact List.mem_of_mem_filter hmem

theorem selectsSubset_diskQuota (policy : QuotaPolicy) :
    (DiskQuotaFifoStrategy policy).SelectsSubset := by
  intro candidates context selected hselect candidate hmem
  have hselected : DiskQuotaFifoStrategy.selectClipsToPurge policy candidates context
      = .ok selected := hselect
  unfold DiskQuotaFifoStrategy.selectClipsToPurge at hselected
  split at hselected
  · obtain rfl := Except.ok.inj hselected
    cases hmem
  · dsimp only at hselected
    split at hselected
    · cases hselected
    · obtain rfl := Except.ok.inj hselected
      obtain ⟨k, -, htake, -⟩ := DiskQuotaFifoStrategy.takeUntilTargetIsReached_eq_take policy
        (DiskQuotaFifoStrategy.eligibleOldestFirst candidates) context.diskUsage
      rw [htake] at hmem
      exact (DiskQuotaFifoStrategy.mem_eligibleOldestFirst.mp (List.mem_of_mem_take hmem)).1

namespace PurgeMedia

/-- `isRetained` was true, and is false. -/
def WentFromRetained (s s' : ServiceState) (clipId : String) : Prop :=
  ∃ before after, s.clips.lookup clipId = some before ∧ before.isRetained = true ∧
    s'.clips.lookup clipId = some after ∧ after.isRetained = false

/-! ### The records -/

/-- The entries of a part of a sweep, and what it has done. -/
structure Booked (s : ServiceState) (entries : List PurgeLogEntry) (s' : ServiceState) : Prop where
  once : (entries.map PurgeLogEntry.clipId).Nodup
  purged : ∀ clipId ∈ entries.map PurgeLogEntry.clipId, ∃ clip,
    s.clips.lookup clipId = some clip ∧ clip.isEligibleForPurge = true ∧
      s'.clips.lookup clipId = some clip.markAsPurged
  others : ∀ clipId ∉ entries.map PurgeLogEntry.clipId,
    s'.clips.lookup clipId = s.clips.lookup clipId
  log : s'.purgeLog = s.purgeLog ++ entries
  files : ∀ path, s'.files path = s.files path ∨ s'.files path = none

namespace Booked

variable {s s' s'' : ServiceState} {entries entries' : List PurgeLogEntry} {clip : MediaClip}

theorem nil (s : ServiceState) : Booked s [] s where
  once := List.nodup_nil
  purged := nofun
  others := fun _ _ => rfl
  log := (List.append_nil _).symm
  files := fun _ => .inl rfl

/-- What can still be purged has not been touched. -/
theorem lookup_of_eligible (h : Booked s entries s') {clipId : String}
    (hfound : s'.clips.lookup clipId = some clip) (heligible : clip.isEligibleForPurge = true) :
    s.clips.lookup clipId = some clip := by
  by_cases hmem : clipId ∈ entries.map PurgeLogEntry.clipId
  · obtain ⟨clip', -, -, hmarked⟩ := h.purged clipId hmem
    obtain rfl := Option.some.inj (hmarked.symm.trans hfound)
    cases heligible
  · exact (h.others clipId hmem).symm.trans hfound

theorem append (h : Booked s entries s') (h' : Booked s' entries' s'') :
    Booked s (entries ++ entries') s'' := by
  -- a clip that is purged is not eligible again
  have hdisjoint : ∀ clipId ∈ entries.map PurgeLogEntry.clipId,
      clipId ∉ entries'.map PurgeLogEntry.clipId := by
    intro clipId hmem hmem'
    obtain ⟨clip, -, -, hmarked⟩ := h.purged clipId hmem
    obtain ⟨clip', hfound, heligible, -⟩ := h'.purged clipId hmem'
    obtain rfl := Option.some.inj (hmarked.symm.trans hfound)
    cases heligible
  constructor
  · rw [List.map_append]
    exact h.once.append h'.once fun clipId hmem hmem' => hdisjoint clipId hmem hmem'
  · intro clipId hmem
    rw [List.map_append] at hmem
    rcases List.mem_append.mp hmem with hmem | hmem
    · obtain ⟨clip, hfound, heligible, hmarked⟩ := h.purged clipId hmem
      exact ⟨clip, hfound, heligible, (h'.others clipId (hdisjoint clipId hmem)).trans hmarked⟩
    · obtain ⟨clip, hfound, heligible, hmarked⟩ := h'.purged clipId hmem
      exact ⟨clip, h.lookup_of_eligible hfound heligible, heligible, hmarked⟩
  · intro clipId hmem
    rw [List.map_append, List.mem_append, not_or] at hmem
    rw [h'.others clipId hmem.2, h.others clipId hmem.1]
  · rw [h'.log, h.log, List.append_assoc]
  · intro path
    rcases h'.files path with hsame | hgone
    · rw [hsame]
      exact h.files path
    · exact .inr hgone

/-- The entries name exactly the clips that are no longer retained. -/
theorem mem_iff (h : Booked s entries s') (clipId : String) :
    clipId ∈ entries.map PurgeLogEntry.clipId ↔ WentFromRetained s s' clipId := by
  constructor
  · intro hmem
    obtain ⟨clip, hfound, heligible, hmarked⟩ := h.purged clipId hmem
    exact ⟨clip, _, hfound, (MediaClip.isEligibleForPurge_iff.mp heligible).1, hmarked, rfl⟩
  · rintro ⟨before, after, hbefore, hretained, hafter, hgone⟩
    by_contra hmem
    rw [h.others clipId hmem, hbefore] at hafter
    rw [← Option.some.inj hafter, hretained] at hgone
    cases hgone

end Booked

/-! ### The bytes -/

/-- The size of a candidate is that of the file its clip would take along. -/
def Measures (s : ServiceState) (candidate : PurgeCandidate) : Prop :=
  ∀ clip, s.clips.lookup candidate.clip.clipId = some clip → clip.isEligibleForPurge = true →
    (s.files clip.filePath).isSome = true → candidate.sizeBytes = s.weight clip.filePath

theorem measures_measured {s : ServiceState} {clip : MediaClip} (hrow : clip ∈ s.clips.rows) :
    Measures s (measured s clip) := by
  intro found hfound _ _
  have hclip : s.clips.lookup clip.clipId = some clip := KeyedTable.lookup_eq_some.mpr ⟨hrow, rfl⟩
  -- the id names this row
  obtain rfl := Option.some.inj (hclip.symm.trans hfound)
  rfl

/-- Nothing is written in a sweep: a file is what it was, or it is gone. -/
theorem Measures.later {s s' : ServiceState} {candidate : PurgeCandidate}
    {entries : List PurgeLogEntry} (h : Measures s candidate) (hbooked : Booked s entries s') :
    Measures s' candidate := by
  intro clip hfound heligible hexists
  have hsame : s'.files clip.filePath = s.files clip.filePath := by
    rcases hbooked.files clip.filePath with hsame | hgone
    · exact hsame
    · rw [hgone] at hexists
      cases hexists
  rw [hsame] at hexists
  have hweight : s'.weight clip.filePath = s.weight clip.filePath := by
    unfold ServiceState.weight
    rw [hsame]
  rw [hweight]
  exact h clip (hbooked.lookup_of_eligible hfound heligible) heligible hexists

/-- The files of the clips that may be purged are among these. -/
def Covers (paths : Finset String) (s : ServiceState) : Prop :=
  ∀ clipId clip, s.clips.lookup clipId = some clip → clip.isEligibleForPurge = true →
    clip.filePath ∈ paths

theorem Covers.later {paths : Finset String} {s s' : ServiceState} {entries : List PurgeLogEntry}
    (h : Covers paths s) (hbooked : Booked s entries s') : Covers paths s' := by
  intro clipId clip hfound heligible
  exact h clipId clip (hbooked.lookup_of_eligible hfound heligible) heligible

/-- The bytes of the entries are those the files have lost. -/
def Frees (s : ServiceState) (entries : List PurgeLogEntry) (s' : ServiceState) : Prop :=
  ∀ paths, Covers paths s → totalFreed entries + s'.totalSize paths = s.totalSize paths

theorem Frees.nil (s : ServiceState) : Frees s [] s :=
  fun _ _ => Nat.zero_add _

theorem Frees.append {s s' s'' : ServiceState} {entries entries' : List PurgeLogEntry}
    (h : Frees s entries s') (hbooked : Booked s entries s') (h' : Frees s' entries' s'') :
    Frees s (entries ++ entries') s'' := by
  intro paths hcovers
  rw [totalFreed_append, Nat.add_assoc, h' paths (hcovers.later hbooked), h paths hcovers]

/-- What a part of a sweep adds to the report; its bytes are right if the sizes are. -/
def KeepsBooks (Sizes : Prop) (s : ServiceState) (report : PurgeReport) (s' : ServiceState)
    (report' : PurgeReport) : Prop :=
  ∃ entries, report'.purged = report.purged ++ entries ∧ Booked s entries s' ∧
    (Sizes → Frees s entries s')

section KeepsBooks

variable {Sizes Sizes' : Prop} {s s' s'' : ServiceState} {report report' report'' : PurgeReport}

theorem KeepsBooks.of_purged_eq (h : report'.purged = report.purged) :
    KeepsBooks Sizes s report s report' :=
  ⟨[], h.trans (List.append_nil _).symm, Booked.nil s, fun _ => Frees.nil s⟩

/-- One part after the other. -/
theorem KeepsBooks.trans (h : KeepsBooks Sizes s report s' report')
    (hsizes : ∀ entries, Booked s entries s' → Sizes → Sizes')
    (h' : KeepsBooks Sizes' s' report' s'' report'') :
    KeepsBooks Sizes s report s'' report'' := by
  obtain ⟨entries, hpurged, hbooked, hfrees⟩ := h
  obtain ⟨entries', hpurged', hbooked', hfrees'⟩ := h'
  refine ⟨entries ++ entries', ?_, hbooked.append hbooked', fun hall => ?_⟩
  · rw [hpurged', hpurged, List.append_assoc]
  · exact (hfrees hall).append hbooked (hfrees' (hsizes entries hbooked hall))

theorem KeepsBooks.mono (h : KeepsBooks Sizes' s report s' report') (hsizes : Sizes → Sizes') :
    KeepsBooks Sizes s report s' report' := by
  obtain ⟨entries, hpurged, hbooked, hfrees⟩ := h
  exact ⟨entries, hpurged, hbooked, fun hall => hfrees (hsizes hall)⟩

end KeepsBooks

/-! ### One clip -/

section Purge

variable {s released : ServiceState} {clip : MediaClip} {outcome : FileOutcome} {sizeBytes : Nat}
  {reason : PurgeReason} {context : RetentionContext}

theorem Released.files (h : Released clip outcome s released) (path : String) :
    released.files path = s.files path ∨ released.files path = none := by
  cases h with
  | kept => exact .inl rfl
  | removed =>
    rw [ServiceState.dropFile_files]
    by_cases hpath : path = clip.filePath
    · rw [hpath]
      exact .inr (Function.update_self _ _ _)
    · exact .inl (Function.update_of_ne hpath _ _)

/-- The clip is marked and logged. -/
theorem booked_entryOf (hreleased : Released clip outcome s released)
    (hfound : s.clips.lookup clip.clipId = some clip) (heligible : clip.isEligibleForPurge = true) :
    Booked s [entryOf clip sizeBytes reason context outcome]
      ((released.putClip clip.markAsPurged).appendLog
        (entryOf clip sizeBytes reason context outcome)) := by
  have hlookup : (released.putClip clip.markAsPurged).clips.lookup =
      Function.update s.clips.lookup clip.clipId (some clip.markAsPurged) := by
    rw [ServiceState.putClip_clips, KeyedTable.lookup_upsert, hreleased.clips_eq]
    rfl
  have hids : ∀ clipId, clipId ∈
      [entryOf clip sizeBytes reason context outcome].map PurgeLogEntry.clipId ↔
        clipId = clip.clipId := fun _ => List.mem_singleton
  constructor
  · exact List.nodup_singleton _
  · intro clipId hmem
    obtain rfl := (hids clipId).mp hmem
    refine ⟨clip, hfound, heligible, ?_⟩
    show (released.putClip clip.markAsPurged).clips.lookup _ = _
    rw [hlookup, Function.update_self]
  · intro clipId hmem
    show (released.putClip clip.markAsPurged).clips.lookup _ = _
    rw [hlookup, Function.update_of_ne (mt (hids clipId).mpr hmem)]
  · cases hreleased <;> rfl
  · exact hreleased.files

/-- Only a file that is removed counts, and it counts whole. -/
theorem frees_entryOf (hreleased : Released clip outcome s released)
    (hfound : s.clips.lookup clip.clipId = some clip) (heligible : clip.isEligibleForPurge = true)
    (hsize : (s.files clip.filePath).isSome = true → sizeBytes = s.weight clip.filePath) :
    Frees s [entryOf clip sizeBytes reason context outcome]
      ((released.putClip clip.markAsPurged).appendLog
        (entryOf clip sizeBytes reason context outcome)) := by
  intro paths hcovers
  have hbytes : totalFreed [entryOf clip sizeBytes reason context outcome] =
      if outcome = .deleted then sizeBytes else 0 := Nat.add_zero _
  rw [hbytes]
  show _ + released.totalSize paths = _
  cases hreleased with
  | kept hkept => rw [if_neg hkept, Nat.zero_add]
  | removed hexists =>
    rw [if_pos rfl, hsize hexists]
    exact s.totalSize_dropFile (hcovers _ clip hfound heligible)

end Purge

/-! ### The sweep -/

section Sweep

variable {env : Environment}

theorem purge_keepsBooks (hcalm : env.Calm) (candidate : PurgeCandidate) (reason : PurgeReason)
    (context : RetentionContext) (report : PurgeReport) (s : ServiceState) :
    (purge candidate reason context report).wp env.serves AnyCall
      (fun r s' => ∃ report', r = .ok report' ∧
        KeepsBooks (Measures s candidate) s report s' report') s := by
  refine wp_bind (wp_calm hcalm (fun _ h => (by cases h)) ?_)
  rintro found s' ⟨hfound, rfl⟩
  match found, hfound with
  | none, _ => exact ⟨_, rfl, .of_purged_eq rfl⟩
  | some clip, hfound =>
    obtain ⟨hclip, hid⟩ := KeyedTable.lookup_eq_some.mp hfound.symm
    show (if clip.isEligibleForPurge then _ else _ : Service PurgeReport).wp _ _ _ _
    split
    · next heligible =>
      refine wp_mono (purgeCurrent_calm hcalm clip _ reason context report s') ?_
      rintro r s'' ⟨outcome, released, hreleased, rfl, rfl⟩
      have hself : s'.clips.lookup clip.clipId = some clip :=
        KeyedTable.lookup_eq_some.mpr ⟨hclip, rfl⟩
      -- one entry, for the row as it was read again
      exact ⟨_, rfl, _, rfl, booked_entryOf hreleased hself heligible, fun hmeasures =>
        frees_entryOf hreleased hself heligible (hmeasures clip hfound.symm heligible)⟩
    · exact ⟨_, rfl, .of_purged_eq rfl⟩

theorem purgeAll_keepsBooks (hcalm : env.Calm) (reason : PurgeReason) (context : RetentionContext)
    (selected remaining : List PurgeCandidate) (report : PurgeReport) (s : ServiceState) :
    (purgeAll reason context selected remaining report).wp env.serves AnyCall
      (fun r s' => ∃ remaining' report', r = .ok (remaining', report') ∧ remaining' ⊆ remaining ∧
        KeepsBooks (∀ candidate ∈ selected, Measures s candidate) s report s' report') s := by
  induction selected generalizing remaining report s with
  | nil => exact ⟨_, _, rfl, fun _ h => h, .of_purged_eq rfl⟩
  | cons candidate selected ih =>
    refine wp_bind (wp_mono (purge_keepsBooks hcalm candidate reason context report s) ?_)
    rintro r s' ⟨report', rfl, hfirst⟩
    refine wp_mono (ih _ report' s') ?_
    rintro r s'' ⟨remaining', report'', rfl, hsubset, hrest⟩
    refine ⟨_, _, rfl, fun other hmem => List.mem_of_mem_filter (hsubset hmem), ?_⟩
    refine (hfirst.mono fun hall => hall candidate List.mem_cons_self).trans ?_ hrest
    -- the sizes of the others are still right after the first one
    intro entries hbooked hall other hother
    exact (hall other (List.mem_cons_of_mem _ hother)).later hbooked

/-- A sum of the right sizes: what is shown was measured, and what is selected was shown. -/
def SizesRight (strategies : List RetentionStrategy) (remaining : List PurgeCandidate)
    (s : ServiceState) : Prop :=
  (∀ strategy ∈ strategies, strategy.SelectsSubset) ∧ ∀ candidate ∈ remaining, Measures s candidate

theorem applyStrategy_keepsBooks (hcalm : env.Calm) (strategy : RetentionStrategy)
    (remaining : List PurgeCandidate) (report : PurgeReport) (s : ServiceState) :
    (applyStrategy strategy remaining report).wp env.serves AnyCall
      (fun r s' => ∀ remaining' report', r = .ok (remaining', report') →
        remaining' ⊆ remaining ∧
          KeepsBooks (SizesRight [strategy] remaining s) s report s' report') s := by
  refine wp_bind (wp_calm hcalm (fun _ h => (by cases h)) ?_)
  rintro now s₁ ⟨-, rfl⟩
  refine wp_bind (wp_calm hcalm (fun _ h => (by cases h)) ?_)
  -- neither the clock nor the disk changes anything
  rintro usage s₂ ⟨-, rfl⟩
  refine wp_bind (wp_ofExcept ?_)
  cases hselect : strategy.selectClipsToPurge remaining ⟨now, usage⟩ with
  | error exception => nofun
  | ok selected =>
    refine wp_mono (purgeAll_keepsBooks hcalm _ _ selected remaining report s₂) ?_
    rintro r s' ⟨remaining', report', rfl, hsubset, hbooks⟩ _ _ hok
    cases hok
    refine ⟨hsubset, hbooks.mono ?_⟩
    rintro ⟨hstrategies, hmeasures⟩ candidate hmem
    exact hmeasures candidate
      (hstrategies strategy List.mem_cons_self remaining _ selected hselect candidate hmem)

theorem applyStrategies_keepsBooks (hcalm : env.Calm) (strategies : List RetentionStrategy)
    (remaining : List PurgeCandidate) (report : PurgeReport) (s : ServiceState) :
    (applyStrategies strategies remaining report).wp env.serves AnyCall
      (fun r s' => ∀ report', r = .ok report' →
        KeepsBooks (SizesRight strategies remaining s) s report s' report') s := by
  induction strategies generalizing remaining report s with
  | nil =>
    rintro report' hok
    cases hok
    exact .of_purged_eq rfl
  | cons strategy strategies ih =>
    refine wp_bind (wp_mono (applyStrategy_keepsBooks hcalm strategy remaining report s) ?_)
    rintro (exception | ⟨remaining', report'⟩) s' hfirst
    · nofun
    obtain ⟨hsubset, hbooks⟩ := hfirst remaining' report' rfl
    refine wp_mono (ih remaining' report' s') ?_
    intro r s'' hrest report'' hok
    have hhead : SizesRight (strategy :: strategies) remaining s →
        SizesRight [strategy] remaining s := by
      rintro ⟨hstrategies, hmeasures⟩
      refine ⟨fun other hmem => ?_, hmeasures⟩
      rw [List.mem_singleton.mp hmem]
      exact hstrategies strategy List.mem_cons_self
    refine (hbooks.mono hhead).trans ?_ (hrest report'' hok)
    rintro entries hbooked ⟨hstrategies, hmeasures⟩
    -- what the next strategies are shown was shown before
    exact ⟨fun other hmem => hstrategies other (List.mem_cons_of_mem _ hmem),
      fun candidate hmem => (hmeasures candidate (hsubset hmem)).later hbooked⟩

theorem execute_keepsBooks (hcalm : env.Calm) (strategies : List RetentionStrategy)
    (s : ServiceState) :
    (execute strategies).wp env.serves AnyCall
      (fun r s' => ∀ report, r = .ok report → Booked s report.purged s' ∧
        ((∀ strategy ∈ strategies, strategy.SelectsSubset) → Frees s report.purged s')) s := by
  refine wp_bind (wp_calm hcalm (fun _ h => (by cases h)) ?_)
  rintro usageBefore s₁ ⟨-, rfl⟩
  refine wp_bind (wp_calm hcalm (fun _ h => (by cases h)) ?_)
  rintro startedAt s₂ ⟨-, rfl⟩
  refine wp_bind (wp_mono (loadCandidates_calm hcalm s₂) ?_)
  rintro r s₃ ⟨rfl, listed, hperm, -, rfl⟩
  refine wp_bind (wp_mono (applyStrategies_keepsBooks hcalm strategies _ _ s₃) ?_)
  rintro (exception | report) s' hbooks
  · nofun
  refine wp_bind (wp_calm hcalm (fun _ h => (by cases h)) ?_)
  rintro usageAfter s₄ ⟨-, rfl⟩ _ hok
  cases hok
  -- the report starts empty, and the candidates are measured
  obtain ⟨entries, hpurged, hbooked, hfrees⟩ := hbooks report rfl
  obtain rfl : report.purged = entries := hpurged
  refine ⟨hbooked, fun hstrategies => hfrees ⟨hstrategies, ?_⟩⟩
  intro candidate hmem
  obtain ⟨clip, hlisted, rfl⟩ := List.mem_map.mp hmem
  exact measures_measured (List.mem_filter.mp (hperm.mem_iff.mp hlisted)).1

/-- **The books of a sweep.** When nothing fails and the sweep returns, its report has one entry for
each clip that is no longer retained and none for any other, and these entries are what the log has
gained. If the strategies select among what they are shown, the bytes of the report are what the
media files have lost; `paths` are the files of the clips, and maybe others. -/
theorem execute_accounts (hcalm : env.Calm) {strategies : List RetentionStrategy}
    {s s' : ServiceState} {report : PurgeReport}
    (hruns : Runs env.serves (execute strategies) s (.ok report) s') :
    (report.purged.map PurgeLogEntry.clipId).Nodup ∧
    (∀ clipId, clipId ∈ report.purged.map PurgeLogEntry.clipId ↔ WentFromRetained s s' clipId) ∧
    s'.purgeLog = s.purgeLog ++ report.purged ∧
    ((∀ strategy ∈ strategies, strategy.SelectsSubset) →
      ∀ paths : Finset String, (∀ clip ∈ s.clips.rows, clip.filePath ∈ paths) →
        s'.totalSize paths ≤ s.totalSize paths ∧
        report.bytesFreed = (s.totalSize paths - s'.totalSize paths) % 2 ^ 64 ∧
        (s.totalSize paths < 2 ^ 64 →
          report.bytesFreed = s.totalSize paths - s'.totalSize paths)) := by
  obtain ⟨p', hsteps, hout⟩ := hruns
  obtain ⟨hbooked, hfrees⟩ :=
    wp_outcome (hsteps.wp (execute_keepsBooks hcalm strategies s)) hout report rfl
  refine ⟨hbooked.once, hbooked.mem_iff, hbooked.log, fun hstrategies paths hpaths => ?_⟩
  have hcovers : Covers paths s := fun _ clip hfound _ =>
    hpaths clip (KeyedTable.lookup_eq_some.mp hfound).1
  -- what was freed and what is left make up what was there
  have hbalance : totalFreed report.purged + s'.totalSize paths = s.totalSize paths :=
    hfrees hstrategies paths hcovers
  have hfreed : totalFreed report.purged = s.totalSize paths - s'.totalSize paths :=
    Nat.eq_sub_of_add_eq hbalance
  rw [PurgeReport.bytesFreed_eq, hfreed]
  refine ⟨Nat.le.intro ((Nat.add_comm _ _).trans hbalance), rfl, fun hfits => ?_⟩
  exact Nat.mod_eq_of_lt (lt_of_le_of_lt (Nat.sub_le _ _) hfits)

end Sweep

/-- Both clips of the event go, the first one leaves the file to the second, and its three bytes are
counted once. -/
theorem execute_accounts_postedTwice :
    ∃ report, (benchServiceSweep postedTwice).1 = .ok report ∧
      report.purged.map PurgeLogEntry.clipId = ["clip-a", "clip-b"] ∧
      (benchServiceSweep postedTwice).2.purgeLog = report.purged ∧ report.bytesFreed = 3 := by
  obtain ⟨report, hreport⟩ : ∃ report, (benchServiceSweep postedTwice).1 = .ok report := by
    have hreturns : (benchServiceSweep postedTwice).1.toBool = true := by decide +kernel
    cases hresult : (benchServiceSweep postedTwice).1 with
    | ok report => exact ⟨report, rfl⟩
    | error exception =>
      rw [hresult] at hreturns
      cases hreturns
  have hruns := benchServiceSweep_runs postedTwice
  rw [hreport] at hruns
  obtain ⟨-, -, hlog, hbytes⟩ := execute_accounts (Simulation.calm _) hruns
  have hpurged : (benchServiceSweep postedTwice).2.purgeLog = report.purged := hlog
  obtain ⟨-, -, hfreed⟩ := hbytes (by
    intro strategy hmem
    rcases List.mem_cons.mp hmem with rfl | hmem
    · exact selectsSubset_lgpd _
    · rw [List.mem_singleton.mp hmem]
      exact selectsSubset_diskQuota _) {"/nvme/evt.mp4"} (by decide)
  refine ⟨report, hreport, ?_, hpurged, ?_⟩
  · rw [← hpurged]
    decide +kernel
  · rw [hfreed (by decide)]
    decide +kernel

end PurgeMedia

end Ods.S4
