import OdsMod2.S4.PurgeMedia.Convergence

/-!
# The deadline and the quota together

The service sweeps with two strategies: first the deadline, then the quota. The quota strategy is
shown what the first one has left over, and the disk as it is by then; it may throw when the first
one has purged already. Whatever it does, a sweep without failures leaves nothing expired behind, and
it touches nothing but what had expired or what the quota strategy selected (`execute_keepsDeadline`).
Expired is meant of the ages themselves. The strategy compares nanoseconds of 64 bits, which comes to
the same for periods and ages that can be counted in them (`AgesFit`).

Files are the delicate part. A clip that is purged leaves its file to the other retained clips of its
event, since a file is named after its event. A clip of another event that names the same file is not
asked for (`file_of_other_event_goes`).
-/

namespace Ods.S4

open Prog TwosComplement

namespace PurgeMedia

/-! ### What the quota strategy is shown -/

section Shown

variable {retention : RetentionPolicy} {now : TimePoint} {s : ServiceState}
  {listed : List MediaClip}

/-- The id of an eligible clip past its deadline. -/
def Expired (retention : RetentionPolicy) (now : TimePoint) (s : ServiceState) (clipId : String) :
    Prop :=
  ∃ clip ∈ s.clips.rows, clip.clipId = clipId ∧ clip.isEligibleForPurge = true ∧
    retention.hasExpired clip now = true

/-- The candidates that have not expired. Their sizes were measured before anything was purged. -/
def unexpired (retention : RetentionPolicy) (now : TimePoint) (s : ServiceState)
    (listed : List MediaClip) : List PurgeCandidate :=
  (listed.map (measured s)).filter fun candidate => !retention.hasExpired candidate.clip now

/-- The candidates that have expired. -/
def expired (retention : RetentionPolicy) (now : TimePoint) (s : ServiceState)
    (listed : List MediaClip) : List PurgeCandidate :=
  (listed.map (measured s)).filter fun candidate =>
    candidate.clip.isEligibleForPurge && retention.hasExpired candidate.clip now

theorem removeAll_eq_filter (selected remaining : List PurgeCandidate) :
    removeAll selected remaining = remaining.filter fun candidate =>
      decide (∀ other ∈ selected, other.clip.clipId ≠ candidate.clip.clipId) := by
  induction selected generalizing remaining with
  | nil =>
    rw [removeAll, List.foldl_nil]
    exact (List.filter_eq_self.mpr fun _ _ => decide_eq_true (List.forall_mem_nil _)).symm
  | cons first selected ih =>
    have hrest : removeAll (first :: selected) remaining =
        removeAll selected (removeCandidate remaining first.clip.clipId) := rfl
    rw [hrest, ih, removeCandidate, List.filter_filter]
    refine List.filter_congr fun candidate _ => ?_
    rw [← Bool.decide_and, decide_eq_decide, List.forall_mem_cons, and_comm, ne_comm]

theorem mem_expired (hperm : listed.Perm (s.clips.rows.filter MediaClip.isEligibleForPurge))
    {candidate : PurgeCandidate} :
    candidate ∈ expired retention now s listed ↔ candidate ∈ listed.map (measured s) ∧
      retention.hasExpired candidate.clip now = true := by
  unfold expired
  rw [List.mem_filter, Bool.and_eq_true]
  constructor
  · rintro ⟨hmem, -, hexpired⟩
    exact ⟨hmem, hexpired⟩
  · rintro ⟨hmem, hexpired⟩
    exact ⟨hmem, ((mem_map_measured hperm).mp hmem).2.1, hexpired⟩

/-- What is left over for the quota strategy. -/
theorem removeAll_expired
    (hperm : listed.Perm (s.clips.rows.filter MediaClip.isEligibleForPurge)) :
    removeAll (expired retention now s listed) (listed.map (measured s)) =
      unexpired retention now s listed := by
  rw [removeAll_eq_filter, unexpired]
  refine List.filter_congr fun candidate hmem => ?_
  obtain ⟨hrow, -, hmeasured⟩ := (mem_map_measured hperm).mp hmem
  rw [Bool.eq_iff_iff, decide_eq_true_iff, Bool.not_eq_true']
  constructor
  · intro hnone
    rw [← Bool.not_eq_true]
    exact fun hexpired => hnone candidate ((mem_expired hperm).mpr ⟨hmem, hexpired⟩) rfl
  · intro hkept other hother hid
    -- the same id is the same clip
    obtain ⟨hlisted, hexpired⟩ := (mem_expired hperm).mp hother
    obtain ⟨hrow', -, -⟩ := (mem_map_measured hperm).mp hlisted
    rw [s.clips.eq_of_key hrow' hrow hid, hkept] at hexpired
    cases hexpired

end Shown

/-! ### The sweep -/

section Deadline

variable {env : Environment} {retention : RetentionPolicy} {quota : QuotaPolicy}
  {now : TimePoint} {s s' : ServiceState}

/-- The expired media are purged, and nothing else has happened. -/
structure PurgesExpired (retention : RetentionPolicy) (now : TimePoint) (s middle : ServiceState) :
    Prop where
  purges : Purges (Expired retention now s) s middle
  complete : ∀ clip ∈ middle.clips.rows, clip.isEligibleForPurge = true →
    retention.hasExpired clip now = false

/-- Shown the candidates that have not expired, and the disk as it is measured once the expired media
are purged, the quota strategy selects the clip. -/
def SelectedByQuota (env : Environment) (retention : RetentionPolicy) (quota : QuotaPolicy)
    (now : TimePoint) (s : ServiceState) (clipId : String) : Prop :=
  ∃ listed middle usage selected,
    (listed.Perm (s.clips.rows.filter MediaClip.isEligibleForPurge) ∧ env.lists s listed) ∧
      (PurgesExpired retention now s middle ∧ env.usage middle usage) ∧
      (DiskQuotaFifoStrategy quota).selectClipsToPurge (unexpired retention now s listed)
        ⟨now, usage⟩ = .ok selected ∧
      ∃ candidate ∈ selected, candidate.clip.clipId = clipId

/-- The periods of the policy and the ages of the stored clips can be counted in nanoseconds. -/
structure AgesFit (retention : RetentionPolicy) (now : TimePoint) (s : ServiceState) : Prop where
  policy : retention.InNanoseconds
  ages : ∀ clip ∈ s.clips.rows, Fits (now - clip.createdAt)

/-- A sweep returns, or it throws `DiskQuotaExceededError`. -/
def ReturnsOrQuotaExceeded (result : Except ODSException PurgeReport) : Prop :=
  (∃ report, result = .ok report) ∨
    ∃ message, result = .error (.domain ⟨.diskQuotaExceeded, message⟩)

/-- What a sweep leaves behind, begun in `s` and ended in `s'`. -/
structure KeepsDeadline (env : Environment) (retention : RetentionPolicy) (quota : QuotaPolicy)
    (now : TimePoint) (s s' : ServiceState) : Prop where
  /-- No clip is left that is retained, unlocked and expired. -/
  complete : ∀ clip ∈ s'.clips.rows, clip.isRetained = true → clip.isLockedForAudit = false →
    ¬ retention.IsDue now clip
  /-- A record that changed had expired or was selected by the quota strategy, and only its flag
  changed. -/
  records : ∀ clipId, s'.clips.lookup clipId ≠ s.clips.lookup clipId →
    ∃ clip, s.clips.lookup clipId = some clip ∧
      (retention.IsDue now clip ∨ SelectedByQuota env retention quota now s clipId) ∧
      s'.clips.lookup clipId = some { clip with isRetained := false }
  /-- The file of a clip that stays retained is untouched, unless a clip of another event that was
  purged names it. -/
  files : ∀ kept ∈ s'.clips.rows, kept.isRetained = true →
    (∀ clip ∈ s.clips.rows, s'.clips.lookup clip.clipId ≠ some clip →
      clip.filePath = kept.filePath → clip.eventId = kept.eventId) →
    s'.files kept.filePath = s.files kept.filePath

/-- A file goes with clips of one event, and no retained clip of that event names it then. -/
theorem Purges.file_of_kept {Target : String → Prop} (h : Purges Target s s') {kept : MediaClip}
    (hkept : kept ∈ s'.clips.rows) (hretained : kept.isRetained = true)
    (hevent : ∀ clip ∈ s.clips.rows, s'.clips.lookup clip.clipId ≠ some clip →
      clip.filePath = kept.filePath → clip.eventId = kept.eventId) :
    s'.files kept.filePath = s.files kept.filePath := by
  rcases h.files kept.filePath with hsame | ⟨-, clip, hclip, hclipRetained, hpath, hmarked, halone⟩
  · exact hsame
  -- a file that went, went with a clip that was marked
  · have hchanged : s'.clips.lookup clip.clipId ≠ some clip := by
      rw [hmarked]
      intro heq
      rw [← Option.some.inj heq] at hclipRetained
      cases hclipRetained
    have hsameEvent := (hevent clip hclip hchanged hpath).symm
    exact absurd rfl (halone kept hkept hretained hsameEvent)

/-- What the two strategies have done together. -/
theorem keepsDeadline_of_purges (hfits : AgesFit retention now s)
    (hpurges : Purges (fun clipId => Expired retention now s clipId ∨
      SelectedByQuota env retention quota now s clipId) s s')
    (hcomplete : ∀ clip ∈ s'.clips.rows, clip.isEligibleForPurge = true →
      retention.hasExpired clip now = false) :
    KeepsDeadline env retention quota now s s' where
  complete := by
    intro clip hclip hretained hlocked hdue
    have heligible := MediaClip.isEligibleForPurge_iff.mpr ⟨hretained, hlocked⟩
    have hage := hfits.ages clip (hpurges.shrinks clip hclip heligible)
    rw [← RetentionPolicy.hasExpired_iff hfits.policy hage, hcomplete clip hclip heligible] at hdue
    cases hdue
  records := by
    intro clipId hchanged
    rcases hpurges.clips clipId with hsame | ⟨clip, hfound, -, htarget, hmarked⟩
    · exact absurd hsame hchanged
    · refine ⟨clip, hfound, htarget.imp_left ?_, hmarked⟩
      rintro ⟨row, hrow, hid, -, hexpired⟩
      obtain ⟨hclip, hclipId⟩ := KeyedTable.lookup_eq_some.mp hfound
      rw [s.clips.eq_of_key hrow hclip (hid.trans hclipId.symm)] at hexpired
      exact (RetentionPolicy.hasExpired_iff hfits.policy (hfits.ages clip hclip)).mp hexpired
  files _ hkept hretained hevent := hpurges.file_of_kept hkept hretained hevent

/-- The quota strategy throws nothing but its own error. -/
theorem selectClipsToPurge_error {candidates : List PurgeCandidate} {context : RetentionContext}
    {exception : ODSException}
    (h : (DiskQuotaFifoStrategy quota).selectClipsToPurge candidates context = .error exception) :
    ∃ message, exception = .domain ⟨.diskQuotaExceeded, message⟩ := by
  have hselect : DiskQuotaFifoStrategy.selectClipsToPurge quota candidates context
      = .error exception := h
  unfold DiskQuotaFifoStrategy.selectClipsToPurge at hselect
  split at hselect
  · cases hselect
  · dsimp only at hselect
    split at hselect
    · exact ⟨_, (Except.error.inj hselect).symm⟩
    · cases hselect

theorem now_calm (hcalm : env.Calm) (hclock : ∀ instant, env.clock instant → instant = now)
    (s : ServiceState) :
    Port.now.wp env.serves AnyCall (fun r s' => r = .ok now ∧ s' = s) s := by
  refine wp_calm hcalm (fun _ h => (by cases h)) ?_
  rintro instant s' ⟨hinstant, rfl⟩
  exact ⟨congrArg Except.ok (hclock instant hinstant), rfl⟩

theorem currentUsage_calm (hcalm : env.Calm) (s : ServiceState) :
    Port.currentUsage.wp env.serves AnyCall
      (fun r s' => ∃ usage, r = .ok usage ∧ env.usage s usage ∧ s' = s) s := by
  refine wp_calm hcalm (fun _ h => (by cases h)) ?_
  rintro usage s' ⟨husage, rfl⟩
  exact ⟨usage, rfl, husage, rfl⟩

/-- The deadline strategy purges what has expired and shows the rest to the next. -/
theorem applyStrategy_lgpd (hcalm : env.Calm)
    (hclock : ∀ instant, env.clock instant → instant = now) {listed : List MediaClip}
    (hperm : listed.Perm (s.clips.rows.filter MediaClip.isEligibleForPurge))
    (report : PurgeReport) :
    (applyStrategy (LgpdRetentionStrategy retention) (listed.map (measured s)) report).wp
      env.serves AnyCall
      (fun r middle => (∃ report', r = .ok (unexpired retention now s listed, report')) ∧
        PurgesExpired retention now s middle) s := by
  refine wp_bind (wp_mono (now_calm hcalm hclock s) ?_)
  rintro r s₁ ⟨rfl, rfl⟩
  refine wp_bind (wp_mono (currentUsage_calm hcalm s₁) ?_)
  rintro r s₂ ⟨usage, rfl, -, rfl⟩
  have hselected : (LgpdRetentionStrategy retention).selectClipsToPurge (listed.map (measured s₂))
      ⟨now, usage⟩ = .ok (expired retention now s₂ listed) := rfl
  refine wp_bind (wp_ofExcept ?_)
  rw [hselected]
  refine wp_mono (purgeAll_calm hcalm _ _ (expired retention now s₂ listed) _ _ _) ?_
  rintro r middle ⟨⟨report', rfl⟩, hpurges, hgone⟩
  refine ⟨⟨report', by rw [removeAll_expired hperm]⟩, hpurges.mono ?_, ?_⟩
  · rintro clipId ⟨candidate, hmem, hid⟩
    obtain ⟨hlisted, hexpired⟩ := (mem_expired hperm).mp hmem
    obtain ⟨hrow, heligible, -⟩ := (mem_map_measured hperm).mp hlisted
    exact ⟨candidate.clip, hrow, hid, heligible, hexpired⟩
  · -- an expired clip left over would have been selected, and purged
    intro clip hclip heligible
    rw [← Bool.not_eq_true]
    intro hexpired
    have hbefore := hpurges.shrinks clip hclip heligible
    have hmem : measured s₂ clip ∈ expired retention now s₂ listed :=
      (mem_expired hperm).mpr ⟨(mem_map_measured hperm).mpr ⟨hbefore, heligible, rfl⟩, hexpired⟩
    rw [hgone _ hmem clip hclip rfl] at heligible
    cases heligible

/-- The quota strategy purges what it selects, or throws and purges nothing. -/
theorem applyStrategy_quota (hcalm : env.Calm)
    (hclock : ∀ instant, env.clock instant → instant = now) {listed : List MediaClip}
    (hperm : listed.Perm (s.clips.rows.filter MediaClip.isEligibleForPurge))
    (hlists : env.lists s listed) {middle : ServiceState}
    (hmiddle : PurgesExpired retention now s middle) (report : PurgeReport) :
    (applyStrategy (DiskQuotaFifoStrategy quota) (unexpired retention now s listed) report).wp
      env.serves AnyCall
      (fun r s' => ((∃ result, r = .ok result) ∨
          ∃ message, r = .error (.domain ⟨.diskQuotaExceeded, message⟩)) ∧
        Purges (SelectedByQuota env retention quota now s) middle s') middle := by
  refine wp_bind (wp_mono (now_calm hcalm hclock middle) ?_)
  rintro r s₁ ⟨rfl, rfl⟩
  refine wp_bind (wp_mono (currentUsage_calm hcalm s₁) ?_)
  rintro r s₂ ⟨usage, rfl, husage, rfl⟩
  refine wp_bind (wp_ofExcept ?_)
  cases hselect : (DiskQuotaFifoStrategy quota).selectClipsToPurge
      (unexpired retention now s listed) ⟨now, usage⟩ with
  | error exception =>
    obtain ⟨message, rfl⟩ := selectClipsToPurge_error hselect
    exact ⟨.inr ⟨message, rfl⟩, Purges.refl _ _⟩
  | ok selected =>
    refine wp_mono (purgeAll_calm hcalm _ _ selected _ _ _) ?_
    rintro r s' ⟨⟨report', rfl⟩, hpurges, -⟩
    -- what was selected from this list on this disk is what the definition asks for
    refine ⟨.inl ⟨_, rfl⟩, hpurges.mono ?_⟩
    intro clipId hmem
    exact ⟨listed, s₂, usage, selected, ⟨hperm, hlists⟩, ⟨hmiddle, husage⟩, hselect, hmem⟩

theorem execute_wp (hcalm : env.Calm) (hclock : ∀ instant, env.clock instant → instant = now)
    (quota : QuotaPolicy) (hfits : AgesFit retention now s) :
    (execute [LgpdRetentionStrategy retention, DiskQuotaFifoStrategy quota]).wp env.serves AnyCall
      (fun r s' => ReturnsOrQuotaExceeded r ∧ KeepsDeadline env retention quota now s s') s := by
  refine wp_bind (wp_mono (currentUsage_calm hcalm s) ?_)
  rintro r s₁ ⟨usageBefore, rfl, -, rfl⟩
  refine wp_bind (wp_mono (now_calm hcalm hclock s₁) ?_)
  rintro r s₂ ⟨rfl, rfl⟩
  refine wp_bind (wp_mono (loadCandidates_calm hcalm s₂) ?_)
  rintro r s₃ ⟨rfl, listed, hperm, hlists, rfl⟩
  refine wp_bind (wp_bind (wp_mono (applyStrategy_lgpd hcalm hclock hperm _) ?_))
  rintro r middle ⟨⟨report, rfl⟩, hmiddle⟩
  refine wp_bind (wp_mono (applyStrategy_quota hcalm hclock hperm hlists hmiddle report) ?_)
  rintro r s' ⟨hresult, hquota⟩
  -- both strategies together, whether the second one throws or not
  have hkeeps : KeepsDeadline env retention quota now s₃ s' := by
    refine keepsDeadline_of_purges hfits ((hmiddle.purges.mono ?_).trans (hquota.mono ?_)) ?_
    · exact fun _ => .inl
    · exact fun _ => .inr
    · intro clip hclip heligible
      exact hmiddle.complete clip (hquota.shrinks clip hclip heligible) heligible
  rcases hresult with ⟨result, rfl⟩ | ⟨message, rfl⟩
  · refine wp_bind (wp_mono (currentUsage_calm hcalm s') ?_)
    rintro r s'' ⟨usageAfter, rfl, -, rfl⟩
    exact ⟨.inl ⟨_, rfl⟩, hkeeps⟩
  · exact ⟨.inr ⟨message, rfl⟩, hkeeps⟩

/-- **The deadline is kept.** A sweep with both strategies, in which nothing fails, returns or throws
`DiskQuotaExceededError`. Either way nothing expired is left, and what has not expired and was not
selected by the quota strategy is as it was. -/
theorem execute_keepsDeadline (hcalm : env.Calm)
    (hclock : ∀ instant, env.clock instant → instant = now) (retention : RetentionPolicy)
    (quota : QuotaPolicy) (hfits : AgesFit retention now s)
    {result : Except ODSException PurgeReport}
    (hruns : Runs env.serves
      (execute [LgpdRetentionStrategy retention, DiskQuotaFifoStrategy quota]) s result s') :
    ReturnsOrQuotaExceeded result ∧ KeepsDeadline env retention quota now s s' := by
  obtain ⟨p', hsteps, hout⟩ := hruns
  exact wp_outcome (hsteps.wp (execute_wp hcalm hclock quota hfits)) hout

end Deadline

/-- Two clips of different events with one file, the first past its deadline. -/
def sharedAcrossEvents : ServiceState where
  clips := ⟨[
    { clipId := "clip-a", eventId := "evt", filePath := "/nvme/evt.mp4", sha256Hash := "",
      timeWindow := ⟨0, 1, Int.zero_lt_one⟩, createdAt := 0 },
    { clipId := "clip-b", eventId := "evt2", filePath := "/nvme/evt.mp4", sha256Hash := "",
      timeWindow := ⟨0, 1, Int.zero_lt_one⟩, createdAt := 1 }], by decide⟩
  files path := if path = "/nvme/evt.mp4" then some [1, 2, 3] else none
  purgeLog := []

/-- A sweep of the service on the bench. -/
def benchServiceSweep (s : ServiceState) : Except ODSException PurgeReport × ServiceState :=
  (execute [LgpdRetentionStrategy .default, DiskQuotaFifoStrategy .default]).run
    Simulation.bench.serve s

theorem benchServiceSweep_runs (s : ServiceState) :
    Runs Simulation.bench.environment.serves
      (execute [LgpdRetentionStrategy .default, DiskQuotaFifoStrategy .default]) s
      (benchServiceSweep s).1 (benchServiceSweep s).2 :=
  run_runs (Simulation.serve_serves _) _ _

theorem execute_keepsDeadline_postedTwice :
    KeepsDeadline Simulation.bench.environment .default .default Simulation.bench.now postedTwice
      (benchServiceSweep postedTwice).2 :=
  (execute_keepsDeadline (Simulation.calm _) (fun _ h => h) .default .default
    ⟨by decide, by decide⟩ (benchServiceSweep_runs postedTwice)).2

/-- The siblings are asked for by event: the file of a clip that stays retained goes with an expired
clip of another event. -/
theorem file_of_other_event_goes :
    ¬ ∀ (env : Environment) (now : TimePoint) (retention : RetentionPolicy) (quota : QuotaPolicy)
        (s s' : ServiceState) (result : Except ODSException PurgeReport), env.Calm →
        (∀ instant, env.clock instant → instant = now) →
        Runs env.serves
          (execute [LgpdRetentionStrategy retention, DiskQuotaFifoStrategy quota]) s result s' →
        ∀ kept ∈ s'.clips.rows, kept.isRetained = true →
          s'.files kept.filePath = s.files kept.filePath := by
  intro h
  have hkept := h _ _ .default .default sharedAcrossEvents _ _ (Simulation.calm _) (fun _ h => h)
    (benchServiceSweep_runs sharedAcrossEvents)
  have hlost : ∃ kept ∈ (benchServiceSweep sharedAcrossEvents).2.clips.rows,
      kept.isRetained = true ∧ (benchServiceSweep sharedAcrossEvents).2.files kept.filePath ≠
        sharedAcrossEvents.files kept.filePath := by
    decide +kernel
  obtain ⟨kept, hmem, hretained, hgone⟩ := hlost
  exact hgone (hkept kept hmem hretained)

end PurgeMedia

end Ods.S4
