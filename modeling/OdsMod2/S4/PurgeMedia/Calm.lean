import OdsMod2.S4.PurgeMedia.Target

/-!
# A sweep in which nothing fails

`Target.lean` says where a sweep is heading. Here it gets there: when no call fails, a sweep with
one strategy returns, and nothing it was after is left to purge (`execute_settles`).

Two views of the sweep meet. In the protocol every call is permitted and the answers are
arbitrary; it knows which clips the sweep may read again, and so gives `Settling` at every point.
Against a calm environment the answers are known: the candidates are the eligible clips with the
sizes of their files, and a purge leaves no eligible clip under its id. The first half of the
module is the second view, one specification for each function of the use case.
-/

namespace Ods.S4

open Prog

/-- The bytes of a file; one that is not there weighs nothing. -/
def ServiceState.weight (s : ServiceState) (path : String) : Nat :=
  (s.files path).elim 0 List.length

namespace PurgeMedia

/-- A clip as the sweep sees it. -/
def measured (s : ServiceState) (clip : MediaClip) : PurgeCandidate :=
  ⟨clip, s.weight clip.filePath⟩

/-- No clip becomes eligible. -/
def Shrinks (s s' : ServiceState) : Prop :=
  ∀ row ∈ s'.clips.rows, row.isEligibleForPurge = true → row ∈ s.clips.rows

theorem Shrinks.refl (s : ServiceState) : Shrinks s s :=
  fun _ hrow _ => hrow

theorem Shrinks.trans {s s' s'' : ServiceState} (h : Shrinks s s') (h' : Shrinks s' s'') :
    Shrinks s s'' :=
  fun row hrow heligible => h row (h' row hrow heligible) heligible

theorem Shrinks.of_clips_eq {s s' : ServiceState} (h : s'.clips = s.clips) : Shrinks s s' := by
  intro row hrow _
  rwa [h] at hrow

/-- Marking a clip makes no other eligible. -/
theorem Shrinks.of_mark {s s' : ServiceState} {clip : MediaClip}
    (h : s'.clips = s.clips.upsert clip.markAsPurged) : Shrinks s s' := by
  intro row hrow heligible
  rw [h] at hrow
  rcases KeyedTable.mem_upsert.mp hrow with rfl | ⟨hrow, -⟩
  · cases heligible
  · exact hrow

/-- What a sweep does, it does to eligible clips only. -/
theorem SweepMove.shrinks {env : Environment} {Target : String → Prop} {phase phase' : SweepPhase}
    {s s' : ServiceState} (hmove : SweepMove env Target phase s phase' s') : Shrinks s s' := by
  cases hmove with
  | mark => exact Shrinks.of_mark rfl
  -- every other call leaves the table alone
  | _ => exact Shrinks.of_clips_eq rfl

/-- The file of the clip stays, or it is removed and no other retained clip of the event names it. -/
def Releases (clip : MediaClip) (s s' : ServiceState) : Prop :=
  s'.files = s.files ∨ s'.files = Function.update s.files clip.filePath none ∧
    ∀ sibling ∈ s.clips.rows, sibling.eventId = clip.eventId → sibling.isRetained = true →
      sibling.filePath = clip.filePath → sibling.clipId = clip.clipId

/-- What becomes of the file, by the outcome. -/
inductive Released (clip : MediaClip) : FileOutcome → ServiceState → ServiceState → Prop
  | kept {outcome : FileOutcome} {s : ServiceState} (hkept : outcome ≠ .deleted) :
    Released clip outcome s s
  | removed {s : ServiceState} (hexists : (s.files clip.filePath).isSome = true)
      (halone : ∀ sibling ∈ s.clips.rows, sibling.eventId = clip.eventId →
        sibling.isRetained = true → sibling.filePath = clip.filePath →
        sibling.clipId = clip.clipId) :
    Released clip .deleted s (s.dropFile clip.filePath)

theorem Released.clips_eq {clip : MediaClip} {outcome : FileOutcome} {s s' : ServiceState}
    (h : Released clip outcome s s') : s'.clips = s.clips := by
  cases h <;> rfl

theorem Released.releases {clip : MediaClip} {outcome : FileOutcome} {s s' : ServiceState}
    (h : Released clip outcome s s') : Releases clip s s' := by
  cases h with
  | kept => exact .inl rfl
  | removed _ halone => exact .inr ⟨rfl, halone⟩

/-- All that has happened to the records and the files is that eligible clips, with ids of
`Target`, were purged. -/
structure Purges (Target : String → Prop) (s s' : ServiceState) : Prop where
  clips : ∀ clipId, s'.clips.lookup clipId = s.clips.lookup clipId ∨
    ∃ clip, s.clips.lookup clipId = some clip ∧ clip.isEligibleForPurge = true ∧ Target clipId ∧
      s'.clips.lookup clipId = some clip.markAsPurged
  files : ∀ path, s'.files path = s.files path ∨ s'.files path = none ∧
    ∃ clip ∈ s.clips.rows, clip.isRetained = true ∧ clip.filePath = path ∧
      s'.clips.lookup clip.clipId = some clip.markAsPurged ∧
      ∀ other ∈ s'.clips.rows, other.isRetained = true → other.eventId = clip.eventId →
        other.filePath ≠ path

namespace Purges

variable {Target Target' : String → Prop} {s s' s'' : ServiceState} {clip row : MediaClip}

theorem refl (Target : String → Prop) (s : ServiceState) : Purges Target s s :=
  ⟨fun _ => .inl rfl, fun _ => .inl rfl⟩

theorem mono (h : Purges Target s s') (htarget : ∀ clipId, Target clipId → Target' clipId) :
    Purges Target' s s' := by
  refine ⟨fun clipId => ?_, h.files⟩
  rcases h.clips clipId with hsame | ⟨clip, hfound, heligible, hmem, hmarked⟩
  · exact .inl hsame
  · exact .inr ⟨clip, hfound, heligible, htarget clipId hmem, hmarked⟩

/-- A clip that is still retained has not been touched. -/
theorem mem_of_retained (h : Purges Target s s') (hrow : row ∈ s'.clips.rows)
    (hretained : row.isRetained = true) : row ∈ s.clips.rows := by
  have hfound : s'.clips.lookup row.clipId = some row := KeyedTable.lookup_eq_some.mpr ⟨hrow, rfl⟩
  rcases h.clips row.clipId with hsame | ⟨clip, -, -, -, hmarked⟩
  · exact (KeyedTable.lookup_eq_some.mp (hsame.symm.trans hfound)).1
  · obtain rfl := Option.some.inj (hmarked.symm.trans hfound)
    cases hretained

theorem shrinks (h : Purges Target s s') : Shrinks s s' :=
  fun _ hrow heligible => h.mem_of_retained hrow (MediaClip.isEligibleForPurge_iff.mp heligible).1

/-- What is purged stays so. -/
theorem lookup_marked (h : Purges Target s s')
    (hmarked : s.clips.lookup row.clipId = some clip.markAsPurged) :
    s'.clips.lookup row.clipId = some clip.markAsPurged := by
  rcases h.clips row.clipId with hsame | ⟨clip', hfound, heligible, -, -⟩
  · exact hsame.trans hmarked
  · obtain rfl := Option.some.inj (hmarked.symm.trans hfound)
    cases heligible

theorem trans (h : Purges Target s s') (h' : Purges Target s' s'') : Purges Target s s'' := by
  constructor
  · intro clipId
    rcases h'.clips clipId with hsame' | ⟨clip, hfound, heligible, htarget, hmarked⟩
    · rw [hsame']
      exact h.clips clipId
    · -- what is eligible in between has not been touched before
      refine .inr ⟨clip, ?_, heligible, htarget, hmarked⟩
      obtain ⟨hrow, rfl⟩ := KeyedTable.lookup_eq_some.mp hfound
      exact KeyedTable.lookup_eq_some.mpr ⟨h.shrinks clip hrow heligible, rfl⟩
  · intro path
    rcases h.files path with hsame | ⟨hgone, clip, hrow, hretained, hpath, hmarked, halone⟩
    · rcases h'.files path with hsame' | ⟨hgone', clip, hrow, hretained, hrest⟩
      · exact .inl (hsame'.trans hsame)
      · exact .inr ⟨hgone', clip, h.mem_of_retained hrow hretained, hretained, hrest⟩
    · -- a removed file does not come back, and its clips are retained no more
      have hgone' : s''.files path = none := by
        rcases h'.files path with hsame' | ⟨hgone', -⟩
        · exact hsame'.trans hgone
        · exact hgone'
      refine .inr ⟨hgone', clip, hrow, hretained, hpath, h'.lookup_marked hmarked, ?_⟩
      exact fun other hother hkept => halone other (h'.mem_of_retained hother hkept) hkept

/-- One clip is released and marked. -/
theorem of_mark (hclip : clip ∈ s.clips.rows) (heligible : clip.isEligibleForPurge = true)
    (htarget : Target clip.clipId) (hclips : s'.clips = s.clips.upsert clip.markAsPurged)
    (hreleases : Releases clip s s') : Purges Target s s' := by
  have hmarked : s'.clips.lookup clip.clipId = some clip.markAsPurged := by
    rw [hclips, KeyedTable.lookup_upsert]
    exact Function.update_self _ _ _
  constructor
  · intro clipId
    by_cases hid : clipId = clip.clipId
    · subst hid
      exact .inr ⟨clip, KeyedTable.lookup_eq_some.mpr ⟨hclip, rfl⟩, heligible, htarget, hmarked⟩
    · left
      rw [hclips, KeyedTable.lookup_upsert]
      exact Function.update_of_ne hid _ _
  · intro path
    rcases hreleases with hsame | ⟨hfiles, halone⟩
    · exact .inl (congrFun hsame path)
    · by_cases hpath : path = clip.filePath
      · subst hpath
        refine .inr ⟨?_, clip, hclip, (MediaClip.isEligibleForPurge_iff.mp heligible).1, rfl, hmarked,
          fun other hother hretained hevent hfile => ?_⟩
        · rw [hfiles]
          exact Function.update_self _ _ _
        · -- another retained row of the event would have been found
          rw [hclips] at hother
          rcases KeyedTable.mem_upsert.mp hother with rfl | ⟨hrow, hne⟩
          · cases hretained
          · exact hne (halone other hrow hevent hretained hfile)
      · left
        rw [hfiles]
        exact Function.update_of_ne hpath _ _

end Purges

/-! ### Against a calm environment -/

section Calm

variable {env : Environment}

/-- Any call may be made. -/
abbrev AnyCall (_ : ServiceState) (_ : PortCall) : Prop := True

/-- A call that cannot fail answers. -/
theorem wp_calm (hcalm : env.Calm) {op : PortCall} (hop : ∀ path, op ≠ .fileSize path)
    {Q : Except ODSException op.Answer → ServiceState → Prop} {s : ServiceState}
    (h : ∀ answer s', env.answers op answer s s' → Q (.ok answer) s') :
    (perform op : Service op.Answer).wp env.serves AnyCall Q s := by
  refine wp_perform trivial fun answer s' hserves => ?_
  cases answer with
  | ok answer => exact h answer s' hserves
  | error exception =>
    obtain ⟨path, hsize, -⟩ := hcalm.refuses hserves
    exact absurd hsize (hop path)

/-- With nothing hidden, `exists` tells the truth. -/
theorem fileExists_calm (hcalm : env.Calm) {path : String} {found : Bool} {s s' : ServiceState}
    (h : env.answers (.fileExists path) found s s') : found = (s.files path).isSome ∧ s' = s := by
  obtain ⟨hfound | ⟨-, hhides⟩, rfl⟩ := h
  · exact ⟨hfound, rfl⟩
  · exact absurd hhides (hcalm.hides path)

theorem measuredSize_calm (hcalm : env.Calm) (path : String) (s : ServiceState) :
    (measuredSize path).wp env.serves AnyCall (fun r s' => r = .ok (s.weight path) ∧ s' = s) s := by
  refine wp_catchApplication (wp_bind (wp_calm hcalm (fun _ h => (by cases h)) ?_))
  intro found s' hanswer
  obtain ⟨hfound, rfl⟩ := fileExists_calm hcalm hanswer
  unfold ServiceState.weight
  cases hfile : s'.files path with
  | none =>
    rw [hfile] at hfound
    subst hfound
    exact ⟨rfl, rfl⟩
  | some data =>
    rw [hfile] at hfound
    subst hfound
    -- between the two calls nothing has happened to the file
    refine wp_perform trivial fun size s'' hserves => ?_
    cases size with
    | ok size =>
      obtain ⟨⟨data', hdata, rfl⟩, rfl⟩ := hserves
      rw [hfile] at hdata
      obtain rfl := Option.some.inj hdata
      exact ⟨rfl, rfl⟩
    | error exception =>
      obtain ⟨hfail | ⟨hnone, -⟩, -⟩ := hserves
      · exact absurd hfail (hcalm.fails _ _)
      · rw [hfile] at hnone
        cases hnone

theorem measureAll_calm (hcalm : env.Calm) (clips : List MediaClip) (s : ServiceState) :
    (measureAll clips).wp env.serves AnyCall
      (fun r s' => r = .ok (clips.map (measured s)) ∧ s' = s) s := by
  induction clips with
  | nil => exact ⟨rfl, rfl⟩
  | cons clip clips ih =>
    refine wp_bind (wp_mono (measuredSize_calm hcalm clip.filePath s) ?_)
    rintro r s' ⟨rfl, rfl⟩
    refine wp_bind (wp_mono ih ?_)
    rintro r s' ⟨rfl, rfl⟩
    exact ⟨rfl, rfl⟩

/-- The candidates are the eligible clips, in the order in which the repository lists them. -/
theorem loadCandidates_calm (hcalm : env.Calm) (s : ServiceState) :
    loadCandidates.wp env.serves AnyCall (fun r s' => s' = s ∧ ∃ listed,
      listed.Perm (s.clips.rows.filter MediaClip.isEligibleForPurge) ∧ env.lists s listed ∧
        r = .ok (listed.map (measured s))) s := by
  refine wp_bind (wp_calm hcalm (fun _ h => (by cases h)) ?_)
  rintro listed s' ⟨hperm, hlists, rfl⟩
  refine wp_mono (measureAll_calm hcalm listed s') ?_
  rintro r s'' ⟨rfl, rfl⟩
  exact ⟨rfl, listed, hperm, hlists, rfl⟩

theorem releaseFile_calm (hcalm : env.Calm) (clip : MediaClip) (s : ServiceState) :
    (releaseFile clip).wp env.serves AnyCall
      (fun r s' => ∃ outcome, r = .ok outcome ∧ Released clip outcome s s') s := by
  refine wp_bind (wp_calm hcalm (fun _ h => (by cases h)) ?_)
  intro found s' hanswer
  obtain ⟨hfound, rfl⟩ := fileExists_calm hcalm hanswer
  match found with
  | false => exact ⟨_, rfl, .kept nofun⟩
  | true =>
    refine wp_bind (wp_bind (wp_calm hcalm (fun _ h => (by cases h)) ?_))
    rintro siblings s'' ⟨hperm, rfl⟩
    show (if sharesFile clip siblings then _ else _ : Service FileOutcome).wp _ _ _ _
    split
    · exact ⟨_, rfl, .kept nofun⟩
    · next hshares =>
      refine wp_bind (wp_calm hcalm (fun _ h => (by cases h)) ?_)
      rintro _ s' rfl
      refine ⟨_, rfl, .removed hfound.symm ?_⟩
      -- a sibling under another id would have been in the answer
      intro sibling hrow hevent hretained hpath
      by_contra hother
      exact hshares (sharesFile_eq_true.mpr
        ⟨sibling, (mem_of_eventId hperm).mpr ⟨hrow, hevent⟩, hother, hretained, hpath⟩)

theorem recordInLog_calm (hcalm : env.Calm) (entry : PurgeLogEntry) (report : PurgeReport)
    (s : ServiceState) :
    (recordInLog entry report).wp env.serves AnyCall
      (fun r s' => r = .ok report ∧ s' = s.appendLog entry) s := by
  refine wp_catchApplication (wp_bind (wp_calm hcalm (fun _ h => (by cases h)) ?_))
  rintro _ s' rfl
  exact ⟨rfl, rfl⟩

/-- The entry of a clip whose file has been released. -/
def entryOf (clip : MediaClip) (sizeBytes : Nat) (reason : PurgeReason) (context : RetentionContext)
    (outcome : FileOutcome) : PurgeLogEntry :=
  makeEntry clip.markAsPurged reason outcome (if outcome = .deleted then sizeBytes else 0) context

/-- The file is released, the clip is marked, and the report and the log gain the same entry. -/
theorem purgeCurrent_calm (hcalm : env.Calm) (clip : MediaClip) (sizeBytes : Nat)
    (reason : PurgeReason) (context : RetentionContext) (report : PurgeReport)
    (s : ServiceState) :
    (purgeCurrent clip sizeBytes reason context report).wp env.serves AnyCall
      (fun r s' => ∃ outcome released, Released clip outcome s released ∧
        r = .ok { report with
          purged := report.purged ++ [entryOf clip sizeBytes reason context outcome] } ∧
        s' = (released.putClip clip.markAsPurged).appendLog
          (entryOf clip sizeBytes reason context outcome)) s := by
  refine wp_bind (wp_attempt (wp_bind (wp_mono (releaseFile_calm hcalm clip s) ?_)))
  rintro r released ⟨outcome, rfl, hreleased⟩
  refine wp_bind (wp_calm hcalm (fun _ h => (by cases h)) ?_)
  rintro _ s' rfl
  show (recordInLog _ _).wp env.serves AnyCall _ _
  refine wp_mono (recordInLog_calm hcalm _ _ _) ?_
  rintro r s'' ⟨rfl, rfl⟩
  exact ⟨outcome, released, hreleased, rfl, rfl⟩

/-- A purge leaves no eligible clip under the id of its candidate. -/
theorem purge_calm (hcalm : env.Calm) (candidate : PurgeCandidate) (reason : PurgeReason)
    (context : RetentionContext) (report : PurgeReport) (s : ServiceState) :
    (purge candidate reason context report).wp env.serves AnyCall
      (fun r s' => (∃ report', r = .ok report') ∧
        Purges (fun clipId => clipId = candidate.clip.clipId) s s' ∧
        ∀ row ∈ s'.clips.rows, row.clipId = candidate.clip.clipId →
          row.isEligibleForPurge = false) s := by
  refine wp_bind (wp_calm hcalm (fun _ h => (by cases h)) ?_)
  rintro found s' ⟨hfound, rfl⟩
  match found, hfound with
  | none, hfound =>
    -- there is no such row
    refine ⟨⟨_, rfl⟩, Purges.refl _ _, ?_⟩
    intro row hrow hid
    rw [KeyedTable.lookup_eq_some.mpr ⟨hrow, hid⟩] at hfound
    cases hfound
  | some clip, hfound =>
    obtain ⟨hclip, hid⟩ := KeyedTable.lookup_eq_some.mp hfound.symm
    show (if clip.isEligibleForPurge then _ else _ : Service PurgeReport).wp _ _ _ _
    split
    · next heligible =>
      -- the row has been marked
      refine wp_mono (purgeCurrent_calm hcalm clip _ reason context report s') ?_
      rintro r s'' ⟨outcome, released, hreleased, rfl, rfl⟩
      have hclips : released.clips.upsert clip.markAsPurged = s'.clips.upsert clip.markAsPurged := by
        rw [hreleased.clips_eq]
      refine ⟨⟨_, rfl⟩, Purges.of_mark hclip heligible hid hclips hreleased.releases, ?_⟩
      intro row hrow hrowId
      rcases KeyedTable.mem_upsert.mp hrow with rfl | ⟨-, hne⟩
      · rfl
      · exact absurd (hrowId.trans hid.symm) hne
    · next hineligible =>
      -- the row was not eligible in the first place
      refine ⟨⟨_, rfl⟩, Purges.refl _ _, ?_⟩
      intro row hrow hrowId
      rw [s'.clips.eq_of_key hrow hclip (hrowId.trans hid.symm)]
      exact Bool.not_eq_true _ ▸ hineligible

/-- What the strategies after this one are shown. -/
def removeAll (selected remaining : List PurgeCandidate) : List PurgeCandidate :=
  selected.foldl (fun remaining candidate => removeCandidate remaining candidate.clip.clipId)
    remaining

theorem purgeAll_calm (hcalm : env.Calm) (reason : PurgeReason) (context : RetentionContext)
    (selected remaining : List PurgeCandidate) (report : PurgeReport) (s : ServiceState) :
    (purgeAll reason context selected remaining report).wp env.serves AnyCall
      (fun r s' => (∃ report', r = .ok (removeAll selected remaining, report')) ∧
        Purges (fun clipId => ∃ candidate ∈ selected, candidate.clip.clipId = clipId) s s' ∧
        ∀ candidate ∈ selected, ∀ row ∈ s'.clips.rows, row.clipId = candidate.clip.clipId →
          row.isEligibleForPurge = false) s := by
  induction selected generalizing remaining report s with
  | nil => exact ⟨⟨_, rfl⟩, Purges.refl _ s, fun _ h => (by cases h)⟩
  | cons candidate selected ih =>
    refine wp_bind (wp_mono (purge_calm hcalm candidate reason context report s) ?_)
    rintro r s' ⟨⟨report', rfl⟩, hpurges, hgone⟩
    refine wp_mono (ih _ report' s') ?_
    rintro r s'' ⟨hok, hpurges', hgone'⟩
    have hfirst : Purges (fun clipId => ∃ other ∈ candidate :: selected,
        other.clip.clipId = clipId) s s' :=
      hpurges.mono fun clipId hid => ⟨candidate, List.mem_cons_self, hid.symm⟩
    have hrest : Purges (fun clipId => ∃ other ∈ candidate :: selected,
        other.clip.clipId = clipId) s' s'' := by
      refine hpurges'.mono ?_
      rintro clipId ⟨other, hother, hid⟩
      exact ⟨other, List.mem_cons_of_mem _ hother, hid⟩
    refine ⟨hok, hfirst.trans hrest, ?_⟩
    intro other hother row hrow hid
    rcases List.mem_cons.mp hother with rfl | hother
    · -- the first clip stays ineligible while the others are purged
      rw [← Bool.not_eq_true]
      intro heligible
      have hbefore := hrest.shrinks row hrow heligible
      rw [hgone row hbefore hid] at heligible
      cases heligible
    · exact hgone' other hother row hrow hid

end Calm

/-! ### A sweep with one strategy -/

/-- Shown the eligible clips of the state, the strategy selects the chosen ones. -/
def Selects (env : Environment) (s : ServiceState) (strategy : RetentionStrategy)
    (chosen : MediaClip → Bool) : Prop :=
  ∀ listed context, listed.Perm (s.clips.rows.filter MediaClip.isEligibleForPurge) →
    env.lists s listed → env.clock context.now → env.usage s context.diskUsage →
    ∃ selected, strategy.selectClipsToPurge (listed.map (measured s)) context = .ok selected ∧
      ∀ clip ∈ s.clips.rows, clip.isEligibleForPurge = true →
        ((∃ candidate ∈ selected, candidate.clip.clipId = clip.clipId) ↔ chosen clip = true)

/-- Under this id there is nothing to purge but a chosen clip. -/
def Chosen (chosen : MediaClip → Bool) (s : ServiceState) (clipId : String) : Prop :=
  ∀ clip ∈ s.clips.rows, clip.clipId = clipId → clip.isEligibleForPurge = true →
    chosen clip = true

/-- The phase of the sweep in a recorded run. -/
abbrev sweepPhase (o : Observed PortCall.Answer ODSException ServiceState Actor) : SweepPhase :=
  sweep.phase .sweep o.history

section Settles

variable {env : Environment} {chosen : MediaClip → Bool} {strategy : RetentionStrategy}
  {s start : ServiceState}

/-- What the protocol and the calm environment say of a part of the sweep, together. -/
theorem wp_views {α : Type} {Target : String → Prop} {p : Service α}
    {Q : Except ODSException α → SweepPhase → Prop}
    {Q' : Except ODSException α → ServiceState → Prop}
    {o : Observed PortCall.Answer ODSException ServiceState Actor}
    (hobeys : (sweepProtocol Target).Obeys p Q (sweepPhase o))
    (hcalm : p.wp env.serves AnyCall Q' o.world) :
    p.wp (observe env.serves Actor.sweep) (fun o op => (sweepPhase o).Permits Target op)
      (fun r o => Q r (sweepPhase o) ∧ Q' r o.world) o :=
  wp_permits (wp_and (Protocol.Obeys.observed (P := sweepProtocol Target) hobeys)
    (wp_observed hcalm)) fun _ _ h => h.1

/-- A part of the sweep that begins and ends between two purges. -/
theorem wp_between {α : Type} {Target : String → Prop} {p : Service α}
    {Q : Except ODSException α → ServiceState → Prop}
    {o : Observed PortCall.Answer ODSException ServiceState Actor}
    (hphase : sweepPhase o = .idle)
    (hobeys : (sweepProtocol Target).Obeys p (fun _ phase => phase = .idle) .idle)
    (hcalm : p.wp env.serves AnyCall Q o.world) :
    p.wp (observe env.serves Actor.sweep) (fun o op => (sweepPhase o).Permits Target op)
      (fun r o => sweepPhase o = .idle ∧ Q r o.world) o := by
  refine wp_views (Q := fun _ phase => phase = .idle) ?_ hcalm
  rw [hphase]
  exact hobeys

theorem currentUsage_between (hcalm : env.Calm) {Target : String → Prop}
    {o : Observed PortCall.Answer ODSException ServiceState Actor}
    (hphase : sweepPhase o = .idle) :
    (Port.currentUsage).wp (observe env.serves Actor.sweep)
      (fun o op => (sweepPhase o).Permits Target op)
      (fun r o' => sweepPhase o' = .idle ∧
        ∃ usage, r = .ok usage ∧ env.usage o.world usage ∧ o'.world = o.world) o := by
  have hcall : (Port.currentUsage).wp env.serves AnyCall (fun r s' =>
      ∃ usage, r = .ok usage ∧ env.usage o.world usage ∧ s' = o.world) o.world := by
    refine wp_calm hcalm (fun _ h => (by cases h)) ?_
    rintro usage s' ⟨husage, rfl⟩
    exact ⟨usage, rfl, husage, rfl⟩
  have hobeys : (sweepProtocol Target).Obeys Port.currentUsage (fun _ phase => phase = .idle)
      .idle := Protocol.obeys_perform trivial fun answer => by cases answer <;> rfl
  exact wp_between hphase hobeys hcall

theorem now_between (hcalm : env.Calm) {Target : String → Prop}
    {o : Observed PortCall.Answer ODSException ServiceState Actor}
    (hphase : sweepPhase o = .idle) :
    (Port.now).wp (observe env.serves Actor.sweep)
      (fun o op => (sweepPhase o).Permits Target op)
      (fun r o' => sweepPhase o' = .idle ∧
        ∃ now, r = .ok now ∧ env.clock now ∧ o'.world = o.world) o := by
  have hcall : (Port.now).wp env.serves AnyCall (fun r s' =>
      ∃ now, r = .ok now ∧ env.clock now ∧ s' = o.world) o.world := by
    refine wp_calm hcalm (fun _ h => (by cases h)) ?_
    rintro now s' ⟨hnow, rfl⟩
    exact ⟨now, rfl, hnow, rfl⟩
  have hobeys : (sweepProtocol Target).Obeys Port.now (fun _ phase => phase = .idle)
      .idle := Protocol.obeys_perform trivial fun answer => by cases answer <;> rfl
  exact wp_between hphase hobeys hcall

/-- The sweep reads again only what is chosen, returns, and leaves nothing chosen. -/
theorem execute_calm (hcalm : env.Calm) (hselects : Selects env s strategy chosen) :
    (execute [strategy]).wp (observe env.serves Actor.sweep)
      (fun o op => (sweepPhase o).Permits (Chosen chosen s) op)
      (fun r o => (∃ report, r = .ok report) ∧
        ∀ clip ∈ o.world.clips.rows, ¬ Selected chosen clip)
      (Observed.start s) := by
  have hstart : sweepPhase (Observed.start s) = .idle := rfl
  refine wp_bind (wp_mono (currentUsage_between hcalm hstart) ?_)
  rintro r o ⟨hphase, usageBefore, rfl, -, hworld⟩
  refine wp_bind (wp_mono (now_between hcalm hphase) ?_)
  rintro r o₁ ⟨hphase, startedAt, rfl, -, hworld₁⟩
  refine wp_bind (wp_mono (wp_between hphase loadCandidates_obeys
    (loadCandidates_calm hcalm o₁.world)) ?_)
  rintro r o₂ ⟨hphase, hworld₂, listed, hperm, hlists, rfl⟩
  refine wp_bind (wp_bind (wp_bind (wp_mono (now_between hcalm hphase) ?_)))
  rintro r o₃ ⟨hphase, now, rfl, hnow, hworld₃⟩
  refine wp_bind (wp_mono (currentUsage_between hcalm hphase) ?_)
  rintro r o₄ ⟨hphase, usage, rfl, husage, hworld₄⟩
  -- the strategy decides on the state the sweep was started in
  have hunchanged : o₃.world = s := by rw [hworld₃, hworld₂, hworld₁, hworld]; rfl
  have hloaded : o₁.world = s := by rw [hworld₁, hworld]; rfl
  rw [hloaded] at hperm hlists
  rw [hunchanged] at husage hworld₄
  obtain ⟨selected, hselected, hchosen⟩ := hselects listed ⟨now, usage⟩ hperm hlists hnow husage
  refine wp_bind (wp_ofExcept ?_)
  rw [hloaded, hselected]
  have htarget : ∀ candidate ∈ selected, Chosen chosen s candidate.clip.clipId := by
    intro candidate hmem clip hclip hid heligible
    exact (hchosen clip hclip heligible).mp ⟨candidate, hmem, hid.symm⟩
  refine wp_mono (wp_between hphase (purgeAll_obeys _ _ htarget _ _)
    (purgeAll_calm hcalm _ _ selected _ _ _)) ?_
  rintro r o₅ ⟨hphase, ⟨report', rfl⟩, hpurges, hgone⟩
  refine wp_bind (wp_mono (currentUsage_between hcalm hphase) ?_)
  rintro r o₆ ⟨-, usageAfter, rfl, -, hworld₆⟩
  refine ⟨⟨_, rfl⟩, ?_⟩
  -- a chosen clip left over would have been eligible at the start, selected, and purged
  intro clip hclip hselectedClip
  rw [hworld₆] at hclip
  have hbefore := hpurges.shrinks clip hclip hselectedClip.1
  rw [hworld₄] at hbefore
  obtain ⟨candidate, hmem, hid⟩ := (hchosen clip hbefore hselectedClip.1).mpr hselectedClip.2
  have hineligible := hgone candidate hmem clip hclip hid.symm
  rw [hselectedClip.1] at hineligible
  cases hineligible

/-- At every point of the sweep, wherever it stops, the way to the target is open. -/
theorem execute_settling (hcalm : env.Calm) (hselects : Selects env s strategy chosen)
    (hs : Settling chosen start .idle s) {p' : Service PurgeReport} {s' : ServiceState}
    (hsteps : Steps env.serves (execute [strategy]) s p' s') :
    Settling chosen start .idle s' ∧ Shrinks s s' := by
  obtain ⟨o, hobserved, rfl⟩ := hsteps.observed Actor.sweep
  suffices h : Settling chosen start (sweepPhase o) o.world ∧ Shrinks s o.world from
    ⟨h.1.interrupt, h.2⟩
  refine hobserved.invariant
    (fun o => Settling chosen start (sweepPhase o) o.world ∧ Shrinks s o.world) ?_
    (execute_calm hcalm hselects) ⟨hs, Shrinks.refl s⟩
  rintro op o answer o' ⟨hsettling, hshrinks⟩ hpermits ⟨world, hserves, rfl⟩
  have hmove := sweepMove_of_call hpermits hserves
  have hphase : sweepPhase (o.snoc Actor.sweep op answer world)
      = (sweepPhase o).next op answer := Protocol.phase_snoc_self ..
  refine ⟨?_, hshrinks.trans hmove.shrinks⟩
  rw [hphase, Observed.snoc_world]
  -- an eligible clip found now was there at the start, so it is one of the chosen
  exact hsettling.move hcalm hmove fun clip hclip heligible hchosen =>
    hchosen clip (hshrinks clip hclip heligible) rfl heligible

/-- **The sweep arrives.** It returns, in the state that could be told from its start. -/
theorem execute_settles (hcalm : env.Calm) (hselects : Selects env s strategy chosen)
    (hs : Settling chosen start .idle s) {result : Except ODSException PurgeReport}
    {s' : ServiceState} (hruns : Runs env.serves (execute [strategy]) s result s') :
    (∃ report, result = .ok report) ∧ s'.files = finalFiles chosen start ∧
      s'.clips.lookup = finalClip chosen start := by
  obtain ⟨p', hsteps, hout⟩ := hruns
  have hsettling := (execute_settling hcalm hselects hs hsteps).1
  obtain ⟨o, hobserved, rfl⟩ := hsteps.observed Actor.sweep
  obtain ⟨hok, hnone⟩ := wp_outcome (hobserved.wp (execute_calm hcalm hselects)) hout
  exact ⟨hok, hsettling.done hnone⟩

end Settles

end PurgeMedia

end Ods.S4
