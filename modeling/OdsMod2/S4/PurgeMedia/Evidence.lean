import OdsMod2.S4.PurgeMedia.Moves

/-!
# A sweep and the evidence it must spare

A sweep that runs alone, in an environment where any call may fail and with strategies that may
select anything, is shown to spare the files and records that are not its to take.

The candidates are a snapshot and several of them may share one file, so nothing can be said
about the clips the strategies saw. What carries the argument is the clip in hand (`Grounded`): it
is a row of the repository as it is now, it is eligible, and from the moment the siblings were
asked for no other retained row points to its file. Asking the siblings by event is enough because
clips with one file have one event (`NamedBy`).

A locked clip that is not retained any more has no such protection. The guard asks for retained
siblings only, so the file such a clip still names goes with the last retained clip that names it
(`removes_file_of_locked_clip`).
-/

namespace Ods.S4

open Prog

/-- Clips with one file have one event. -/
def Naming (s : ServiceState) : Prop :=
  ∀ clip ∈ s.clips.rows, ∀ clip' ∈ s.clips.rows,
    clip.filePath = clip'.filePath → clip.eventId = clip'.eventId

instance (s : ServiceState) : Decidable (Naming s) :=
  inferInstanceAs (Decidable (∀ clip ∈ s.clips.rows, ∀ clip' ∈ s.clips.rows,
    clip.filePath = clip'.filePath → clip.eventId = clip'.eventId))

/-- The event a file is named after. -/
def NamedBy (eventOf : String → String) (clip : MediaClip) : Prop :=
  clip.eventId = eventOf clip.filePath

/-- A naming is a function from files to events. -/
theorem Naming.exists_eventOf {s : ServiceState} (h : Naming s) :
    ∃ eventOf, ∀ clip ∈ s.clips.rows, NamedBy eventOf clip := by
  have hevent : ∀ path, ∃ eventId, ∀ clip ∈ s.clips.rows, clip.filePath = path →
      clip.eventId = eventId := by
    intro path
    by_cases hex : ∃ clip ∈ s.clips.rows, clip.filePath = path
    · obtain ⟨named, hmem, rfl⟩ := hex
      refine ⟨named.eventId, ?_⟩
      intro clip hclip hpath
      exact h clip hclip named hmem hpath
    · -- a file no clip names may be named after anything
      exact ⟨"", fun clip hclip hpath => absurd ⟨clip, hclip, hpath⟩ hex⟩
  choose eventOf heventOf using hevent
  exact ⟨eventOf, fun clip hmem => heventOf clip.filePath clip hmem rfl⟩

namespace PurgeMedia

/-- What a sweep knows about the clip in hand when nobody else moves. -/
structure Grounded (eventOf : String → String) (phase : SweepPhase) (s : ServiceState) : Prop where
  named : ∀ clip ∈ s.clips.rows, NamedBy eventOf clip
  inHand : ∀ clip, phase.inHand = some clip →
    clip ∈ s.clips.rows ∧ clip.isEligibleForPurge = true
  clear : ∀ clip, phase = .clear clip → ∀ other ∈ s.clips.rows, other.isRetained = true →
    other.filePath = clip.filePath → other = clip

theorem Grounded.move {env : Environment} {Target : String → Prop} {eventOf : String → String}
    {phase phase' : SweepPhase} {s s' : ServiceState} (h : Grounded eventOf phase s)
    (hmove : SweepMove env Target phase s phase' s') : Grounded eventOf phase' s' := by
  cases hmove with
  | rest => exact ⟨h.named, fun _ hhand => (by cases hhand), fun _ hclear => (by cases hclear)⟩
  | reread hmem heligible htarget =>
    refine ⟨h.named, fun clip hhand => ?_, fun _ hclear => (by cases hclear)⟩
    obtain rfl := Option.some.inj hhand
    exact ⟨hmem, heligible⟩
  | found hfile => exact ⟨h.named, h.inHand, fun _ hclear => (by cases hclear)⟩
  | missing hfile => exact ⟨h.named, h.inHand, fun _ hclear => (by cases hclear)⟩
  | shared hmem hother hevent hretained hpath =>
    exact ⟨h.named, h.inHand, fun _ hclear => (by cases hclear)⟩
  | unshared hnone =>
    refine ⟨h.named, h.inHand, fun clip hclear other hmem hretained hpath => ?_⟩
    obtain rfl := SweepPhase.clear.inj hclear
    obtain ⟨hclip, -⟩ := h.inHand _ rfl
    -- one file, one event: the siblings asked for are all the clips of the file
    have hevent : other.eventId = _ := (h.named other hmem).trans
      ((congrArg eventOf hpath).trans (h.named _ hclip).symm)
    exact s.clips.eq_of_key hmem hclip (hnone other hmem hevent hretained hpath)
  | remove => exact ⟨h.named, h.inHand, fun _ hclear => (by cases hclear)⟩
  | mark =>
    refine ⟨fun row hrow => ?_, fun _ hhand => (by cases hhand), fun _ hclear => (by cases hclear)⟩
    rcases KeyedTable.mem_upsert.mp hrow with rfl | ⟨hrow, -⟩
    · -- marking a clip changes neither its file nor its event
      have hnamed := h.named _ (h.inHand _ rfl).1
      exact hnamed
    · exact h.named row hrow
  | log hclip => exact ⟨h.named, fun _ hhand => (by cases hhand), fun _ hclear => (by cases hclear)⟩

/-- One call of a sweep spares the evidence; `inHand` is the clip it is purging. -/
structure SparesEvidence (inHand : Option MediaClip)
    (e : Event PortCall.Answer ODSException ServiceState Unit) : Prop where
  /-- A removed file is the file of no retained clip but the one being purged. -/
  others : ∀ other ∈ e.before.clips.rows, other.isRetained = true →
    e.op.removes = some other.filePath → inHand = some other
  /-- A removed file is the file of no retained clip that is locked. -/
  locked : ∀ clip ∈ e.before.clips.rows, clip.isRetained = true → clip.isLockedForAudit = true →
    e.op.removes ≠ some clip.filePath
  /-- The record of a locked clip stays. -/
  records : ∀ clip ∈ e.before.clips.rows, clip.isLockedForAudit = true →
    clip ∈ e.after.clips.rows

theorem Grounded.sparesEvidence {env : Environment} {eventOf : String → String}
    {phase : SweepPhase} {s s' : ServiceState} {op : PortCall}
    {answer : Except ODSException op.Answer} (h : Grounded eventOf phase s)
    (hpermits : phase.Permits (fun _ => True) op) (hserves : env.serves op s answer s') :
    SparesEvidence phase.inHand ⟨(), op, answer, s, s'⟩ := by
  -- a file is removed only from `clear`, and then for the clip in hand
  have hremove : ∀ other ∈ s.clips.rows, other.isRetained = true →
      op.removes = some other.filePath → phase.inHand = some other := by
    intro other hmem hretained hremoves
    obtain rfl := PortCall.removes_eq_some.mp hremoves
    cases phase with
    | clear clip =>
      have hpath : other.filePath = clip.filePath := hpermits
      rw [h.clear clip rfl other hmem hretained hpath]
      rfl
    | _ => exact hpermits.elim
  refine ⟨hremove, ?_, ?_⟩
  · -- the clip in hand is eligible, so it is not locked
    intro clip hmem hretained hlocked hremoves
    obtain ⟨-, heligible⟩ := h.inHand clip (hremove clip hmem hretained hremoves)
    rw [(MediaClip.isEligibleForPurge_iff.mp heligible).2] at hlocked
    cases hlocked
  · intro clip hmem hlocked
    have hmove := sweepMove_of_call hpermits hserves
    generalize phase.next op answer = phase' at hmove
    cases hmove with
    | mark =>
      -- the row written back replaces the eligible one it was read from
      obtain ⟨hclip, heligible⟩ := h.inHand _ rfl
      refine KeyedTable.mem_upsert.mpr (.inr ⟨hmem, fun hid => ?_⟩)
      rw [s.clips.eq_of_key hmem hclip hid, (MediaClip.isEligibleForPurge_iff.mp heligible).2]
        at hlocked
      cases hlocked
    | _ => exact hmem

/-- **A sweep spares the evidence.** In every run of a sweep that is alone, up to any point and
whatever fails, no file of another retained clip or of a locked retained clip is removed, and no
record of a locked clip changes. -/
theorem execute_sparesEvidence (env : Environment) (strategies : List RetentionStrategy)
    {s : ServiceState} (hnaming : Naming s) {p' : Service PurgeReport}
    {o' : Observed PortCall.Answer ODSException ServiceState Unit}
    (hrun : Steps (observe env.serves ()) (execute strategies) (Observed.start s) p' o') :
    EveryEvent (fun before e => SparesEvidence (sweep.phase () before).inHand e) o'.history := by
  obtain ⟨eventOf, hnamed⟩ := hnaming.exists_eventOf
  have hinv : Grounded eventOf (sweep.phase () o'.history) o'.world ∧
      EveryEvent (fun before e => SparesEvidence (sweep.phase () before).inHand e) o'.history := by
    refine hrun.obeys_invariant (P := sweep)
      (fun o => Grounded eventOf (sweep.phase () o.history) o.world ∧
        EveryEvent (fun before e => SparesEvidence (sweep.phase () before).inHand e) o.history)
      ?_ (execute_obeys strategies _) ?_
    · -- one more call: the invariant before it gives the property of the call
      rintro o op answer world ⟨hgrounded, hevents⟩ hpermits hserves
      rw [Protocol.phase_snoc_self]
      exact ⟨hgrounded.move (sweepMove_of_call hpermits hserves),
        hevents.snoc (hgrounded.sparesEvidence hpermits hserves)⟩
    · exact ⟨⟨hnamed, fun _ hhand => (by cases hhand), fun _ hclear => (by cases hclear)⟩,
        EveryEvent.nil⟩
  exact hinv.2

/-- Two clips of one event: an expired one, and one that was purged before it was locked. -/
def purgedThenLocked : ServiceState where
  clips := ⟨[
    { clipId := "clip-a", eventId := "evt", filePath := "/nvme/evt.mp4", sha256Hash := "",
      timeWindow := ⟨0, 1, Int.zero_lt_one⟩, createdAt := 0 },
    { clipId := "clip-b", eventId := "evt", filePath := "/nvme/evt.mp4", sha256Hash := "",
      timeWindow := ⟨0, 1, Int.zero_lt_one⟩, isRetained := false, isLockedForAudit := true,
      createdAt := 0 }], by decide⟩
  files path := if path = "/nvme/evt.mp4" then some [0] else none
  purgeLog := []

/-- The recorded run of a sweep on the bench. -/
def benchSweep (s : ServiceState) :
    Except ODSException PurgeReport × Observed PortCall.Answer ODSException ServiceState Unit :=
  (execute [LgpdRetentionStrategy .default, DiskQuotaFifoStrategy .default]).run
    (observeServer Simulation.bench.serve ()) (Observed.start s)

theorem benchSweep_runs (s : ServiceState) :
    Runs (observe Simulation.bench.environment.serves ())
      (execute [LgpdRetentionStrategy .default, DiskQuotaFifoStrategy .default])
      (Observed.start s) (benchSweep s).1 (benchSweep s).2 :=
  run_runs (observeServer_observe (Simulation.serve_serves _) ()) _ _

theorem execute_sparesEvidence_bench :
    EveryEvent (fun before e => SparesEvidence (sweep.phase () before).inHand e)
      (benchSweep purgedThenLocked).2.history := by
  obtain ⟨p', hrun, -⟩ := benchSweep_runs purgedThenLocked
  exact execute_sparesEvidence _ _ (by decide) hrun

/-- The guard asks for *retained* siblings: a locked clip that is not retained any more loses its
file with the last retained clip that names it. -/
theorem removes_file_of_locked_clip :
    ¬ ∀ (env : Environment) (strategies : List RetentionStrategy) (s : ServiceState), Naming s →
      ∀ (p' : Service PurgeReport)
        (o' : Observed PortCall.Answer ODSException ServiceState Unit),
        Steps (observe env.serves ()) (execute strategies) (Observed.start s) p' o' →
        ∀ e ∈ o'.history, ∀ clip ∈ e.before.clips.rows, clip.isLockedForAudit = true →
          e.op.removes ≠ some clip.filePath := by
  intro h
  obtain ⟨p', hrun, -⟩ := benchSweep_runs purgedThenLocked
  have hspares := h _ _ _ (by decide) p' _ hrun
  have hremoved : ∃ e ∈ (benchSweep purgedThenLocked).2.history, ∃ clip ∈ e.before.clips.rows,
      clip.isLockedForAudit = true ∧ e.op.removes = some clip.filePath := by
    decide +kernel
  obtain ⟨e, he, clip, hclip, hlocked, hremoves⟩ := hremoved
  exact hspares e he clip hclip hlocked hremoves

end PurgeMedia

end Ods.S4
