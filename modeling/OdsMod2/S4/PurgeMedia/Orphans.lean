import OdsMod2.S4.PurgeMedia.Evidence
import OdsMod2.S4.PurgeMedia.Target
import OdsMod2.S4.FileStorage

/-!
# A sweep and the files it must not lose sight of

The order of a purge, file first and record second, is there so that no file is left which no
retained record names. Any call may fail in this module, and nearly every failure is harmless: a
file that cannot be removed keeps its record, a record that cannot be written stays retained.

The exception is the status call before the release. `FileStorage::exists` answers `false` when the
call fails, which is the answer for a missing file, and the purge goes on to mark the clip. If no
other retained clip names the file, it is an orphan from then on. `purge_leaves_no_orphan_iff` says
that this is the only way to one.
-/

namespace Ods.S4

open Prog

namespace PurgeMedia

abbrev SweepEvent := Event PortCall.Answer ODSException ServiceState Unit

/-- A retained clip other than `clip` names its file. -/
def NamedByOther (s : ServiceState) (clip : MediaClip) : Prop :=
  ∃ other ∈ s.clips.rows, other.clipId ≠ clip.clipId ∧ other.isRetained = true ∧
    other.filePath = clip.filePath

/-- The call recorded a clip as no longer retained: then its file is gone, or is the file of a
retained clip. -/
def MarksSafely (e : SweepEvent) : Prop :=
  ∀ row, e.op = .update row → (∃ done, e.answer = .ok done) → row.isRetained = false →
    e.after.files row.filePath = none ∨
      ∃ other ∈ e.after.clips.rows, other.isRetained = true ∧ other.filePath = row.filePath

/-- The purge of `clip` has been told that the file is missing; it is there, and no other retained
clip names it. -/
structure Misled (before : List SweepEvent) (e : SweepEvent) (clip : MediaClip) : Prop where
  told : sweep.phase () (before ++ [e]) = .settled clip .alreadyMissing
  present : e.before.files clip.filePath ≠ none
  unnamed : ¬ NamedByOther e.before clip

/-- No status call misleads a purge that goes on to write the record back. -/
def NotMisled (history : List SweepEvent) : Prop :=
  ∀ before e e' after, history = before ++ e :: e' :: after → ∀ clip, Misled before e clip →
    sweep.phase () (before ++ [e] ++ [e']) ≠ .marked clip .alreadyMissing

theorem NotMisled.of_snoc {history : List SweepEvent} {e : SweepEvent}
    (h : NotMisled (history ++ [e])) : NotMisled history := by
  intro before e₁ e₂ after hsplit
  refine h before e₁ e₂ (after ++ [e]) ?_
  rw [hsplit, List.append_assoc]
  rfl

section Marking

variable {env : Environment} {phase : SweepPhase} {op : PortCall}
  {answer : Except ODSException op.Answer} {s s' : ServiceState}

/-- Only the write-back of a settled clip marks it. -/
theorem SweepPhase.next_eq_marked {clip : MediaClip} {outcome : FileOutcome}
    (h : phase.next op answer = .marked clip outcome) :
    phase = .settled clip outcome ∧ ∃ row, op = .update row ∧ ∃ done, answer = .ok done := by
  cases answer with
  | error exception =>
    rw [SweepPhase.next_error] at h
    cases h
  | ok answer =>
    -- only the call that writes the record moves to the marked phase
    cases op with
    | update row =>
      cases phase with
      | settled held outcome' =>
        obtain ⟨rfl, rfl⟩ := SweepPhase.marked.inj h
        exact ⟨rfl, row, rfl, answer, rfl⟩
      | _ => cases h
    | findById clipId =>
      match answer, h with
      | none, h => cases phase <;> cases h
      | some found, h =>
        have hnext : phase.next (.findById clipId) (.ok (some found))
            = if found.isEligibleForPurge then .held found else .idle := by cases phase <;> rfl
        rw [hnext] at h
        split at h <;> cases h
    | fileExists path =>
      match answer, h with
      | true, h => cases phase <;> cases h
      | false, h => cases phase <;> cases h
    | findByEventId eventId =>
      cases phase with
      | present held =>
        have hnext : (SweepPhase.present held).next (.findByEventId eventId) (.ok answer)
            = if sharesFile held answer then .settled held .keptForOtherClip else .clear held := rfl
        rw [hnext] at h
        split at h <;> cases h
      | _ => cases h
    | _ => cases phase <;> cases h

/-- A record is written back only from a settled file, marked as purged. -/
theorem SweepPhase.update_permitted {row : MediaClip}
    (h : phase.Permits (fun _ => True) (.update row)) :
    ∃ clip outcome, phase = .settled clip outcome ∧ row = clip.markAsPurged := by
  cases phase with
  | settled clip outcome => exact ⟨clip, outcome, rfl, h⟩
  | _ => exact h.elim

end Marking

/-! ### The invariant -/

/-- What the sweep knows in the middle of a purge, when anything may fail. -/
structure Watchful (start : ServiceState)
    (o : Observed PortCall.Answer ODSException ServiceState Unit) : Prop where
  inHand : ∀ clip, (sweep.phase () o.history).inHand = some clip →
    clip ∈ o.world.clips.rows ∧ clip.isEligibleForPurge = true
  settled : ∀ clip outcome, sweep.phase () o.history = .settled clip outcome →
    o.world.files clip.filePath = none ∨ NamedByOther o.world clip ∨
      outcome = .alreadyMissing ∧ ∃ before e, o.history = before ++ [e] ∧ Misled before e clip
  referenced : NoOrphans start o.world
  events : ∀ e ∈ o.history, MarksSafely e ∧ NoOrphans start e.after

theorem Watchful.refl (s : ServiceState) : Watchful s (Observed.start s) where
  inHand _ hhand := by cases hhand
  settled _ _ hsettled := by cases hsettled
  referenced _ _ href := href
  events _ he := absurd he List.not_mem_nil

section Step

variable {env : Environment} {start : ServiceState}
  {o : Observed PortCall.Answer ODSException ServiceState Unit} {op : PortCall}
  {answer : Except ODSException op.Answer} {world : ServiceState}

/-- What is about to be marked has lost its file or shares it. -/
theorem Watchful.before_mark (h : Watchful start o)
    (hnot : NotMisled (o.snoc () op answer world).history) {clip : MediaClip}
    {outcome : FileOutcome}
    (hmarked : sweep.phase () (o.snoc () op answer world).history = .marked clip outcome) :
    o.world.files clip.filePath = none ∨ NamedByOther o.world clip := by
  have hnext := hmarked
  rw [Protocol.phase_snoc_self] at hnext
  obtain ⟨hsettled, -⟩ := SweepPhase.next_eq_marked hnext
  rcases h.settled clip outcome hsettled with hgone | hnamed | ⟨rfl, before, e, hhistory, hmisled⟩
  · exact .inl hgone
  · exact .inr hnamed
  · -- the status call came right before this write-back
    refine absurd hmarked ?_
    rw [Observed.snoc_history, hhistory] at hnot ⊢
    exact hnot before e _ [] (List.append_assoc _ _ _) clip hmisled

/-- The new call, if it marks a clip, marks it safely. -/
theorem Watchful.marksSafely (h : Watchful start o)
    (hpermits : (sweep.phase () o.history).Permits (fun _ => True) op)
    (hserves : env.serves op o.world answer world)
    (hnot : NotMisled (o.snoc () op answer world).history) :
    MarksSafely ⟨(), op, answer, o.world, world⟩ := by
  intro row hop hdone _
  obtain rfl : op = .update row := hop
  obtain ⟨clip, outcome, hphase, rfl⟩ := SweepPhase.update_permitted hpermits
  cases answer with
  | error exception =>
    obtain ⟨done, hdone⟩ := hdone
    cases hdone
  | ok done =>
    have hmarked : sweep.phase ()
        (o.snoc () (.update clip.markAsPurged) (.ok done) world).history
          = .marked clip outcome := by
      rw [Protocol.phase_snoc_self, hphase]
      rfl
    obtain rfl : world = o.world.putClip clip.markAsPurged := hserves
    rcases h.before_mark hnot hmarked with hgone | ⟨other, hother, hne, hretained, hpath⟩
    · exact .inl hgone
    · exact .inr ⟨other, mem_putClip_of_ne hother hne, hretained, hpath⟩

/-- One move, if a clip that it marks may be marked. Only a clip reported as missing is settled
without its file being gone or shared. -/
theorem NoOrphans.move {phase phase' : SweepPhase} {s s' : ServiceState} (h : NoOrphans start s)
    (hmove : SweepMove env (fun _ => True) phase s phase' s')
    (hhand : ∀ clip, phase.inHand = some clip →
      clip ∈ s.clips.rows ∧ clip.isEligibleForPurge = true)
    (hmark : ∀ clip outcome, phase' = .marked clip outcome →
      s.files clip.filePath = none ∨ NamedByOther s clip) :
    (∀ clip, phase'.inHand = some clip → clip ∈ s'.clips.rows ∧ clip.isEligibleForPurge = true) ∧
      (∀ clip outcome, phase' = .settled clip outcome →
        s'.files clip.filePath = none ∨ NamedByOther s' clip ∨
          outcome = .alreadyMissing ∧ s = s') ∧ NoOrphans start s' := by
  -- the file goes with `remove`, the record with `mark`
  cases hmove with
  | rest => exact ⟨fun _ hhand => (by cases hhand), fun _ _ hset => (by cases hset), h⟩
  | reread hmem heligible htarget =>
    refine ⟨fun clip hhand => ?_, fun _ _ hset => (by cases hset), h⟩
    obtain rfl := Option.some.inj hhand
    exact ⟨hmem, heligible⟩
  | found hfile => exact ⟨hhand, fun _ _ hset => (by cases hset), h⟩
  | missing hfile =>
    refine ⟨hhand, fun clip outcome hset => ?_, h⟩
    obtain ⟨rfl, rfl⟩ := SweepPhase.settled.inj hset
    exact .inr (.inr ⟨rfl, rfl⟩)
  | shared hmem hother hevent hretained hpath =>
    refine ⟨hhand, fun clip outcome hset => ?_, h⟩
    obtain ⟨rfl, rfl⟩ := SweepPhase.settled.inj hset
    exact .inr (.inl ⟨_, hmem, hother, hretained, hpath⟩)
  | unshared hnone => exact ⟨hhand, fun _ _ hset => (by cases hset), h⟩
  | remove =>
    refine ⟨hhand, fun clip outcome hset => ?_, h.dropFile _⟩
    obtain ⟨rfl, rfl⟩ := SweepPhase.settled.inj hset
    exact .inl (Function.update_self _ _ _)
  | mark =>
    exact ⟨fun _ hhand => (by cases hhand), fun _ _ hset => (by cases hset),
      h.mark (hhand _ rfl).1 (hmark _ _ rfl)⟩
  | log hclip => exact ⟨fun _ hhand => (by cases hhand), fun _ _ hset => (by cases hset), h⟩

/-- **One call.** A sweep that is not misled leaves no orphan. -/
theorem Watchful.snoc (h : Watchful start o)
    (hpermits : (sweep.phase () o.history).Permits (fun _ => True) op)
    (hserves : env.serves op o.world answer world)
    (hnot : NotMisled (o.snoc () op answer world).history) :
    Watchful start (o.snoc () op answer world) := by
  have hsafe := h.marksSafely hpermits hserves hnot
  have hphase : sweep.phase () (o.snoc () op answer world).history
      = (sweep.phase () o.history).next op answer := Protocol.phase_snoc_self ..
  have hmark : ∀ clip outcome, (sweep.phase () o.history).next op answer = .marked clip outcome →
      o.world.files clip.filePath = none ∨ NamedByOther o.world clip := by
    intro clip outcome hmarked
    exact h.before_mark hnot (hphase.trans hmarked)
  obtain ⟨hhand, hsettled, horphans⟩ :=
    h.referenced.move (sweepMove_of_call hpermits hserves) h.inHand hmark
  refine ⟨fun clip => ?_, fun clip outcome hset => ?_, horphans, fun e he => ?_⟩
  · rw [hphase]
    exact hhand clip
  · by_cases hgone : world.files clip.filePath = none
    · exact .inl hgone
    by_cases hnamed : NamedByOther world clip
    · exact .inr (.inl hnamed)
    -- what is neither gone nor shared was reported as missing by this very call
    have htold := hset
    rw [hphase] at hset
    rcases hsettled clip outcome hset with h | h | ⟨rfl, hworld⟩
    · exact absurd h hgone
    · exact absurd h hnamed
    · refine .inr (.inr ⟨rfl, o.history, _, rfl, htold, ?_, ?_⟩)
      · show o.world.files _ ≠ none
        rwa [hworld]
      · show ¬ NamedByOther o.world clip
        rwa [hworld]
  · rcases List.mem_append.mp he with hold | hnew
    · exact h.events e hold
    · rw [List.mem_singleton.mp hnew]
      exact ⟨hsafe, horphans⟩

end Step

/-! ### When a sweep leaves no orphan -/

/-- **Orphans.** Along every run of a sweep that is alone, up to any point and whatever fails: every
clip that is marked has lost its file or shares it, and no file is orphaned, if and only if no
status call misleads a purge that goes on to write the record back. -/
theorem purge_leaves_no_orphan_iff (env : Environment) (strategies : List RetentionStrategy)
    {s : ServiceState} {p' : Service PurgeReport}
    {o' : Observed PortCall.Answer ODSException ServiceState Unit}
    (hrun : Steps (observe env.serves ()) (execute strategies) (Observed.start s) p' o') :
    NotMisled o'.history ↔
      (∀ e ∈ o'.history, MarksSafely e ∧ NoOrphans s e.after) ∧ NoOrphans s o'.world := by
  constructor
  · intro hnot
    -- along the run: as long as no status call has misled it, it has watched over every file
    have hinv : NotMisled o'.history → Watchful s o' := by
      refine hrun.obeys_invariant (P := sweep) (fun o => NotMisled o.history → Watchful s o) ?_
        (execute_obeys strategies _) fun _ => Watchful.refl s
      intro o op answer world h hpermits hserves hnot
      exact (h hnot.of_snoc).snoc hpermits hserves hnot
    exact ⟨(hinv hnot).events, (hinv hnot).referenced⟩
  · rintro ⟨hsafe, -⟩ before e e' after hsplit clip hmisled hmarked
    obtain ⟨-, hfollows⟩ := hrun.follows (P := sweep) (execute_obeys strategies _)
    have hstatus := hfollows before e (e' :: after) hsplit
    have hwrite := hfollows (before ++ [e]) e' after (by rw [hsplit, List.append_assoc]; rfl)
    have htold := hmisled.told
    rw [Protocol.phase_snoc, if_pos rfl] at htold hmarked
    -- the status call left the state as it was
    have hunchanged : e.after = e.before := by
      have hmove := sweepMove_of_call hstatus.permits hstatus.served
      rw [show SweepPhase.next (sweep.phase () before) e.op e.answer = _ from htold] at hmove
      exact hmove.after_missing
    have hbefore : e'.before = e.before := by
      rw [hwrite.before_eq, lastWorld_snoc, hunchanged]
    obtain ⟨hsettled, row, hop, hdone⟩ := SweepPhase.next_eq_marked hmarked
    have hmove := sweepMove_of_call hwrite.permits hwrite.served
    have hrow : row = clip.markAsPurged := by
      have hpermits := hwrite.permits
      rw [hop, hsettled] at hpermits
      exact hpermits
    rw [show SweepPhase.next (sweep.phase () (before ++ [e])) e'.op e'.answer = _ from hmarked,
      hsettled] at hmove
    have hafter : e'.after = e.before.putClip clip.markAsPurged := by
      rw [← hbefore]
      exact hmove.after_mark
    have hmem : e' ∈ o'.history := by
      rw [hsplit]
      exact List.mem_append_right _ (List.mem_cons_of_mem _ List.mem_cons_self)
    -- so a mark that is safe would have found the file gone, or named by another clip
    rcases (hsafe e' hmem).1 row hop hdone (by rw [hrow]; rfl) with hgone | ⟨other, hother, hkept, hpath⟩
    · rw [hafter, hrow] at hgone
      exact hmisled.present hgone
    · rw [hafter] at hother
      obtain ⟨hother, hne⟩ := mem_of_mem_putClip hother hkept
      rw [hrow] at hpath
      exact hmisled.unnamed ⟨other, hother, hne, hkept, hpath⟩

/-! ### A status call that fails -/

/-- A sweep by deadline on the bench, with faults. -/
def faultySweep (faults : Faults) (s : ServiceState) :
    Except ODSException PurgeReport × Observed PortCall.Answer ODSException ServiceState Unit :=
  (execute [LgpdRetentionStrategy .default]).run
    (observeServer (faults.serve Simulation.bench) ()) (Observed.start s)

theorem faultySweep_runs (faults : Faults) (s : ServiceState) :
    Runs (observe (faults.environment Simulation.bench).serves ())
      (execute [LgpdRetentionStrategy .default]) (Observed.start s) (faultySweep faults s).1
      (faultySweep faults s).2 :=
  run_runs (observeServer_observe (faults.serve_serves Simulation.bench) ()) _ _

/-- One clip past its deadline, and its file. -/
def oneExpired : ServiceState where
  clips := ⟨[
    { clipId := "clip-a", eventId := "evt", filePath := "/nvme/evt.mp4", sha256Hash := "",
      timeWindow := ⟨0, 1, Int.zero_lt_one⟩, createdAt := 0 }], by decide⟩
  files path := if path = "/nvme/evt.mp4" then some [1, 2, 3] else none
  purgeLog := []

/-- The file cannot be removed. -/
def removeFails : Faults where
  throws
    | .removeFile path => some (FileStorage.fileOperationError ("cannot remove file: " ++ path))
    | _ => none
  hides _ := false

/-- The status of the file cannot be read. -/
def statusFails : Faults where
  throws _ := none
  hides path := path = "/nvme/evt.mp4"

theorem purge_leaves_no_orphan_iff_removeFails :
    NotMisled (faultySweep removeFails oneExpired).2.history ↔
      (∀ e ∈ (faultySweep removeFails oneExpired).2.history,
        MarksSafely e ∧ NoOrphans oneExpired e.after) ∧
      NoOrphans oneExpired (faultySweep removeFails oneExpired).2.world := by
  obtain ⟨p', hrun, -⟩ := faultySweep_runs removeFails oneExpired
  exact purge_leaves_no_orphan_iff _ _ hrun

/-- The failed status call passes for a missing file: the clip is marked and its file stays. -/
theorem failed_status_leaves_orphan :
    ¬ ∀ (env : Environment) (strategies : List RetentionStrategy) (s : ServiceState)
      (p' : Service PurgeReport)
      (o' : Observed PortCall.Answer ODSException ServiceState Unit),
      Steps (observe env.serves ()) (execute strategies) (Observed.start s) p' o' →
        (∀ e ∈ o'.history, MarksSafely e) ∧ NoOrphans s o'.world := by
  intro h
  obtain ⟨p', hrun, -⟩ := faultySweep_runs statusFails oneExpired
  have horphans := (h _ _ _ p' _ hrun).2 "/nvme/evt.mp4" (by decide +kernel)
    ⟨_, List.mem_cons_self, rfl, rfl⟩
  exact absurd horphans (by decide +kernel)

end PurgeMedia

end Ods.S4
