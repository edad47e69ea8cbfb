import OdsMod2.S4.PurgeMedia.Evidence
import OdsMod2.S4.AuditLock

/-!
# A sweep against an auditor

A sweep promises to read a clip again right before it deletes, so that evidence locked in the
meantime is kept. It then looks at the file, asks for the siblings, deletes, and writes the *whole
row* back, each in a call of its own. This file finds out what an auditor's lock is worth when its
two calls may fall anywhere between those.

A lock that commits while the sweep has the clip in hand is lost: the file goes and the row is
written back unlocked (`lock_is_lost`). `Undisturbed` is the condition on the moment of the commit
under which this cannot happen, and `lock_holds` shows that it is enough, for the rest of the run:
from then on the locked row stays in the table (`Protected`), so every later re-read of the clip
finds it locked, and every later question for its siblings finds it retained.
-/

namespace Ods.S4

open Prog PurgeMedia

namespace AuditRace

/-- The row committed by an auditor is safe from a sweep in this phase. -/
structure Undisturbed (phase : SweepPhase) (locked : MediaClip) (s : ServiceState) : Prop where
  /-- The row still stands for its file, or no retained clip uses that file any more. -/
  kept : locked.isRetained = true ∨
    ∀ row ∈ s.clips.rows, row.isRetained = true → row.filePath ≠ locked.filePath
  /-- The sweep is not between its re-read of the clip and its write-back. -/
  notInHand : ∀ clip, phase.inHand = some clip → clip.clipId ≠ locked.clipId
  /-- The sweep has not already found the file to be unused by others. -/
  notClear : ∀ clip, phase = .clear clip → clip.filePath ≠ locked.filePath

/-- The call takes neither the file nor the lock. -/
structure SparesLocked (locked : MediaClip)
    (e : Event PortCall.Answer ODSException ServiceState Actor) : Prop where
  file : e.op.removes ≠ some locked.filePath
  lock : ∀ row, e.op = .update row → row.clipId = locked.clipId → row.isLockedForAudit = true

/-- What stays true once the lock is in the table. -/
structure Protected (locked : MediaClip) (phase : SweepPhase) (auditing : AuditPhase)
    (s : ServiceState) : Prop where
  isLocked : locked.isLockedForAudit = true
  stored : locked ∈ s.clips.rows
  undisturbed : Undisturbed phase locked s
  auditing : ∀ clip, auditing = .read clip → clip = locked

/-- What holds of every state of the race, for the clip the auditor is after. -/
structure Known (eventOf : String → String) (clipId : String) (phase : SweepPhase)
    (auditing : AuditPhase) (s : ServiceState) : Prop where
  named : ∀ clip ∈ s.clips.rows, NamedBy eventOf clip
  inHand : ∀ clip, phase.inHand = some clip → NamedBy eventOf clip
  /-- Only the row of the audited clip can change under the sweep. -/
  stored : ∀ clip, phase.inHand = some clip → clip.clipId ≠ clipId →
    clip ∈ s.clips.rows ∧ clip.isEligibleForPurge = true
  auditing : ∀ clip, auditing = .read clip → NamedBy eventOf clip ∧ clip.clipId = clipId

section Sweep

variable {env : Environment} {eventOf : String → String} {clipId : String}
  {phase phase' : SweepPhase} {auditing : AuditPhase} {s s' : ServiceState} {locked : MediaClip}

theorem Known.sweep (h : Known eventOf clipId phase auditing s)
    (hmove : SweepMove env (fun _ => True) phase s phase' s') :
    Known eventOf clipId phase' auditing s' := by
  cases hmove with
  | rest => exact ⟨h.named, fun _ hhand => (by cases hhand), fun _ hhand => (by cases hhand),
      h.auditing⟩
  -- the clip in hand has just been read
  | reread hmem heligible htarget =>
    refine ⟨h.named, fun clip hhand => ?_, fun clip hhand _ => ?_, h.auditing⟩
    · obtain rfl := Option.some.inj hhand
      exact h.named _ hmem
    · obtain rfl := Option.some.inj hhand
      exact ⟨hmem, heligible⟩
  | found hfile => exact ⟨h.named, h.inHand, h.stored, h.auditing⟩
  | missing hfile => exact ⟨h.named, h.inHand, h.stored, h.auditing⟩
  | shared hmem hother hevent hretained hpath =>
    exact ⟨h.named, h.inHand, h.stored, h.auditing⟩
  | unshared hnone => exact ⟨h.named, h.inHand, h.stored, h.auditing⟩
  | remove => exact ⟨h.named, h.inHand, h.stored, h.auditing⟩
  -- the marked row has the id and the event of the one it replaces
  | mark =>
    refine ⟨fun row hrow => ?_, fun _ hhand => (by cases hhand), fun _ hhand => (by cases hhand),
      h.auditing⟩
    rcases KeyedTable.mem_upsert.mp hrow with rfl | ⟨hrow, -⟩
    · have hnamed := h.inHand _ rfl
      exact hnamed
    · exact h.named row hrow
  | log hclip => exact ⟨h.named, fun _ hhand => (by cases hhand), fun _ hhand => (by cases hhand),
      h.auditing⟩

/-- A move of the sweep after which it has no clip in hand that it had not, and has not just found a
file to be unused. -/
theorem Protected.sweepReads (h : Protected locked phase auditing s) (hclips : s'.clips = s.clips)
    (hhand : ∀ clip, phase'.inHand = some clip → clip.clipId ≠ locked.clipId)
    (hclear : ∀ clip, phase' ≠ .clear clip) : Protected locked phase' auditing s' where
  isLocked := h.isLocked
  stored := hclips ▸ h.stored
  undisturbed := {
    kept := hclips ▸ h.undisturbed.kept
    notInHand := hhand
    notClear := fun clip hphase => absurd hphase (hclear clip) }
  auditing := h.auditing

/-- The sweep can do nothing to a protected clip. -/
theorem Protected.sweep (hknown : Known eventOf locked.clipId phase auditing s)
    (h : Protected locked phase auditing s)
    (hmove : SweepMove env (fun _ => True) phase s phase' s') :
    Protected locked phase' auditing s' := by
  have hhand := h.undisturbed.notInHand
  cases hmove with
  | rest => exact h.sweepReads rfl (fun _ hhand => (by cases hhand)) (fun _ h => by cases h)
  | reread hmem heligible htarget =>
    refine h.sweepReads rfl (fun clip hhand hid => ?_) (fun _ h => by cases h)
    -- a re-read of the clip finds the lock
    obtain rfl := Option.some.inj hhand
    rw [s.clips.eq_of_key hmem h.stored hid] at heligible
    have hunlocked := (MediaClip.isEligibleForPurge_iff.mp heligible).2
    rw [h.isLocked] at hunlocked
    cases hunlocked
  | found hfile => exact h.sweepReads rfl hhand (fun _ h => by cases h)
  | missing hfile => exact h.sweepReads rfl hhand (fun _ h => by cases h)
  | shared hmem hother hevent hretained hpath =>
    exact h.sweepReads rfl hhand (fun _ h => by cases h)
  | unshared hnone =>
    refine ⟨h.isLocked, h.stored, ⟨h.undisturbed.kept, hhand, fun clip hclear hpath => ?_⟩,
      h.auditing⟩
    obtain rfl := SweepPhase.clear.inj hclear
    have hne := hhand _ rfl
    rcases h.undisturbed.kept with hretained | hnobody
    · -- the question for the siblings finds the locked clip
      have hevent : locked.eventId = _ := (hknown.named locked h.stored).trans
        ((congrArg eventOf hpath.symm).trans (hknown.inHand _ rfl).symm)
      exact hne (hnone locked h.stored hevent hretained hpath.symm).symm
    · obtain ⟨hmem, heligible⟩ := hknown.stored _ rfl hne
      exact hnobody _ hmem (MediaClip.isEligibleForPurge_iff.mp heligible).1 hpath
  | remove => exact h.sweepReads rfl hhand (fun _ h => by cases h)
  | mark =>
    -- the write-back is of another clip
    have hne := hhand _ rfl
    refine ⟨h.isLocked, KeyedTable.mem_upsert.mpr (.inr ⟨h.stored, Ne.symm hne⟩),
      ⟨?_, fun _ hhand => (by cases hhand), fun _ hclear => (by cases hclear)⟩, h.auditing⟩
    refine h.undisturbed.kept.imp_right fun hnobody row hrow hretained => ?_
    rcases KeyedTable.mem_upsert.mp hrow with rfl | ⟨hrow, -⟩
    · cases hretained
    · exact hnobody row hrow hretained
  | log hclip => exact h.sweepReads rfl (fun _ hhand => (by cases hhand)) (fun _ h => by cases h)

theorem Protected.spares {op : PortCall} {answer : Except ODSException op.Answer}
    (h : Protected locked phase auditing s) (hpermits : phase.Permits (fun _ => True) op)
    (s' : ServiceState) : SparesLocked locked ⟨.sweep, op, answer, s, s'⟩ := by
  constructor
  · intro hremoves
    obtain rfl := PortCall.removes_eq_some.mp hremoves
    cases phase with
    | clear clip =>
      have hpath : locked.filePath = clip.filePath := hpermits
      exact h.undisturbed.notClear clip rfl hpath.symm
    | _ => exact hpermits.elim
  · intro row hop hid
    obtain rfl : op = .update row := hop
    cases phase with
    | settled clip outcome =>
      obtain rfl : row = clip.markAsPurged := hpermits
      exact absurd hid (h.undisturbed.notInHand clip rfl)
    | _ => exact hpermits.elim

end Sweep

/-! ### The auditor -/

section Auditor

variable {env : Environment} {eventOf : String → String} {clipId : String} {phase : SweepPhase}
  {auditing auditing' : AuditPhase} {s s' : ServiceState} {locked : MediaClip}

theorem Known.auditor (h : Known eventOf clipId phase auditing s)
    (hmove : AuditMove (· = clipId) auditing s auditing' s') :
    Known eventOf clipId phase auditing' s' := by
  cases hmove with
  | rest => exact ⟨h.named, h.inHand, h.stored, fun _ hread => (by cases hread)⟩
  | read hmem hid =>
    refine ⟨h.named, h.inHand, h.stored, fun clip hread => ?_⟩
    obtain rfl := AuditPhase.read.inj hread
    exact ⟨h.named _ hmem, hid⟩
  | lock =>
    obtain ⟨hnamed, hid⟩ := h.auditing _ rfl
    refine ⟨fun row hrow => ?_, h.inHand, fun clip hhand hne => ?_, fun _ hread => (by cases hread)⟩
    · rcases KeyedTable.mem_upsert.mp hrow with rfl | ⟨hrow, -⟩
      · exact hnamed
      · exact h.named row hrow
    · obtain ⟨hmem, heligible⟩ := h.stored clip hhand hne
      refine ⟨KeyedTable.mem_upsert.mpr (.inr ⟨hmem, fun hid' => hne ?_⟩), heligible⟩
      exact hid'.trans hid

/-- Locking again writes the row that is there. -/
theorem Protected.auditor (h : Protected locked phase auditing s)
    (hmove : AuditMove (· = locked.clipId) auditing s auditing' s') :
    Protected locked phase auditing' s' := by
  cases hmove with
  | rest => exact ⟨h.isLocked, h.stored, h.undisturbed, fun _ hread => (by cases hread)⟩
  | read hmem hid =>
    refine ⟨h.isLocked, h.stored, h.undisturbed, fun clip hread => ?_⟩
    obtain rfl := AuditPhase.read.inj hread
    exact s.clips.eq_of_key hmem h.stored hid
  | @lock _ clip =>
    obtain rfl : locked = clip := (h.auditing clip rfl).symm
    have hsame : locked.lockForAudit = locked := by
      have hflag := h.isLocked
      cases locked
      obtain rfl : _ = true := hflag
      rfl
    rw [hsame]
    refine ⟨h.isLocked, KeyedTable.mem_upsert.mpr (.inl rfl),
      ⟨?_, h.undisturbed.notInHand, h.undisturbed.notClear⟩, fun _ hread => (by cases hread)⟩
    refine h.undisturbed.kept.imp_right fun hnobody row hrow => ?_
    rcases KeyedTable.mem_upsert.mp hrow with rfl | ⟨hrow, -⟩
    · exact hnobody _ h.stored
    · exact hnobody row hrow

end Auditor

/-! ### The race -/

/-- A recorded state of the race. -/
abbrev RaceState := Observed PortCall.Answer ODSException ServiceState Actor

def sweepPhase (history : List (Event PortCall.Answer ODSException ServiceState Actor)) :
    SweepPhase :=
  sweep.phase .sweep history

/-- The auditor's update of `locked` returned, from state `s` to state `s'`. -/
def commit (locked : MediaClip) (s s' : ServiceState) :
    Event PortCall.Answer ODSException ServiceState Actor :=
  ⟨.auditor, .update locked, .ok (), s, s'⟩

/-- Whatever the sweep does from the commit on spares the locked clip. -/
def LockHolds (history : List (Event PortCall.Answer ODSException ServiceState Actor)) : Prop :=
  ∀ before locked s s' after, history = before ++ commit locked s s' :: after →
    Undisturbed (sweepPhase before) locked s' →
    ∀ e ∈ after, e.actor = .sweep → SparesLocked locked e

/-- The invariant of the race. -/
structure RaceInv (eventOf : String → String) (clipId : String) (o : RaceState) : Prop where
  known : Known eventOf clipId (sweepPhase o.history)
    ((audit (· = clipId)).phase .auditor o.history) o.world
  protects : ∀ before locked s s' after, o.history = before ++ commit locked s s' :: after →
    Undisturbed (sweepPhase before) locked s' →
    locked.clipId = clipId ∧ Protected locked (sweepPhase o.history)
      ((audit (· = clipId)).phase .auditor o.history) o.world
  holds : LockHolds o.history

theorem RaceInv.sweep {env : Environment} {eventOf : String → String} {clipId : String}
    {o : RaceState} {op : PortCall} {answer : Except ODSException op.Answer} {world : ServiceState}
    (h : RaceInv eventOf clipId o) (hpermits : (sweepPhase o.history).Permits (fun _ => True) op)
    (hserves : env.serves op o.world answer world) :
    RaceInv eventOf clipId (o.snoc .sweep op answer world) := by
  have hmove := sweepMove_of_call hpermits hserves
  have hphase : sweepPhase (o.snoc .sweep op answer world).history
      = (sweepPhase o.history).next op answer := Protocol.phase_snoc_self _ _ _ _ _ _
  have haudit := Protocol.phase_snoc_other (audit (· = clipId)) o
    (show Actor.sweep ≠ .auditor by decide) op answer world
  refine ⟨?_, fun before locked s s' after hsplit hun => ?_,
    fun before locked s s' after hsplit hun e he hactor => ?_⟩
  · rw [hphase, haudit]
    exact h.known.sweep hmove
  · rw [hphase, haudit]
    rcases snoc_eq_split hsplit with ⟨-, -, hnew⟩ | ⟨after', -, hold⟩
    · -- the new event is the sweep's, so it is not the commit
      cases congrArg Event.actor hnew
    · obtain ⟨rfl, hprotected⟩ := h.protects before locked s s' after' hold hun
      exact ⟨rfl, hprotected.sweep h.known hmove⟩
  · rcases snoc_eq_split hsplit with ⟨rfl, -, -⟩ | ⟨after', rfl, hold⟩
    · cases he
    · rcases List.mem_append.mp he with he | he
      · exact h.holds before locked s s' after' hold hun e he hactor
      · -- the new call comes after the commit, and the locked row is still protected
        rw [List.mem_singleton.mp he]
        exact (h.protects before locked s s' after' hold hun).2.spares hpermits world

theorem RaceInv.auditor {env : Environment} {eventOf : String → String} {clipId : String}
    {o : RaceState} {op : PortCall} {answer : Except ODSException op.Answer} {world : ServiceState}
    (h : RaceInv eventOf clipId o)
    (hpermits : ((audit (· = clipId)).phase .auditor o.history).Permits (· = clipId) op)
    (hserves : env.serves op o.world answer world) :
    RaceInv eventOf clipId (o.snoc .auditor op answer world) := by
  have hmove := auditMove_of_call hpermits hserves
  have hphase : sweepPhase (o.snoc .auditor op answer world).history = sweepPhase o.history :=
    Protocol.phase_snoc_other _ _ (by decide) _ _ _
  have haudit := Protocol.phase_snoc_self (audit (· = clipId)) o .auditor op answer world
  refine ⟨?_, fun before locked s s' after hsplit hun => ?_,
    fun before locked s s' after hsplit hun e he hactor => ?_⟩
  · rw [hphase, haudit]
    exact h.known.auditor hmove
  · rw [hphase, haudit]
    rcases snoc_eq_split hsplit with ⟨-, rfl, hnew⟩ | ⟨after', -, hold⟩
    · -- the commit itself: the row it wrote is the locked one
      obtain ⟨-, rfl, hanswer, rfl, rfl⟩ := Event.mk.inj hnew
      obtain rfl := eq_of_heq hanswer
      obtain rfl : s' = o.world.putClip locked := hserves
      obtain ⟨clip, hread, rfl⟩ := AuditPhase.update_permitted hpermits
      refine ⟨(h.known.auditing clip hread).2, rfl, KeyedTable.mem_upsert.mpr (.inl rfl), hun, ?_⟩
      rw [hread]
      intro _ hidle
      cases hidle
    · obtain ⟨rfl, hprotected⟩ := h.protects before locked s s' after' hold hun
      exact ⟨rfl, hprotected.auditor hmove⟩
  · rcases snoc_eq_split hsplit with ⟨rfl, -, -⟩ | ⟨after', rfl, hold⟩
    · cases he
    · rcases List.mem_append.mp he with he | he
      · exact h.holds before locked s s' after' hold hun e he hactor
      · -- the auditor's own calls are not in question
        rw [List.mem_singleton.mp he] at hactor
        cases hactor

/-- **What a lock is worth.** In every interleaving of a sweep with an auditor, up to any point and
whatever fails: if the auditor's update commits at an undisturbed moment, the sweep never takes
the file or the lock of the clip afterwards. -/
theorem lock_holds (env : Environment) (strategies : List RetentionStrategy) (clipId : String)
    {s : ServiceState} (hnaming : Naming s) {p' : Service PurgeReport} {q' : Service Unit}
    {o' : RaceState}
    (hrun : ParSteps (observe env.serves .sweep) (observe env.serves .auditor)
      (PurgeMedia.execute strategies) (lockForAudit clipId) (Observed.start s) p' q' o') :
    LockHolds o'.history := by
  obtain ⟨eventOf, hnamed⟩ := hnaming.exists_eventOf
  have hinit : RaceInv eventOf clipId (Observed.start s) := by
    refine ⟨⟨hnamed, fun _ hhand => (by cases hhand), fun _ hhand => (by cases hhand),
      fun _ hread => (by cases hread)⟩, fun before locked s s' after hsplit => ?_,
      fun before locked s s' after hsplit => ?_⟩
    -- no commit has been recorded yet
    · exact absurd hsplit.symm (List.append_ne_nil_of_right_ne_nil _ (List.cons_ne_nil _ _))
    · exact absurd hsplit.symm (List.append_ne_nil_of_right_ne_nil _ (List.cons_ne_nil _ _))
  have hauditor : (audit (· = clipId)).Obeys (lockForAudit clipId) (fun _ _ => True)
      (audit (· = clipId)).start := by
    refine lockForAudit_obeys ?_ _
    rfl
  refine (hrun.obeys_invariant (P := sweep) (show Actor.sweep ≠ .auditor by decide)
    (RaceInv eventOf clipId) ?_ ?_ (PurgeMedia.execute_obeys strategies _) hauditor hinit).holds
  · intro o op answer world h hpermits hserves
    exact h.sweep hpermits hserves
  · intro o op answer world h hpermits hserves
    exact h.auditor hpermits hserves

/-! ### Two schedules -/

/-- An unlocked clip of the epoch. -/
def expired : MediaClip where
  clipId := "clip-a"
  eventId := "evt"
  filePath := "/nvme/evt.mp4"
  sha256Hash := ""
  timeWindow := ⟨0, 1, Int.zero_lt_one⟩
  createdAt := 0

def beforeRace : ServiceState where
  clips := ⟨[expired], by decide⟩
  files path := if path = "/nvme/evt.mp4" then some [0] else none
  purgeLog := []

/-- The race on the bench. -/
def race (schedule : List Bool) : Service PurgeReport × Service Unit × RaceState :=
  interleave (observeServer Simulation.bench.serve .sweep)
    (observeServer Simulation.bench.serve .auditor) schedule
    (PurgeMedia.execute [LgpdRetentionStrategy .default]) (lockForAudit "clip-a")
    (Observed.start beforeRace)

theorem race_parSteps (schedule : List Bool) :
    ParSteps
      (observe Simulation.bench.environment.serves .sweep)
      (observe Simulation.bench.environment.serves .auditor)
      (PurgeMedia.execute [LgpdRetentionStrategy .default]) (lockForAudit "clip-a")
      (Observed.start beforeRace) (race schedule).1 (race schedule).2.1 (race schedule).2.2 :=
  interleave_parSteps (observeServer_observe (Simulation.serve_serves _) _)
    (observeServer_observe (Simulation.serve_serves _) _) schedule .refl

/-- The auditor is done before the sweep reads the clip again. -/
def promptSchedule : List Bool :=
  List.replicate 7 true ++ [false, false] ++ List.replicate 3 true

/-- The auditor is done between the re-read and the look at the file. -/
def lateSchedule : List Bool :=
  List.replicate 8 true ++ [false, false] ++ List.replicate 4 true

theorem lock_holds_prompt : LockHolds (race promptSchedule).2.2.history :=
  lock_holds _ _ _ (by decide) (race_parSteps promptSchedule)

/-- The re-read happens once and the rest of the purge does not look again: a lock that commits
in between does not keep the sweep from removing the file. -/
theorem lock_is_lost :
    ¬ ∀ (env : Environment) (strategies : List RetentionStrategy) (clipId : String)
      (s : ServiceState), Naming s → ∀ (p' : Service PurgeReport) (q' : Service Unit)
      (o' : RaceState), ParSteps (observe env.serves .sweep) (observe env.serves .auditor)
        (PurgeMedia.execute strategies) (lockForAudit clipId) (Observed.start s) p' q' o' →
      ∀ before locked s₁ s₂ after, o'.history = before ++ commit locked s₁ s₂ :: after →
        ∀ e ∈ after, e.actor = .sweep → SparesLocked locked e := by
  intro h
  have hsplit : ∃ s₁ s₂, (race lateSchedule).2.2.history
      = (race lateSchedule).2.2.history.take 9 ++
        commit expired.lockForAudit s₁ s₂ :: (race lateSchedule).2.2.history.drop 10 :=
    ⟨_, _, rfl⟩
  obtain ⟨s₁, s₂, hsplit⟩ := hsplit
  have hremoved : ∃ e ∈ (race lateSchedule).2.2.history.drop 10, e.actor = .sweep ∧
      e.op.removes = some expired.filePath := by
    decide +kernel
  obtain ⟨e, he, hactor, hremoves⟩ := hremoved
  exact (h _ _ _ _ (by decide) _ _ _ (race_parSteps lateSchedule) _ _ _ _ _ hsplit e he
    hactor).file hremoves

end AuditRace

end Ods.S4
