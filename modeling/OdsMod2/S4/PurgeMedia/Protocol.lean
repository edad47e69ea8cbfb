import OdsMod2.S4.PurgeMedia.UseCase

/-!
# The sweep as a protocol

Between two purges a sweep is `idle`. A purge reads the clip again and, if it is eligible, *holds*
it; finds its file *present*; finds it used by no other retained clip, which makes it *clear* to
remove; the file is *settled* once it is removed, missing or kept; the record is *marked*, and the
log line returns the sweep to idle. Any call that throws ends the purge.

`execute_obeys` is the refinement: the program `PurgeMedia.execute` makes only the calls this
protocol permits, for every list of strategies and whatever the calls answer. In particular a
file is removed only from `clear`, right after the siblings were asked for, and a record is
written only from `settled`. What the strategies can influence is which clips are read again;
`Target` is a bound on those.
-/

namespace Ods.S4

open Prog

namespace PurgeMedia

/-- Where a sweep stands. -/
inductive SweepPhase where
  | idle
  | held (clip : MediaClip)
  | present (clip : MediaClip)
  | clear (clip : MediaClip)
  | settled (clip : MediaClip) (outcome : FileOutcome)
  | marked (clip : MediaClip) (outcome : FileOutcome)
  deriving DecidableEq

namespace SweepPhase

/-- The clip read again and not yet written back. -/
def inHand : SweepPhase → Option MediaClip
  | idle => none
  | held clip => some clip
  | present clip => some clip
  | clear clip => some clip
  | settled clip _ => some clip
  | marked _ _ => none

/-- How an answered call moves the sweep. -/
def next : SweepPhase → (op : PortCall) → Except ODSException op.Answer → SweepPhase
  -- a re-read that finds the clip locked or purged ends the purge
  | _, .findById _, .ok (some clip) => if clip.isEligibleForPurge then held clip else idle
  | held clip, .fileExists _, .ok true => present clip
  | held clip, .fileExists _, .ok false => settled clip .alreadyMissing
  | present clip, .findByEventId _, .ok siblings =>
    if sharesFile clip siblings then settled clip .keptForOtherClip else clear clip
  | clear clip, .removeFile _, .ok _ => settled clip .deleted
  | settled clip outcome, .update _, .ok _ => marked clip outcome
  -- everything else, and every exception, leads back to idle
  | _, _, _ => idle

/-- What a sweep may call, when it reads again no clips but those of `Target`. -/
def Permits (Target : String → Prop) : SweepPhase → PortCall → Prop
  | _, .currentUsage => True
  | _, .now => True
  | _, .findPurgeCandidates => True
  | _, .fileSize _ => True
  -- the strategies choose what is read again, and nothing else
  | idle, .findById clipId => Target clipId
  | idle, .fileExists _ => True
  | held clip, .fileExists path => path = clip.filePath
  | present clip, .findByEventId eventId => eventId = clip.eventId
  | clear clip, .removeFile path => path = clip.filePath
  | settled clip _, .update row => row = clip.markAsPurged
  | marked clip outcome, .recordPurge entry =>
    ∃ reason bytesFreed context,
      entry = makeEntry clip.markAsPurged reason outcome bytesFreed context
  | _, _ => False

end SweepPhase

/-- The protocol of a sweep that reads again no clips but those of `Target`. -/
def sweepProtocol (Target : String → Prop) :
    Protocol PortCall.Answer ODSException SweepPhase where
  start := .idle
  next := SweepPhase.next
  Permits := SweepPhase.Permits Target

section Obeys

variable {Target : String → Prop}

/-- An exception ends whatever the sweep was doing. -/
theorem SweepPhase.next_error (phase : SweepPhase) (op : PortCall) (exception : ODSException) :
    phase.next op (.error exception) = idle := by
  cases phase <;> cases op <;> rfl

theorem measuredSize_obeys (path : String) :
    (sweepProtocol Target).Obeys (measuredSize path) (fun _ phase => phase = .idle) .idle := by
  have hsize : (sweepProtocol Target).Obeys (Port.fileSize path)
      (fun _ phase => phase = .idle) .idle :=
    Protocol.obeys_perform trivial fun answer => by cases answer <;> rfl
  refine wp_catchApplication (wp_mono (Q := fun _ phase => phase = .idle) ?_ ?_)
  · -- the body of the `try` block
    refine wp_bind (Protocol.obeys_perform trivial fun answer => ?_)
    match answer with
    | .ok true => exact hsize
    | .ok false => rfl
    | .error exception => rfl
  · -- and what the handler makes of its outcome
    rintro r phase rfl
    match r with
    | .ok size => rfl
    | .error (.application error) => rfl
    | .error (.domain error) => rfl
    | .error (.mediaMux message) => rfl

theorem loadCandidates_obeys :
    (sweepProtocol Target).Obeys loadCandidates (fun _ phase => phase = .idle) .idle := by
  have hmeasure : ∀ clips, (sweepProtocol Target).Obeys (measureAll clips)
      (fun _ phase => phase = .idle) .idle := by
    intro clips
    induction clips with
    | nil => exact rfl
    | cons clip clips ih =>
      refine wp_bind (wp_mono (measuredSize_obeys clip.filePath) fun size phase hphase => ?_)
      subst hphase
      cases size with
      | error exception => rfl
      | ok size =>
        refine wp_bind (wp_mono ih fun candidates phase hphase => ?_)
        cases candidates with
        | error exception => exact hphase
        | ok candidates => exact hphase
  refine wp_bind (Protocol.obeys_perform trivial fun answer => ?_)
  cases answer with
  | error exception => rfl
  | ok clips => exact hmeasure clips

/-- The phase a release that returned leaves behind; one that threw is back to idle. -/
def Settled (clip : MediaClip) : Except ODSException FileOutcome → SweepPhase → Prop
  | .ok outcome, phase => phase = .settled clip outcome
  | .error _, phase => phase = .idle

theorem releaseFile_obeys (clip : MediaClip) :
    (sweepProtocol Target).Obeys (releaseFile clip) (Settled clip) (.held clip) := by
  refine wp_bind (Protocol.obeys_perform rfl fun answer => ?_)
  match answer with
  | .error exception => rfl
  | .ok false => rfl
  | .ok true =>
    refine wp_bind (wp_bind (Protocol.obeys_perform rfl fun answer => ?_))
    cases answer with
    | error exception => rfl
    | ok siblings =>
      show (if sharesFile clip siblings then _ else _ : Service FileOutcome).wp _ _ _
        (if sharesFile clip siblings then SweepPhase.settled clip .keptForOtherClip
          else SweepPhase.clear clip)
      split
      · rfl
      · -- nobody else uses the file: only now may it be removed
        refine wp_bind (Protocol.obeys_perform rfl fun answer => ?_)
        cases answer with
        | error exception => rfl
        | ok _ => rfl

theorem recordInLog_obeys {clip : MediaClip} {outcome : FileOutcome} {entry : PurgeLogEntry}
    (hentry : (sweepProtocol Target).Permits (.marked clip outcome) (.recordPurge entry))
    (report : PurgeReport) :
    (sweepProtocol Target).Obeys (recordInLog entry report) (fun _ phase => phase = .idle)
      (.marked clip outcome) := by
  refine wp_catchApplication (wp_bind (Protocol.obeys_perform hentry fun answer => ?_))
  match answer with
  | .ok _ => rfl
  | .error (.application error) => rfl
  | .error (.domain error) => rfl
  | .error (.mediaMux message) => rfl

theorem purgeCurrent_obeys (clip : MediaClip) (sizeBytes : Nat) (reason : PurgeReason)
    (context : RetentionContext) (report : PurgeReport) :
    (sweepProtocol Target).Obeys (purgeCurrent clip sizeBytes reason context report)
      (fun _ phase => phase = .idle) (.held clip) := by
  refine wp_bind (wp_attempt (wp_bind (wp_mono (releaseFile_obeys clip) fun r phase hr => ?_)))
  match r with
  -- a release that threw leaves the sweep idle, and the handler calls nothing
  | .error (.application error) => exact hr
  | .error (.domain error) => exact hr
  | .error (.mediaMux message) => exact hr
  | .ok outcome =>
    rw [show phase = .settled clip outcome from hr]
    refine wp_bind (Protocol.obeys_perform rfl fun answer => ?_)
    match answer with
    | .ok _ => exact recordInLog_obeys ⟨_, _, _, rfl⟩ _
    | .error (.application error) => rfl
    | .error (.domain error) => rfl
    | .error (.mediaMux message) => rfl

theorem purge_obeys {candidate : PurgeCandidate} (htarget : Target candidate.clip.clipId)
    (reason : PurgeReason) (context : RetentionContext) (report : PurgeReport) :
    (sweepProtocol Target).Obeys (purge candidate reason context report)
      (fun _ phase => phase = .idle) .idle := by
  refine wp_bind (Protocol.obeys_perform htarget fun answer => ?_)
  match answer with
  | .error exception => rfl
  | .ok none => rfl
  | .ok (some clip) =>
    show (if clip.isEligibleForPurge then _ else _ : Service PurgeReport).wp _ _ _
      (if clip.isEligibleForPurge then SweepPhase.held clip else SweepPhase.idle)
    split
    · exact purgeCurrent_obeys clip candidate.sizeBytes reason context report
    · rfl

theorem purgeAll_obeys (reason : PurgeReason) (context : RetentionContext)
    {selected : List PurgeCandidate} (htarget : ∀ c ∈ selected, Target c.clip.clipId)
    (remaining : List PurgeCandidate) (report : PurgeReport) :
    (sweepProtocol Target).Obeys (purgeAll reason context selected remaining report)
      (fun _ phase => phase = .idle) .idle := by
  -- between two purges the sweep is idle, which is what the induction carries
  induction selected generalizing remaining report with
  | nil => rfl
  | cons candidate selected ih =>
    refine wp_bind (wp_mono (purge_obeys (htarget _ List.mem_cons_self) reason context report)
      fun r phase hphase => ?_)
    subst hphase
    cases r with
    | error exception => rfl
    | ok report => exact ih (fun c hc => htarget c (List.mem_cons_of_mem _ hc)) _ report

end Obeys

/-- The protocol of a sweep whatever its strategies select. -/
def sweep : Protocol PortCall.Answer ODSException SweepPhase :=
  sweepProtocol fun _ => True

theorem applyStrategies_obeys (strategies : List RetentionStrategy)
    (remaining : List PurgeCandidate) (report : PurgeReport) :
    sweep.Obeys (applyStrategies strategies remaining report)
      (fun _ phase => phase = .idle) .idle := by
  induction strategies generalizing remaining report with
  | nil => rfl
  | cons strategy strategies ih =>
    refine wp_bind (wp_bind (Protocol.obeys_perform trivial fun now => ?_))
    cases now with
    | error exception => rfl
    | ok now =>
      refine wp_bind (Protocol.obeys_perform trivial fun usage => ?_)
      cases usage with
      | error exception => rfl
      | ok usage =>
        refine wp_bind (wp_ofExcept ?_)
        -- a strategy decides without a call, and may throw
        cases strategy.selectClipsToPurge remaining ⟨now, usage⟩ with
        | error exception => rfl
        | ok selected =>
          refine wp_mono (purgeAll_obeys strategy.reason ⟨now, usage⟩ (fun _ _ => trivial)
            remaining report) fun r phase hphase => ?_
          subst hphase
          cases r with
          | error exception => rfl
          | ok result => exact ih result.1 result.2

/-- **The refinement.** A sweep keeps to the protocol, from whatever phase it finds, and ends
idle or before its first call returns. -/
theorem execute_obeys (strategies : List RetentionStrategy) (phase : SweepPhase) :
    sweep.Obeys (execute strategies) (fun _ phase => phase = .idle) phase := by
  refine wp_bind (Protocol.obeys_perform trivial fun usage => ?_)
  -- the first call of a sweep forgets whatever phase was left before it
  have hidle : sweep.next phase PortCall.currentUsage usage = .idle := by
    cases phase <;> rfl
  cases usage with
  | error exception => exact hidle
  | ok usage =>
    rw [hidle]
    refine wp_bind (Protocol.obeys_perform trivial fun now => ?_)
    cases now with
    | error exception => rfl
    | ok now =>
      refine wp_bind (wp_mono loadCandidates_obeys fun remaining phase hphase => ?_)
      subst hphase
      cases remaining with
      | error exception => rfl
      | ok remaining =>
        refine wp_bind (wp_mono (applyStrategies_obeys strategies remaining _)
          fun report phase hphase => ?_)
        subst hphase
        cases report with
        | error exception => rfl
        | ok report =>
          refine wp_bind (Protocol.obeys_perform trivial fun usage => ?_)
          cases usage with
          | error exception => rfl
          | ok usage => rfl

end PurgeMedia

end Ods.S4
