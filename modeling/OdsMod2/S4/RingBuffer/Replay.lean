import Mathlib.Data.List.Chain
import OdsMod2.S4.RingBuffer.Accounting
import OdsMod2.S4.RingBuffer.FrameLog
import OdsMod2.S4.RingBuffer.Tape

/-!
# A capture replayed

The replay of a scenario delivers the recorded frames under other session ids: under the one it is
given, or under what it reads of the recorded ones, which is their first word. To the ring buffer an id
is a name. It compares the id of a frame with that of the frame before it, and a reader sees it on the
segment.

So a replay goes through the buffer call by call as the recorded capture did exactly if each session of
the capture begins a new one in the replay (`replay_buffered_iff`), and then every window is answered as
it was at that moment of the capture, under the other name.
-/

namespace Ods.S4

open RingBuffer

/-! ### Other names -/

def CapturedFrame.renamed (rename : String → String) (frame : CapturedFrame) : CapturedFrame :=
  { frame with sessionId := rename frame.sessionId }

def FrameDescriptor.renamed (rename : String → String) (frame : FrameDescriptor) : FrameDescriptor :=
  { frame with sessionId := rename frame.sessionId }

def Allocation.renamed (rename : String → String) (allocation : Allocation) : Allocation :=
  { allocation with
    descriptor := allocation.descriptor.renamed rename
    evicted := allocation.evicted.map (FrameDescriptor.renamed rename) }

def BufferSegment.renamed (rename : String → String) (segment : BufferSegment) : BufferSegment :=
  { segment with frames := segment.frames.map (FrameDescriptor.renamed rename) }

def ExtractedSegment.renamed (rename : String → String) (segment : ExtractedSegment) :
    ExtractedSegment :=
  { segment with sessionId := rename segment.sessionId }

/-- Before the first frame there is no id to rename. -/
def RingBuffer.renamed (rename : String → String) (buffer : RingBuffer) : RingBuffer :=
  { buffer with
    frames := buffer.frames.map (FrameDescriptor.renamed rename)
    sessionId := if buffer.hasSession then rename buffer.sessionId else buffer.sessionId }

def MediaBuffer.renamed (rename : String → String) (media : MediaBuffer) : MediaBuffer :=
  { media with ringBuffer := media.ringBuffer.renamed rename }

/-- Two calls of `allocate` come to the same. The text of a refusal may name the session. -/
inductive AllocatedAlike (rename : String → String) :
    Except DomainError Allocation × RingBuffer → Except DomainError Allocation × RingBuffer → Prop
  | accepted (allocation : Allocation) (after : RingBuffer) :
      AllocatedAlike rename (.ok allocation, after)
        (.ok (allocation.renamed rename), after.renamed rename)
  | refused {error error' : DomainError} (hkind : error'.kind = error.kind) (after : RingBuffer) :
      AllocatedAlike rename (.error error, after) (.error error', after.renamed rename)

/-- Two calls of `execute` answer the same. -/
inductive AnsweredAlike (rename : String → String) :
    Except ODSException Allocation → Except ODSException Allocation → Prop
  | accepted (allocation : Allocation) :
      AnsweredAlike rename (.ok allocation) (.ok (allocation.renamed rename))
  | refused {error error' : DomainError} (hkind : error'.kind = error.kind) :
      AnsweredAlike rename (.error (.domain error)) (.error (.domain error'))
  | unwritten (error : ApplicationError) :
      AnsweredAlike rename (.error (.application error)) (.error (.application error))

namespace RingBuffer

variable {rename : String → String} {buffer : RingBuffer}

/-- The id tells as much under the other name. -/
def Distinguishes (rename : String → String) (buffer : RingBuffer) (sid : String) : Prop :=
  buffer.hasSession = true → rename buffer.sessionId = rename sid → buffer.sessionId = sid

theorem switchSessionIfNeeded_renamed {sid : String} (h : buffer.Distinguishes rename sid) :
    (buffer.renamed rename).switchSessionIfNeeded (rename sid) =
      ((buffer.switchSessionIfNeeded sid).1, (buffer.switchSessionIfNeeded sid).2.renamed rename) := by
  unfold switchSessionIfNeeded
  cases hses : buffer.hasSession with
  | false => simp [renamed, hses]
  | true =>
    by_cases hsame : buffer.sessionId = sid
    · simp [renamed, hses, hsame]
    · have hother : rename buffer.sessionId ≠ rename sid := fun heq => hsame (h hses heq)
      simp [renamed, hses, hsame, hother]

theorem rejectIfClockWentBackwards_renamed (rename : String → String) (buffer : RingBuffer)
    (ts : Nanoseconds) :
    ((buffer.renamed rename).rejectIfClockWentBackwards ts).mapError DomainError.kind =
      (buffer.rejectIfClockWentBackwards ts).mapError DomainError.kind := by
  unfold rejectIfClockWentBackwards
  rw [show (buffer.renamed rename).frames.getLast? =
    buffer.frames.getLast?.map (FrameDescriptor.renamed rename) from List.getLast?_map]
  cases buffer.frames.getLast? with
  | none => rfl
  | some last =>
    by_cases hback : ts < last.captureTsNs
    · simp [FrameDescriptor.renamed, hback, Except.mapError]
    · simp [FrameDescriptor.renamed, hback]

theorem offsetFor_renamed (length : Nat) :
    (buffer.renamed rename).offsetFor length =
      ((buffer.offsetFor length).1, (buffer.offsetFor length).2.renamed rename) := by
  unfold offsetFor
  show (if buffer.writeOffset + length ≤ buffer.capacity then _ else _) = _
  split
  · rfl
  · simp only [discardFramesBeyondWritePointer, renamed, List.dropWhile_map, List.takeWhile_map,
      List.length_map]
    rfl

theorem evictOverlapping_renamed (offset length : Nat) :
    (buffer.renamed rename).evictOverlapping offset length =
      ((buffer.evictOverlapping offset length).1.map (FrameDescriptor.renamed rename),
        (buffer.evictOverlapping offset length).2.renamed rename) := by
  simp only [evictOverlapping, renamed, List.dropWhile_map, List.takeWhile_map, List.length_map]
  rfl

theorem registerFrame_renamed (ts : Nanoseconds) (offset length : Nat) (isKeyframe : Bool)
    (sid : String) :
    (buffer.renamed rename).registerFrame ts offset length isKeyframe (rename sid) =
      ((buffer.registerFrame ts offset length isKeyframe sid).1.renamed rename,
        (buffer.registerFrame ts offset length isKeyframe sid).2.renamed rename) := by
  simp only [registerFrame, renamed, List.map_append, List.map_singleton]
  rfl

/-- What is done after the session check does not look at the ids. -/
theorem allocate_renamed {ts : Nanoseconds} {length : Nat} {isKeyframe : Bool} {sid : String}
    (h : buffer.Distinguishes rename sid) :
    AllocatedAlike rename (buffer.allocate ts length isKeyframe sid)
      ((buffer.renamed rename).allocate ts length isKeyframe (rename sid)) := by
  unfold allocate
  rw [show (buffer.renamed rename).rejectIfTooLarge length = buffer.rejectIfTooLarge length from rfl,
    switchSessionIfNeeded_renamed h]
  cases buffer.rejectIfTooLarge length with
  | error error => exact .refused rfl buffer
  | ok _ =>
    dsimp only
    generalize (buffer.switchSessionIfNeeded sid).2 = opened
    have hclock := rejectIfClockWentBackwards_renamed rename opened ts
    cases hold : opened.rejectIfClockWentBackwards ts with
    | error error =>
      cases hnew : (opened.renamed rename).rejectIfClockWentBackwards ts with
      | error error' =>
        rw [hold, hnew] at hclock
        exact .refused (Except.error.inj hclock) opened
      | ok _ =>
        rw [hold, hnew] at hclock
        cases hclock
    | ok _ =>
      cases hnew : (opened.renamed rename).rejectIfClockWentBackwards ts with
      | error error' =>
        rw [hold, hnew] at hclock
        cases hclock
      | ok _ =>
        dsimp only
        rw [offsetFor_renamed]
        dsimp only
        rw [evictOverlapping_renamed]
        dsimp only
        rw [registerFrame_renamed]
        exact .accepted ⟨_, _, _⟩ _

end RingBuffer

section Capture

variable {rename : String → String} {media : MediaBuffer} {frame : CapturedFrame}

theorem ingestFrame_renamed (h : media.ringBuffer.Distinguishes rename frame.sessionId) :
    (ingestFrame (media.renamed rename) (frame.renamed rename)).2 =
        (ingestFrame media frame).2.renamed rename ∧
      AnsweredAlike rename (ingestFrame media frame).1
        (ingestFrame (media.renamed rename) (frame.renamed rename)).1 := by
  have halike : AllocatedAlike rename
      (media.ringBuffer.allocate frame.captureTsNs frame.length frame.isKeyframe frame.sessionId)
      ((media.renamed rename).ringBuffer.allocate (frame.renamed rename).captureTsNs
        (frame.renamed rename).length (frame.renamed rename).isKeyframe
        (frame.renamed rename).sessionId) :=
    allocate_renamed h
  unfold ingestFrame
  generalize media.ringBuffer.allocate frame.captureTsNs frame.length frame.isKeyframe
    frame.sessionId = old at halike ⊢
  generalize (media.renamed rename).ringBuffer.allocate _ _ _ _ = new at halike ⊢
  cases halike with
  | refused hkind after => exact ⟨rfl, .refused hkind⟩
  | accepted allocation after =>
    -- the same bytes go to the same place
    cases hwrite : media.frameStore.write allocation.descriptor.offset frame.data with
    | error error =>
      have hwrite' : (media.renamed rename).frameStore.write
          (allocation.renamed rename).descriptor.offset (frame.renamed rename).data =
            .error error := hwrite
      dsimp only
      rw [hwrite, hwrite']
      exact ⟨rfl, .unwritten error⟩
    | ok frameStore =>
      have hwrite' : (media.renamed rename).frameStore.write
          (allocation.renamed rename).descriptor.offset (frame.renamed rename).data =
            .ok frameStore := hwrite
      dsimp only
      rw [hwrite, hwrite']
      exact ⟨rfl, .accepted allocation⟩

end Capture

/-! ### A run of calls -/

/-- The ids that are compared, in order. -/
def sessionsIn (limit : Nat) (frames : List CapturedFrame) : List String :=
  (fitting limit frames).map CapturedFrame.sessionId

def RingBuffer.openSession (buffer : RingBuffer) : List String :=
  if buffer.hasSession then [buffer.sessionId] else []

/-- Where a session follows another one, it does so under the other names. -/
def KeepsApart (rename : String → String) (sessions : List String) : Prop :=
  sessions.IsChain fun before after => rename before = rename after → before = after

/-- What the calls of `execute` answer. -/
def answers (media : MediaBuffer) : List CapturedFrame → List (Except ODSException Allocation)
  | [] => []
  | frame :: frames => (ingestFrame media frame).1 :: answers (ingestFrame media frame).2 frames

section Run

variable {rename : String → String} {media : MediaBuffer} {frame : CapturedFrame}

theorem sessionsIn_cons (limit : Nat) (frame : CapturedFrame) (frames : List CapturedFrame) :
    sessionsIn limit (frame :: frames) =
      if frame.FitsIn limit then frame.sessionId :: sessionsIn limit frames
      else sessionsIn limit frames := by
  unfold sessionsIn fitting
  rw [List.filter_cons]
  by_cases hfits : frame.FitsIn limit
  · rw [if_pos hfits, if_pos (decide_eq_true hfits)]
    rfl
  · rw [if_neg hfits, if_neg (by simpa using hfits)]

theorem ingestFrame_of_not_fitsIn (h : ¬ frame.FitsIn media.ringBuffer.capacity) :
    ∃ error, error.kind = .frameTooLarge ∧
      ingestFrame media frame = (.error (.domain error), media) := by
  have hsize : frame.length = 0 ∨ frame.length > media.ringBuffer.capacity := by
    unfold CapturedFrame.FitsIn at h
    omega
  unfold ingestFrame allocate rejectIfTooLarge
  rw [if_pos hsize]
  exact ⟨_, rfl, rfl⟩

theorem sound_ingestFrame (h : media.Sound) : (ingestFrame media frame).2.Sound := by
  cases hingest : ingestFrame media frame with
  | mk result after =>
    cases result with
    | error error =>
      rw [MediaBuffer.ingestFrame_error h hingest]
      exact h
    | ok allocation => exact (MediaBuffer.held_ingest h hingest).1

/-- A frame that fits leaves its session open, and the capacity as it was. -/
theorem ingestFrame_openSession (hfits : frame.FitsIn media.ringBuffer.capacity) :
    (ingestFrame media frame).2.ringBuffer.openSession = [frame.sessionId] ∧
      (ingestFrame media frame).2.ringBuffer.capacity = media.ringBuffer.capacity := by
  have hopened : (media.ringBuffer.opened frame.sessionId).openSession = [frame.sessionId] := by
    rw [openSession, opened_hasSession, opened_sessionId, if_pos rfl]
  have haccepted : ∀ {allocation after}, Accepted media.ringBuffer frame.arrival allocation after →
      after.openSession = [frame.sessionId] ∧ after.capacity = media.ringBuffer.capacity := by
    intro allocation after h
    refine ⟨?_, h.capacity_eq⟩
    rw [openSession, h.hasSession_eq, h.sessionId_eq, if_pos rfl]
    rfl
  have houtcome := ingestFrame_outcome media frame
  generalize ingestFrame media frame = outcome at houtcome ⊢
  cases houtcome with
  | refused hrefused =>
    cases allocate_refused hrefused with
    | size hsize =>
      unfold CapturedFrame.FitsIn at hfits
      change frame.length = 0 ∨ media.ringBuffer.capacity < frame.length at hsize
      omega
    | clock => exact ⟨hopened, opened_capacity _ _⟩
  | unwritten hallocated => exact haccepted (allocate_accepted hallocated)
  | written hallocated => exact haccepted (allocate_accepted hallocated)

/-- Where another session begins, the buffer restarts. -/
theorem ingestFrame_restarts (hsound : media.Sound) (hfits : frame.FitsIn media.ringBuffer.capacity)
    (hsession : media.ringBuffer.hasSession = true)
    (hother : media.ringBuffer.sessionId ≠ frame.sessionId) :
    ∃ allocation, (ingestFrame media frame).1 = .ok allocation ∧
      allocation.sessionRestarted = true := by
  cases hingest : ingestFrame media frame with
  | mk result after =>
    cases result with
    | ok allocation =>
      refine ⟨allocation, rfl, ?_⟩
      rw [(Capture.accepted_of_ingestFrame hingest).restarted_eq]
      rcases opened_cases media.ringBuffer frame.sessionId with
        ⟨-, -, -, -, hsame⟩ | ⟨-, -, -, hrestarted, -⟩
      · exact absurd (hsame hsession) hother
      · exact hrestarted
    | error error =>
      have houtcome := ingestFrame_outcome media frame
      rw [hingest] at houtcome
      cases houtcome with
      | refused hrefused =>
        cases allocate_refused hrefused with
        | size hsize =>
          unfold CapturedFrame.FitsIn at hfits
          change frame.length = 0 ∨ media.ringBuffer.capacity < frame.length at hsize
          omega
        | clock hnewest =>
          -- there is no newest frame in a session that has just begun
          exact absurd ((opened_of_newest hnewest).2 hsession) hother
      | unwritten hallocated hwrite =>
        obtain ⟨store, hwritten, -⟩ := SharedMemoryFrameStore.write_ok hsound.isOpen
          (hsound.hasRoom (allocate_accepted hallocated))
        rw [hwrite] at hwritten
        cases hwritten

/-- A session that is taken for the one before does not restart the buffer. -/
theorem not_answeredAlike (hsound : media.Sound) (hfits : frame.FitsIn media.ringBuffer.capacity)
    (h : ¬ media.ringBuffer.Distinguishes rename frame.sessionId) :
    ¬ AnsweredAlike rename (ingestFrame media frame).1
      (ingestFrame (media.renamed rename) (frame.renamed rename)).1 := by
  simp only [Distinguishes, Classical.not_imp] at h
  obtain ⟨hsession, hsame, hother⟩ := h
  obtain ⟨allocation, haccepted, hrestarted⟩ := ingestFrame_restarts hsound hfits hsession hother
  rw [haccepted]
  cases hingest : ingestFrame (media.renamed rename) (frame.renamed rename) with
  | mk result after =>
    rintro ⟨⟩
    have hcontinued := (Capture.accepted_of_ingestFrame hingest).restarted_eq
    change allocation.sessionRestarted = _ at hcontinued
    rw [hrestarted] at hcontinued
    have hopen : (media.renamed rename).ringBuffer.sessionId = rename frame.sessionId := by
      show (if media.ringBuffer.hasSession then rename media.ringBuffer.sessionId else _) = _
      rw [if_pos hsession, hsame]
    rcases opened_cases (media.renamed rename).ringBuffer (rename frame.sessionId) with
      ⟨-, -, -, hgoesOn, -⟩ | ⟨-, -, -, -, -, hnot⟩
    · exact Bool.false_ne_true (hgoesOn.symm.trans hcontinued.symm)
    · exact hnot hopen

theorem keepsApart_cons {buffer : RingBuffer} {sid : String} {rest : List String} :
    KeepsApart rename (buffer.openSession ++ sid :: rest) ↔
      buffer.Distinguishes rename sid ∧ KeepsApart rename (sid :: rest) := by
  unfold openSession Distinguishes KeepsApart
  cases buffer.hasSession with
  | false => simp
  | true => simp

/-- **A run of calls**: the answers are the same exactly if no session is taken for the one before. -/
theorem answers_alike_iff (rename : String → String) (hsound : media.Sound)
    (frames : List CapturedFrame) :
    List.Forall₂ (AnsweredAlike rename) (answers media frames)
        (answers (media.renamed rename) (frames.map (CapturedFrame.renamed rename))) ↔
      KeepsApart rename
        (media.ringBuffer.openSession ++ sessionsIn media.ringBuffer.capacity frames) := by
  induction frames generalizing media with
  | nil =>
    refine iff_of_true .nil ?_
    unfold sessionsIn fitting openSession KeepsApart
    split <;> simp
  | cons frame frames ih =>
    rw [List.map_cons, answers, answers, List.forall₂_cons]
    rw [sessionsIn_cons]
    by_cases hfits : frame.FitsIn media.ringBuffer.capacity
    · rw [if_pos hfits, keepsApart_cons]
      obtain ⟨hopen, hcapacity⟩ := ingestFrame_openSession hfits
      by_cases hdistinct : media.ringBuffer.Distinguishes rename frame.sessionId
      · obtain ⟨hafter, halike⟩ := ingestFrame_renamed hdistinct
        rw [hafter, ih (sound_ingestFrame hsound), hopen, hcapacity]
        exact and_congr (iff_of_true halike hdistinct) Iff.rfl
      · exact iff_of_false (fun h => not_answeredAlike hsound hfits hdistinct h.1)
          fun h => hdistinct h.1
    · -- what does not fit is turned down before the sessions are compared
      obtain ⟨error, hkind, hold⟩ := ingestFrame_of_not_fitsIn hfits
      have hfits' : ¬ (frame.renamed rename).FitsIn (media.renamed rename).ringBuffer.capacity := hfits
      obtain ⟨error', hkind', hnew⟩ := ingestFrame_of_not_fitsIn hfits'
      rw [if_neg hfits, hold, hnew, ih hsound]
      exact and_iff_right (.refused (hkind'.trans hkind.symm))

theorem ingestStep_fst (run : MediaBuffer × List (Nat × CapturedFrame)) (frame : CapturedFrame) :
    (MediaBuffer.ingestStep run frame).1 = (ingestFrame run.1 frame).2 := by
  unfold MediaBuffer.ingestStep
  split <;> next hingest => rw [hingest]

/-- The state under the other names. -/
theorem run_renamed (run run' : MediaBuffer × List (Nat × CapturedFrame))
    (hrun : run'.1 = run.1.renamed rename) {frames : List CapturedFrame}
    (h : KeepsApart rename
      (run.1.ringBuffer.openSession ++ sessionsIn run.1.ringBuffer.capacity frames)) :
    ((frames.map (CapturedFrame.renamed rename)).foldl MediaBuffer.ingestStep run').1 =
      (frames.foldl MediaBuffer.ingestStep run).1.renamed rename := by
  induction frames generalizing run run' with
  | nil => exact hrun
  | cons frame frames ih =>
    rw [List.map_cons, List.foldl_cons, List.foldl_cons]
    rw [sessionsIn_cons] at h
    by_cases hfits : frame.FitsIn run.1.ringBuffer.capacity
    · rw [if_pos hfits, keepsApart_cons] at h
      obtain ⟨hopen, hcapacity⟩ := ingestFrame_openSession hfits
      refine ih _ _ ?_ ?_
      · rw [ingestStep_fst, ingestStep_fst, hrun]
        exact (ingestFrame_renamed h.1).1
      · rw [ingestStep_fst, hopen, hcapacity]
        exact h.2
    · rw [if_neg hfits] at h
      obtain ⟨error, -, hold⟩ := ingestFrame_of_not_fitsIn hfits
      have hfits' : ¬ (frame.renamed rename).FitsIn (run.1.renamed rename).ringBuffer.capacity := hfits
      obtain ⟨error', -, hnew⟩ := ingestFrame_of_not_fitsIn hfits'
      refine ih _ _ ?_ ?_
      · rw [ingestStep_fst, ingestStep_fst, hrun, hold, hnew]
      · rw [ingestStep_fst, hold]
        exact h

end Run

/-! ### What a reader finds -/

section Reader

variable {rename : String → String} {media : MediaBuffer}

theorem stats_renamed (rename : String → String) (buffer : RingBuffer) :
    { (buffer.renamed rename).stats with sessionId := buffer.sessionId } = buffer.stats := by
  unfold RingBuffer.stats newestCaptureTsNs oldestCaptureTsNs RingBuffer.renamed
  simp only [List.getLast?_map, List.head?_map, List.length_map, List.isEmpty_map, List.foldl_map]
  congr 1
  · cases buffer.frames.head? <;> rfl
  · cases buffer.frames.getLast? <;> rfl

theorem held_renamed : (media.renamed rename).held = media.held := by
  show (media.ringBuffer.frames.map (FrameDescriptor.renamed rename)).map _ = _
  rw [List.map_map]
  rfl

theorem play_sessionId (tape : Tape) (sid : String) (window : CaptureWindow) :
    Tape.play { tape with sessionId := sid } window =
      (tape.play window).map fun segment => { segment with sessionId := sid } := by
  unfold Tape.play
  dsimp only
  split
  · cases Tape.startOf tape.frames window <;> rfl
  · rfl

/-- A tape whose session is renamed plays under the other name. -/
theorem play_renamed {accepted : List FrameDescriptor} (h : RunInv media.ringBuffer accepted)
    (window : CaptureWindow) :
    (media.renamed rename).asTape.play window =
      (media.asTape.play window).map (ExtractedSegment.renamed rename) := by
  have htape : (media.renamed rename).asTape =
      { media.asTape with sessionId := (media.renamed rename).ringBuffer.sessionId } := by
    unfold MediaBuffer.asTape
    rw [held_renamed]
    rfl
  rw [htape, play_sessionId]
  by_cases hsession : media.ringBuffer.hasSession = true
  · have hsid : (media.renamed rename).ringBuffer.sessionId = rename media.ringBuffer.sessionId :=
      if_pos hsession
    unfold Tape.play
    split
    · cases Tape.startOf media.asTape.frames window with
      | none => rfl
      | some first =>
        rw [hsid]
        rfl
    · rfl
  · -- nothing is held, so there is no segment
    have hnil : media.held = [] := by
      rw [MediaBuffer.held, h.sessionOpen (Bool.eq_false_iff.mpr hsession)]
      rfl
    unfold Tape.play
    rw [show media.asTape.frames = [] from hnil]
    rfl

end Reader

/-- **A replay goes through the buffer as the capture did** exactly if it tells apart the sessions
that follow each other. Every reader then finds at each moment what was found at that moment of the
capture. -/
theorem replay_buffered_iff {capacity : BufferCapacity} {store : SharedMemoryFrameStore}
    (hcap : store.capacityBytes = capacity.totalBytes) (hopen : store.isClosed = false)
    (basePath sessionOverride : String) {frames : List CapturedFrame}
    (hframes : ∀ frame ∈ frames, frame.Recordable)
    (hsize : (frames.map CapturedFrame.length).sum ≤ maxSize) :
    ∃ source,
      RecordedFrameSource.opened basePath sessionOverride (recordAll frames) = .ok source ∧
      (List.Forall₂ (AnsweredAlike (RecordedFrameSource.replayedSession sessionOverride))
          (answers ⟨RingBuffer.new capacity, store⟩ frames)
          (answers ⟨RingBuffer.new capacity, store⟩ source.replay) ↔
        KeepsApart (RecordedFrameSource.replayedSession sessionOverride)
          (sessionsIn capacity.totalBytes frames)) ∧
      (KeepsApart (RecordedFrameSource.replayedSession sessionOverride)
          (sessionsIn capacity.totalBytes frames) → ∀ n,
        let captured := (MediaBuffer.ingestAll capacity store (frames.take n)).1
        let replayed := (MediaBuffer.ingestAll capacity store (source.replay.take n)).1
        { replayed.ringBuffer.stats with sessionId := captured.ringBuffer.sessionId } =
            captured.ringBuffer.stats ∧
          ∀ window, extractCaptureWindow replayed window =
            (extractCaptureWindow captured window).map (ExtractedSegment.renamed
              (RecordedFrameSource.replayedSession sessionOverride))) := by
  have hlength : (frames.flatMap CapturedFrame.data).length =
      (frames.map CapturedFrame.length).sum := by
    rw [List.length_flatMap]
    rfl
  rw [← hlength] at hsize
  obtain ⟨entries, hentries, hdelivered⟩ :=
    loadIndex_recorded basePath [] hsize rfl hframes
  generalize hrename : RecordedFrameSource.replayedSession sessionOverride = rename
  have hreplay : RecordedFrameSource.replay
      ⟨sessionOverride, frames.flatMap CapturedFrame.data, entries⟩ =
      frames.map (CapturedFrame.renamed rename) := by
    rw [← hrename]
    exact hdelivered sessionOverride
  refine ⟨⟨sessionOverride, frames.flatMap CapturedFrame.data, entries⟩, ?_, ?_⟩
  · rw [recordAll_eq]
    exact opened_eq_ok.mpr ⟨hsize, entries, hentries, rfl⟩
  rw [hreplay]
  refine ⟨answers_alike_iff rename (MediaBuffer.Sound.new hcap hopen) frames, ?_⟩
  intro hapart n
  have hstate : (MediaBuffer.ingestAll capacity store
      ((frames.map (CapturedFrame.renamed rename)).take n)).1 =
        (MediaBuffer.ingestAll capacity store (frames.take n)).1.renamed rename := by
    rw [← List.map_take]
    refine run_renamed _ _ rfl ?_
    have hprefix : sessionsIn capacity.totalBytes (frames.take n) <+:
        sessionsIn capacity.totalBytes frames :=
      ((List.take_prefix n frames).filter _).map _
    exact hapart.prefix hprefix
  dsimp only
  rw [hstate]
  refine ⟨stats_renamed rename _, fun window => ?_⟩
  obtain ⟨-, accepted, hcaptured⟩ := MediaBuffer.ingestAll_taped hcap hopen (frames.take n)
  obtain ⟨-, accepted', hreplayed⟩ := MediaBuffer.ingestAll_taped hcap hopen
    ((frames.map (CapturedFrame.renamed rename)).take n)
  rw [hstate] at hreplayed
  rw [hreplayed.extract, hcaptured.extract, play_renamed hcaptured.run]
  cases (MediaBuffer.ingestAll capacity store (frames.take n)).1.asTape.play window <;> rfl

/-- Two sessions of a camera whose name holds a space are one in the replay under the ids read, and
the frame that began the second one restarts nothing. -/
theorem replay_buffered_iff_spaced :
    ∃ source, RecordedFrameSource.opened "cenario" ""
        (recordAll [keyframeOf "porta norte", keyframeOf "porta sul"]) = .ok source ∧
      ¬ List.Forall₂ (AnsweredAlike (RecordedFrameSource.replayedSession ""))
        (answers ⟨RingBuffer.new ⟨8, by decide⟩, .create "ring" ⟨8, by decide⟩⟩
          [keyframeOf "porta norte", keyframeOf "porta sul"])
        (answers ⟨RingBuffer.new ⟨8, by decide⟩, .create "ring" ⟨8, by decide⟩⟩ source.replay) := by
  have hframes : ∀ frame ∈ [keyframeOf "porta norte", keyframeOf "porta sul"], frame.Recordable := by
    simp only [List.forall_mem_cons]
    exact ⟨keyframeOf_recordable (by decide), keyframeOf_recordable (by decide), by simp⟩
  have hcap : (SharedMemoryFrameStore.create "ring" ⟨8, by decide⟩).capacityBytes =
      (⟨8, by decide⟩ : BufferCapacity).totalBytes := rfl
  obtain ⟨source, hopened, hiff, -⟩ :=
    replay_buffered_iff hcap rfl "cenario" "" hframes (by decide)
  refine ⟨source, hopened, fun halike => ?_⟩
  have hapart : KeepsApart (RecordedFrameSource.replayedSession "") ["porta norte", "porta sul"] :=
    hiff.mp halike
  have hread : RecordedFrameSource.replayedSession "" "porta norte" =
      RecordedFrameSource.replayedSession "" "porta sul" := by
    decide
  exact absurd (List.isChain_pair.mp hapart hread) (by decide)

end Ods.S4
