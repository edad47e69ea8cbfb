import OdsMod2.Framework.ExceptList
import OdsMod2.S4.ExtractClip
import OdsMod2.S4.FileStorage

/-!
# What a failed extraction leaves behind

An extraction makes each of its calls at most once, so what it does is determined by what the ports
answer (`Answers`). Among the answers is what becomes of the write, over any file system
(`exists_writeOutcome`). Everything before the write decides the bytes of the file (`Answers.payload`),
everything after it the record (`Answers.record`), and an extraction is the two halves with the write
between them (`extract_run`).

Nothing takes the write back. If a later step throws, or the write itself is cut off, the file stays
as it has become, without a record, in the place of whatever was there. That may be less than was
written, if the last bytes are lost when the stream is closed. So an extraction that throws has changed
nothing exactly if it throws before the destination is opened, or if the bytes that are in the file now
were there before (`extract_atomic_iff`).
-/

namespace Ods.S4

open Prog

namespace ExtractClip

/-! ### The answers of the ports -/

/-- What becomes of `FileStorage::write`. -/
inductive WriteOutcome where
  | written
  /-- Only so many bytes are in the file when it is closed, and nobody has noticed. -/
  | lost (bytes : Nat)
  /-- The file cannot be opened, and is not touched. -/
  | notOpened (exception : ODSException)
  /-- The file has been truncated, and so many bytes got in. -/
  | cutOff (bytes : Nat) (exception : ODSException)

/-- What the ports answer to an extraction. -/
structure Answers where
  frames : Except ODSException (List (List UInt8))
  segment : Except ODSException ExtractedSegment
  container : Except ODSException (List UInt8)
  write : WriteOutcome
  sha256Hash : Except ODSException String
  wallClock : Nanoseconds → Except ODSException TimePoint
  clipId : Except ODSException String
  createdAt : Except ODSException TimePoint
  saved : Except ODSException Unit

namespace Answers

/-- The write, answered. -/
def serveWrite (answers : Answers) (path : String) (data : List UInt8) (s : ServiceState) :
    Except ODSException Unit × ServiceState :=
  match answers.write with
  | .written => (.ok (), s.putFile path data)
  | .lost bytes => (.ok (), s.putFile path (data.take bytes))
  | .notOpened exception => (.error exception, s)
  | .cutOff bytes exception => (.error exception, s.putFile path (data.take bytes))

/-- The save, answered. The statement of a save that throws has no effect. -/
def serveSave (answers : Answers) (clip : MediaClip) (s : ServiceState) :
    Except ODSException Unit × ServiceState :=
  match answers.saved with
  | .ok () => (.ok (), s.putClip clip)
  | .error exception => (.error exception, s)

/-- The ports. The calls that no extraction makes are those of a simulation. -/
def serve (answers : Answers) (others : Simulation) :
    Server PortCall.Answer ODSException ServiceState
  | .readWindow _ _, s => (answers.frames, s)
  | .extractCaptureWindow _ _, s => (answers.segment, s)
  | .mux _, s => (answers.container, s)
  | .writeFile path data, s => answers.serveWrite path data s
  | .computeSha256 _, s => (answers.sha256Hash, s)
  | .toWallClock captureTsNs, s => (answers.wallClock captureTsNs, s)
  | .generateClipId, s => (answers.clipId, s)
  | .systemNow, s => (answers.createdAt, s)
  | .save clip, s => answers.serveSave clip s
  | op, s => others.serve op s

/-- The bytes of the file, or what is thrown before it is opened. -/
def payload (answers : Answers) : Request → Except ODSException (List UInt8)
  | .wallClock _ => do
    let frames ← answers.frames
    if frames.isEmpty then
      .error (.application
        ⟨.mediaBufferEmpty, "no frames available in the requested time window"⟩)
    else
      return frames.flatten
  | .capture supports _ _ =>
    if !supports then
      .error (.mediaMux
        "capture-window extraction requires an ICaptureBufferReader and an IMediaMuxer")
    else do
      let segment ← answers.segment
      if segment.frames.isEmpty then
        .error (.application
          ⟨.mediaBufferEmpty, "no frames available in the requested capture window"⟩)
      else
        let container ← answers.container
        if container.isEmpty then
          .error (.mediaMux "muxer produced an empty container")
        else
          return container

/-- The window of the record. -/
def timeWindow (answers : Answers) : Request → Except ODSException TimeWindow
  | .wallClock timeWindow => .ok timeWindow
  | .capture _ window _ => do
    let startTime ← answers.wallClock window.startNs
    let endTime ← answers.wallClock window.endNs
    (TimeWindow.make startTime endTime).mapError .domain

/-- The end of both paths. -/
def saveClip (answers : Answers) (eventId path sha256Hash : String) (timeWindow : TimeWindow) :
    Except ODSException MediaClip := do
  let clipId ← answers.clipId
  let createdAt ← answers.createdAt
  answers.saved
  return {
    clipId := clipId
    eventId := eventId
    filePath := path
    sha256Hash := sha256Hash
    timeWindow := timeWindow
    createdAt := createdAt }

/-- The record, or what is thrown when the file has been written. -/
def record (answers : Answers) (eventId path : String) (request : Request) :
    Except ODSException MediaClip := do
  let sha256Hash ← answers.sha256Hash
  let timeWindow ← answers.timeWindow request
  answers.saveClip eventId path sha256Hash timeWindow

/-- What a record, or its failure, leaves in the state. -/
def recorded (result : Except ODSException MediaClip) (s : ServiceState) :
    Except ODSException MediaClip × ServiceState :=
  match result with
  | .ok clip => (.ok clip, s.putClip clip)
  | .error exception => (.error exception, s)

/-- An extraction with its bytes at hand. -/
def store (answers : Answers) (eventId path : String) (request : Request) (data : List UInt8)
    (s : ServiceState) : Except ODSException MediaClip × ServiceState :=
  match answers.write with
  | .written => recorded (answers.record eventId path request) (s.putFile path data)
  | .lost bytes =>
    recorded (answers.record eventId path request) (s.putFile path (data.take bytes))
  | .notOpened exception => (.error exception, s)
  | .cutOff bytes exception => (.error exception, s.putFile path (data.take bytes))

/-- The two halves, with the write between them. -/
def extract (answers : Answers) (eventId path : String) (request : Request) (s : ServiceState) :
    Except ODSException MediaClip × ServiceState :=
  match answers.payload request with
  | .ok data => answers.store eventId path request data s
  | .error exception => (.error exception, s)

end Answers

/-! ### The two halves -/

section Run

variable (answers : Answers) (others : Simulation) (eventId path : String) (s : ServiceState)

theorem saveClip_run (sha256Hash : String) (timeWindow : TimeWindow) :
    (saveClip eventId path sha256Hash timeWindow).run (answers.serve others) s =
      Answers.recorded (answers.saveClip eventId path sha256Hash timeWindow) s := by
  -- the answers decide how far it comes
  obtain ⟨frames, segment, container, write, hash, wallClock, clipId, createdAt, saved⟩ := answers
  cases clipId with
  | error exception => rfl
  | ok clipId =>
    cases createdAt with
    | error exception => rfl
    | ok createdAt =>
      cases saved with
      | error exception => rfl
      | ok _ => rfl

/-- From the write on, with what comes after the hash given. -/
theorem write_run (request : Request) (data : List UInt8) {rest : String → Service MediaClip}
    (hrest : ∀ sha256Hash s', (rest sha256Hash).run (answers.serve others) s' =
      Answers.recorded (answers.timeWindow request >>= fun timeWindow =>
        answers.saveClip eventId path sha256Hash timeWindow) s') :
    (do
      Port.writeFile path data
      let sha256Hash ← Port.computeSha256 data
      rest sha256Hash : Service MediaClip).run (answers.serve others) s =
        answers.store eventId path request data s := by
  obtain ⟨frames, segment, container, write, hash, wallClock, clipId, createdAt, saved⟩ := answers
  cases write with
  | notOpened exception => rfl
  | cutOff bytes exception => rfl
  -- the hash is that of the bytes in memory
  | written =>
    cases hash with
    | error exception => rfl
    | ok sha256Hash => exact hrest sha256Hash _
  | lost bytes =>
    cases hash with
    | error exception => rfl
    | ok sha256Hash => exact hrest sha256Hash _

theorem execute_run (timeWindow : TimeWindow) :
    (execute eventId timeWindow path).run (answers.serve others) s =
      answers.extract eventId path (.wallClock timeWindow) s := by
  have hwrite := fun data => write_run answers others eventId path s (.wallClock timeWindow) data
    fun sha256Hash s' => saveClip_run answers others eventId path s' sha256Hash timeWindow
  obtain ⟨frames, segment, container, write, hash, wallClock, clipId, createdAt, saved⟩ := answers
  cases frames with
  | error exception => rfl
  | ok frames =>
    cases frames with
    | nil => rfl
    | cons frame frames => exact hwrite (frame :: frames).flatten

/-- The window of the record is translated after the file has been hashed. -/
theorem translate_run (supports : Bool) (window : CaptureWindow) (timeout : Rat)
    (sha256Hash : String) :
    (do
      let startTime ← Port.toWallClock window.startNs
      let endTime ← Port.toWallClock window.endNs
      let wallWindow ← ofExcept ((TimeWindow.make startTime endTime).mapError .domain)
      saveClip eventId path sha256Hash wallWindow : Service MediaClip).run
        (answers.serve others) s =
      Answers.recorded (answers.timeWindow (.capture supports window timeout) >>= fun timeWindow =>
        answers.saveClip eventId path sha256Hash timeWindow) s := by
  have hsave := saveClip_run answers others eventId path s sha256Hash
  have htimeWindow : answers.timeWindow (.capture supports window timeout) =
      (answers.wallClock window.startNs >>= fun startTime =>
        answers.wallClock window.endNs >>= fun endTime =>
          (TimeWindow.make startTime endTime).mapError .domain) := rfl
  rw [htimeWindow]
  -- each translation is one call, and its answer goes on into the rest
  show ((Prog.ofExcept (answers.wallClock window.startNs)).bind fun startTime => _).run
    (answers.serve others) s = _
  cases answers.wallClock window.startNs with
  | error exception => rfl
  | ok startTime =>
    show ((Prog.ofExcept (answers.wallClock window.endNs)).bind fun endTime => _).run
      (answers.serve others) s = Answers.recorded ((answers.wallClock window.endNs >>= _) >>= _) s
    cases answers.wallClock window.endNs with
    | error exception => rfl
    | ok endTime =>
      show ((Prog.ofExcept ((TimeWindow.make startTime endTime).mapError .domain)).bind
        fun wallWindow => _).run (answers.serve others) s =
          Answers.recorded (((TimeWindow.make startTime endTime).mapError .domain) >>= _) s
      cases (TimeWindow.make startTime endTime).mapError ODSException.domain with
      | error exception => rfl
      | ok wallWindow => exact hsave wallWindow

theorem executeCaptureWindow_run (supports : Bool) (window : CaptureWindow) (timeout : Rat) :
    (executeCaptureWindow supports eventId window path timeout).run (answers.serve others) s =
      answers.extract eventId path (.capture supports window timeout) s := by
  have hwrite := fun data => write_run answers others eventId path s
    (.capture supports window timeout) data fun sha256Hash s' =>
      translate_run answers others eventId path s' supports window timeout sha256Hash
  obtain ⟨frames, segment, container, write, hash, wallClock, clipId, createdAt, saved⟩ := answers
  cases supports with
  | false => rfl
  | true =>
    cases segment with
    | error exception => rfl
    | ok segment =>
      obtain ⟨requested, sessionId, frames', truncatedAtStart, truncatedAtEnd⟩ := segment
      cases frames' with
      | nil => rfl
      | cons frame frames' =>
        cases container with
        | error exception => rfl
        | ok container =>
          cases container with
          | nil => rfl
          | cons byte bytes => exact hwrite (byte :: bytes)

/-- An extraction, told from the answers. -/
theorem extract_run (request : Request) :
    (extract eventId path request).run (answers.serve others) s =
      answers.extract eventId path request s := by
  cases request with
  | wallClock timeWindow => exact execute_run answers others eventId path s timeWindow
  | capture supports window timeout =>
    exact executeCaptureWindow_run answers others eventId path s supports window timeout

end Run

/-! ### Every run has its answers -/

/-- A call that changes nothing, whatever it answers. -/
inductive Question : PortCall → Prop
  | readWindow (start stop : TimePoint) : Question (.readWindow start stop)
  | extractCaptureWindow (window : CaptureWindow) (timeout : Rat) :
      Question (.extractCaptureWindow window timeout)
  | mux (segment : ExtractedSegment) : Question (.mux segment)
  | toWallClock (captureTsNs : Nanoseconds) : Question (.toWallClock captureTsNs)
  | systemNow : Question .systemNow
  | generateClipId : Question .generateClipId
  | computeSha256 (data : List UInt8) : Question (.computeSha256 data)

section Answered

variable {env : Environment} {eventId path : String} {s : ServiceState}

theorem Question.state_eq {op : PortCall} (h : Question op) {answer : Except ODSException op.Answer}
    {s' : ServiceState} (hserves : env.serves op s answer s') : s' = s := by
  cases h with
  | _ =>
    cases answer with
    | ok answer => exact hserves.2
    | error exception => exact hserves.2

theorem wp_ask {op : PortCall} (hop : Question op)
    {Q : Except ODSException op.Answer → ServiceState → Prop} (h : ∀ answer, Q answer s) :
    (perform op : Service op.Answer).wp env.serves (fun _ _ => True) Q s := by
  refine wp_perform trivial fun answer s' hserves => ?_
  obtain rfl := hop.state_eq hserves
  exact h answer

/-- Ports that answer nothing. -/
def Answers.silent : Answers where
  frames := .error (.mediaMux "")
  segment := .error (.mediaMux "")
  container := .error (.mediaMux "")
  write := .notOpened (.mediaMux "")
  sha256Hash := .error (.mediaMux "")
  wallClock _ := .error (.mediaMux "")
  clipId := .error (.mediaMux "")
  createdAt := .error (.mediaMux "")
  saved := .error (.mediaMux "")

theorem saveClip_answered (sha256Hash : String) (timeWindow : TimeWindow) :
    (saveClip eventId path sha256Hash timeWindow).wp env.serves (fun _ _ => True)
      (fun r s' => ∃ answers : Answers,
        Answers.recorded (answers.saveClip eventId path sha256Hash timeWindow) s = (r, s')) s := by
  refine wp_bind (wp_ask .generateClipId fun clipId => ?_)
  cases clipId with
  | error exception => exact ⟨{ Answers.silent with clipId := .error exception }, rfl⟩
  | ok clipId =>
    refine wp_bind (wp_ask .systemNow fun createdAt => ?_)
    cases createdAt with
    | error exception =>
      exact ⟨{ Answers.silent with clipId := .ok clipId, createdAt := .error exception }, rfl⟩
    | ok createdAt =>
      refine wp_bind (wp_perform trivial fun saved s' hserves => ?_)
      cases saved with
      | error exception =>
        obtain ⟨-, rfl⟩ := hserves
        exact ⟨{ Answers.silent with
          clipId := .ok clipId, createdAt := .ok createdAt, saved := .error exception }, rfl⟩
      | ok _ =>
        obtain rfl := hserves
        exact ⟨{ Answers.silent with
          clipId := .ok clipId, createdAt := .ok createdAt, saved := .ok () }, rfl⟩

theorem translate_answered (supports : Bool) (window : CaptureWindow) (timeout : Rat)
    (sha256Hash : String) :
    (do
      let startTime ← Port.toWallClock window.startNs
      let endTime ← Port.toWallClock window.endNs
      let wallWindow ← ofExcept ((TimeWindow.make startTime endTime).mapError .domain)
      saveClip eventId path sha256Hash wallWindow : Service MediaClip).wp env.serves
        (fun _ _ => True)
        (fun r s' => ∃ answers : Answers, Answers.recorded
          (answers.timeWindow (.capture supports window timeout) >>= fun timeWindow =>
            answers.saveClip eventId path sha256Hash timeWindow) s = (r, s')) s := by
  -- the ends of the window differ, so one clock answers both calls
  have hends : window.endNs ≠ window.startNs := ne_of_gt window.start_lt_end
  have hclock : ∀ (answers : Answers) (startTime : TimePoint)
      (endTime : Except ODSException TimePoint),
      { answers with wallClock := fun captureTsNs =>
          if captureTsNs = window.startNs then .ok startTime else endTime }.timeWindow
        (.capture supports window timeout) =
      endTime >>= fun endTime => (TimeWindow.make startTime endTime).mapError .domain := by
    intro answers startTime endTime
    simp only [Answers.timeWindow, if_pos, if_neg hends]
    rfl
  refine wp_bind (wp_ask (.toWallClock window.startNs) fun startTime => ?_)
  cases startTime with
  | error exception => exact ⟨{ Answers.silent with wallClock := fun _ => .error exception }, rfl⟩
  | ok startTime =>
    refine wp_bind (wp_ask (.toWallClock window.endNs) fun endTime => ?_)
    cases endTime with
    | error exception =>
      exact ⟨_, congrArg (fun window => Answers.recorded (window >>= _) s)
        (hclock .silent startTime (.error exception))⟩
    | ok endTime =>
      refine wp_bind (wp_ofExcept ?_)
      have hmade := fun answers => hclock answers startTime (.ok endTime)
      cases hwindow : (TimeWindow.make startTime endTime).mapError ODSException.domain with
      | error exception =>
        refine ⟨_, (congrArg (fun window => Answers.recorded (window >>= _) s)
          ((hmade .silent).trans hwindow)).trans ?_⟩
        rfl
      | ok wallWindow =>
        refine wp_mono (saveClip_answered sha256Hash wallWindow) ?_
        rintro r s' ⟨answers, hanswers⟩
        exact ⟨_, (congrArg (fun window => Answers.recorded (window >>= _) s)
          ((hmade answers).trans hwindow)).trans hanswers⟩

theorem write_answered (request : Request) (data : List UInt8) {rest : String → Service MediaClip}
    (hrest : ∀ sha256Hash s', (rest sha256Hash).wp env.serves (fun _ _ => True)
      (fun r s'' => ∃ answers : Answers, Answers.recorded
        (answers.timeWindow request >>= fun timeWindow =>
          answers.saveClip eventId path sha256Hash timeWindow) s' = (r, s'')) s') :
    (do
      Port.writeFile path data
      let sha256Hash ← Port.computeSha256 data
      rest sha256Hash : Service MediaClip).wp env.serves (fun _ _ => True)
        (fun r s' => ∃ answers : Answers, answers.store eventId path request data s = (r, s')) s := by
  refine wp_bind (wp_perform trivial fun answer s' hserves => ?_)
  cases answer with
  | error exception =>
    obtain ⟨-, rfl | ⟨written, hpart, rfl⟩⟩ := hserves
    · exact ⟨{ Answers.silent with write := .notOpened exception }, rfl⟩
    -- what got in is a prefix, so its length tells it
    · refine ⟨{ Answers.silent with write := .cutOff written.length exception }, ?_⟩
      show (_, s.putFile path (data.take written.length)) = _
      rw [← List.prefix_iff_eq_take.mp hpart]
  | ok _ =>
    obtain rfl := hserves
    refine wp_bind (wp_ask (.computeSha256 data) fun sha256Hash => ?_)
    cases sha256Hash with
    | error exception =>
      exact ⟨{ Answers.silent with write := .written, sha256Hash := .error exception }, rfl⟩
    | ok sha256Hash =>
      refine wp_mono (hrest sha256Hash _) ?_
      rintro r s' ⟨answers, hanswers⟩
      exact ⟨{ answers with write := .written, sha256Hash := .ok sha256Hash }, hanswers⟩

/-- **Every write has its outcome**, whatever the file system fails: what the storage answers and
leaves there is what is answered for one of the outcomes. -/
theorem exists_writeOutcome (fs : FileSystem) (answers : Answers) (data : List UInt8)
    {answer : Except ODSException Unit} {files : Files}
    (hruns : Runs fs.serves (FileStorage.write path data) s.files answer files) :
    ∃ write, { answers with write := write }.serveWrite path data s =
      (answer, { s with files := files }) := by
  obtain ⟨p', hsteps, hout⟩ := hruns
  -- a prefix is told by its length
  have htake : ∀ {written : List UInt8}, written <+: data → data.take written.length = written :=
    fun hpart => (List.prefix_iff_eq_take.mp hpart).symm
  cases wp_outcome (hsteps.wp (FileStorage.write_leaves fs path data s.files)) hout with
  | all => exact ⟨.written, rfl⟩
  | @part written errc hfails hpart =>
    refine ⟨.lost written.length, ?_⟩
    show (_, s.putFile path (data.take written.length)) = _
    rw [htake hpart]
    rfl
  | notOpened hfails => exact ⟨.notOpened _, rfl⟩
  | @cutOff written errc hfails hpart =>
    refine ⟨.cutOff written.length
      (FileStorage.fileOperationError ("failed writing file: " ++ path)), ?_⟩
    show (_, s.putFile path (data.take written.length)) = _
    rw [htake hpart]
    rfl

theorem execute_answered (timeWindow : TimeWindow) :
    (execute eventId timeWindow path).wp env.serves (fun _ _ => True)
      (fun r s' => ∃ answers : Answers,
        answers.extract eventId path (.wallClock timeWindow) s = (r, s')) s := by
  refine wp_bind (wp_ask (.readWindow _ _) fun frames => ?_)
  cases frames with
  | error exception => exact ⟨{ Answers.silent with frames := .error exception }, rfl⟩
  | ok frames =>
    cases frames with
    | nil => exact ⟨{ Answers.silent with frames := .ok [] }, rfl⟩
    | cons frame frames =>
      refine wp_mono (write_answered (.wallClock timeWindow) (frame :: frames).flatten
        fun sha256Hash s' => saveClip_answered sha256Hash timeWindow) ?_
      rintro r s' ⟨answers, hanswers⟩
      exact ⟨{ answers with frames := .ok (frame :: frames) }, hanswers⟩

theorem executeCaptureWindow_answered (supports : Bool) (window : CaptureWindow) (timeout : Rat) :
    (executeCaptureWindow supports eventId window path timeout).wp env.serves (fun _ _ => True)
      (fun r s' => ∃ answers : Answers,
        answers.extract eventId path (.capture supports window timeout) s = (r, s')) s := by
  cases supports with
  -- no call is made
  | false => exact ⟨.silent, rfl⟩
  | true =>
    refine wp_bind (wp_ask (.extractCaptureWindow window timeout) fun segment => ?_)
    cases segment with
    | error exception => exact ⟨{ Answers.silent with segment := .error exception }, rfl⟩
    | ok segment =>
      obtain ⟨requested, sessionId, frames, truncatedAtStart, truncatedAtEnd⟩ := segment
      cases frames with
      | nil =>
        exact ⟨{ Answers.silent with
          segment := .ok ⟨requested, sessionId, [], truncatedAtStart, truncatedAtEnd⟩ }, rfl⟩
      | cons frame frames =>
        refine wp_bind (wp_ask (.mux _) fun container => ?_)
        cases container with
        | error exception =>
          exact ⟨{ Answers.silent with
            segment := .ok ⟨requested, sessionId, frame :: frames, truncatedAtStart, truncatedAtEnd⟩
            container := .error exception }, rfl⟩
        | ok container =>
          cases container with
          | nil =>
            exact ⟨{ Answers.silent with
              segment := .ok ⟨requested, sessionId, frame :: frames, truncatedAtStart,
                truncatedAtEnd⟩
              container := .ok [] }, rfl⟩
          | cons byte bytes =>
            -- from the write on the answers are those of the common end
            refine wp_mono (write_answered (.capture true window timeout) (byte :: bytes)
              fun sha256Hash s' => translate_answered true window timeout sha256Hash) ?_
            rintro r s' ⟨answers, hanswers⟩
            exact ⟨{ answers with
              segment := .ok ⟨requested, sessionId, frame :: frames, truncatedAtStart,
                truncatedAtEnd⟩
              container := .ok (byte :: bytes) }, hanswers⟩

theorem extract_answered (request : Request) :
    (extract eventId path request).wp env.serves (fun _ _ => True)
      (fun r s' => ∃ answers : Answers, answers.extract eventId path request s = (r, s')) s := by
  cases request with
  | wallClock timeWindow => exact execute_answered timeWindow
  | capture supports window timeout => exact executeCaptureWindow_answered supports window timeout

/-- **Every run has its answers.** What an extraction does in an environment, it does for some
answers of the ports. -/
theorem exists_answers (request : Request) {result : Except ODSException MediaClip}
    {s' : ServiceState} (hruns : Runs env.serves (extract eventId path request) s result s') :
    ∃ answers : Answers, answers.extract eventId path request s = (result, s') := by
  obtain ⟨p', hsteps, hout⟩ := hruns
  exact wp_outcome (hsteps.wp (extract_answered request)) hout

end Answered

/-! ### When a failure leaves nothing behind -/

/-- No step after the write throws. -/
def Answers.Completes (answers : Answers) (request : Request) : Prop :=
  (∃ sha256Hash, answers.sha256Hash = .ok sha256Hash) ∧
    (∃ timeWindow, answers.timeWindow request = .ok timeWindow) ∧
    (∃ clipId, answers.clipId = .ok clipId) ∧
    (∃ createdAt, answers.createdAt = .ok createdAt) ∧ answers.saved = .ok ()

/-- Whatever throws, it throws before the destination is opened, or the file held before what it
holds then. -/
def Answers.LeavesNothing (answers : Answers) (path : String) (request : Request)
    (s : ServiceState) : Prop :=
  ∀ data, answers.payload request = .ok data →
    match answers.write with
    | .notOpened _ => True
    | .cutOff bytes _ => s.files path = some (data.take bytes)
    | .written => answers.Completes request ∨ s.files path = some data
    | .lost bytes => answers.Completes request ∨ s.files path = some (data.take bytes)

/-- The storage and the repository are as they were. -/
def Unchanged (s s' : ServiceState) : Prop :=
  s'.files = s.files ∧ s'.clips = s.clips

theorem unchanged_putFile {s : ServiceState} {path : String} {data : List UInt8} :
    Unchanged s (s.putFile path data) ↔ s.files path = some data := by
  unfold Unchanged
  rw [ServiceState.putFile_files, Function.update_eq_self_iff, eq_comm]
  exact and_iff_left rfl

/-- The record is made exactly if every step for it returns. -/
theorem Answers.completes_iff (answers : Answers) (eventId path : String) (request : Request) :
    answers.Completes request ↔ ∃ clip, answers.record eventId path request = .ok clip := by
  unfold Answers.Completes Answers.record Answers.saveClip
  simp only [exists_bind_eq_ok]
  constructor
  · rintro ⟨⟨sha256Hash, hhash⟩, ⟨timeWindow, hwindow⟩, ⟨clipId, hid⟩, ⟨createdAt, hat⟩, hsaved⟩
    exact ⟨sha256Hash, hhash, timeWindow, hwindow, clipId, hid, createdAt, hat, (), hsaved, _, rfl⟩
  · rintro ⟨sha256Hash, hhash, timeWindow, hwindow, clipId, hid, createdAt, hat, _, hsaved, -⟩
    exact ⟨⟨sha256Hash, hhash⟩, ⟨timeWindow, hwindow⟩, ⟨clipId, hid⟩, ⟨createdAt, hat⟩, hsaved⟩

/-- What a run that throws leaves is known from the run. -/
theorem unchanged_of_error_iff {exception : ODSException} {s s₁ : ServiceState} :
    (∀ exception' s', ((.error exception, s₁) : Except ODSException MediaClip × ServiceState) =
      (.error exception', s') → Unchanged s s') ↔ Unchanged s s₁ := by
  constructor
  · intro h
    exact h exception s₁ rfl
  · rintro hunchanged exception' s' h
    rw [← (Prod.mk.inj h).2]
    exact hunchanged

/-- With the file in place, a step for the record may throw. -/
theorem Answers.recorded_atomic_iff (answers : Answers) (eventId path : String) (request : Request)
    (held : List UInt8) (s : ServiceState) :
    (∀ exception s', recorded (answers.record eventId path request) (s.putFile path held) =
        (.error exception, s') → Unchanged s s') ↔
      answers.Completes request ∨ s.files path = some held := by
  rw [answers.completes_iff eventId path request]
  cases answers.record eventId path request with
  | ok clip =>
    refine iff_of_true ?_ (.inl ⟨clip, rfl⟩)
    rintro exception s' h
    cases h
  | error exception =>
    have hnone : ¬ ∃ clip, (.error exception : Except ODSException MediaClip) = .ok clip := by
      rintro ⟨clip, hclip⟩
      cases hclip
    rw [or_iff_right hnone]
    exact unchanged_of_error_iff.trans unchanged_putFile

/-- From the write on: a file that was opened is put back by nothing. -/
theorem Answers.store_atomic_iff (answers : Answers) (eventId path : String) (request : Request)
    (data : List UInt8) (s : ServiceState) :
    (∀ exception s', answers.store eventId path request data s = (.error exception, s') →
        Unchanged s s') ↔
      match answers.write with
      | .notOpened _ => True
      | .cutOff bytes _ => s.files path = some (data.take bytes)
      | .written => answers.Completes request ∨ s.files path = some data
      | .lost bytes => answers.Completes request ∨ s.files path = some (data.take bytes) := by
  unfold Answers.store
  cases answers.write with
  | notOpened exception => exact unchanged_of_error_iff.trans (iff_of_true ⟨rfl, rfl⟩ trivial)
  | cutOff bytes exception => exact unchanged_of_error_iff.trans unchanged_putFile
  | written => exact answers.recorded_atomic_iff eventId path request data s
  | lost bytes => exact answers.recorded_atomic_iff eventId path request (data.take bytes) s

/-- **Atomicity of errors.** Whatever the ports answer, an extraction that throws has changed nothing
exactly if it throws before the destination is opened, or the destination held before what it holds
then. -/
theorem extract_atomic_iff (answers : Answers) (others : Simulation) (eventId path : String)
    (request : Request) (s : ServiceState) :
    (∀ exception s', (extract eventId path request).run (answers.serve others) s
        = (.error exception, s') → Unchanged s s') ↔
      answers.LeavesNothing path request s := by
  rw [extract_run]
  unfold Answers.LeavesNothing Answers.extract
  cases answers.payload request with
  | error exception =>
    -- nothing has been opened
    refine unchanged_of_error_iff.trans (iff_of_true ⟨rfl, rfl⟩ ?_)
    rintro data hdata
    cases hdata
  | ok data =>
    refine (answers.store_atomic_iff eventId path request data s).trans ?_
    constructor
    · rintro h data' hdata
      rw [← Except.ok.inj hdata]
      exact h
    · intro h
      exact h data rfl

/-- An event whose clip is stored, with its file. -/
def storedOnce : ServiceState where
  clips := ⟨[
    { clipId := "clip-a", eventId := "evt", filePath := "/nvme/evt.mp4", sha256Hash := "09",
      timeWindow := ⟨0, 1, Int.zero_lt_one⟩, createdAt := 0 }], List.nodup_singleton _⟩
  files path := if path = "/nvme/evt.mp4" then some [9] else none
  purgeLog := []

/-- The event is extracted again, and the repository refuses the record. -/
def saveRefused : Answers where
  frames := .ok [[1]]
  segment := .error (.mediaMux "")
  container := .error (.mediaMux "")
  write := .written
  sha256Hash := .ok "01"
  wallClock captureTsNs := .ok captureTsNs
  clipId := .ok "clip-b"
  createdAt := .ok 0
  saved := .error (.application ⟨.sqliteStorage, "database is locked"⟩)

/-- The file of the stored clip is lost, and the bytes in its place have no record. -/
theorem refused_save_loses_file :
    storedOnce.files "/nvme/evt.mp4" = some [9] ∧
      (saveRefused.extract "evt" "/nvme/evt.mp4" (.wallClock ⟨0, 1, Int.zero_lt_one⟩)
        storedOnce).2.files "/nvme/evt.mp4" = some [1] ∧
      ¬ ∀ (answers : Answers) (others : Simulation) (eventId path : String) (request : Request)
          (s : ServiceState) (exception : ODSException) (s' : ServiceState),
          (extract eventId path request).run (answers.serve others) s = (.error exception, s') →
          Unchanged s s' := by
  refine ⟨by decide +kernel, by decide +kernel, fun h => ?_⟩
  have hunchanged := h saveRefused .bench "evt" "/nvme/evt.mp4"
    (.wallClock ⟨0, 1, Int.zero_lt_one⟩) storedOnce _ _ rfl
  have hfile := congrFun hunchanged.1 "/nvme/evt.mp4"
  exact absurd hfile (by decide +kernel)

end ExtractClip

end Ods.S4
