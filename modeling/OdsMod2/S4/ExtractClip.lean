import OdsMod2.S4.Ports

/-!
# Extracting a clip

`ExtractClipUseCase` (`extract_clip.cpp`) turns an event into a clip: it obtains the bytes, writes
the file, and saves the record with the SHA-256 of what was written. There are two ways to obtain
the bytes, the wall-clock window of the legacy path and the capture window of the real one; from
the write on they agree. `postEvent` is the part of the HTTP handler that decides where the file
goes: `mediaDir/eventId.mp4`, whatever else is stored under that event.

As a protocol (`extraction`), an extraction writes one file, hashes the bytes it wrote, and saves
one record, which names that file and carries that hash. `ExtractMove` is what each of its calls
does to the state.
-/

namespace Ods.S4

open Prog

/-! ### The use case -/

namespace ExtractClip

/-- The common end of both paths: everything after the file has been written. -/
def saveClip (eventId destinationPath : String) (sha256Hash : String) (timeWindow : TimeWindow) :
    Service MediaClip := do
  let clipId ← Port.generateClipId
  let createdAt ← Port.systemNow
  let clip : MediaClip := {
    clipId := clipId
    eventId := eventId
    filePath := destinationPath
    sha256Hash := sha256Hash
    timeWindow := timeWindow
    createdAt := createdAt }
  Port.save clip
  ret clip

/-- `ExtractClipUseCase::execute`. -/
def execute (eventId : String) (timeWindow : TimeWindow) (destinationPath : String) :
    Service MediaClip := do
  let frames ← Port.readWindow timeWindow.startTime timeWindow.endTime
  if frames.isEmpty then
    fail (.application ⟨.mediaBufferEmpty, "no frames available in the requested time window"⟩)
  else
    -- the file comes first: until the record is saved nothing points to it
    Port.writeFile destinationPath frames.flatten
    let sha256Hash ← Port.computeSha256 frames.flatten
    saveClip eventId destinationPath sha256Hash timeWindow

/-- `ExtractClipUseCase::executeCaptureWindow`; the flag is `supportsCaptureWindows`. -/
def executeCaptureWindow (supportsCaptureWindows : Bool) (eventId : String)
    (window : CaptureWindow) (destinationPath : String) (waitTimeoutSeconds : Rat) :
    Service MediaClip := do
  if !supportsCaptureWindows then
    fail (.mediaMux
      "capture-window extraction requires an ICaptureBufferReader and an IMediaMuxer")
  else
    let segment ← Port.extractCaptureWindow window waitTimeoutSeconds
    if segment.frames.isEmpty then
      fail (.application
        ⟨.mediaBufferEmpty, "no frames available in the requested capture window"⟩)
    else
      let container ← Port.mux segment
      if container.isEmpty then
        fail (.mediaMux "muxer produced an empty container")
      else
        Port.writeFile destinationPath container
        let sha256Hash ← Port.computeSha256 container
        -- the record is in wall-clock time, the window in capture time; if the two ends come
        -- together the constructor throws and the file stays without a record
        let startTime ← Port.toWallClock window.startNs
        let endTime ← Port.toWallClock window.endNs
        let wallWindow ← ofExcept ((TimeWindow.make startTime endTime).mapError .domain)
        saveClip eventId destinationPath sha256Hash wallWindow

/-- What to extract: a wall-clock window or a capture window. -/
inductive Request where
  | wallClock (timeWindow : TimeWindow)
  | capture (supportsCaptureWindows : Bool) (window : CaptureWindow) (waitTimeoutSeconds : Rat)

def extract (eventId destinationPath : String) : Request → Service MediaClip
  | .wallClock timeWindow => execute eventId timeWindow destinationPath
  | .capture supports window timeout =>
    executeCaptureWindow supports eventId window destinationPath timeout

end ExtractClip

/-! ### The destination path -/

/-- `std::filesystem::path::operator/` with a relative right-hand side. -/
def joinPath (directory name : String) : String :=
  if directory.isEmpty || directory.toList.getLast? = some '/' then directory ++ name
  else directory ++ "/" ++ name

/-- Where the server puts the clip of an event. -/
def clipPath (mediaDir eventId : String) : String :=
  joinPath mediaDir (eventId ++ ".mp4")

/-- `is_valid_event_id`. -/
def isValidEventId (eventId : String) : Bool :=
  !eventId.isEmpty && eventId.toList.all fun c => c.isAlphanum || c == '_' || c == '-'

/-- `POST /api/v1/events` from the point where the event id is known; `none` is the refusal of an
invalid id. -/
def postEvent (mediaDir eventId : String) (request : ExtractClip.Request) :
    Service (Option MediaClip) := do
  if isValidEventId eventId then
    -- the path does not depend on the clips that exist already
    let clip ← ExtractClip.extract eventId (clipPath mediaDir eventId) request
    ret (some clip)
  else
    ret none

theorem joinPath_inj {directory name name' : String}
    (h : joinPath directory name = joinPath directory name') : name = name' := by
  unfold joinPath at h
  split at h
  · exact (String.append_right_inj _).mp h
  · exact (String.append_right_inj _).mp h

/-- The server names files by their event. -/
theorem clipPath_inj {mediaDir eventId eventId' : String}
    (h : clipPath mediaDir eventId = clipPath mediaDir eventId') : eventId = eventId' :=
  (String.append_left_inj _).mp (joinPath_inj h)

/-! ### The extraction as a protocol -/

namespace ExtractClip

/-- Where an extraction stands. -/
inductive ExtractPhase where
  | idle
  | written (path : String) (data : List UInt8)
  | hashed (path : String) (data : List UInt8) (sha256Hash : String)
  | saved (clip : MediaClip)
  deriving DecidableEq

namespace ExtractPhase

/-- The file written and not yet recorded. -/
def pending : ExtractPhase → Option String
  | written path _ => some path
  | hashed path _ _ => some path
  | _ => none

def next : ExtractPhase → (op : PortCall) → Except ODSException op.Answer → ExtractPhase
  -- a new write starts over
  | _, .writeFile path data, .ok _ => written path data
  | written path data, .computeSha256 _, .ok sha256Hash => hashed path data sha256Hash
  | hashed path data sha256Hash, .toWallClock _, .ok _ => hashed path data sha256Hash
  | hashed path data sha256Hash, .generateClipId, .ok _ => hashed path data sha256Hash
  | hashed path data sha256Hash, .systemNow, .ok _ => hashed path data sha256Hash
  | hashed _ _ _, .save clip, .ok _ => saved clip
  -- whatever throws ends the extraction
  | _, _, _ => idle

/-- What an extraction may call; `Names` relates an event to its file. -/
def Permits (Names : String → String → Prop) : ExtractPhase → PortCall → Prop
  | _, .readWindow _ _ => True
  | _, .extractCaptureWindow _ _ => True
  | idle, .mux _ => True
  | idle, .writeFile path _ => ∃ eventId, Names eventId path
  | written _ data, .computeSha256 data' => data' = data
  | hashed _ _ _, .toWallClock _ => True
  | hashed _ _ _, .generateClipId => True
  | hashed _ _ _, .systemNow => True
  | hashed path _ sha256Hash, .save clip =>
    clip.filePath = path ∧ clip.sha256Hash = sha256Hash ∧ Names clip.eventId path ∧
      clip.isRetained = true ∧ clip.isLockedForAudit = false
  | _, _ => False

theorem next_error (phase : ExtractPhase) (op : PortCall) (exception : ODSException) :
    phase.next op (.error exception) = idle := by
  cases phase <;> cases op <;> rfl

end ExtractPhase

def extraction (Names : String → String → Prop) :
    Protocol PortCall.Answer ODSException ExtractPhase where
  start := .idle
  next := ExtractPhase.next
  Permits := ExtractPhase.Permits Names

/-- A clip that was returned has been saved. -/
def Saved : Except ODSException MediaClip → ExtractPhase → Prop
  | .ok clip, phase => phase = .saved clip
  | .error _, _ => True

section Obeys

variable {Names : String → String → Prop} {eventId path : String}

theorem saveClip_obeys (hnames : Names eventId path) (data : List UInt8) (sha256Hash : String)
    (timeWindow : TimeWindow) :
    (extraction Names).Obeys (saveClip eventId path sha256Hash timeWindow) Saved
      (.hashed path data sha256Hash) := by
  refine wp_bind (Protocol.obeys_perform trivial fun clipId => ?_)
  cases clipId with
  | error exception => trivial
  | ok clipId =>
    refine wp_bind (Protocol.obeys_perform trivial fun createdAt => ?_)
    cases createdAt with
    | error exception => trivial
    | ok createdAt =>
      refine wp_bind (Protocol.obeys_perform ⟨rfl, rfl, hnames, rfl, rfl⟩ fun answer => ?_)
      cases answer with
      | error exception => trivial
      | ok _ => rfl

/-- From the write on: the file, the hash of its bytes, and then the record. -/
theorem write_obeys (hnames : Names eventId path) (data : List UInt8)
    {k : String → Service MediaClip}
    (hk : ∀ sha256Hash, (extraction Names).Obeys (k sha256Hash) Saved
      (.hashed path data sha256Hash)) :
    (extraction Names).Obeys
      (do
        Port.writeFile path data
        let sha256Hash ← Port.computeSha256 data
        k sha256Hash) Saved .idle := by
  refine wp_bind (Protocol.obeys_perform ⟨eventId, hnames⟩ fun answer => ?_)
  cases answer with
  | error exception => trivial
  | ok _ =>
    refine wp_bind (Protocol.obeys_perform rfl fun answer => ?_)
    cases answer with
    | error exception => trivial
    | ok sha256Hash => exact hk sha256Hash

theorem execute_obeys (hnames : Names eventId path) (timeWindow : TimeWindow)
    (phase : ExtractPhase) :
    (extraction Names).Obeys (execute eventId timeWindow path) Saved phase := by
  refine wp_bind (Protocol.obeys_perform trivial fun frames => ?_)
  have hidle : (extraction Names).next phase
      (PortCall.readWindow timeWindow.startTime timeWindow.endTime) frames = .idle := by
    cases phase <;> rfl
  cases frames with
  | error exception => trivial
  | ok frames =>
    rw [hidle]
    show (if frames.isEmpty then _ else _ : Service MediaClip).wp _ _ _ _
    split
    · -- no frames: nothing has been written
      trivial
    · exact write_obeys hnames _ fun sha256Hash => saveClip_obeys hnames _ sha256Hash timeWindow

theorem executeCaptureWindow_obeys (hnames : Names eventId path) (supports : Bool)
    (window : CaptureWindow) (timeout : Rat) (phase : ExtractPhase) :
    (extraction Names).Obeys (executeCaptureWindow supports eventId window path timeout) Saved
      phase := by
  unfold executeCaptureWindow
  split
  · -- without a capture buffer no call is made at all
    trivial
  refine wp_bind (Protocol.obeys_perform trivial fun segment => ?_)
  have hidle : (extraction Names).next phase
      (PortCall.extractCaptureWindow window timeout) segment = .idle := by
    cases phase <;> rfl
  cases segment with
  | error exception => trivial
  | ok segment =>
    rw [hidle]
    show (if segment.frames.isEmpty then _ else _ : Service MediaClip).wp _ _ _ _
    split
    · trivial
    refine wp_bind (Protocol.obeys_perform trivial fun container => ?_)
    cases container with
    | error exception => trivial
    | ok container =>
      show (if container.isEmpty then _ else _ : Service MediaClip).wp _ _ _ _
      split
      · trivial
      -- from here on the two paths agree, up to the conversion of the window
      refine write_obeys hnames _ fun sha256Hash => ?_
      refine wp_bind (Protocol.obeys_perform trivial fun startTime => ?_)
      cases startTime with
      | error exception => trivial
      | ok startTime =>
        refine wp_bind (Protocol.obeys_perform trivial fun endTime => ?_)
        cases endTime with
        | error exception => trivial
        | ok endTime =>
          refine wp_bind (wp_ofExcept ?_)
          cases (TimeWindow.make startTime endTime).mapError ODSException.domain with
          | error exception => trivial
          | ok wallWindow => exact saveClip_obeys hnames _ sha256Hash wallWindow

/-- **The refinement.** Both paths keep to the protocol, from whatever phase they find. -/
theorem extract_obeys (hnames : Names eventId path) (request : Request) (phase : ExtractPhase) :
    (extraction Names).Obeys (extract eventId path request) Saved phase := by
  cases request with
  | wallClock timeWindow => exact execute_obeys hnames timeWindow phase
  | capture supports window timeout =>
    exact executeCaptureWindow_obeys hnames supports window timeout phase

end Obeys

/-! ### What an extraction does to the state -/

/-- One call of an extraction. A write that fails may leave a part of its data behind. -/
inductive ExtractMove (env : Environment) (Names : String → String → Prop) :
    ExtractPhase → ServiceState → ExtractPhase → ServiceState → Prop
  | rest {phase : ExtractPhase} {s : ServiceState} : ExtractMove env Names phase s .idle s
  | write {s : ServiceState} {path : String} {data : List UInt8}
      (hnames : ∃ eventId, Names eventId path) :
      ExtractMove env Names .idle s (.written path data) (s.putFile path data)
  | truncate {s : ServiceState} {path : String} {written : List UInt8}
      (hnames : ∃ eventId, Names eventId path) :
      ExtractMove env Names .idle s .idle (s.putFile path written)
  | hash {s : ServiceState} {path : String} {data : List UInt8} :
      ExtractMove env Names (.written path data) s (.hashed path data (env.sha256 data)) s
  | record {s : ServiceState} {path : String} {data : List UInt8} {sha256Hash : String} :
      ExtractMove env Names (.hashed path data sha256Hash) s (.hashed path data sha256Hash) s
  | save {s : ServiceState} {data : List UInt8} {clip : MediaClip}
      (hnames : Names clip.eventId clip.filePath) (hretained : clip.isRetained = true) :
      ExtractMove env Names (.hashed clip.filePath data clip.sha256Hash) s (.saved clip)
        (s.putClip clip)

theorem extractMove_of_call {env : Environment} {Names : String → String → Prop}
    {phase : ExtractPhase} {op : PortCall} {answer : Except ODSException op.Answer}
    {s s' : ServiceState} (hpermits : phase.Permits Names op)
    (hserves : env.serves op s answer s') :
    ExtractMove env Names phase s (phase.next op answer) s' := by
  cases answer with
  | error exception =>
    rw [ExtractPhase.next_error]
    by_cases hwrite : ∃ path data, op = .writeFile path data
    · -- a write that throws may have truncated the file
      obtain ⟨path, data, rfl⟩ := hwrite
      cases phase with
      | idle =>
        obtain ⟨-, rfl | ⟨written, -, rfl⟩⟩ := hserves
        · exact .rest
        · exact .truncate hpermits
      | _ => exact hpermits.elim
    · have hnotWrite : ∀ path data, op ≠ .writeFile path data := by
        intro path data hop
        exact hwrite ⟨path, data, hop⟩
      -- any other call that throws leaves the state alone
      rw [Environment.refuses_eq hserves hnotWrite]
      exact .rest
  | ok answer =>
    cases op with
    | readWindow start stop =>
      obtain ⟨-, rfl⟩ := hserves
      cases phase <;> exact .rest
    | extractCaptureWindow window timeout =>
      obtain ⟨-, rfl⟩ := hserves
      cases phase <;> exact .rest
    | mux segment =>
      obtain ⟨-, rfl⟩ := hserves
      cases phase <;> exact .rest
    | writeFile path data =>
      obtain rfl := hserves
      cases phase with
      | idle => exact .write hpermits
      | _ => exact hpermits.elim
    | computeSha256 data =>
      obtain ⟨rfl, rfl⟩ := hserves
      cases phase with
      | written path data' =>
        -- the bytes hashed are the bytes written
        obtain rfl : data = data' := hpermits
        exact .hash
      | _ => exact hpermits.elim
    | toWallClock captureTsNs =>
      obtain ⟨-, rfl⟩ := hserves
      cases phase with
      | hashed path data sha256Hash => exact .record
      | _ => exact hpermits.elim
    | generateClipId =>
      obtain ⟨-, rfl⟩ := hserves
      cases phase with
      | hashed path data sha256Hash => exact .record
      | _ => exact hpermits.elim
    | systemNow =>
      obtain ⟨-, rfl⟩ := hserves
      cases phase with
      | hashed path data sha256Hash => exact .record
      | _ => exact hpermits.elim
    | save clip =>
      obtain rfl := hserves
      cases phase with
      | hashed path data sha256Hash =>
        -- the record is saved with the path and the hash of this extraction
        obtain ⟨rfl, rfl, hnames, hretained, -⟩ := hpermits
        exact .save hnames hretained
      | _ => exact hpermits.elim
    | _ => cases phase <;> exact hpermits.elim

end ExtractClip

end Ods.S4
