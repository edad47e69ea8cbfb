import OdsMod2.Framework.ExceptList
import OdsMod2.S4.RingBuffer.Facade

/-!
# The calls of the facade

`onFrame`, the extraction and `readWindow` of `RingBufferRAMFacade`, each as one call under the mutex.
They differ in what they let through: `onFrame` absorbs a `DomainError` only, `readWindow` turns it
into an empty list, an extraction lets everything pass. What none of them catches is the
`FrameStoreError` of an arena that has been closed (`IsClosedArena`), and none of them throws it while
the arena is open.
-/

namespace Ods.S4

open MediaBuffer

/-- What a call throws. -/
def escaping {ε α : Type} : Except ε α → List ε
  | .ok _ => []
  | .error error => [error]

theorem mem_escaping {ε α : Type} {result : Except ε α} {error : ε} :
    error ∈ escaping result ↔ result = .error error := by
  cases result with
  | ok value => simp [escaping]
  | error error' => simp [escaping, eq_comm]

/-! ### The closed arena -/

/-- The `FrameStoreError` of an arena that is closed. -/
def ODSException.IsClosedArena (exception : ODSException) : Prop :=
  ∃ name : String, exception = .application ⟨.frameStore, s!"arena '{name}' is already closed"⟩

theorem not_isClosedArena_domain (error : DomainError) :
    ¬ (ODSException.domain error).IsClosedArena := by
  rintro ⟨name, h⟩
  cases h

theorem not_isClosedArena_of_kind {error : ApplicationError} (h : error.kind ≠ .frameStore) :
    ¬ (ODSException.application error).IsClosedArena := by
  rintro ⟨name, heq⟩
  exact h (congrArg ApplicationError.kind (ODSException.application.inj heq))

namespace SharedMemoryFrameStore

variable {store store' : SharedMemoryFrameStore} {offset : Nat} {data : List UInt8}

/-- `close`. The mapping is gone for good. -/
def close (store : SharedMemoryFrameStore) : SharedMemoryFrameStore :=
  { store with isClosed := true }

/-- An open arena refuses an access for its bounds only. -/
theorem rejectOutOfBounds_open {start stop : Nat} {error : ApplicationError}
    (hopen : store.isClosed = false) (h : store.rejectOutOfBounds start stop = .error error) :
    ¬ (ODSException.application error).IsClosedArena := by
  unfold rejectOutOfBounds at h
  rw [if_neg (by rw [hopen]; exact Bool.false_ne_true)] at h
  split at h
  · obtain rfl := Except.error.inj h
    -- the two texts begin differently
    rintro ⟨name, heq⟩
    have hmessage := congrArg ApplicationError.message (ODSException.application.inj heq)
    -- "access …" against "arena …"
    have hletters := congrArg (fun message : String => message.toList.take 2) hmessage
    simp [toString] at hletters
  · cases h

theorem isClosed_of_write (h : store.write offset data = .ok store') :
    store'.isClosed = store.isClosed := by
  unfold write at h
  split at h
  · cases h
  · obtain rfl := Except.ok.inj h
    rfl

theorem write_open {error : ApplicationError} (hopen : store.isClosed = false)
    (h : store.write offset data = .error error) :
    ¬ (ODSException.application error).IsClosedArena := by
  unfold write at h
  split at h
  · next error' hreject =>
    obtain rfl := Except.error.inj h
    exact rejectOutOfBounds_open hopen hreject
  · cases h

end SharedMemoryFrameStore

/-! ### The use cases on an open arena -/

section UseCases

variable {media : MediaBuffer} {frame : CapturedFrame}

theorem ingestFrame_isClosed :
    (ingestFrame media frame).2.frameStore.isClosed = media.frameStore.isClosed := by
  have houtcome := ingestFrame_outcome media frame
  generalize ingestFrame media frame = result at houtcome
  cases houtcome with
  | refused hrefused => rfl
  | unwritten hallocated hwrite => rfl
  | written hallocated hwrite => exact SharedMemoryFrameStore.isClosed_of_write hwrite

theorem ingestFrame_open {error : ODSException} (hopen : media.frameStore.isClosed = false)
    (h : (ingestFrame media frame).1 = .error error) : ¬ error.IsClosedArena := by
  have houtcome := ingestFrame_outcome media frame
  generalize ingestFrame media frame = result at houtcome h
  cases houtcome with
  | refused hrefused =>
    obtain rfl := Except.error.inj h
    exact not_isClosedArena_domain _
  | unwritten hallocated hwrite =>
    obtain rfl := Except.error.inj h
    exact SharedMemoryFrameStore.write_open hopen hwrite
  | written hallocated hwrite => cases h

theorem materialize_open {store : SharedMemoryFrameStore} {descriptor : FrameDescriptor}
    {error : ODSException} (hopen : store.isClosed = false)
    (h : materialize store descriptor = .error error) : ¬ error.IsClosedArena := by
  unfold materialize SharedMemoryFrameStore.read at h
  cases hreject : store.rejectOutOfBounds descriptor.offset
      (descriptor.offset + descriptor.length) with
  | ok value =>
    rw [hreject] at h
    cases h
  | error error' =>
    rw [hreject] at h
    obtain rfl := Except.error.inj h
    exact SharedMemoryFrameStore.rejectOutOfBounds_open hopen hreject

theorem extractCaptureWindow_open {window : CaptureWindow} {error : ODSException}
    (hopen : media.frameStore.isClosed = false)
    (h : extractCaptureWindow media window = .error error) : ¬ error.IsClosedArena := by
  unfold extractCaptureWindow at h
  cases hsegment : media.ringBuffer.segmentFor window with
  | error error' =>
    rw [hsegment] at h
    obtain rfl := Except.error.inj h
    exact not_isClosedArena_domain _
  | ok segment =>
    rw [hsegment] at h
    cases hframes : segment.frames.mapM (materialize media.frameStore) with
    | error error' =>
      change (segment.frames.mapM (materialize media.frameStore) >>= fun frames => _) = _ at h
      rw [hframes] at h
      obtain rfl := Except.error.inj h
      obtain ⟨descriptor, -, hread⟩ := exists_error_of_mapM hframes
      exact materialize_open hopen hread
    | ok frames =>
      change (segment.frames.mapM (materialize media.frameStore) >>= fun frames => _) = _ at h
      rw [hframes] at h
      cases h

end UseCases

namespace CaptureClockBridge

/-- The sum that `toCaptureTsNs` stores in 64 bits. -/
def toCaptureTsNs (clock : CaptureClockBridge) (wallClock : TimePoint) : Nanoseconds :=
  clock.anchorCaptureTsNs + (wallClock - clock.anchorWallClock)

end CaptureClockBridge

/-- The constructor of `CaptureWindow`. -/
def CaptureWindow.create (startNs endNs : Nanoseconds) : Except ODSException CaptureWindow :=
  if h : startNs < endNs then
    .ok ⟨startNs, endNs, h⟩
  else
    .error (.domain ⟨.invalidTimeWindow, "startNs must be strictly before endNs"⟩)

/-! ### The calls -/

namespace RingBufferRAMFacade

/-- As the constructor leaves it. -/
def constructed (capacity : BufferCapacity) (store : SharedMemoryFrameStore) :
    RingBufferRAMFacade :=
  { new capacity store with isCapturing := false }

/-- `onFrame` as one call. An `ApplicationError` of the ingest is not caught and leaves the callback,
into the thread of the source. -/
def onFrame (facade : RingBufferRAMFacade) (now : TimePoint) (frame : CapturedFrame) :
    Except ODSException Unit × RingBufferRAMFacade :=
  match ingestFrame facade.media frame with
  | (.ok allocation, media) =>
    -- a new session is a new clock, and this frame anchors it
    let clock := if allocation.sessionRestarted then facade.clock.reset else facade.clock
    (.ok (), { facade with
      media := media
      clock := clock.anchorIfNeeded now frame.captureTsNs })
  -- refused by the index: counted and absorbed
  | (.error (.domain _), media) =>
    (.ok (), { facade with
      media := media
      framesRejectedTotal := facade.framesRejectedTotal + 1 })
  | (.error error, media) => (.error error, { facade with media := media })

/-- Frames that are delivered one after the other, with what leaves the callback meanwhile. -/
def onFrames : List (TimePoint × CapturedFrame) → RingBufferRAMFacade →
    List ODSException × RingBufferRAMFacade
  | [], facade => ([], facade)
  | (now, frame) :: deliveries, facade =>
    let (result, facade) := facade.onFrame now frame
    let (escaped, facade) := onFrames deliveries facade
    (escaping result ++ escaped, facade)

/-- `stopCapture` at its end. -/
def closeStore (facade : RingBufferRAMFacade) : RingBufferRAMFacade :=
  { facade with media := { facade.media with frameStore := facade.media.frameStore.close } }

/-- `extractCaptureWindow` once its wait is over. -/
def copyWindow (facade : RingBufferRAMFacade) (window : CaptureWindow) :
    Except ODSException ExtractedSegment :=
  if facade.isCapturing then
    extractCaptureWindow facade.media window
  else
    .error (.application
      ⟨.bufferNotRunning, "capture stopped while waiting for the post-event"⟩)

/-- What `readWindow` does in its `try` block. -/
def tryReadWindow (facade : RingBufferRAMFacade) (start stop : TimePoint) :
    Except ODSException (List (List UInt8)) := do
  let window ← CaptureWindow.create (facade.clock.toCaptureTsNs start)
    (facade.clock.toCaptureTsNs stop)
  if facade.isCapturing then
    let segment ← extractCaptureWindow facade.media window
    return segment.frames.map ExtractedFrame.data
  else
    return []

def readWindow (facade : RingBufferRAMFacade) (start stop : TimePoint) :
    Except ODSException (List (List UInt8)) :=
  if facade.clock.anchored then
    -- a window without frames, or an empty one, is no error here
    match facade.tryReadWindow start stop with
    | .error (.domain _) => .ok []
    | result => result
  else
    .ok []

/-- The arena is open. -/
def IsOpen (facade : RingBufferRAMFacade) : Prop :=
  facade.media.frameStore.isClosed = false

variable {facade : RingBufferRAMFacade}

/-! ### What the calls throw and keep -/

@[simp] theorem onFrame_isCapturing (now : TimePoint) (frame : CapturedFrame) :
    (facade.onFrame now frame).2.isCapturing = facade.isCapturing := by
  unfold onFrame
  split <;> rfl

@[simp] theorem onFrame_isClosed (now : TimePoint) (frame : CapturedFrame) :
    (facade.onFrame now frame).2.media.frameStore.isClosed =
      facade.media.frameStore.isClosed := by
  have hkeeps : (ingestFrame facade.media frame).2.frameStore.isClosed = _ := ingestFrame_isClosed
  unfold onFrame
  split
  all_goals
    next hingest =>
    rw [hingest] at hkeeps
    exact hkeeps

theorem onFrame_open {now : TimePoint} {frame : CapturedFrame} {error : ODSException}
    (hopen : facade.IsOpen) (h : (facade.onFrame now frame).1 = .error error) :
    ¬ error.IsClosedArena := by
  unfold onFrame at h
  split at h
  · cases h
  · cases h
  · next hingest =>
    obtain rfl := Except.error.inj h
    exact ingestFrame_open hopen (congrArg Prod.fst hingest)

@[simp] theorem onFrames_isCapturing (deliveries : List (TimePoint × CapturedFrame)) :
    (facade.onFrames deliveries).2.isCapturing = facade.isCapturing := by
  induction deliveries generalizing facade with
  | nil => rfl
  | cons delivery deliveries ih => exact ih.trans (onFrame_isCapturing _ _)

@[simp] theorem onFrames_isClosed (deliveries : List (TimePoint × CapturedFrame)) :
    (facade.onFrames deliveries).2.media.frameStore.isClosed =
      facade.media.frameStore.isClosed := by
  induction deliveries generalizing facade with
  | nil => rfl
  | cons delivery deliveries ih => exact ih.trans (onFrame_isClosed _ _)

theorem onFrames_open {deliveries : List (TimePoint × CapturedFrame)} (hopen : facade.IsOpen) :
    ∀ error ∈ (facade.onFrames deliveries).1, ¬ error.IsClosedArena := by
  induction deliveries generalizing facade with
  | nil => exact List.forall_mem_nil _
  | cons delivery deliveries ih =>
    intro error herror
    rcases List.mem_append.mp herror with hfirst | hrest
    · exact onFrame_open hopen (mem_escaping.mp hfirst)
    · exact ih ((onFrame_isClosed _ _).trans hopen) error hrest

theorem copyWindow_open {window : CaptureWindow} {error : ODSException}
    (hopen : facade.isCapturing = true → facade.IsOpen)
    (h : facade.copyWindow window = .error error) : ¬ error.IsClosedArena := by
  unfold copyWindow at h
  split at h
  · next hcapturing => exact extractCaptureWindow_open (hopen hcapturing) h
  · obtain rfl := Except.error.inj h
    refine not_isClosedArena_of_kind ?_
    decide

theorem tryReadWindow_open {start stop : TimePoint} {error : ODSException}
    (hopen : facade.isCapturing = true → facade.IsOpen)
    (h : facade.tryReadWindow start stop = .error error) : ¬ error.IsClosedArena := by
  unfold tryReadWindow CaptureWindow.create at h
  split at h
  · change (if facade.isCapturing then _ else _) = _ at h
    split at h
    · next hcapturing =>
      cases hcopy : extractCaptureWindow facade.media _ with
      | ok segment =>
        rw [hcopy] at h
        cases h
      | error error' =>
        rw [hcopy] at h
        obtain rfl := Except.error.inj h
        exact extractCaptureWindow_open (hopen hcapturing) hcopy
    · cases h
  · obtain rfl := Except.error.inj h
    exact not_isClosedArena_domain _

theorem readWindow_open {start stop : TimePoint} {error : ODSException}
    (hopen : facade.isCapturing = true → facade.IsOpen)
    (h : facade.readWindow start stop = .error error) : ¬ error.IsClosedArena := by
  unfold readWindow at h
  split at h
  · split at h
    · cases h
    · exact tryReadWindow_open hopen h
  · cases h

/-- Delivered between two calls, a frame does to the facade what the steps of the source's thread
do. -/
theorem deliver_eq_onFrame {c : Capture} (hidle : c.facade.source = .idle) (now : TimePoint)
    (frame : CapturedFrame) (h : (c.facade.onFrame now frame).1 = .ok ()) :
    (c.deliver now frame).facade = (c.facade.onFrame now frame).2 := by
  -- what the thread had in hand was finished before, so only this frame is left
  obtain ⟨⟨media, clock, isCapturing, rejected, source⟩, chronicle⟩ := c
  obtain rfl : source = .idle := hidle
  have hfinish : ∀ chronicle, Capture.finish now
      ⟨⟨media, clock, isCapturing, rejected, .idle⟩, chronicle⟩ =
        ⟨⟨media, clock, isCapturing, rejected, .idle⟩, chronicle⟩ := fun _ => rfl
  unfold Capture.deliver Capture.receive
  rw [hfinish]
  unfold onFrame at h ⊢
  dsimp only at h ⊢
  cases hingest : ingestFrame media frame with
  | mk result after =>
    rw [hingest] at h
    cases result with
    | ok allocation =>
      cases hrestarted : allocation.sessionRestarted with
      | true => simp [Capture.finish, Capture.resetIfRestarted, Capture.anchorAt, hrestarted]
      | false => simp [Capture.finish, Capture.resetIfRestarted, Capture.anchorAt, hrestarted]
    | error error =>
      cases error with
      | domain error => rfl
      | application error => cases h
      | mediaMux message => cases h

/-! ### What the calls leave in the buffer -/

theorem onFrame_media (now : TimePoint) (frame : CapturedFrame) :
    (facade.onFrame now frame).2.media = (ingestFrame facade.media frame).2 := by
  unfold onFrame
  split <;> next hingest => rw [hingest]

theorem onFrames_cons (delivery : TimePoint × CapturedFrame)
    (deliveries : List (TimePoint × CapturedFrame)) :
    (facade.onFrames (delivery :: deliveries)).2 =
      ((facade.onFrame delivery.1 delivery.2).2.onFrames deliveries).2 := rfl

theorem onFrames_append (deliveries deliveries' : List (TimePoint × CapturedFrame)) :
    (facade.onFrames (deliveries ++ deliveries')).2 =
      ((facade.onFrames deliveries).2.onFrames deliveries').2 := by
  induction deliveries generalizing facade with
  | nil => rfl
  | cons delivery deliveries ih => exact ih

/-- What the deliveries leave in the buffer. -/
theorem onFrames_media (capacity : BufferCapacity) (store : SharedMemoryFrameStore)
    (deliveries : List (TimePoint × CapturedFrame)) :
    ((new capacity store).onFrames deliveries).2.media =
      (ingestAll capacity store (deliveries.map Prod.snd)).1 := by
  suffices hrun : ∀ (facade : RingBufferRAMFacade) (run : MediaBuffer × List (Nat × CapturedFrame)),
      facade.media = run.1 → (facade.onFrames deliveries).2.media =
        ((deliveries.map Prod.snd).foldl ingestStep run).1 from
    hrun _ _ rfl
  induction deliveries with
  | nil => exact fun _ _ h => h
  | cons delivery deliveries ih =>
    intro facade run h
    rw [onFrames_cons, List.map_cons, List.foldl_cons]
    refine ih _ (ingestStep run delivery.2) ?_
    rw [onFrame_media, h]
    unfold ingestStep
    split <;> next hingest => rw [hingest]

end RingBufferRAMFacade

end Ods.S4
