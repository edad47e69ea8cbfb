import OdsMod2.S4.Errors
import OdsMod2.Framework.Region

/-!
# The ring buffer index

`RingBuffer` (`ring_buffer.hpp`, `ring_buffer.cpp`) is the circular index of frames: it decides
where in the arena a new frame is written, which older frames stop existing because of that
write, and which frames answer a time window. It touches no bytes.

The deque `m_frames` is a list with the oldest frame at its head. A member function that may
throw returns its outcome *and* the buffer it leaves behind, since a C++ exception does not undo
the writes made before it. Sizes and offsets are natural numbers: an arena is a mapped object, so
its capacity is below `2 ^ 63` and no `std::size_t` sum of the index wraps around
(`RingBuffer.Layout.writeOffset_add_lt`).
-/

namespace Ods.S4

/-- Nanoseconds on the capture clock. -/
abbrev Nanoseconds := Int

/-! ### Value objects -/

/-- A size in bytes for the arena; its constructor throws `InvalidCapacityError` at zero. -/
structure BufferCapacity where
  totalBytes : Nat
  totalBytes_pos : 0 < totalBytes

/-- A window on the capture clock; its constructor throws `InvalidTimeWindowError` unless
`startNs < endNs`. -/
structure CaptureWindow where
  startNs : Nanoseconds
  endNs : Nanoseconds
  start_lt_end : startNs < endNs

def CaptureWindow.contains (window : CaptureWindow) (timestampNs : Nanoseconds) : Bool :=
  decide (window.startNs ≤ timestampNs ∧ timestampNs ≤ window.endNs)

/-- The catalogue card of a frame: everything about it but its bytes. -/
structure FrameDescriptor where
  /-- Global arrival order, never restarted. -/
  sequence : Nat := 0
  captureTsNs : Nanoseconds := 0
  /-- Position in the arena. -/
  offset : Nat := 0
  length : Nat := 0
  isKeyframe : Bool := false
  sessionId : String := ""
  deriving DecidableEq, Repr, Inhabited

namespace FrameDescriptor

def endOffset (frame : FrameDescriptor) : Nat :=
  frame.offset + frame.length

/-- The frame shares at least one byte with the region `[start, stop)`. -/
def occupies (frame : FrameDescriptor) (start stop : Nat) : Bool :=
  decide (frame.offset < stop ∧ start < frame.endOffset)

end FrameDescriptor

/-- A decodable run of descriptors that covers the requested window. -/
structure BufferSegment where
  requestedWindow : CaptureWindow
  frames : List FrameDescriptor
  isTruncatedAtStart : Bool
  isTruncatedAtEnd : Bool

/-- `frames.front().sessionId`. -/
def BufferSegment.sessionId (segment : BufferSegment) : String :=
  (segment.frames.head?.getD default).sessionId

/-- What `allocate` answers: where to write, and who died in that write. -/
structure Allocation where
  descriptor : FrameDescriptor
  evicted : List FrameDescriptor
  sessionRestarted : Bool
  deriving DecidableEq, Repr

/-! ### The entity -/

structure RingBuffer where
  capacity : Nat
  frames : List FrameDescriptor
  writeOffset : Nat
  nextSequence : Nat
  hasSession : Bool
  sessionId : String
  ingestedTotal : Nat
  evictedTotal : Nat
  deriving DecidableEq, Repr

namespace RingBuffer

/-- The constructor `RingBuffer(BufferCapacity)`. -/
def new (capacity : BufferCapacity) : RingBuffer where
  capacity := capacity.totalBytes
  frames := []
  writeOffset := 0
  nextSequence := 0
  hasSession := false
  sessionId := ""
  ingestedTotal := 0
  evictedTotal := 0

/-! ### Writing -/

def rejectIfTooLarge (buffer : RingBuffer) (length : Nat) : Except DomainError Unit :=
  if length = 0 ∨ length > buffer.capacity then
    .error ⟨.frameTooLarge,
      s!"Frame of {length} bytes does not fit in an arena of {buffer.capacity} bytes"⟩
  else
    .ok ()

/-- A new session invalidates the whole buffer; the flag says whether that happened. -/
def switchSessionIfNeeded (buffer : RingBuffer) (sessionId : String) : Bool × RingBuffer :=
  if !buffer.hasSession then
    -- the first frame opens a session, there is nothing to invalidate
    (false, { buffer with hasSession := true, sessionId := sessionId })
  else if buffer.sessionId = sessionId then
    (false, buffer)
  else
    -- `nextSequence` goes on: a number is never issued twice
    (true, { buffer with
      evictedTotal := buffer.evictedTotal + buffer.frames.length
      frames := []
      writeOffset := 0
      sessionId := sessionId })

def rejectIfClockWentBackwards (buffer : RingBuffer) (captureTsNs : Nanoseconds) :
    Except DomainError Unit :=
  match buffer.frames.getLast? with
  | none => .ok ()
  | some last =>
    if captureTsNs < last.captureTsNs then
      .error ⟨.nonMonotonicTimestamp,
        s!"captureTs {captureTsNs} < last {last.captureTsNs} in session {buffer.sessionId}"⟩
    else
      -- equal timestamps are accepted
    .ok ()

/-- On a wrap the frames of the previous lap that are still ahead of the write pointer are
discarded at once. -/
def discardFramesBeyondWritePointer (buffer : RingBuffer) : RingBuffer :=
  let isBeyond := fun (frame : FrameDescriptor) => decide (buffer.writeOffset ≤ frame.offset)
  { buffer with
    frames := buffer.frames.dropWhile isBeyond
    evictedTotal := buffer.evictedTotal + (buffer.frames.takeWhile isBeyond).length }

def offsetFor (buffer : RingBuffer) (length : Nat) : Nat × RingBuffer :=
  if buffer.writeOffset + length ≤ buffer.capacity then
    (buffer.writeOffset, buffer)
  else
    -- a frame is never split: the rest of the arena stays unused in this lap
    (0, buffer.discardFramesBeyondWritePointer)

def evictOverlapping (buffer : RingBuffer) (offset length : Nat) :
    List FrameDescriptor × RingBuffer :=
  -- only the front of the queue is looked at, up to the first frame that is not hit
  let isHit := fun (frame : FrameDescriptor) => frame.occupies offset (offset + length)
  let evicted := buffer.frames.takeWhile isHit
  (evicted, { buffer with
    frames := buffer.frames.dropWhile isHit
    evictedTotal := buffer.evictedTotal + evicted.length })

def registerFrame (buffer : RingBuffer) (captureTsNs : Nanoseconds) (offset length : Nat)
    (isKeyframe : Bool) (sessionId : String) : FrameDescriptor × RingBuffer :=
  let descriptor : FrameDescriptor :=
    { sequence := buffer.nextSequence
      captureTsNs := captureTsNs
      offset := offset
      length := length
      isKeyframe := isKeyframe
      sessionId := sessionId }
  (descriptor, { buffer with
    frames := buffer.frames ++ [descriptor]
    writeOffset := offset + length
    nextSequence := buffer.nextSequence + 1
    ingestedTotal := buffer.ingestedTotal + 1 })

/-- Reserve room for a frame. -/
def allocate (buffer : RingBuffer) (captureTsNs : Nanoseconds) (length : Nat)
    (isKeyframe : Bool) (sessionId : String) : Except DomainError Allocation × RingBuffer :=
  match buffer.rejectIfTooLarge length with
  | .error error => (.error error, buffer)
  | .ok () =>
    -- the session is switched even if the frame is refused by the clock
    let (sessionRestarted, buffer) := buffer.switchSessionIfNeeded sessionId
    match buffer.rejectIfClockWentBackwards captureTsNs with
    | .error error => (.error error, buffer)
    | .ok () =>
      let (offset, buffer) := buffer.offsetFor length
      let (evicted, buffer) := buffer.evictOverlapping offset length
      let (descriptor, buffer) :=
        buffer.registerFrame captureTsNs offset length isKeyframe sessionId
      (.ok ⟨descriptor, evicted, sessionRestarted⟩, buffer)

/-! ### Reading -/

/-- The index of the last element that satisfies `p`: the value a loop over the indices leaves
in a variable it overwrites at every hit. -/
def lastIndexWhere {α : Type} (p : α → Bool) : List α → Option Nat
  | [] => none
  | x :: xs =>
    -- a later hit overwrites this one
    match lastIndexWhere p xs with
    | some index => some (index + 1)
    | none => if p x then some 0 else none

def rejectIfWindowAbsent (frames : List FrameDescriptor) (window : CaptureWindow) :
    Except DomainError Unit :=
  if frames.any (fun frame => window.contains frame.captureTsNs) then
    .ok ()
  else
    .error ⟨.windowNotInBuffer,
      s!"No frame in [{window.startNs}, {window.endNs}] is in the buffer"⟩

/-- The last keyframe at or before the start of the window; when it is gone, the first keyframe
inside the window. -/
def decodableStartIndex (frames : List FrameDescriptor) (window : CaptureWindow) :
    Except DomainError Nat :=
  match lastIndexWhere
      (fun frame => frame.isKeyframe && decide (frame.captureTsNs ≤ window.startNs)) frames with
  | some lastKeyframeBefore => .ok lastKeyframeBefore
  | none =>
    match frames.findIdx?
        (fun frame => frame.isKeyframe && window.contains frame.captureTsNs) with
    | some index => .ok index
    | none => .error DomainErrorKind.noDecodableStart.default

def lastIndexWithin (frames : List FrameDescriptor) (window : CaptureWindow) : Nat :=
  (lastIndexWhere (fun frame => decide (frame.captureTsNs ≤ window.endNs)) frames).getD 0

/-- The decodable descriptors that cover the window, with the truncation flags. The two indexed
reads are in range whenever they are made (`default` is never read). -/
def segmentFor (buffer : RingBuffer) (window : CaptureWindow) :
    Except DomainError BufferSegment := do
  rejectIfWindowAbsent buffer.frames window
  let startIndex ← decodableStartIndex buffer.frames window
  let endIndex := lastIndexWithin buffer.frames window
  return {
    requestedWindow := window
    frames := (buffer.frames.take (endIndex + 1)).drop startIndex
    isTruncatedAtStart :=
      decide (window.startNs < (buffer.frames[startIndex]?.getD default).captureTsNs)
    isTruncatedAtEnd :=
      decide ((buffer.frames.getLast?.getD default).captureTsNs < window.endNs) }

end RingBuffer

end Ods.S4
