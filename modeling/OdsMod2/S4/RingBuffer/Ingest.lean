import OdsMod2.S4.RingBuffer.Layout
import OdsMod2.S4.RingBuffer.SessionRun

/-!
# Ingest and extraction: the bytes behind the descriptors

`IngestFrameUseCase` allocates in the index and then writes to the arena
(`SharedMemoryFrameStore`); `ExtractCaptureWindowUseCase` asks the index for a segment and copies
the bytes of each descriptor out. Both are modelled over a `MediaBuffer`, the index with its
arena.

What the pair is for needs no offsets: it is a queue of complete frames that loses frames at the
old end only. `held` is that queue, read through the index, and `held_ingest` is the refinement:
an accepted ingest slides the queue by one frame, and no frame that stays in it changes a byte.
The layout of the arena enters here and nowhere else. `Stored`, the invariant of a run, says that
each held frame was ingested under its sequence number.
-/

namespace Ods.S4

open Region RingBuffer

/-! ### The arena -/

/-- A shared memory segment mapped into the process. -/
structure SharedMemoryFrameStore where
  name : String
  capacityBytes : Nat
  isClosed : Bool
  arena : List UInt8
  arena_length : arena.length = capacityBytes

namespace SharedMemoryFrameStore

/-- The constructor with `create`: `ftruncate` hands out zeroed bytes. -/
def create (name : String) (capacity : BufferCapacity) : SharedMemoryFrameStore where
  name := name
  capacityBytes := capacity.totalBytes
  isClosed := false
  arena := List.replicate capacity.totalBytes 0
  arena_length := List.length_replicate

def rejectOutOfBounds (store : SharedMemoryFrameStore) (start stop : Nat) :
    Except ApplicationError Unit :=
  if store.isClosed then
    .error ⟨.frameStore, s!"arena '{store.name}' is already closed"⟩
  else if stop > store.capacityBytes ∨ stop < start then
    .error ⟨.frameStore, s!"access outside the arena of {store.capacityBytes} bytes"⟩
  else
    .ok ()

theorem rejectOutOfBounds_ok {store : SharedMemoryFrameStore} {start stop : Nat}
    (h : store.rejectOutOfBounds start stop = .ok ()) : stop ≤ store.capacityBytes := by
  unfold rejectOutOfBounds at h
  split at h
  · cases h
  · split at h
    · cases h
    · omega

theorem rejectOutOfBounds_of_le {store : SharedMemoryFrameStore} {start stop : Nat}
    (hopen : store.isClosed = false) (h₁ : start ≤ stop) (h₂ : stop ≤ store.capacityBytes) :
    store.rejectOutOfBounds start stop = .ok () := by
  unfold rejectOutOfBounds
  rw [if_neg (by rw [hopen]; exact Bool.false_ne_true), if_neg (by omega)]

def write (store : SharedMemoryFrameStore) (offset : Nat) (data : List UInt8) :
    Except ApplicationError SharedMemoryFrameStore :=
  match h : store.rejectOutOfBounds offset (offset + data.length) with
  | .error error => .error error
  | .ok () =>
    .ok { store with
      arena := overwrite store.arena offset data
      arena_length := by
        rw [length_overwrite (by rw [store.arena_length]; exact rejectOutOfBounds_ok h),
          store.arena_length] }

def read (store : SharedMemoryFrameStore) (offset length : Nat) :
    Except ApplicationError (List UInt8) := do
  store.rejectOutOfBounds offset (offset + length)
  return slice store.arena offset length

/-- A write inside an open arena overwrites the region and nothing else. -/
theorem write_ok {store : SharedMemoryFrameStore} {offset : Nat} {data : List UInt8}
    (hopen : store.isClosed = false) (h : offset + data.length ≤ store.capacityBytes) :
    ∃ store', store.write offset data = .ok store' ∧
      store'.arena = overwrite store.arena offset data ∧
      store'.capacityBytes = store.capacityBytes ∧ store'.isClosed = false := by
  have hok := rejectOutOfBounds_of_le hopen (Nat.le_add_right offset data.length) h
  unfold write
  split
  · next error herror =>
    rw [hok] at herror
    cases herror
  · exact ⟨_, rfl, rfl, rfl, hopen⟩

theorem read_ok {store : SharedMemoryFrameStore} {offset length : Nat}
    (hopen : store.isClosed = false) (h : offset + length ≤ store.capacityBytes) :
    store.read offset length = .ok (slice store.arena offset length) := by
  unfold read
  rw [rejectOutOfBounds_of_le hopen (Nat.le_add_right offset length) h]
  rfl

end SharedMemoryFrameStore

/-! ### The two use cases -/

/-- A frame as the source delivers it; `data` is a view of `length` bytes. -/
structure CapturedFrame where
  captureTsNs : Nanoseconds
  data : List UInt8
  isKeyframe : Bool
  sessionId : String
  deriving DecidableEq, Repr

def CapturedFrame.length (frame : CapturedFrame) : Nat :=
  frame.data.length

/-- What the index sees of a frame. -/
def CapturedFrame.arrival (frame : CapturedFrame) : FrameArrival :=
  ⟨frame.captureTsNs, frame.length, frame.isKeyframe, frame.sessionId⟩

/-- The index with its arena. -/
structure MediaBuffer where
  ringBuffer : RingBuffer
  frameStore : SharedMemoryFrameStore

/-- `IngestFrameUseCase::execute`. -/
def ingestFrame (media : MediaBuffer) (frame : CapturedFrame) :
    Except ODSException Allocation × MediaBuffer :=
  match media.ringBuffer.allocate frame.captureTsNs frame.length frame.isKeyframe
      frame.sessionId with
  | (.error error, ringBuffer) => (.error (.domain error), { media with ringBuffer })
  | (.ok allocation, ringBuffer) =>
    match media.frameStore.write allocation.descriptor.offset frame.data with
    -- the index already counts the frame as live
    | .error error => (.error (.application error), { media with ringBuffer })
    | .ok frameStore => (.ok allocation, { ringBuffer, frameStore })

/-- What an ingest comes to. -/
inductive IngestOutcome (media : MediaBuffer) (frame : CapturedFrame) :
    Except ODSException Allocation × MediaBuffer → Prop
  | refused {error : DomainError} {ringBuffer : RingBuffer}
      (hrefused : media.ringBuffer.allocate frame.arrival.captureTsNs frame.arrival.length
        frame.arrival.isKeyframe frame.arrival.sessionId = (.error error, ringBuffer)) :
      IngestOutcome media frame (.error (.domain error), { media with ringBuffer })
  /-- The index has the frame, and the arena does not. -/
  | unwritten {allocation : Allocation} {ringBuffer : RingBuffer} {error : ApplicationError}
      (hallocated : media.ringBuffer.allocate frame.arrival.captureTsNs frame.arrival.length
        frame.arrival.isKeyframe frame.arrival.sessionId = (.ok allocation, ringBuffer))
      (hwrite : media.frameStore.write allocation.descriptor.offset frame.data = .error error) :
      IngestOutcome media frame (.error (.application error), { media with ringBuffer })
  | written {allocation : Allocation} {ringBuffer : RingBuffer} {frameStore : SharedMemoryFrameStore}
      (hallocated : media.ringBuffer.allocate frame.arrival.captureTsNs frame.arrival.length
        frame.arrival.isKeyframe frame.arrival.sessionId = (.ok allocation, ringBuffer))
      (hwrite : media.frameStore.write allocation.descriptor.offset frame.data = .ok frameStore) :
      IngestOutcome media frame (.ok allocation, { ringBuffer, frameStore })

theorem ingestFrame_outcome (media : MediaBuffer) (frame : CapturedFrame) :
    IngestOutcome media frame (ingestFrame media frame) := by
  unfold ingestFrame
  split
  · next error ringBuffer hallocate => exact .refused hallocate
  · next allocation ringBuffer hallocate =>
    split
    · next error hwrite => exact .unwritten hallocate hwrite
    · next frameStore hwrite => exact .written hallocate hwrite

/-- A frame copied out of the arena. -/
structure ExtractedFrame where
  sequence : Nat
  captureTsNs : Nanoseconds
  isKeyframe : Bool
  data : List UInt8
  deriving DecidableEq, Repr

structure ExtractedSegment where
  requestedWindow : CaptureWindow
  sessionId : String
  frames : List ExtractedFrame
  isTruncatedAtStart : Bool
  isTruncatedAtEnd : Bool

def materialize (store : SharedMemoryFrameStore) (descriptor : FrameDescriptor) :
    Except ODSException ExtractedFrame := do
  let data ← (store.read descriptor.offset descriptor.length).mapError .application
  return {
    sequence := descriptor.sequence
    captureTsNs := descriptor.captureTsNs
    isKeyframe := descriptor.isKeyframe
    data := data }

/-- `ExtractCaptureWindowUseCase::execute`. -/
def extractCaptureWindow (media : MediaBuffer) (window : CaptureWindow) :
    Except ODSException ExtractedSegment := do
  let segment ← (media.ringBuffer.segmentFor window).mapError .domain
  let frames ← segment.frames.mapM (materialize media.frameStore)
  return {
    requestedWindow := window
    sessionId := segment.sessionId
    frames := frames
    isTruncatedAtStart := segment.isTruncatedAtStart
    isTruncatedAtEnd := segment.isTruncatedAtEnd }

/-! ### The queue of complete frames -/

namespace MediaBuffer

/-- The frame behind a descriptor. -/
def frameAt (store : SharedMemoryFrameStore) (descriptor : FrameDescriptor) : ExtractedFrame where
  sequence := descriptor.sequence
  captureTsNs := descriptor.captureTsNs
  isKeyframe := descriptor.isKeyframe
  data := slice store.arena descriptor.offset descriptor.length

/-- The queue of complete frames the buffer stands for. -/
def held (media : MediaBuffer) : List ExtractedFrame :=
  media.ringBuffer.frames.map (frameAt media.frameStore)

/-- The index is well laid out over an open arena of its own size. -/
structure Sound (media : MediaBuffer) : Prop where
  layout : Layout media.ringBuffer
  sessionOpen : media.ringBuffer.SessionOpen
  capacity_eq : media.frameStore.capacityBytes = media.ringBuffer.capacity
  isOpen : media.frameStore.isClosed = false

/-- What the queue holds of an ingested frame. -/
def asHeld (sequence : Nat) (frame : CapturedFrame) : ExtractedFrame :=
  ⟨sequence, frame.captureTsNs, frame.isKeyframe, frame.data⟩

theorem Sound.new {capacity : BufferCapacity} {store : SharedMemoryFrameStore}
    (hcap : store.capacityBytes = capacity.totalBytes) (hopen : store.isClosed = false) :
    Sound ⟨RingBuffer.new capacity, store⟩ :=
  ⟨⟨[], [], 0, 0, Laps.empty rfl rfl⟩, fun _ => rfl, hcap, hopen⟩

/-- The arena has the capacity of the index, so there is room for what the index accepts. -/
theorem Sound.hasRoom {media : MediaBuffer} {frame : CapturedFrame} {allocation : Allocation}
    {ringBuffer : RingBuffer} (h : Sound media)
    (haccepted : Accepted media.ringBuffer frame.arrival allocation ringBuffer) :
    allocation.descriptor.offset + frame.data.length ≤ media.frameStore.capacityBytes := by
  have hnew : allocation.descriptor ∈ ringBuffer.frames := by
    obtain ⟨kept, -, hframes⟩ := haccepted.frames_eq
    rw [hframes]
    exact List.mem_append_right _ List.mem_cons_self
  have hfits := (h.layout.accepted haccepted).endOffset_le hnew
  rw [haccepted.descriptor_eq, haccepted.capacity_eq, ← h.capacity_eq] at hfits
  exact hfits

/-- A refused ingest leaves the index and the arena alone. -/
theorem ingestFrame_error {media after : MediaBuffer} {frame : CapturedFrame}
    {error : ODSException} (h : Sound media) (hing : ingestFrame media frame = (.error error, after)) :
    after = media := by
  have houtcome := ingestFrame_outcome media frame
  rw [hing] at houtcome
  cases houtcome with
  | refused hrefused => rw [allocate_error_eq h.sessionOpen hrefused]
  | unwritten hallocated hwrite =>
    -- an open arena refuses a write for its bounds only
    have hroom := h.hasRoom (allocate_accepted hallocated)
    obtain ⟨store, hwritten, -⟩ := SharedMemoryFrameStore.write_ok h.isOpen hroom
    rw [hwrite] at hwritten
    cases hwritten

/-- **The refinement.** An accepted ingest slides the queue of complete frames: the oldest ones
may go, the ingested frame is appended, and the frames that stay are byte for byte what they
were. -/
theorem held_ingest {media after : MediaBuffer} {frame : CapturedFrame} {allocation : Allocation}
    (h : Sound media) (hing : ingestFrame media frame = (.ok allocation, after)) :
    Sound after ∧
      allocation.descriptor.sequence = media.ringBuffer.nextSequence ∧
      after.ringBuffer.nextSequence = media.ringBuffer.nextSequence + 1 ∧
      ∃ kept, kept <:+ media.held ∧
        after.held = kept ++ [asHeld allocation.descriptor.sequence frame] := by
  have houtcome := ingestFrame_outcome media frame
  rw [hing] at houtcome
  cases houtcome with
  | @written _ rb store hallocated hwritten =>
    have hacc := allocate_accepted hallocated
    have hlayout := h.layout.accepted hacc
    obtain ⟨kept, hkept, hframes⟩ := hacc.frames_eq
    have hlen : allocation.descriptor.length = frame.data.length := by
      rw [hacc.descriptor_eq]
      rfl
    -- the write succeeds, so the arena is the one before with the payload laid over it
    have hroom := h.hasRoom hacc
    obtain ⟨store', hwrite, harena, hcap', hopen'⟩ :=
      SharedMemoryFrameStore.write_ok h.isOpen hroom
    obtain rfl : store' = store := Except.ok.inj (hwrite.symm.trans hwritten)
    have hin : allocation.descriptor.offset + frame.data.length ≤
        media.frameStore.arena.length := by
      rw [media.frameStore.arena_length]
      exact hroom
    refine ⟨⟨hlayout, hacc.sessionOpen, ?_, hopen'⟩, by rw [hacc.descriptor_eq],
      hacc.nextSequence_eq, kept.map (frameAt media.frameStore), ?_, ?_⟩
    · rw [hcap', h.capacity_eq, hacc.capacity_eq]
    · -- the session check keeps the queue or empties it
      rcases opened_cases media.ringBuffer frame.arrival.sessionId with ⟨hf, -⟩ | ⟨hf, -⟩
      · rw [hf] at hkept
        exact hkept.map _
      · rw [hf, List.suffix_nil] at hkept
        rw [hkept]
        exact List.nil_suffix
    · unfold held
      show rb.frames.map (frameAt store') = _
      rw [hframes, List.map_append]
      congr 1
      · -- the survivors share no byte with the written region
        refine List.map_congr_left (fun d hd => ?_)
        have hdis : Disjoint d allocation.descriptor := by
          have := hlayout.disjoint
          rw [hframes, List.pairwise_append] at this
          exact this.2.2 d hd _ List.mem_cons_self
        unfold frameAt
        rw [harena, slice_overwrite_disjoint hin]
        rcases hdis with hdis | hdis
        · exact Or.inl hdis
        · refine Or.inr ?_
          rw [← hlen]
          exact hdis
      -- and the new frame is read back as it was written
      · rw [List.map_singleton]
        unfold frameAt asHeld
        rw [hlen, harena, slice_overwrite_self hin, hacc.descriptor_eq]
        rfl

/-- No read at a live descriptor is refused. -/
theorem mapM_materialize {media : MediaBuffer} (h : Sound media) {frames : List FrameDescriptor}
    (hlive : ∀ d ∈ frames, d ∈ media.ringBuffer.frames) :
    frames.mapM (materialize media.frameStore)
      = .ok (frames.map (frameAt media.frameStore)) := by
  induction frames with
  | nil => rfl
  | cons d frames ih =>
    have hread : materialize media.frameStore d = .ok (frameAt media.frameStore d) := by
      unfold materialize
      rw [SharedMemoryFrameStore.read_ok h.isOpen
        (by rw [h.capacity_eq]; exact h.layout.endOffset_le (hlive d List.mem_cons_self))]
      rfl
    rw [List.mapM_cons, hread, ih (fun d' hd' => hlive d' (List.mem_cons_of_mem _ hd'))]
    rfl

/-- Extraction reads the queue: the frames of a segment are held ones. -/
theorem extract_held {media : MediaBuffer} {window : CaptureWindow} {segment : ExtractedSegment}
    (h : Sound media) (hex : extractCaptureWindow media window = .ok segment) :
    segment.frames <:+: media.held := by
  unfold extractCaptureWindow at hex
  cases hseg : media.ringBuffer.segmentFor window with
  | error error =>
    rw [hseg] at hex
    cases hex
  | ok index =>
    have hpart := segmentFor_infix hseg
    rw [hseg] at hex
    change (index.frames.mapM (materialize media.frameStore) >>= fun frames => _) = _ at hex
    rw [mapM_materialize h (fun d hd => hpart.subset hd)] at hex
    obtain rfl := Except.ok.inj hex
    exact hpart.map _

/-! ### Runs -/

/-- One call of a run; an accepted frame is logged under its sequence number. -/
def ingestStep (run : MediaBuffer × List (Nat × CapturedFrame)) (frame : CapturedFrame) :
    MediaBuffer × List (Nat × CapturedFrame) :=
  match ingestFrame run.1 frame with
  | (.ok allocation, media) => (media, run.2 ++ [(allocation.descriptor.sequence, frame)])
  | (.error _, media) => (media, run.2)

/-- A run of ingests on a fresh index over `store`, with the frames it accepted. -/
def ingestAll (capacity : BufferCapacity) (store : SharedMemoryFrameStore)
    (frames : List CapturedFrame) : MediaBuffer × List (Nat × CapturedFrame) :=
  frames.foldl ingestStep (⟨RingBuffer.new capacity, store⟩, [])

/-- Every held frame was ingested under its sequence number. -/
structure Stored (media : MediaBuffer) (log : List (Nat × CapturedFrame)) : Prop where
  sound : Sound media
  held : ∀ frame ∈ media.held, ∃ ingested,
    (frame.sequence, ingested) ∈ log ∧ frame = asHeld frame.sequence ingested
  issued : log.map Prod.fst = List.range media.ringBuffer.nextSequence

theorem Stored.step {run : MediaBuffer × List (Nat × CapturedFrame)} {frame : CapturedFrame}
    (h : Stored run.1 run.2) : Stored (ingestStep run frame).1 (ingestStep run frame).2 := by
  unfold ingestStep
  split
  · next allocation media hing =>
    obtain ⟨hsound, hseq, hnext, kept, hkept, hheld⟩ := held_ingest h.sound hing
    refine ⟨hsound, ?_, ?_⟩
    · intro f hf
      rw [hheld] at hf
      rcases List.mem_append.mp hf with hold | hnew
      · -- a frame that stays is what it was
        obtain ⟨ingested, hmem, heq⟩ := h.held f (hkept.subset hold)
        exact ⟨ingested, List.mem_append_left _ hmem, heq⟩
      · rw [List.mem_singleton] at hnew
        subst hnew
        exact ⟨frame, List.mem_append_right _ List.mem_cons_self, rfl⟩
    · rw [List.map_append, h.issued, hnext, List.range_succ, ← hseq]
      rfl
  · next error media hing =>
    rw [ingestFrame_error h.sound hing]
    exact h

theorem ingestAll_stored {capacity : BufferCapacity} {store : SharedMemoryFrameStore}
    (hcap : store.capacityBytes = capacity.totalBytes) (hopen : store.isClosed = false)
    (frames : List CapturedFrame) :
    Stored (ingestAll capacity store frames).1 (ingestAll capacity store frames).2 := by
  unfold ingestAll
  have hinit : Stored ⟨RingBuffer.new capacity, store⟩ [] :=
    ⟨Sound.new hcap hopen, fun _ hf => (by cases hf), rfl⟩
  suffices h : ∀ run : MediaBuffer × List (Nat × CapturedFrame), Stored run.1 run.2 →
      Stored (frames.foldl ingestStep run).1 (frames.foldl ingestStep run).2 from h _ hinit
  induction frames with
  | nil =>
    intro run h
    exact h
  | cons frame frames ih =>
    intro run h
    exact ih _ h.step

/-- The buffer returns what it was given. -/
structure Faithful (media : MediaBuffer) (log : List (Nat × CapturedFrame)) : Prop where
  /-- Every extracted frame carries the bytes, timestamp and keyframe flag ingested under its
  sequence number. -/
  extracted : ∀ window segment, extractCaptureWindow media window = .ok segment →
    ∀ frame ∈ segment.frames, ∃ ingested, (frame.sequence, ingested) ∈ log ∧
      frame.data = ingested.data ∧ frame.captureTsNs = ingested.captureTsNs ∧
      frame.isKeyframe = ingested.isKeyframe
  /-- Every live descriptor lies inside the arena. -/
  inside : ∀ d ∈ media.ringBuffer.frames, d.endOffset ≤ media.frameStore.capacityBytes
  /-- No two live descriptors share a byte. -/
  disjoint : media.ringBuffer.frames.Pairwise Disjoint
  /-- The arena holds, at each live descriptor, the bytes ingested for it. -/
  stored : ∀ d ∈ media.ringBuffer.frames, ∃ ingested, (d.sequence, ingested) ∈ log ∧
    slice media.frameStore.arena d.offset d.length = ingested.data
  /-- A sequence number names one ingested frame. -/
  unique : (log.map Prod.fst).Nodup

/-- **No clip leaves the buffer with reused bytes.** Over every arena, after every sequence of
ingests, refused ones included. -/
theorem ingestAll_faithful (capacity : BufferCapacity) (store : SharedMemoryFrameStore)
    (hcap : store.capacityBytes = capacity.totalBytes) (hopen : store.isClosed = false)
    (frames : List CapturedFrame) :
    Faithful (ingestAll capacity store frames).1 (ingestAll capacity store frames).2 := by
  have h := ingestAll_stored hcap hopen frames
  refine ⟨?_, ?_, h.sound.layout.disjoint, ?_, ?_⟩
  · -- a segment is read from the queue of complete frames
    intro window segment hex frame hmem
    have hheld : frame ∈ held (ingestAll capacity store frames).1 :=
      (extract_held h.sound hex).subset hmem
    obtain ⟨ingested, hlog, heq⟩ := h.held frame hheld
    refine ⟨ingested, hlog, ?_⟩
    rw [heq]
    exact ⟨rfl, rfl, rfl⟩
  · intro d hd
    rw [h.sound.capacity_eq]
    exact h.sound.layout.endOffset_le hd
  · intro d hd
    obtain ⟨ingested, hlog, heq⟩ := h.held _ (List.mem_map_of_mem hd)
    exact ⟨ingested, hlog, congrArg ExtractedFrame.data heq⟩
  · rw [h.issued]
    exact List.nodup_range

/-- A four-byte arena, and a keyframe whose successor does not fit beside it. -/
theorem ingestAll_faithful_wrap :
    Faithful
      (ingestAll ⟨4, by decide⟩ (SharedMemoryFrameStore.create "ring" ⟨4, by decide⟩)
        [⟨0, [1, 2, 3], true, "live"⟩, ⟨1, [4, 5], false, "live"⟩]).1
      (ingestAll ⟨4, by decide⟩ (SharedMemoryFrameStore.create "ring" ⟨4, by decide⟩)
        [⟨0, [1, 2, 3], true, "live"⟩, ⟨1, [4, 5], false, "live"⟩]).2 :=
  ingestAll_faithful _ _ rfl rfl _

end MediaBuffer

end Ods.S4
