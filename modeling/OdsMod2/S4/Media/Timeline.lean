import Mathlib.Tactic.Ring
import OdsMod2.Framework.ExceptList
import OdsMod2.S4.RingBuffer.Ingest
import OdsMod2.S4.RingBuffer.Segment

/-!
# The timeline of a container

`GStreamerMp4Muxer` stamps the frames of a segment before it pushes them into the pipeline: the
presentation times are the running sum of the gaps between capture times, a frame without bytes is
passed over together with its gap, and a frame lasts until the next one. What the pipeline makes of
the buffers is up to it.

For a segment out of a ring buffer nothing of this is lost (`timeline_extracted`): the index refuses
empty frames and instants that go back, so that no gap is clamped and none is passed over, and the
sum of the gaps is the distance to the first frame.

A `GstClockTime` is a natural number here. It stays below `2 ^ 64` as long as the segment is not
longer than that (`KeepsSpacing.pts_lt`).
-/

namespace Ods.S4

open RingBuffer

/-- A buffer as it is pushed into the pipeline. -/
structure GstBuffer where
  data : List UInt8
  pts : ℕ
  dts : ℕ
  duration : ℕ
  deriving DecidableEq, Repr

namespace GStreamerMp4Muxer

def nanosecondsPerSecond : ℕ := 1000000000

/-- The first sample is not at zero, which the container format reserves. -/
def firstSampleTs : ℕ := 1

/-! ### What the code computes -/

/-- A clock that goes back makes no gap. -/
def gap (previous current : Nanoseconds) : ℕ :=
  if current > previous then (current - previous).toNat else 0

/-- The gap in front of each of the frames after `previous`. -/
def gapsAfter (previous : ExtractedFrame) : List ExtractedFrame → List ℕ
  | [] => []
  | frame :: frames => gap previous.captureTsNs frame.captureTsNs :: gapsAfter frame frames

/-- `deltas`: nothing stands in front of the first frame. -/
def deltas : List ExtractedFrame → List ℕ
  | [] => []
  | frame :: frames => 0 :: gapsAfter frame frames

/-- `lastDelta`. -/
def lastDelta (deltas : List ℕ) : ℕ :=
  deltas.foldl (fun last delta => if delta > 0 then delta else last) 0

/-- How long a sample lasts, with the gaps behind it. -/
def sampleDuration (lastDelta : ℕ) (following : List ℕ) : ℕ :=
  let duration := following.head?.getD lastDelta
  if duration = 0 then nanosecondsPerSecond / 30 else duration

/-- The loop over the frames, each with its gap. -/
def pushAll (lastDelta : ℕ) :
    ℕ → List ExtractedFrame → List ℕ → List GstBuffer
  | runningTs, frame :: frames, delta :: deltas =>
    -- the gap in front of an empty frame is left out of the sum
    if frame.data = [] then pushAll lastDelta runningTs frames deltas
    else
      { data := frame.data
        pts := runningTs + delta
        dts := runningTs + delta
        duration := sampleDuration lastDelta deltas } ::
          pushAll lastDelta (runningTs + delta) frames deltas
  | _, _, _ => []

def timeline (frames : List ExtractedFrame) : List GstBuffer :=
  pushAll (lastDelta (deltas frames)) firstSampleTs frames (deltas frames)

/-- `mux`, with what the pipeline makes of the buffers. -/
def mux (pipeline : List GstBuffer → Except ODSException (List UInt8)) (segment : ExtractedSegment) :
    Except ODSException (List UInt8) :=
  if segment.frames = [] then .error (.mediaMux "cannot mux a segment with no frames")
  else pipeline (timeline segment.frames)

/-! ### The timeline of a segment -/

/-- The frames a muxer is made for. -/
structure Muxable (frames : List ExtractedFrame) : Prop where
  ne_nil : frames ≠ []
  data_ne_nil : ∀ frame ∈ frames, frame.data ≠ []
  clock : frames.Pairwise fun f g => f.captureTsNs ≤ g.captureTsNs

/-- The buffer of a frame, on a timeline that starts with the instant `origin`. -/
structure StampedAt (origin : Nanoseconds) (frame : ExtractedFrame) (next : Option ExtractedFrame)
    (buffer : GstBuffer) : Prop where
  data_eq : buffer.data = frame.data
  pts_eq : (buffer.pts : ℤ) = 1 + (frame.captureTsNs - origin)
  dts_eq : buffer.dts = buffer.pts
  duration_pos : 0 < buffer.duration
  duration_eq : ∀ follower, next = some follower → frame.captureTsNs < follower.captureTsNs →
    (buffer.duration : ℤ) = follower.captureTsNs - frame.captureTsNs

theorem gap_of_le {previous current : Nanoseconds} (h : previous ≤ current) :
    (gap previous current : ℤ) = current - previous := by
  unfold gap
  split
  · exact Int.toNat_of_nonneg (Int.sub_nonneg_of_le h)
  · rename_i hnot
    -- one instant, no gap
    rw [le_antisymm (not_lt.mp hnot) h, sub_self]
    rfl

theorem sampleDuration_pos (lastDelta : ℕ) (following : List ℕ) :
    0 < sampleDuration lastDelta following := by
  show 0 < if following.head?.getD lastDelta = 0 then _ else _
  split
  · decide
  · rename_i hne
    exact Nat.pos_of_ne_zero hne

/-- Behind a gap, a sample lasts as long as the gap. -/
theorem sampleDuration_gap {lastDelta delta : ℕ} {following : List ℕ}
    (h : delta ≠ 0) : sampleDuration lastDelta (delta :: following) = delta :=
  if_neg h

theorem pushAll_cons {lastDelta runningTs delta : ℕ} {frame : ExtractedFrame}
    (h : frame.data ≠ []) (frames : List ExtractedFrame) (deltas : List ℕ) :
    pushAll lastDelta runningTs (frame :: frames) (delta :: deltas) =
      { data := frame.data
        pts := runningTs + delta
        dts := runningTs + delta
        duration := sampleDuration lastDelta deltas } ::
          pushAll lastDelta (runningTs + delta) frames deltas :=
  if_neg h

/-- **One round of the loop.** As long as the running time is that of the frame, the frame is stamped
with it, and the next gap takes it on to the next frame. -/
theorem pushAll_stamped {origin : Nanoseconds} {lastDelta : ℕ}
    {frames : List ExtractedFrame} {frame : ExtractedFrame} {runningTs delta : ℕ}
    (hdata : ∀ f ∈ frame :: frames, f.data ≠ [])
    (hclock : (frame :: frames).Pairwise fun f g => f.captureTsNs ≤ g.captureTsNs)
    (hrunning : ((runningTs + delta : ℕ) : ℤ) = 1 + (frame.captureTsNs - origin)) :
    (pushAll lastDelta runningTs (frame :: frames) (delta :: gapsAfter frame frames)).length =
        (frame :: frames).length ∧
      ∀ (i : ℕ) (f : ExtractedFrame) (buffer : GstBuffer), (frame :: frames)[i]? = some f →
        (pushAll lastDelta runningTs (frame :: frames)
          (delta :: gapsAfter frame frames))[i]? = some buffer →
        StampedAt origin f (frame :: frames)[i + 1]? buffer := by
  induction frames generalizing frame runningTs delta with
  | nil =>
    rw [pushAll_cons (hdata frame List.mem_cons_self)]
    refine ⟨rfl, fun i f buffer hf hbuffer => ?_⟩
    match i with
    | 0 =>
      obtain rfl := Option.some.inj hf
      obtain rfl := Option.some.inj hbuffer
      exact ⟨rfl, hrunning, rfl, sampleDuration_pos _ _, fun follower hnext _ => by cases hnext⟩
    | i + 1 => cases hf
  | cons next frames ih =>
    have hle : frame.captureTsNs ≤ next.captureTsNs :=
      (List.pairwise_cons.mp hclock).1 next List.mem_cons_self
    have hgap := gap_of_le hle
    -- the running time and the next gap are the time of the next frame
    obtain ⟨hlength, hstamped⟩ := ih (fun f hf => hdata f (List.mem_cons_of_mem frame hf))
      (List.pairwise_cons.mp hclock).2
      (show ((runningTs + delta + gap frame.captureTsNs next.captureTsNs : ℕ) : ℤ) = _ by
        rw [Nat.cast_add, hrunning, hgap]
        ring)
    rw [gapsAfter, pushAll_cons (hdata frame List.mem_cons_self)]
    refine ⟨congrArg Nat.succ hlength, fun i f buffer hf hbuffer => ?_⟩
    match i with
    | 0 =>
      obtain rfl := Option.some.inj hf
      obtain rfl := Option.some.inj hbuffer
      refine ⟨rfl, hrunning, rfl, sampleDuration_pos _ _, fun follower hnext hlt => ?_⟩
      obtain rfl := Option.some.inj hnext
      have hpos := Int.sub_pos_of_lt hlt
      rw [← hgap] at hpos ⊢
      -- between two different instants there is a gap
      exact congrArg Nat.cast (sampleDuration_gap (Nat.pos_iff_ne_zero.mp (Int.natCast_pos.mp hpos)))
    | i + 1 => exact hstamped i f buffer hf hbuffer

/-- The segment is not longer than clock times of 64 bits reach. -/
def WithinClock (frames : List ExtractedFrame) : Prop :=
  ∀ first last, frames[0]? = some first → frames.getLast? = some last →
    (1 : ℤ) + (last.captureTsNs - first.captureTsNs) < 2 ^ 64

/-- The frames keep their distances on the timeline. -/
structure KeepsSpacing (frames : List ExtractedFrame) (buffers : List GstBuffer) : Prop where
  /-- One buffer for each frame. -/
  length_eq : buffers.length = frames.length
  data_eq : ∀ (i : ℕ) frame buffer, frames[i]? = some frame → buffers[i]? = some buffer →
    buffer.data = frame.data
  pts_eq : ∀ (i : ℕ) first frame buffer, frames[0]? = some first → frames[i]? = some frame →
    buffers[i]? = some buffer →
      (buffer.pts : ℤ) = 1 + (frame.captureTsNs - first.captureTsNs) ∧ buffer.dts = buffer.pts
  pts_pos : ∀ buffer ∈ buffers, 1 ≤ buffer.pts
  pts_sorted : (buffers.map GstBuffer.pts).Pairwise (· ≤ ·)
  duration_pos : ∀ buffer ∈ buffers, 0 < buffer.duration
  /-- A sample lasts until the next one. -/
  contiguous : ∀ (i : ℕ) frame next buffer buffer', frames[i]? = some frame →
    frames[i + 1]? = some next → buffers[i]? = some buffer → buffers[i + 1]? = some buffer' →
      frame.captureTsNs ≠ next.captureTsNs → buffer.pts + buffer.duration = buffer'.pts
  /-- No clock time wraps around. -/
  pts_lt : WithinClock frames → ∀ buffer ∈ buffers, buffer.pts < 2 ^ 64

/-- The timeline of frames with bytes, in the order of their instants. -/
theorem Muxable.timeline_stamped {frames : List ExtractedFrame} (h : Muxable frames) :
    ∃ first, frames[0]? = some first ∧ (timeline frames).length = frames.length ∧
      ∀ (i : ℕ) (frame : ExtractedFrame) (buffer : GstBuffer), frames[i]? = some frame →
        (timeline frames)[i]? = some buffer →
        StampedAt first.captureTsNs frame frames[i + 1]? buffer := by
  obtain ⟨first, rest, rfl⟩ := List.exists_cons_of_ne_nil h.ne_nil
  refine ⟨first, rfl, pushAll_stamped h.data_ne_nil h.clock ?_⟩
  rw [sub_self]
  rfl

theorem Muxable.timeline_lt {frames : List ExtractedFrame} (h : Muxable frames)
    (hwithin : WithinClock frames) : ∀ buffer ∈ timeline frames, buffer.pts < 2 ^ 64 := by
  obtain ⟨first, hfirst, hlength, hstamped⟩ := h.timeline_stamped
  intro buffer hmem
  obtain ⟨i, hbuffer⟩ := List.mem_iff_getElem?.mp hmem
  obtain ⟨hi, -⟩ := List.getElem?_eq_some_iff.mp hbuffer
  rw [hlength] at hi
  have hframe := List.getElem?_eq_getElem hi
  have hpts := (hstamped i _ buffer hframe hbuffer).pts_eq
  have hlast := List.getLast?_eq_some_getLast h.ne_nil
  have hspan := hwithin first _ hfirst hlast
  -- no frame is later than the last one
  have hle : (0 : ℤ) ≤ (frames.getLast h.ne_nil).captureTsNs - frames[i].captureTsNs := by
    rw [List.getLast?_eq_getElem?] at hlast
    rcases Nat.lt_or_eq_of_le (Nat.le_sub_one_of_lt hi) with hlt | heq
    · exact Int.sub_nonneg_of_le (rel_of_getElem? h.clock hframe hlast hlt)
    · rw [← heq] at hlast
      rw [← Option.some.inj (hframe.symm.trans hlast)]
      exact le_of_eq (sub_self _).symm
  omega

theorem Muxable.timeline_keepsSpacing {frames : List ExtractedFrame} (h : Muxable frames) :
    KeepsSpacing frames (timeline frames) := by
  obtain ⟨first, hfirst, hlength, hstamped⟩ := h.timeline_stamped
  -- the frame of a buffer
  have hframe : ∀ (i : ℕ) buffer, (timeline frames)[i]? = some buffer →
      ∃ frame, frames[i]? = some frame := by
    intro i buffer hbuffer
    obtain ⟨hi, -⟩ := List.getElem?_eq_some_iff.mp hbuffer
    exact ⟨_, List.getElem?_eq_getElem (hlength ▸ hi)⟩
  have hlate : ∀ (i j : ℕ) frame later, frames[i]? = some frame → frames[j]? = some later →
      i < j → (0 : ℤ) ≤ later.captureTsNs - frame.captureTsNs :=
    fun i j frame later hi hj hij => Int.sub_nonneg_of_le (rel_of_getElem? h.clock hi hj hij)
  refine ⟨hlength, fun i frame buffer hi hbuffer => (hstamped i frame buffer hi hbuffer).data_eq,
    ?_, ?_, ?_, ?_, ?_, h.timeline_lt⟩
  · intro i first' frame buffer hfirst' hi hbuffer
    obtain rfl := Option.some.inj (hfirst.symm.trans hfirst')
    have hat := hstamped i frame buffer hi hbuffer
    exact ⟨hat.pts_eq, hat.dts_eq⟩
  · intro buffer hmem
    obtain ⟨i, hbuffer⟩ := List.mem_iff_getElem?.mp hmem
    obtain ⟨frame, hi⟩ := hframe i buffer hbuffer
    have hpts := (hstamped i frame buffer hi hbuffer).pts_eq
    have hle : (0 : ℤ) ≤ frame.captureTsNs - first.captureTsNs := by
      rcases Nat.eq_zero_or_pos i with rfl | hpos
      · obtain rfl := Option.some.inj (hfirst.symm.trans hi)
        exact le_of_eq (sub_self _).symm
      · exact hlate 0 i first frame hfirst hi hpos
    omega
  · rw [List.pairwise_map, List.pairwise_iff_getElem]
    intro i j hi hj hij
    have hi' := List.getElem?_eq_getElem (l := frames) (hlength ▸ hi)
    have hj' := List.getElem?_eq_getElem (l := frames) (hlength ▸ hj)
    have hpts := (hstamped i _ _ hi' (List.getElem?_eq_getElem hi)).pts_eq
    have hpts' := (hstamped j _ _ hj' (List.getElem?_eq_getElem hj)).pts_eq
    have hle := hlate i j _ _ hi' hj' hij
    omega
  · intro buffer hmem
    obtain ⟨i, hbuffer⟩ := List.mem_iff_getElem?.mp hmem
    obtain ⟨frame, hi⟩ := hframe i buffer hbuffer
    exact (hstamped i frame buffer hi hbuffer).duration_pos
  · intro i frame next buffer buffer' hi hnext hbuffer hbuffer' hne
    have hat := hstamped i frame buffer hi hbuffer
    have hle := hlate i (i + 1) frame next hi hnext (Nat.lt_succ_self i)
    -- the sample lasts as long as the gap behind it
    have hduration := hat.duration_eq next hnext (lt_of_le_of_ne (Int.le_of_sub_nonneg hle) hne)
    have hpts := hat.pts_eq
    have hpts' := (hstamped (i + 1) next buffer' hnext hbuffer').pts_eq
    omega

/-! ### What the ring buffer provides -/

/-- Whatever the arena is, a frame that is read has the length of its descriptor. -/
theorem materialize_ok {store : SharedMemoryFrameStore} {descriptor : FrameDescriptor}
    {frame : ExtractedFrame} (h : materialize store descriptor = .ok frame) :
    frame.captureTsNs = descriptor.captureTsNs ∧ frame.data.length = descriptor.length := by
  unfold materialize SharedMemoryFrameStore.read at h
  cases hbounds : store.rejectOutOfBounds descriptor.offset
      (descriptor.offset + descriptor.length) with
  | error error =>
    rw [hbounds] at h
    cases h
  | ok _ =>
    rw [hbounds] at h
    obtain rfl := Except.ok.inj h
    refine ⟨rfl, ?_⟩
    show (Region.slice store.arena descriptor.offset descriptor.length).length = _
    have hle := SharedMemoryFrameStore.rejectOutOfBounds_ok hbounds
    rw [Region.slice, List.length_take, List.length_drop, store.arena_length]
    omega

theorem extractCaptureWindow_ok {media : MediaBuffer} {window : CaptureWindow}
    {segment : ExtractedSegment} (h : extractCaptureWindow media window = .ok segment) :
    ∃ index, media.ringBuffer.segmentFor window = .ok index ∧
      List.Forall₂ (fun descriptor frame => materialize media.frameStore descriptor = .ok frame)
        index.frames segment.frames := by
  unfold extractCaptureWindow at h
  cases hindex : media.ringBuffer.segmentFor window with
  | error error =>
    rw [hindex] at h
    cases h
  | ok index =>
    rw [hindex] at h
    change (index.frames.mapM (materialize media.frameStore) >>= fun frames => _) = _ at h
    cases hframes : index.frames.mapM (materialize media.frameStore) with
    | error error =>
      rw [hframes] at h
      cases h
    | ok frames =>
      rw [hframes] at h
      obtain rfl := Except.ok.inj h
      exact ⟨index, rfl, mapM_eq_ok_iff.mp hframes⟩

/-- No run of calls makes a live frame empty. -/
theorem allocateAll_layout (capacity : BufferCapacity) (arrivals : List FrameArrival) :
    Layout (allocateAll capacity arrivals).1 :=
  (allocateAll_induction (fun buffer _ => buffer.SessionOpen ∧ Layout buffer) (fun _ _ h => h.1)
    ⟨fun _ => rfl, ⟨[], [], 0, 0, Laps.empty rfl rfl⟩⟩
    (fun _ _ _ _ _ h hacc => ⟨hacc.sessionOpen, h.2.accepted hacc⟩) arrivals).2

/-- What is extracted can be muxed, whatever happened to the arena. -/
theorem muxable_extracted {capacity : BufferCapacity} {arrivals : List FrameArrival}
    {store : SharedMemoryFrameStore} {window : CaptureWindow} {segment : ExtractedSegment}
    (h : extractCaptureWindow ⟨(allocateAll capacity arrivals).1, store⟩ window = .ok segment) :
    Muxable segment.frames := by
  obtain ⟨index, hindex, hframes⟩ := extractCaptureWindow_ok h
  have hnewest := (allocateAll_runInv capacity arrivals).newest
  have hlive := segmentFor_infix hindex
  obtain ⟨first, hsegment⟩ := segmentFor_ok hnewest.numbered hnewest.clock_live hindex
  refine ⟨?_, ?_, ?_⟩
  · -- a segment has its first frame
    rintro hnil
    rw [hnil, List.forall₂_nil_right_iff] at hframes
    have hhead := hsegment.head
    rw [hframes] at hhead
    cases hhead
  · intro frame hmem hempty
    obtain ⟨descriptor, hdescriptor, hread⟩ := Forall₂.exists_of_mem hframes.flip hmem
    -- a live descriptor has a length, and the frame has as many bytes
    have hpos := (allocateAll_layout capacity arrivals).length_pos (hlive.subset hdescriptor)
    rw [← (materialize_ok hread).2, hempty] at hpos
    exact absurd hpos (by decide)
  · -- the instants are those of the index
    have hinstants : segment.frames.map ExtractedFrame.captureTsNs =
        index.frames.map FrameDescriptor.captureTsNs := by
      have heq := hframes.flip.imp fun frame descriptor hread => (materialize_ok hread).1
      rw [← List.forall₂_eq_eq_eq, List.forall₂_map_left_iff, List.forall₂_map_right_iff]
      exact heq
    have hsorted : (index.frames.map FrameDescriptor.captureTsNs).Pairwise (· ≤ ·) :=
      List.pairwise_map.mpr (hnewest.clock_live.sublist hlive.sublist)
    rw [← hinstants] at hsorted
    exact List.pairwise_map.mp hsorted

/-- A keyframe and three frames, two of them of one instant. -/
def fourFrames : List FrameArrival :=
  [⟨10, 1, true, "live"⟩, ⟨20, 2, false, "live"⟩, ⟨20, 1, false, "live"⟩, ⟨28, 1, false, "live"⟩]

def fourFrameSegment : ExtractedSegment where
  requestedWindow := fromTwenty
  sessionId := "live"
  frames := [⟨0, 10, true, [0]⟩, ⟨1, 20, false, [0, 0]⟩, ⟨2, 20, false, [0]⟩, ⟨3, 28, false, [0]⟩]
  isTruncatedAtStart := false
  isTruncatedAtEnd := true

example : timeline fourFrameSegment.frames =
    [⟨[0], 1, 1, 10⟩, ⟨[0, 0], 11, 11, 33333333⟩, ⟨[0], 11, 11, 8⟩, ⟨[0], 19, 19, 8⟩] := by
  decide

end GStreamerMp4Muxer

end Ods.S4
