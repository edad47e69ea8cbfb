import Mathlib.Data.List.MinMax
import OdsMod2.S4.RingBuffer.Segment

/-!
# Segments and the frames that were refused

A decoder needs every frame of the source from a keyframe on. The index knows the frames it has
accepted and keeps them without a gap, but of a frame it refused it keeps nothing: the next frame is
appended as if it followed the one before. Here the deliveries are kept as well, refused ones
included. A segment is decodable exactly if no frame behind such a hole is delivered without a
keyframe in between (`segmentFor_decodable_iff`).
-/

namespace Ods.S4

namespace RingBuffer

/-! ### Deliveries -/

/-- One delivered frame: what became of it, or nothing if it was refused. -/
def deliverStep (run : RingBuffer × List (Option FrameDescriptor)) (arrival : FrameArrival) :
    RingBuffer × List (Option FrameDescriptor) :=
  match run.1.allocate arrival.captureTsNs arrival.length arrival.isKeyframe
      arrival.sessionId with
  | (.ok allocation, buffer) => (buffer, run.2 ++ [some allocation.descriptor])
  | (.error _, buffer) => (buffer, run.2 ++ [none])

/-- The frames of the source, one after the other. -/
def deliverAll (capacity : BufferCapacity) (arrivals : List FrameArrival) :
    RingBuffer × List (Option FrameDescriptor) :=
  arrivals.foldl deliverStep (new capacity, [])

/-- Both runs keep the same buffer and accept the same frames. -/
def SameRun (run : RingBuffer × List (Option FrameDescriptor))
    (run' : RingBuffer × List FrameDescriptor) : Prop :=
  run.1 = run'.1 ∧ run.2.filterMap id = run'.2

theorem SameRun.step {run : RingBuffer × List (Option FrameDescriptor)}
    {run' : RingBuffer × List FrameDescriptor} (h : SameRun run run') (arrival : FrameArrival) :
    SameRun (deliverStep run arrival) (allocateStep run' arrival) := by
  unfold deliverStep allocateStep
  rw [h.1]
  cases run'.1.allocate arrival.captureTsNs arrival.length arrival.isKeyframe arrival.sessionId with
  | mk outcome buffer =>
    cases outcome with
    | ok allocation =>
      refine ⟨rfl, ?_⟩
      rw [List.filterMap_append, h.2]
      rfl
    | error error =>
      refine ⟨rfl, ?_⟩
      rw [List.filterMap_append, h.2]
      exact List.append_nil _

/-- The accepted deliveries are the accepted frames. -/
theorem deliverAll_sameRun (capacity : BufferCapacity) (arrivals : List FrameArrival) :
    SameRun (deliverAll capacity arrivals) (allocateAll capacity arrivals) := by
  unfold deliverAll allocateAll
  -- for any two runs that agree, so that the induction goes through
  suffices h : ∀ run run', SameRun run run' →
      SameRun (arrivals.foldl deliverStep run) (arrivals.foldl allocateStep run') from
    h _ _ ⟨rfl, rfl⟩
  induction arrivals with
  | nil => exact fun _ _ h => h
  | cons arrival arrivals ih => exact fun _ _ h => ih _ _ (h.step arrival)

/-! ### Decodability -/

/-- The latest keyframe at or before a frame. -/
structure IsLatestKeyframe (frames : List FrameDescriptor) (frame key : FrameDescriptor) : Prop where
  mem : key ∈ frames
  keyframe : key.isKeyframe = true
  le : key.sequence ≤ frame.sequence
  latest : ∀ other ∈ frames, other.isKeyframe = true → other.sequence ≤ frame.sequence →
    other.sequence ≤ key.sequence

/-- What was delivered after the latest keyframe of a frame, up to the frame, is in the segment. -/
def Decodable (deliveries : List (Option FrameDescriptor)) (segment : BufferSegment) : Prop :=
  ∀ frame ∈ segment.frames, ∃ key, IsLatestKeyframe segment.frames frame key ∧
    ∀ i j : Nat, deliveries[i]? = some (some key) → deliveries[j]? = some (some frame) →
      ∀ n, i < n → n ≤ j → ∃ accepted ∈ segment.frames, deliveries[n]? = some (some accepted)

/-- The frame delivered before it was refused. -/
def FollowsRefusal (deliveries : List (Option FrameDescriptor)) (frame : FrameDescriptor) : Prop :=
  ∃ n, deliveries[n]? = some none ∧ deliveries[n + 1]? = some (some frame)

/-- Every live frame that follows a refused one is a keyframe, or it lies behind the window, or
before a keyframe where decoding may start, or before all keyframes. -/
def HolesAreCut (deliveries : List (Option FrameDescriptor)) (live : List FrameDescriptor)
    (window : CaptureWindow) : Prop :=
  ∀ frame ∈ live, FollowsRefusal deliveries frame →
    frame.isKeyframe = true ∨ window.endNs < frame.captureTsNs ∨
      (∃ key ∈ live, key.isKeyframe = true ∧ key.captureTsNs ≤ window.startNs ∧
        frame.sequence < key.sequence) ∨
      ∀ key ∈ live, key.isKeyframe = true → frame.sequence < key.sequence

/-! ### The deliveries in order -/

/-- The accepted deliveries are numbered, and the live frames are the last of them. -/
structure Delivered (deliveries : List (Option FrameDescriptor)) (live : List FrameDescriptor) :
    Prop where
  numbered : Numbered (deliveries.filterMap id)
  newest : live <:+ deliveries.filterMap id
  clock : ClockOrdered live

theorem deliverAll_delivered (capacity : BufferCapacity) (arrivals : List FrameArrival) :
    Delivered (deliverAll capacity arrivals).2 (deliverAll capacity arrivals).1.frames := by
  obtain ⟨hbuffer, haccepted⟩ := deliverAll_sameRun capacity arrivals
  have hinv := allocateAll_runInv capacity arrivals
  refine ⟨?_, ?_, ?_⟩
  · rw [haccepted]
    refine List.pairwise_map.mp ?_
    rw [hinv.issued]
    exact List.pairwise_lt_range
  · rw [haccepted, hbuffer]
    exact hinv.suffix.trans (sessionRun_suffix _)
  · rw [hbuffer]
    exact (allocateAll_runInv capacity arrivals).newest.clock_live

section Delivered

variable {deliveries : List (Option FrameDescriptor)} {live : List FrameDescriptor}
  {window : CaptureWindow} {segment : BufferSegment} {first frame frame' : FrameDescriptor}
  {i j : Nat}

/-- What is delivered later has a larger number. -/
theorem Delivered.lt_of_lt (h : Delivered deliveries live) (hi : deliveries[i]? = some (some frame))
    (hj : deliveries[j]? = some (some frame')) (hij : i < j) : frame.sequence < frame'.sequence :=
  rel_of_getElem? (List.pairwise_filterMap.mp h.numbered) hi hj hij frame rfl frame' rfl

theorem Delivered.le_iff (h : Delivered deliveries live) (hi : deliveries[i]? = some (some frame))
    (hj : deliveries[j]? = some (some frame')) : frame.sequence ≤ frame'.sequence ↔ i ≤ j := by
  constructor
  · intro hsequence
    by_contra hij
    exact absurd (h.lt_of_lt hj hi (Nat.lt_of_not_le hij)) (Nat.not_lt.mpr hsequence)
  · intro hij
    rcases Nat.lt_or_eq_of_le hij with hij | rfl
    · exact Nat.le_of_lt (h.lt_of_lt hi hj hij)
    · rw [Option.some.inj (Option.some.inj (hi.symm.trans hj))]

/-- An accepted frame that is not older than a live one is live. -/
theorem Delivered.live_of_le (h : Delivered deliveries live)
    (hi : deliveries[i]? = some (some frame')) (hlive : frame ∈ live)
    (hle : frame.sequence ≤ frame'.sequence) : frame' ∈ live := by
  -- the live frames are the end of what was accepted
  obtain ⟨older, holder⟩ := h.newest
  have hmem : frame' ∈ deliveries.filterMap id :=
    List.mem_filterMap.mpr ⟨some frame', List.mem_of_getElem? hi, rfl⟩
  rw [← holder] at hmem
  have hnumbered := h.numbered
  rw [← holder] at hnumbered
  rcases List.mem_append.mp hmem with hold | hlive'
  · have hlt := (List.pairwise_append.mp hnumbered).2.2 frame' hold frame hlive
    omega
  · exact hlive'

theorem Delivered.exists_index (h : Delivered deliveries live) (hlive : frame ∈ live) :
    ∃ i : Nat, deliveries[i]? = some (some frame) := by
  obtain ⟨delivery, hmem, hdelivery⟩ := List.mem_filterMap.mp (h.newest.subset hlive)
  rw [id] at hdelivery
  subst hdelivery
  exact List.mem_iff_getElem?.mp hmem

theorem Delivered.live_numbered (h : Delivered deliveries live) : Numbered live :=
  h.numbered.sublist h.newest.sublist

/-- Behind a refusal, some frame is the next one to be accepted. -/
theorem exists_followsRefusal {n : Nat} (hnone : deliveries[n]? = some none) (hj : n ≤ j)
    (hframe : deliveries[j]? = some (some frame)) :
    ∃ m accepted, n ≤ m ∧ m + 1 ≤ j ∧ deliveries[m]? = some none ∧
      deliveries[m + 1]? = some (some accepted) := by
  obtain ⟨k, rfl⟩ := Nat.exists_eq_add_of_le hj
  -- from the refusal on, one delivery at a time
  induction k generalizing n with
  | zero =>
    rw [Nat.add_zero, hnone] at hframe
    cases Option.some.inj hframe
  | succ k ih =>
    have hlt : n + 1 < deliveries.length := by
      have := (List.getElem?_eq_some_iff.mp hframe).1
      omega
    cases hnext : deliveries[n + 1] with
    | some accepted =>
      refine ⟨n, accepted, Nat.le_refl _, by omega, hnone, ?_⟩
      rw [List.getElem?_eq_getElem hlt, hnext]
    | none =>
      obtain ⟨m, accepted, hn, hm, hfound⟩ := ih (n := n + 1)
        (by rw [List.getElem?_eq_getElem hlt, hnext]) (by omega) (by rw [← hframe]; congr 1; omega)
      exact ⟨m, accepted, by omega, by omega, hfound⟩

/-! ### Segments across holes -/

/-- Every frame of a segment has a keyframe at or before it. -/
theorem SegmentOf.exists_latest (h : SegmentOf live window segment first)
    (hframe : frame ∈ segment.frames) : ∃ key, IsLatestKeyframe segment.frames frame key := by
  -- the latest of those that come into question; the first frame of the segment is one
  let candidates := segment.frames.filter fun key =>
    key.isKeyframe && decide (key.sequence ≤ frame.sequence)
  have hfirst : first ∈ candidates := by
    refine List.mem_filter.mpr ⟨List.mem_of_mem_head? h.head, ?_⟩
    rw [h.keyframe, decide_eq_true ((h.mem frame).mp hframe).2.1]
    rfl
  cases hkey : candidates.argmax FrameDescriptor.sequence with
  | none => exact absurd (List.argmax_eq_none.mp hkey) (List.ne_nil_of_mem hfirst)
  | some key =>
    obtain ⟨hmem, hp⟩ := List.mem_filter.mp (List.argmax_mem hkey)
    obtain ⟨hkeyframe, hle⟩ := Bool.and_eq_true_iff.mp hp
    refine ⟨key, hmem, hkeyframe, of_decide_eq_true hle, fun other hother hotherKey hotherLe => ?_⟩
    refine List.le_of_mem_argmax (List.mem_filter.mpr ⟨hother, ?_⟩) hkey
    rw [hotherKey, decide_eq_true hotherLe]
    rfl

theorem Delivered.clock_le (h : Delivered deliveries live) (hframe : frame ∈ live)
    (hframe' : frame' ∈ live) (hle : frame.sequence ≤ frame'.sequence) :
    frame.captureTsNs ≤ frame'.captureTsNs := by
  obtain ⟨i, hi⟩ := List.mem_iff_getElem?.mp hframe
  obtain ⟨j, hj⟩ := List.mem_iff_getElem?.mp hframe'
  exact h.clock.le hi hj ((h.live_numbered.le_iff hi hj).mp hle)

/-- Which live frames the segment has, by the keyframes around them. -/
theorem SegmentOf.mem_iff (h : SegmentOf live window segment first)
    (hdelivered : Delivered deliveries live) (hlive : frame ∈ live) :
    frame ∈ segment.frames ↔
      ¬ (window.endNs < frame.captureTsNs ∨
        (∃ key ∈ live, key.isKeyframe = true ∧ key.captureTsNs ≤ window.startNs ∧
          frame.sequence < key.sequence) ∨
        ∀ key ∈ live, key.isKeyframe = true → frame.sequence < key.sequence) := by
  constructor
  · intro hframe
    obtain ⟨-, hfirst, hend⟩ := (h.mem frame).mp hframe
    rintro (hbehind | ⟨key, hkey, hkeyframe, hstart, hbefore⟩ | hall)
    · exact absurd hend (Int.not_le.mpr hbehind)
    · -- decoding would start at this keyframe or later
      rcases h.start with ⟨-, hlast⟩ | ⟨hnone, -⟩
      · have hle := hlast key hkey hkeyframe hstart
        omega
      · exact absurd hstart (Int.not_le.mpr (hnone key hkey hkeyframe))
    · exact absurd hfirst (Nat.not_le.mpr (hall first h.live h.keyframe))
  · intro hcut
    obtain ⟨hend, hnotBefore, hsome⟩ := not_or.mp hcut |>.imp_right not_or.mp
    refine (h.mem frame).mpr ⟨hlive, ?_, Int.not_lt.mp hend⟩
    rcases h.start with ⟨hbefore, -⟩ | ⟨-, hearliest⟩
    · exact Nat.not_lt.mp fun hlt => hnotBefore ⟨first, h.live, h.keyframe, hbefore, hlt⟩
    · push Not at hsome
      obtain ⟨key, hkey, hkeyframe, hle⟩ := hsome
      have hwithin := Int.le_trans (hdelivered.clock_le hkey hlive hle) (Int.not_lt.mp hend)
      exact Nat.le_trans (hearliest key hkey hkeyframe hwithin) hle

/-- What is accepted between two frames of the segment is in it. -/
theorem SegmentOf.mem_of_between (h : SegmentOf live window segment first)
    (hdelivered : Delivered deliveries live) {key accepted : FrameDescriptor} {n : Nat}
    (hkey : key ∈ segment.frames) (hframe : frame ∈ segment.frames)
    (hn : deliveries[n]? = some (some accepted)) (hlower : key.sequence ≤ accepted.sequence)
    (hupper : accepted.sequence ≤ frame.sequence) : accepted ∈ segment.frames := by
  obtain ⟨hkeyLive, hfirst, -⟩ := (h.mem key).mp hkey
  obtain ⟨hframeLive, -, hend⟩ := (h.mem frame).mp hframe
  have hlive := hdelivered.live_of_le hn hkeyLive hlower
  exact (h.mem accepted).mpr ⟨hlive, Nat.le_trans hfirst hlower,
    Int.le_trans (hdelivered.clock_le hlive hframeLive hupper) hend⟩

/-- A decodable segment spans no hole: the keyframe in front of the frame behind the hole would be
delivered before it. -/
theorem SegmentOf.holesAreCut (h : SegmentOf live window segment first)
    (hdelivered : Delivered deliveries live) (hdecodable : Decodable deliveries segment) :
    HolesAreCut deliveries live window := by
  rintro frame hlive ⟨n, hnone, hframe⟩
  by_contra hspanned
  obtain ⟨hplain, hcut⟩ := not_or.mp hspanned
  obtain ⟨key, hkey, hall⟩ := hdecodable frame ((h.mem_iff hdelivered hlive).mpr hcut)
  obtain ⟨i, hi⟩ := hdelivered.exists_index ((h.mem key).mp hkey.mem).1
  have hle : i ≤ n + 1 := (hdelivered.le_iff hi hframe).mp hkey.le
  have hne : i ≠ n + 1 := by
    rintro rfl
    obtain rfl := Option.some.inj (Option.some.inj (hi.symm.trans hframe))
    exact hplain hkey.keyframe
  have hne' : i ≠ n := by
    rintro rfl
    rw [hi] at hnone
    cases Option.some.inj hnone
  obtain ⟨accepted, -, haccepted⟩ := hall i (n + 1) hi hframe n (by omega) (Nat.le_succ n)
  rw [hnone] at haccepted
  cases Option.some.inj haccepted

/-- If every hole is cut, nothing was refused between a frame and its latest keyframe. -/
theorem SegmentOf.decodable_of_holesAreCut (h : SegmentOf live window segment first)
    (hdelivered : Delivered deliveries live) (hcut : HolesAreCut deliveries live window) :
    Decodable deliveries segment := by
  intro frame hframe
  obtain ⟨key, hkey⟩ := h.exists_latest hframe
  refine ⟨key, hkey, fun i j hi hj n hin hnj => ?_⟩
  have hbetween : ∀ {m : Nat} {accepted : FrameDescriptor}, i < m → m ≤ j →
      deliveries[m]? = some (some accepted) → key.sequence < accepted.sequence ∧
        accepted.sequence ≤ frame.sequence ∧ accepted ∈ segment.frames := by
    intro m accepted him hmj hm
    have hlower := hdelivered.lt_of_lt hi hm him
    have hupper := (hdelivered.le_iff hm hj).mpr hmj
    exact ⟨hlower, hupper,
      h.mem_of_between hdelivered hkey.mem hframe hm (Nat.le_of_lt hlower) hupper⟩
  have hlt : n < deliveries.length := Nat.lt_of_le_of_lt hnj (List.getElem?_eq_some_iff.mp hj).1
  cases hn : deliveries[n] with
  | some accepted =>
    have hn' : deliveries[n]? = some (some accepted) := by rw [List.getElem?_eq_getElem hlt, hn]
    exact ⟨accepted, (hbetween hin hnj hn').2.2, hn'⟩
  | none =>
    -- the next accepted frame would be behind a hole, between the keyframe and the frame
    have hn' : deliveries[n]? = some none := by rw [List.getElem?_eq_getElem hlt, hn]
    obtain ⟨m, accepted, hnm, hmj, hnone, haccepted⟩ := exists_followsRefusal hn' hnj hj
    obtain ⟨hlower, hupper, hmem⟩ := hbetween (by omega) hmj haccepted
    have hlive := ((h.mem accepted).mp hmem).1
    rcases hcut accepted hlive ⟨m, hnone, haccepted⟩ with hkeyframe | hcut
    · exact absurd (hkey.latest accepted hmem hkeyframe hupper) (Nat.not_le.mpr hlower)
    · exact absurd hcut ((h.mem_iff hdelivered hlive).mp hmem)

end Delivered

/-- **Decodability.** For every stream of frames, refused ones included, and every window, the
segment can be decoded by itself if and only if every hole is cut. -/
theorem segmentFor_decodable_iff (capacity : BufferCapacity) (arrivals : List FrameArrival)
    {window : CaptureWindow} {segment : BufferSegment}
    (h : (deliverAll capacity arrivals).1.segmentFor window = .ok segment) :
    Decodable (deliverAll capacity arrivals).2 segment ↔
      HolesAreCut (deliverAll capacity arrivals).2 (deliverAll capacity arrivals).1.frames window := by
  have hdelivered := deliverAll_delivered capacity arrivals
  obtain ⟨first, hsegment⟩ := segmentFor_ok hdelivered.live_numbered hdelivered.clock h
  exact ⟨hsegment.holesAreCut hdelivered, hsegment.decodable_of_holesAreCut hdelivered⟩

/-- The second frame is empty, and the third one refers to it. -/
def brokenGroup : List FrameArrival :=
  [⟨10, 1, true, "live"⟩, ⟨20, 0, false, "live"⟩, ⟨30, 1, false, "live"⟩]

theorem ten_lt_thirty : (10 : Nanoseconds) < 30 := by
  decide

def wholeGroup : CaptureWindow :=
  ⟨10, 30, ten_lt_thirty⟩

def brokenSegment : BufferSegment where
  requestedWindow := wholeGroup
  frames := [⟨0, 10, 0, 1, true, "live"⟩, ⟨1, 30, 1, 1, false, "live"⟩]
  isTruncatedAtStart := false
  isTruncatedAtEnd := false

theorem segmentFor_brokenGroup :
    (deliverAll ⟨100, hundred_pos⟩ brokenGroup).1.segmentFor wholeGroup = .ok brokenSegment := by
  rfl

theorem segmentFor_decodable_iff_brokenGroup :
    Decodable (deliverAll ⟨100, hundred_pos⟩ brokenGroup).2 brokenSegment ↔
      HolesAreCut (deliverAll ⟨100, hundred_pos⟩ brokenGroup).2
        (deliverAll ⟨100, hundred_pos⟩ brokenGroup).1.frames wholeGroup :=
  segmentFor_decodable_iff ⟨100, hundred_pos⟩ brokenGroup segmentFor_brokenGroup

/-- The segment spans the hole of the empty frame. -/
theorem segment_spans_hole :
    ¬ ∀ (capacity : BufferCapacity) (arrivals : List FrameArrival) (window : CaptureWindow)
      (segment : BufferSegment) (sessionId : String),
        (∀ arrival ∈ arrivals, arrival.sessionId = sessionId) →
          (deliverAll capacity arrivals).1.segmentFor window = .ok segment →
            Decodable (deliverAll capacity arrivals).2 segment := by
  intro h
  have hdecodable := h ⟨100, hundred_pos⟩ brokenGroup wholeGroup brokenSegment "live" (by decide)
    segmentFor_brokenGroup
  have hlast : (⟨1, 30, 1, 1, false, "live"⟩ : FrameDescriptor) ∈ brokenSegment.frames := by
    decide
  obtain ⟨key, hkey, hall⟩ := hdecodable _ hlast
  have hfirst : key = ⟨0, 10, 0, 1, true, "live"⟩ := by
    rcases List.mem_cons.mp hkey.mem with rfl | hmem
    · rfl
    · rw [List.mem_singleton.mp hmem] at hkey
      cases hkey.keyframe
  obtain ⟨accepted, -, haccepted⟩ := hall 0 2 (hfirst ▸ rfl) rfl 1 (by decide) (by decide)
  cases Option.some.inj haccepted

end RingBuffer

end Ods.S4
