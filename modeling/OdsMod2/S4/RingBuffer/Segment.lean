import OdsMod2.S4.RingBuffer.SessionRun

/-!
# What a segment contains

`segmentFor` works with indices into the queue. In a reachable state the queue is in the order of
arrival and of the clock, so its answer can be said without them (`SegmentOf`): all live frames from
a first keyframe on that are not later than the window. The first keyframe is the last one at or
before the start of the window, or else the first one within it.

The flag for the start says whether that keyframe is later than the start. It says nothing of the
frames in front of the keyframe that have the timestamp of the start as well
(`segmentFor_complete_iff`).
-/

namespace Ods.S4

namespace RingBuffer

/-! ### Indices -/

section LastIndex

variable {α : Type} {p : α → Bool} {xs : List α} {k : Nat}

theorem lastIndexWhere_none (h : lastIndexWhere p xs = none) : ∀ x ∈ xs, p x = false := by
  induction xs with
  | nil => exact List.forall_mem_nil _
  | cons x xs ih =>
    rw [lastIndexWhere] at h
    cases hrest : lastIndexWhere p xs with
    | some index =>
      rw [hrest] at h
      cases h
    | none =>
      rw [hrest] at h
      refine List.forall_mem_cons.mpr ⟨?_, ih hrest⟩
      by_contra hp
      rw [Bool.not_eq_false] at hp
      dsimp only at h
      rw [if_pos hp] at h
      cases h

/-- A later element does not satisfy the predicate. -/
theorem lastIndexWhere_some (h : lastIndexWhere p xs = some k) :
    (∃ x, xs[k]? = some x ∧ p x = true) ∧ ∀ j y, xs[j]? = some y → p y = true → j ≤ k := by
  induction xs generalizing k with
  | nil => cases h
  | cons x xs ih =>
    rw [lastIndexWhere] at h
    cases hrest : lastIndexWhere p xs with
    | some index =>
      rw [hrest] at h
      obtain rfl := Option.some.inj h
      obtain ⟨hfound, hlast⟩ := ih hrest
      refine ⟨hfound, fun j y hy hp => ?_⟩
      cases j with
      | zero => exact Nat.zero_le _
      | succ j => exact Nat.succ_le_succ (hlast j y hy hp)
    | none =>
      -- the head is the only hit
      rw [hrest] at h
      dsimp only at h
      split at h
      · next hx =>
        obtain rfl := Option.some.inj h
        refine ⟨⟨x, rfl, hx⟩, fun j y hy hp => ?_⟩
        cases j with
        | zero => exact Nat.le_refl _
        | succ j =>
          have hmiss := lastIndexWhere_none hrest y (List.mem_of_getElem? hy)
          rw [hp] at hmiss
          cases hmiss
      · cases h

/-- A relation between earlier and later elements, read at two indices. -/
theorem rel_of_getElem? {r : α → α → Prop} (h : xs.Pairwise r) {i j : Nat} {x y : α}
    (hx : xs[i]? = some x) (hy : xs[j]? = some y) (hij : i < j) : r x y := by
  obtain ⟨hi, rfl⟩ := List.getElem?_eq_some_iff.mp hx
  obtain ⟨hj, rfl⟩ := List.getElem?_eq_some_iff.mp hy
  exact List.pairwise_iff_getElem.mp h i j hi hj hij

/-- What lies between two indices. -/
theorem mem_drop_take {i j : Nat} {x : α} :
    x ∈ (xs.take (j + 1)).drop i ↔ ∃ n, i ≤ n ∧ n ≤ j ∧ xs[n]? = some x := by
  rw [List.mem_iff_getElem?]
  constructor
  · rintro ⟨n, hn⟩
    rw [List.getElem?_drop, List.getElem?_take] at hn
    split at hn
    · exact ⟨i + n, Nat.le_add_right _ _, by omega, hn⟩
    · cases hn
  · rintro ⟨n, hi, hj, hx⟩
    refine ⟨n - i, ?_⟩
    rw [List.getElem?_drop, List.getElem?_take, if_pos (by omega), Nat.add_sub_cancel' hi, hx]

end LastIndex

/-! ### In the order of arrival -/

def Numbered (frames : List FrameDescriptor) : Prop :=
  frames.Pairwise fun f g => f.sequence < g.sequence

section Order

variable {frames : List FrameDescriptor} {i j : Nat} {f g : FrameDescriptor}

theorem Numbered.le_iff (h : Numbered frames) (hf : frames[i]? = some f) (hg : frames[j]? = some g) :
    f.sequence ≤ g.sequence ↔ i ≤ j := by
  constructor
  · intro hle
    by_contra hij
    exact absurd (rel_of_getElem? h hg hf (Nat.lt_of_not_le hij)) (Nat.not_lt.mpr hle)
  · intro hij
    rcases Nat.lt_or_eq_of_le hij with hij | rfl
    · exact Nat.le_of_lt (rel_of_getElem? h hf hg hij)
    · rw [Option.some.inj (hf.symm.trans hg)]

theorem ClockOrdered.le (h : ClockOrdered frames) (hf : frames[i]? = some f)
    (hg : frames[j]? = some g) (hij : i ≤ j) : f.captureTsNs ≤ g.captureTsNs := by
  rcases Nat.lt_or_eq_of_le hij with hij | rfl
  · exact rel_of_getElem? h hf hg hij
  · obtain rfl := Option.some.inj (hf.symm.trans hg)
    exact Int.le_refl _

end Order

theorem NewestOfRun.numbered {buffer : RingBuffer} {accepted : List FrameDescriptor}
    (h : NewestOfRun buffer accepted) : Numbered buffer.frames := by
  obtain ⟨first, -, hsequence⟩ := h.consecutive
  have hrange : (buffer.frames.map FrameDescriptor.sequence).Pairwise (· < ·) := by
    rw [hsequence]
    exact List.pairwise_lt_range'
  exact List.pairwise_map.mp hrange

/-! ### The segment -/

/-- The last keyframe at or before the start of the window, or the first one within the window. -/
def IsStart (frames : List FrameDescriptor) (window : CaptureWindow) (first : FrameDescriptor) :
    Prop :=
  (first.captureTsNs ≤ window.startNs ∧
    ∀ key ∈ frames, key.isKeyframe = true → key.captureTsNs ≤ window.startNs →
      key.sequence ≤ first.sequence) ∨
  (∀ key ∈ frames, key.isKeyframe = true → window.startNs < key.captureTsNs) ∧
    ∀ key ∈ frames, key.isKeyframe = true → key.captureTsNs ≤ window.endNs →
      first.sequence ≤ key.sequence

structure SegmentOf (frames : List FrameDescriptor) (window : CaptureWindow)
    (segment : BufferSegment) (first : FrameDescriptor) : Prop where
  head : segment.frames.head? = some first
  live : first ∈ frames
  keyframe : first.isKeyframe = true
  mem : ∀ frame, frame ∈ segment.frames ↔
    frame ∈ frames ∧ first.sequence ≤ frame.sequence ∧ frame.captureTsNs ≤ window.endNs
  start : IsStart frames window first
  truncated : segment.isTruncatedAtStart = decide (window.startNs < first.captureTsNs)

/-- The keyframe where decoding starts. -/
theorem decodableStartIndex_ok {frames : List FrameDescriptor} {window : CaptureWindow}
    {startIndex : Nat} (hnumbered : Numbered frames)
    (h : decodableStartIndex frames window = .ok startIndex) :
    ∃ first, frames[startIndex]? = some first ∧ first.isKeyframe = true ∧
      first.captureTsNs ≤ window.endNs ∧ IsStart frames window first := by
  unfold decodableStartIndex at h
  cases hbefore : lastIndexWhere
      (fun frame => frame.isKeyframe && decide (frame.captureTsNs ≤ window.startNs)) frames with
  | some last =>
    rw [hbefore] at h
    obtain rfl := Except.ok.inj h
    obtain ⟨⟨first, hfirst, hp⟩, hlast⟩ := lastIndexWhere_some hbefore
    obtain ⟨hkey, hstart⟩ := Bool.and_eq_true_iff.mp hp
    have hstart := of_decide_eq_true hstart
    have hend := Int.le_trans hstart (Int.le_of_lt window.start_lt_end)
    refine ⟨first, hfirst, hkey, hend, .inl ⟨hstart, fun key hmem hkey hle => ?_⟩⟩
    obtain ⟨j, hj⟩ := List.mem_iff_getElem?.mp hmem
    refine (hnumbered.le_iff hj hfirst).mpr (hlast j key hj ?_)
    rw [hkey, decide_eq_true hle]
    rfl
  | none =>
    rw [hbefore] at h
    dsimp only at h
    split at h
    · next index hindex =>
      obtain rfl := Except.ok.inj h
      obtain ⟨hlt, hp, hfirst⟩ := List.findIdx?_eq_some_iff_getElem.mp hindex
      obtain ⟨hkey, hwithin⟩ := Bool.and_eq_true_iff.mp hp
      have hnone : ∀ key ∈ frames, key.isKeyframe = true → window.startNs < key.captureTsNs := by
        intro key hmem hkey
        have hmiss := lastIndexWhere_none hbefore key hmem
        rw [hkey, Bool.true_and, decide_eq_false_iff_not] at hmiss
        exact Int.not_le.mp hmiss
      refine ⟨_, List.getElem?_eq_getElem hlt, hkey, (of_decide_eq_true hwithin).2,
        .inr ⟨hnone, fun key hmem hkey hle => ?_⟩⟩
      obtain ⟨j, hj⟩ := List.mem_iff_getElem?.mp hmem
      refine (hnumbered.le_iff (List.getElem?_eq_getElem hlt) hj).mpr ?_
      by_contra hbeyond
      -- an earlier keyframe of the window would have been found first
      obtain ⟨hj', rfl⟩ := List.getElem?_eq_some_iff.mp hj
      refine hfirst j (Nat.lt_of_not_le hbeyond) ?_
      rw [hkey, CaptureWindow.contains, decide_eq_true ⟨Int.le_of_lt (hnone _ hmem hkey), hle⟩]
      rfl
    · cases h

/-- If a frame is not later than the window, the frames up to the last index within the window are
all those that are not. -/
theorem le_lastIndexWithin_iff {frames : List FrameDescriptor} {window : CaptureWindow}
    {first frame : FrameDescriptor} {n : Nat} (hclock : ClockOrdered frames) (hfirst : first ∈ frames)
    (hwithin : first.captureTsNs ≤ window.endNs) (hframe : frames[n]? = some frame) :
    n ≤ lastIndexWithin frames window ↔ frame.captureTsNs ≤ window.endNs := by
  unfold lastIndexWithin
  cases hlast : lastIndexWhere (fun frame => decide (frame.captureTsNs ≤ window.endNs)) frames with
  | none => exact absurd hwithin (of_decide_eq_false (lastIndexWhere_none hlast first hfirst))
  | some last =>
    obtain ⟨⟨newest, hnewest, hp⟩, hgreatest⟩ := lastIndexWhere_some hlast
    constructor
    · intro hle
      exact Int.le_trans (hclock.le hframe hnewest hle) (of_decide_eq_true hp)
    · intro hle
      exact hgreatest n frame hframe (decide_eq_true hle)

/-- **The segment without indices.** -/
theorem segmentFor_ok {buffer : RingBuffer} {window : CaptureWindow} {segment : BufferSegment}
    (hnumbered : Numbered buffer.frames) (hclock : ClockOrdered buffer.frames)
    (h : buffer.segmentFor window = .ok segment) :
    ∃ first, SegmentOf buffer.frames window segment first := by
  obtain ⟨startIndex, hstart, rfl⟩ := segmentFor_eq_ok h
  obtain ⟨first, hfirst, hkey, hwithin, hisStart⟩ := decodableStartIndex_ok hnumbered hstart
  have hlive := List.mem_of_getElem? hfirst
  refine ⟨first, ?_, hlive, hkey, fun frame => ?_, hisStart, ?_⟩
  · -- the start is not behind the end, so the answer has a first frame
    have hlt := Nat.lt_succ_of_le ((le_lastIndexWithin_iff hclock hlive hwithin hfirst).mpr hwithin)
    dsimp only [segmentFrom]
    rw [List.head?_drop, List.getElem?_take, if_pos hlt, hfirst]
  · dsimp only [segmentFrom]
    -- positions, numbers and times are in one order
    rw [mem_drop_take]
    constructor
    · rintro ⟨n, hn, hn', hframe⟩
      exact ⟨List.mem_of_getElem? hframe, (hnumbered.le_iff hfirst hframe).mpr hn,
        (le_lastIndexWithin_iff hclock hlive hwithin hframe).mp hn'⟩
    · rintro ⟨hmem, hsequence, hle⟩
      obtain ⟨n, hframe⟩ := List.mem_iff_getElem?.mp hmem
      exact ⟨n, (hnumbered.le_iff hfirst hframe).mp hsequence,
        (le_lastIndexWithin_iff hclock hlive hwithin hframe).mpr hle, hframe⟩
  · dsimp only [segmentFrom]
    rw [hfirst]
    rfl

/-! ### What is left out -/

/-- A frame of the window is left out only if the flag says so, and then it precedes the first
keyframe that is delivered. -/
def Complete (frames : List FrameDescriptor) (window : CaptureWindow) (segment : BufferSegment) :
    Prop :=
  (segment.isTruncatedAtStart = false →
    ∀ frame ∈ frames, window.contains frame.captureTsNs = true → frame ∈ segment.frames) ∧
  (segment.isTruncatedAtStart = true →
    ∃ first, segment.frames.find? FrameDescriptor.isKeyframe = some first ∧
      ∀ frame ∈ frames, window.contains frame.captureTsNs = true →
        (frame ∉ segment.frames ↔ frame.sequence < first.sequence))

/-- At the start of the window, no frame stands in front of a keyframe. -/
def StartUnshared (frames : List FrameDescriptor) (window : CaptureWindow) : Prop :=
  frames.Pairwise fun frame key => frame.captureTsNs = window.startNs →
    key.captureTsNs = window.startNs → key.isKeyframe = false

instance (frames : List FrameDescriptor) (window : CaptureWindow) :
    Decidable (StartUnshared frames window) :=
  inferInstanceAs (Decidable (frames.Pairwise _))

theorem contains_iff {window : CaptureWindow} {captureTsNs : Nanoseconds} :
    window.contains captureTsNs = true ↔
      window.startNs ≤ captureTsNs ∧ captureTsNs ≤ window.endNs :=
  decide_eq_true_iff

section Complete

variable {frames : List FrameDescriptor} {window : CaptureWindow} {segment : BufferSegment}
  {first : FrameDescriptor}

/-- Of the frames within the window, the segment has those from its first keyframe on. -/
theorem SegmentOf.mem_of_contains (h : SegmentOf frames window segment first)
    {frame : FrameDescriptor} (hmem : frame ∈ frames)
    (hwithin : window.contains frame.captureTsNs = true) :
    frame ∈ segment.frames ↔ first.sequence ≤ frame.sequence := by
  rw [h.mem]
  exact ⟨fun hseg => hseg.2.1, fun hle => ⟨hmem, hle, (contains_iff.mp hwithin).2⟩⟩

theorem SegmentOf.find_keyframe (h : SegmentOf frames window segment first) :
    segment.frames.find? FrameDescriptor.isKeyframe = some first := by
  obtain ⟨rest, hrest⟩ := List.head?_eq_some_iff.mp h.head
  rw [hrest, List.find?_cons_of_pos h.keyframe]

/-- A segment that begins at or before the start of the window has its flag down, and must have every
frame of the window. -/
theorem SegmentOf.complete_iff_of_le (h : SegmentOf frames window segment first)
    (hbefore : first.captureTsNs ≤ window.startNs) :
    Complete frames window segment ↔
      ∀ frame ∈ frames, window.contains frame.captureTsNs = true →
        first.sequence ≤ frame.sequence := by
  have hflag : segment.isTruncatedAtStart = false := by
    rw [h.truncated, decide_eq_false (Int.not_lt.mpr hbefore)]
  constructor
  · rintro ⟨hall, -⟩ frame hmem hwithin
    exact (h.mem_of_contains hmem hwithin).mp (hall hflag frame hmem hwithin)
  · intro hall
    refine ⟨fun _ frame hmem hwithin => ?_, fun htruncated => ?_⟩
    · exact (h.mem_of_contains hmem hwithin).mpr (hall frame hmem hwithin)
    · exact absurd (hflag.symm.trans htruncated) Bool.false_ne_true

/-- A segment that begins later has its flag up, and lacks nothing else. -/
theorem SegmentOf.complete_of_lt (h : SegmentOf frames window segment first)
    (hafter : window.startNs < first.captureTsNs) : Complete frames window segment := by
  have hflag : segment.isTruncatedAtStart = true := by
    rw [h.truncated, decide_eq_true hafter]
  refine ⟨fun hdown => absurd (hdown.symm.trans hflag) Bool.false_ne_true, fun _ => ?_⟩
  refine ⟨first, h.find_keyframe, fun frame hmem hwithin => ?_⟩
  rw [h.mem_of_contains hmem hwithin, Nat.not_le]

theorem SegmentOf.complete_iff (h : SegmentOf frames window segment first)
    (hnumbered : Numbered frames) (hclock : ClockOrdered frames) :
    Complete frames window segment ↔ StartUnshared frames window := by
  have hend := window.start_lt_end
  rcases h.start with ⟨hbefore, hlast⟩ | ⟨hnone, -⟩
  · rw [h.complete_iff_of_le hbefore]
    constructor
    · intro hall
      refine List.pairwise_iff_getElem.mpr fun i j hi hj hij hframe hkey => ?_
      by_contra hkeyframe
      rw [Bool.not_eq_false] at hkeyframe
      have hwithin : window.contains frames[i].captureTsNs = true :=
        contains_iff.mpr ⟨Int.le_of_eq hframe.symm, hframe ▸ Int.le_of_lt hend⟩
      -- the frame is delivered, so it does not precede the segment; but it precedes this keyframe
      have hdelivered := hall _ (List.getElem_mem hi) hwithin
      have hlater := hlast _ (List.getElem_mem hj) hkeyframe (Int.le_of_eq hkey)
      have hbetween := List.pairwise_iff_getElem.mp hnumbered i j hi hj hij
      omega
    · intro hunshared frame hmem hwithin
      by_contra hlate
      obtain ⟨n, hn⟩ := List.mem_iff_getElem?.mp h.live
      obtain ⟨i, hi⟩ := List.mem_iff_getElem?.mp hmem
      have hin : i < n := Nat.lt_of_not_le fun hle => hlate ((hnumbered.le_iff hn hi).mpr hle)
      -- the frame and the keyframe behind it share the instant of the start
      have hle := hclock.le hi hn (Nat.le_of_lt hin)
      have hge := (contains_iff.mp hwithin).1
      have hplain := rel_of_getElem? hunshared hi hn hin
        (Int.le_antisymm (Int.le_trans hle hbefore) hge)
        (Int.le_antisymm hbefore (Int.le_trans hge hle))
      rw [h.keyframe] at hplain
      cases hplain
  · -- no keyframe stands at the start
    refine iff_of_true (h.complete_of_lt (hnone first h.live h.keyframe)) ?_
    refine List.pairwise_iff_getElem.mpr fun i j hi hj _ _ hkey => ?_
    by_contra hkeyframe
    rw [Bool.not_eq_false] at hkeyframe
    exact absurd hkey (Int.ne_of_gt (hnone _ (List.getElem_mem hj) hkeyframe))

end Complete

/-- **Completeness.** In every reachable state, a segment leaves nothing of its window out unless
its flag says so, if and only if no live frame stands at the start of the window in front of a live
keyframe that stands there as well. -/
theorem segmentFor_complete_iff (capacity : BufferCapacity) (arrivals : List FrameArrival)
    {window : CaptureWindow} {segment : BufferSegment}
    (h : (allocateAll capacity arrivals).1.segmentFor window = .ok segment) :
    Complete (allocateAll capacity arrivals).1.frames window segment ↔
      StartUnshared (allocateAll capacity arrivals).1.frames window := by
  have hnewest := (allocateAll_runInv capacity arrivals).newest
  obtain ⟨first, hsegment⟩ := segmentFor_ok hnewest.numbered hnewest.clock_live h
  exact hsegment.complete_iff hnewest.numbered hnewest.clock_live

theorem hundred_pos : 0 < 100 := by
  decide

theorem twenty_lt_thirty : (20 : Nanoseconds) < 30 := by
  decide

/-- A delta frame and a keyframe of one instant. -/
def sharedInstant : List FrameArrival :=
  [⟨10, 1, true, "live"⟩, ⟨20, 1, false, "live"⟩, ⟨20, 1, true, "live"⟩]

def fromTwenty : CaptureWindow :=
  ⟨20, 30, twenty_lt_thirty⟩

/-- What `segmentFor` answers: the second keyframe alone, and no flag for the start. -/
def sharedSegment : BufferSegment where
  requestedWindow := fromTwenty
  frames := [⟨2, 20, 2, 1, true, "live"⟩]
  isTruncatedAtStart := false
  isTruncatedAtEnd := true

theorem segmentFor_sharedInstant :
    (allocateAll ⟨100, hundred_pos⟩ sharedInstant).1.segmentFor fromTwenty = .ok sharedSegment := by
  rfl

theorem segmentFor_complete_iff_sharedInstant :
    Complete (allocateAll ⟨100, hundred_pos⟩ sharedInstant).1.frames fromTwenty sharedSegment ↔
      StartUnshared (allocateAll ⟨100, hundred_pos⟩ sharedInstant).1.frames fromTwenty :=
  segmentFor_complete_iff ⟨100, hundred_pos⟩ sharedInstant segmentFor_sharedInstant

/-- The delta frame at the start of the window is missing, and no flag says so. -/
theorem frame_left_out_silently :
    ¬ ∀ (capacity : BufferCapacity) (arrivals : List FrameArrival) (window : CaptureWindow)
      (segment : BufferSegment),
        (allocateAll capacity arrivals).1.segmentFor window = .ok segment →
          Complete (allocateAll capacity arrivals).1.frames window segment := by
  intro h
  have hcomplete := h ⟨100, hundred_pos⟩ sharedInstant fromTwenty sharedSegment
    segmentFor_sharedInstant
  have hlive : (⟨1, 20, 1, 1, false, "live"⟩ : FrameDescriptor) ∈
      (allocateAll ⟨100, hundred_pos⟩ sharedInstant).1.frames := by
    decide
  exact absurd (hcomplete.1 rfl _ hlive (by decide)) (by decide)

end RingBuffer

end Ods.S4
