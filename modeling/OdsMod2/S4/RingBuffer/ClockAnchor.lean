import OdsMod2.Framework.TwosComplement
import OdsMod2.S4.RingBuffer.FacadeCalls

/-!
# The anchor of the session in the buffer

The anchor of the `CaptureClockBridge` is kept apart from the index, and `onFrame` resets it only when
an allocation says that the buffer has been restarted. A stale anchor would misdate every frame of a
session without any error, so the two must never disagree: while the buffer holds frames, the clock is
anchored at the first frame that was accepted of their session (`onFrames_anchored`).

`AnchorInv` relates the clock to the frames accepted so far. The frame that anchors a session may have
left the buffer long since, so the invariant speaks of the session *run* of the index and not of its
live frames. A refused frame changes nothing, also where it would have opened a session: what is refused
for its size is refused before the switch, and an emptied queue refuses no timestamp. A session that
comes back is a run of its own and is anchored anew.

The translations are followed in the 64 bits of their types. They undo each other for every
timestamp. A live frame is dated at or after the anchor exactly if its instant is one that a
`time_point` can hold, up to the year 2262; the date of any other wraps around to one before the anchor.
-/

namespace Ods.S4

open RingBuffer MediaBuffer TwosComplement

/-! ### The two translations -/

namespace CaptureClockBridge

variable {clock : CaptureClockBridge}

/-- `toWallClock`, in the 64 bits of its types. -/
def toWallClock64 (clock : CaptureClockBridge) (captureTsNs : Nanoseconds) : TimePoint :=
  wrap (clock.anchorWallClock + wrap (captureTsNs - clock.anchorCaptureTsNs))

/-- `toCaptureTsNs`, in the 64 bits of its types. -/
def toCaptureTsNs64 (clock : CaptureClockBridge) (wallClock : TimePoint) : Nanoseconds :=
  wrap (clock.anchorCaptureTsNs + wrap (wallClock - clock.anchorWallClock))

theorem toCaptureTsNs64_toWallClock64 {captureTsNs : Nanoseconds} (h : Fits captureTsNs) :
    clock.toCaptureTsNs64 (clock.toWallClock64 captureTsNs) = captureTsNs :=
  wrap_move_back _ _ h

/-- What is not before the anchor on the one clock is before it on the other if it wraps around, and
only then. -/
theorem anchorWallClock_le_iff {captureTsNs : Nanoseconds} (hwall : Fits clock.anchorWallClock)
    (hanchor : Fits clock.anchorCaptureTsNs) (hstamp : Fits captureTsNs)
    (hle : clock.anchorCaptureTsNs ≤ captureTsNs) :
    clock.anchorWallClock ≤ clock.toWallClock64 captureTsNs ↔
      Fits (clock.toWallClock captureTsNs) := by
  rw [toWallClock64, wrap_add_wrap]
  exact le_wrap_add_iff hwall (Int.sub_nonneg_of_le hle) (hstamp.sub_lt hanchor)

theorem anchorIfNeeded_anchored (h : clock.anchored = true) (now : TimePoint)
    (captureTsNs : Nanoseconds) : clock.anchorIfNeeded now captureTsNs = clock :=
  if_pos h

theorem anchorIfNeeded_unanchored (h : clock.anchored = false) (now : TimePoint)
    (captureTsNs : Nanoseconds) :
    clock.anchorIfNeeded now captureTsNs = ⟨true, now, captureTsNs⟩ :=
  if_neg (ne_true_of_eq_false h)

theorem fits_anchorIfNeeded (h : Fits clock.anchorWallClock) {now : TimePoint} (hnow : Fits now)
    (captureTsNs : Nanoseconds) : Fits (clock.anchorIfNeeded now captureTsNs).anchorWallClock := by
  cases hanchored : clock.anchored with
  | true => rwa [anchorIfNeeded_anchored hanchored]
  | false => rwa [anchorIfNeeded_unanchored hanchored]

end CaptureClockBridge

/-! ### The frames that are accepted -/

namespace RingBufferRAMFacade

/-- The descriptor under which the frame is accepted, if it is. -/
def accepts (facade : RingBufferRAMFacade) (frame : CapturedFrame) : List FrameDescriptor :=
  match (ingestFrame facade.media frame).1 with
  | .ok allocation => [allocation.descriptor]
  | .error _ => []

/-- The frames that are accepted of the delivered ones. -/
def acceptedFrames : List (TimePoint × CapturedFrame) → RingBufferRAMFacade → List FrameDescriptor
  | [], _ => []
  | (now, frame) :: deliveries, facade =>
    facade.accepts frame ++ acceptedFrames deliveries (facade.onFrame now frame).2

/-- The clock against the frames accepted so far. -/
structure AnchorInv (facade : RingBufferRAMFacade) (accepted : List FrameDescriptor) : Prop where
  sound : facade.media.Sound
  run : RunInv facade.media.ringBuffer accepted
  /-- Nothing has anchored the clock before the first frame. -/
  unanchored : accepted = [] → facade.clock.anchored = false
  /-- The frame that opened the run of the session has anchored it, and none after it. -/
  anchored : ∀ first ∈ (sessionRun accepted).head?,
    facade.clock.anchored = true ∧ facade.clock.anchorCaptureTsNs = first.captureTsNs

/-- A delivery is one of the types: what the system clock reads, and the timestamp. -/
def FitsDelivery (delivery : TimePoint × CapturedFrame) : Prop :=
  Fits delivery.1 ∧ Fits delivery.2.captureTsNs

instance (delivery : TimePoint × CapturedFrame) : Decidable (FitsDelivery delivery) :=
  inferInstanceAs (Decidable (_ ∧ _))

/-- What came of such deliveries is of the types as well. -/
structure InRange (facade : RingBufferRAMFacade) (accepted : List FrameDescriptor) : Prop where
  wallClock : Fits facade.clock.anchorWallClock
  stamps : ∀ frame ∈ accepted, Fits frame.captureTsNs

variable {facade : RingBufferRAMFacade} {accepted : List FrameDescriptor}

theorem AnchorInv.new {capacity : BufferCapacity} {store : SharedMemoryFrameStore}
    (hcap : store.capacityBytes = capacity.totalBytes) (hopen : store.isClosed = false) :
    AnchorInv (new capacity store) [] where
  sound := Sound.new hcap hopen
  run := RunInv.new capacity
  unanchored := fun _ => rfl
  anchored := by
    intro first hfirst
    cases hfirst

theorem InRange.new (capacity : BufferCapacity) (store : SharedMemoryFrameStore) :
    InRange (new capacity store) [] where
  wallClock := show Fits 0 by decide
  stamps := fun _ hframe => absurd hframe List.not_mem_nil

/-- An accepted frame anchors the clock if it opens a run, and otherwise leaves it alone. -/
theorem AnchorInv.clock_accepted (h : AnchorInv facade accepted) {now : TimePoint}
    {frame : CapturedFrame} {allocation : Allocation} {after : MediaBuffer}
    (hingest : ingestFrame facade.media frame = (.ok allocation, after)) {first : FrameDescriptor}
    (hfirst : first ∈ (sessionRun (accepted ++ [allocation.descriptor])).head?)
    {clock : CaptureClockBridge}
    (hclock : clock = if allocation.sessionRestarted then facade.clock.reset else facade.clock) :
    (clock.anchorIfNeeded now frame.captureTsNs).anchored = true ∧
      (clock.anchorIfNeeded now frame.captureTsNs).anchorCaptureTsNs = first.captureTsNs := by
  have haccepted := Capture.accepted_of_ingestFrame hingest
  have hstamp : allocation.descriptor.captureTsNs = frame.captureTsNs := by
    rw [haccepted.descriptor_eq]
    rfl
  -- a clock without an anchor is anchored by the frame, which is then the only one of its run
  have hopens : clock.anchored = false → first = allocation.descriptor →
      (clock.anchorIfNeeded now frame.captureTsNs).anchored = true ∧
        (clock.anchorIfNeeded now frame.captureTsNs).anchorCaptureTsNs = first.captureTsNs := by
    rintro hnot rfl
    rw [CaptureClockBridge.anchorIfNeeded_unanchored hnot]
    exact ⟨rfl, hstamp.symm⟩
  rw [h.run.sessionRun_accepted haccepted] at hfirst
  cases hrestarted : allocation.sessionRestarted with
  | true =>
    rw [hrestarted] at hfirst hclock
    obtain rfl : clock = facade.clock.reset := hclock
    exact hopens rfl (Option.mem_some.mp hfirst).symm
  | false =>
    rw [hrestarted] at hfirst hclock
    obtain rfl : clock = facade.clock := hclock
    rw [if_neg Bool.false_ne_true] at hfirst
    by_cases hnone : accepted = []
    · -- the first frame of all finds the clock as it was made
      rw [hnone] at hfirst
      exact hopens (h.unanchored hnone) (Option.mem_some.mp hfirst).symm
    · obtain ⟨opening, run, hrun⟩ := List.exists_cons_of_ne_nil (h.run.sessionRun_ne_nil hnone)
      rw [hrun] at hfirst
      obtain rfl : opening = first := Option.mem_some.mp hfirst
      have hanchored := h.anchored opening (by rw [hrun]; rfl)
      rw [CaptureClockBridge.anchorIfNeeded_anchored hanchored.1]
      exact hanchored

/-- **One delivery**, whichever way it ends. -/
theorem AnchorInv.onFrame (h : AnchorInv facade accepted) (now : TimePoint) (frame : CapturedFrame) :
    AnchorInv (facade.onFrame now frame).2 (accepted ++ facade.accepts frame) := by
  unfold RingBufferRAMFacade.onFrame accepts
  cases hingest : ingestFrame facade.media frame with
  | mk result after =>
    cases result with
    | ok allocation =>
      refine ⟨(held_ingest h.sound hingest).1,
        h.run.accepted (Capture.accepted_of_ingestFrame hingest), ?_, ?_⟩
      · intro hnone
        exact absurd hnone (List.append_ne_nil_of_right_ne_nil _ (List.cons_ne_nil _ _))
      · intro first hfirst
        exact h.clock_accepted hingest hfirst rfl
    | error error =>
      -- neither the index nor the arena has changed
      obtain rfl := ingestFrame_error h.sound hingest
      show AnchorInv _ (accepted ++ [])
      rw [List.append_nil]
      cases error with
      | domain error => exact ⟨h.sound, h.run, h.unanchored, h.anchored⟩
      | application error => exact ⟨h.sound, h.run, h.unanchored, h.anchored⟩
      | mediaMux message => exact ⟨h.sound, h.run, h.unanchored, h.anchored⟩

/-- The clock takes over what the system clock reads, and the frame its timestamp. -/
theorem InRange.onFrame (h : InRange facade accepted) {now : TimePoint} {frame : CapturedFrame}
    (hfits : FitsDelivery (now, frame)) :
    InRange (facade.onFrame now frame).2 (accepted ++ facade.accepts frame) := by
  unfold RingBufferRAMFacade.onFrame accepts
  cases hingest : ingestFrame facade.media frame with
  | mk result after =>
    cases result with
    | ok allocation =>
      constructor
      · refine CaptureClockBridge.fits_anchorIfNeeded ?_ hfits.1 _
        split
        · exact h.wallClock
        · exact h.wallClock
      · intro other hother
        rcases List.mem_append.mp hother with hbefore | hnew
        · exact h.stamps other hbefore
        · rw [List.mem_singleton.mp hnew, (Capture.accepted_of_ingestFrame hingest).descriptor_eq]
          exact hfits.2
    | error error =>
      show InRange _ (accepted ++ [])
      rw [List.append_nil]
      cases error with
      | domain error => exact ⟨h.wallClock, h.stamps⟩
      | application error => exact ⟨h.wallClock, h.stamps⟩
      | mediaMux message => exact ⟨h.wallClock, h.stamps⟩

theorem AnchorInv.onFrames (h : AnchorInv facade accepted)
    (deliveries : List (TimePoint × CapturedFrame)) :
    AnchorInv (facade.onFrames deliveries).2
      (accepted ++ acceptedFrames deliveries facade) := by
  induction deliveries generalizing facade accepted with
  | nil =>
    show AnchorInv facade (accepted ++ [])
    rwa [List.append_nil]
  | cons delivery deliveries ih =>
    show AnchorInv _ (accepted ++ (facade.accepts delivery.2 ++ _))
    rw [← List.append_assoc]
    exact ih (h.onFrame delivery.1 delivery.2)

theorem InRange.onFrames (h : InRange facade accepted)
    {deliveries : List (TimePoint × CapturedFrame)}
    (hfits : ∀ delivery ∈ deliveries, FitsDelivery delivery) :
    InRange (facade.onFrames deliveries).2 (accepted ++ acceptedFrames deliveries facade) := by
  induction deliveries generalizing facade accepted with
  | nil =>
    show InRange facade (accepted ++ [])
    rwa [List.append_nil]
  | cons delivery deliveries ih =>
    obtain ⟨hdelivery, hrest⟩ := List.forall_mem_cons.mp hfits
    show InRange _ (accepted ++ (facade.accepts delivery.2 ++ _))
    rw [← List.append_assoc]
    exact ih (h.onFrame hdelivery) hrest

/-! ### What the clock says of the live frames -/

/-- The clock is that of the session in the buffer. -/
structure AnchoredAtFirst (facade : RingBufferRAMFacade) (accepted : List FrameDescriptor) :
    Prop where
  /-- The first accepted frame of the session in the buffer is the anchor. -/
  anchored : facade.media.ringBuffer.frames ≠ [] →
    facade.clock.anchored = true ∧ ∃ first, (sessionRun accepted).head? = some first ∧
      first.sessionId = facade.media.ringBuffer.sessionId ∧
        facade.clock.anchorCaptureTsNs = first.captureTsNs
  /-- A live frame is not dated before the anchor, unless its instant is too late for a
  `time_point`. -/
  wallClock_le_iff : ∀ frame ∈ facade.media.ringBuffer.frames,
    facade.clock.anchorWallClock ≤ facade.clock.toWallClock64 frame.captureTsNs ↔
      Fits (facade.clock.toWallClock frame.captureTsNs)
  toCaptureTsNs_toWallClock : ∀ captureTsNs, Fits captureTsNs →
    facade.clock.toCaptureTsNs64 (facade.clock.toWallClock64 captureTsNs) = captureTsNs

/-- The frames of a run are not before its first one. -/
theorem head_le_of_clockOrdered {run : List FrameDescriptor} (h : ClockOrdered run)
    {first frame : FrameDescriptor} (hfirst : run.head? = some first) (hframe : frame ∈ run) :
    first.captureTsNs ≤ frame.captureTsNs := by
  obtain ⟨rest, rfl⟩ := List.head?_eq_some_iff.mp hfirst
  rcases List.mem_cons.mp hframe with rfl | hrest
  · exact le_refl _
  · exact (List.pairwise_cons.mp h).1 frame hrest

/-- While there are live frames, the first frame of their run is the anchor. -/
theorem AnchorInv.exists_first (h : AnchorInv facade accepted)
    (hne : facade.media.ringBuffer.frames ≠ []) :
    facade.clock.anchored = true ∧ ∃ first, (sessionRun accepted).head? = some first ∧
      first.sessionId = facade.media.ringBuffer.sessionId ∧
        facade.clock.anchorCaptureTsNs = first.captureTsNs := by
  obtain ⟨first, rest, hrun⟩ := List.exists_cons_of_ne_nil
    (fun hnil => hne (List.suffix_nil.mp (hnil ▸ h.run.suffix)))
  have hhead : (sessionRun accepted).head? = some first := by rw [hrun, List.head?_cons]
  obtain ⟨hanchored, hstamp⟩ := h.anchored first hhead
  exact ⟨hanchored, first, hhead, h.run.run_session first (List.mem_of_head? hhead), hstamp⟩

theorem AnchorInv.anchoredAtFirst (h : AnchorInv facade accepted)
    (hrange : InRange facade accepted) : AnchoredAtFirst facade accepted where
  anchored := h.exists_first
  wallClock_le_iff := by
    intro frame hframe
    obtain ⟨-, first, hhead, -, hstamp⟩ := h.exists_first (List.ne_nil_of_mem hframe)
    have hlive := h.run.suffix.subset hframe
    have hrun := (sessionRun_suffix accepted).subset
    refine CaptureClockBridge.anchorWallClock_le_iff hrange.wallClock ?_
      (hrange.stamps frame (hrun hlive)) ?_
    · rw [hstamp]
      exact hrange.stamps first (hrun (List.mem_of_head? hhead))
    · rw [hstamp]
      exact head_le_of_clockOrdered h.run.run_clock hhead hlive
  toCaptureTsNs_toWallClock := fun _ hfits => CaptureClockBridge.toCaptureTsNs64_toWallClock64 hfits

/-- **The clock is that of the session in the buffer**, after any sequence of deliveries to an open
arena of the size of the index: frames of any sessions in any order, refused ones among them. -/
theorem onFrames_anchored (capacity : BufferCapacity) (store : SharedMemoryFrameStore)
    (hcap : store.capacityBytes = capacity.totalBytes) (hopen : store.isClosed = false)
    (deliveries : List (TimePoint × CapturedFrame))
    (hfits : ∀ delivery ∈ deliveries, FitsDelivery delivery) :
    AnchoredAtFirst ((new capacity store).onFrames deliveries).2
      (acceptedFrames deliveries (new capacity store)) :=
  ((AnchorInv.new hcap hopen).onFrames deliveries).anchoredAtFirst
    ((InRange.new capacity store).onFrames hfits)

/-- Of the live session a frame that goes back and one that pushes the first out; of a replay a first
frame that is too large and then another; and the live session once more. -/
def switchingFrames : List (TimePoint × CapturedFrame) :=
  [(1000, ⟨10, [1, 2, 3], true, "live"⟩), (1010, ⟨5, [4], false, "live"⟩),
    (1020, ⟨20, [5, 6, 7, 8, 9, 10], false, "live"⟩),
    (2000, ⟨3, [1, 2, 3, 4, 5, 6, 7, 8, 9], true, "replay"⟩), (2010, ⟨4, [1], true, "replay"⟩),
    (3000, ⟨30, [1, 2], true, "live"⟩), (3010, ⟨40, [3], false, "live"⟩)]

theorem onFrames_anchored_switching :
    AnchoredAtFirst ((new ⟨8, by decide⟩ (.create "ods" ⟨8, by decide⟩)).onFrames switchingFrames).2
        (acceptedFrames switchingFrames (new ⟨8, by decide⟩ (.create "ods" ⟨8, by decide⟩))) ∧
      ((new ⟨8, by decide⟩ (.create "ods" ⟨8, by decide⟩)).onFrames switchingFrames).2.clock =
        ⟨true, 3000, 30⟩ :=
  ⟨onFrames_anchored _ _ rfl rfl _ (by decide), by decide⟩

/-- Two frames of a session that begins in 2026, the second 237 years behind the first. -/
def distantFrames : List (TimePoint × CapturedFrame) :=
  [(1790000000000000000, ⟨0, [1], true, "live"⟩),
    (1790000000000000000, ⟨7500000000000000000, [2], true, "live"⟩)]

/-- The second frame is dated before the anchor. -/
theorem distant_frame_before_anchor :
    let facade := ((new ⟨8, by decide⟩ (.create "ods" ⟨8, by decide⟩)).onFrames distantFrames).2
    (∀ delivery ∈ distantFrames, FitsDelivery delivery) ∧
      ¬ ∀ frame ∈ facade.media.ringBuffer.frames,
        facade.clock.anchorWallClock ≤ facade.clock.toWallClock64 frame.captureTsNs := by
  decide

end RingBufferRAMFacade

end Ods.S4
