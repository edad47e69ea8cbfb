import OdsMod2.S4.RingBuffer.SessionRun

/-!
# What leaves the queue in one call

A frame stops being live in three ways: another session takes over (`switchSessionIfNeeded`), the
write wraps and finds leftovers of the previous lap ahead of the pointer
(`discardFramesBeyondWritePointer`), or the write takes the frame's region (`evictOverlapping`).
`Leaves` says what an accepted call does to the queue, one way after the other, and how it counts
what leaves.

`allocate` answers with what died in the write, and lists the third kind only. So a call names
everything that left exactly when it `OnlyOverwrites` (`allocate_evicted_iff`). A refused call lets
nothing go, whatever the session of its frame (`allocate_error_atomic`).
-/

namespace Ods.S4

namespace RingBuffer

/-- What a write of `length` bytes finds ahead of the pointer when it wraps. -/
def leftovers (buffer : RingBuffer) (length : Nat) : List FrameDescriptor :=
  if buffer.writeOffset + length ≤ buffer.capacity then
    []
  else
    buffer.frames.takeWhile fun frame => decide (buffer.writeOffset ≤ frame.offset)

/-- The two steps of an accepted call that let frames of the session go. -/
structure Leaves (buffer : RingBuffer) (arrival : FrameArrival) (allocation : Allocation)
    (after : RingBuffer) (survivors : List FrameDescriptor) : Prop where
  queue : (buffer.opened arrival.sessionId).frames =
    (buffer.opened arrival.sessionId).leftovers arrival.length ++
      (allocation.evicted ++ survivors)
  survive : after.frames = survivors ++ [allocation.descriptor]
  counted : after.evictedTotal =
    (buffer.opened arrival.sessionId).evictedTotal +
      ((buffer.opened arrival.sessionId).leftovers arrival.length).length +
        allocation.evicted.length

/-! ### The steps -/

section Steps

variable (buffer : RingBuffer) (length : Nat)

theorem offsetFor_frames :
    buffer.frames = buffer.leftovers length ++ (buffer.offsetFor length).2.frames := by
  unfold leftovers offsetFor
  split
  · rfl
  · exact List.takeWhile_append_dropWhile.symm

theorem offsetFor_evictedTotal :
    (buffer.offsetFor length).2.evictedTotal =
      buffer.evictedTotal + (buffer.leftovers length).length := by
  unfold leftovers offsetFor
  split
  · rfl
  · rfl

theorem evictOverlapping_frames (offset : Nat) :
    buffer.frames =
      (buffer.evictOverlapping offset length).1 ++
        (buffer.evictOverlapping offset length).2.frames :=
  List.takeWhile_append_dropWhile.symm

end Steps

section Outcome

variable {buffer after : RingBuffer} {arrival : FrameArrival} {allocation : Allocation}
  {survivors : List FrameDescriptor}

theorem allocate_leaves
    (h : buffer.allocate arrival.captureTsNs arrival.length arrival.isKeyframe
      arrival.sessionId = (.ok allocation, after)) :
    ∃ survivors, Leaves buffer arrival allocation after survivors := by
  unfold allocate at h
  split at h
  · cases h
  · simp only at h
    split at h
    · cases h
    · simp only [Prod.mk.injEq, Except.ok.injEq] at h
      obtain ⟨rfl, rfl⟩ := h
      -- the queue is cut twice from the front, and then grows at the back
      have hcut := offsetFor_frames (buffer.opened arrival.sessionId) arrival.length
      have hevict := evictOverlapping_frames
        ((buffer.opened arrival.sessionId).offsetFor arrival.length).2 arrival.length
        ((buffer.opened arrival.sessionId).offsetFor arrival.length).1
      refine ⟨_, ?_, rfl, ?_⟩
      · exact hcut.trans (congrArg (_ ++ ·) hevict)
      · exact congrArg (· + _) (offsetFor_evictedTotal _ arrival.length)

/-- The frames of the session that leave are the first ones. -/
theorem Leaves.length_eq (h : Leaves buffer arrival allocation after survivors) :
    (buffer.opened arrival.sessionId).frames.length =
      ((buffer.opened arrival.sessionId).leftovers arrival.length).length +
        allocation.evicted.length + survivors.length := by
  rw [h.queue, List.length_append, List.length_append, Nat.add_assoc]

end Outcome

/-- A session is opened by the frame that is accepted for it, so it is never without frames. -/
theorem allocateAll_holds_frames (capacity : BufferCapacity) (arrivals : List FrameArrival) :
    (allocateAll capacity arrivals).1.hasSession = true →
      (allocateAll capacity arrivals).1.frames ≠ [] :=
  (allocateAll_induction
    (fun buffer _ => buffer.SessionOpen ∧ (buffer.hasSession = true → buffer.frames ≠ []))
    (fun _ _ h => h.1) ⟨fun _ => rfl, fun h => by cases h⟩
    (fun _ _ _ _ _ _ hacc => by
      refine ⟨hacc.sessionOpen, fun _ => ?_⟩
      obtain ⟨kept, -, hframes⟩ := hacc.frames_eq
      rw [hframes]
      exact List.append_ne_nil_of_right_ne_nil _ (List.cons_ne_nil _ _)) arrivals).2

/-! ### What `allocate` says that died -/

/-- The call lets go of nothing but what it writes over: the session goes on, and a write that wraps
finds no leftover ahead of the pointer. -/
structure OnlyOverwrites (buffer : RingBuffer) (arrival : FrameArrival) : Prop where
  sameSession : buffer.hasSession = true → buffer.sessionId = arrival.sessionId
  noLeftover : buffer.capacity < buffer.writeOffset + arrival.length →
    ∀ oldest, buffer.frames.head? = some oldest → oldest.offset < buffer.writeOffset

/-- The leftovers are a run from the front of the queue, so the oldest frame tells whether there are
any. -/
theorem leftovers_eq_nil_iff {buffer : RingBuffer} {length : Nat} :
    buffer.leftovers length = [] ↔
      (buffer.capacity < buffer.writeOffset + length →
        ∀ oldest, buffer.frames.head? = some oldest → oldest.offset < buffer.writeOffset) := by
  unfold leftovers
  split
  · next hfit =>
    exact ⟨fun _ hwrap => absurd hfit (Nat.not_le.mpr hwrap), fun _ => rfl⟩
  · next hfit =>
    have hwrap := Nat.lt_of_not_le hfit
    cases hframes : buffer.frames with
    | nil => simp
    | cons oldest frames =>
      rw [List.takeWhile_cons]
      by_cases hbeyond : buffer.writeOffset ≤ oldest.offset
      · simp [hbeyond, hwrap]
      · simp [hbeyond, Nat.lt_of_not_le hbeyond]

/-- **What died in the write.** In every reachable state, the frames that leave the queue in an
accepted call are the ones its answer lists if and only if the call only overwrites. -/
theorem allocate_evicted_iff (capacity : BufferCapacity) (arrivals : List FrameArrival)
    (arrival : FrameArrival) {allocation : Allocation} {after : RingBuffer}
    (h : (allocateAll capacity arrivals).1.allocate arrival.captureTsNs arrival.length
      arrival.isKeyframe arrival.sessionId = (.ok allocation, after)) :
    (∃ survivors, (allocateAll capacity arrivals).1.frames = allocation.evicted ++ survivors ∧
        after.frames = survivors ++ [allocation.descriptor]) ↔
      OnlyOverwrites (allocateAll capacity arrivals).1 arrival := by
  have hholds := allocateAll_holds_frames capacity arrivals
  generalize (allocateAll capacity arrivals).1 = buffer at h hholds ⊢
  obtain ⟨survivors, hleaves⟩ := allocate_leaves h
  -- the frames after the call fix the survivors
  have hsurvivors : ∀ others, after.frames = others ++ [allocation.descriptor] →
      others = survivors := by
    intro others hothers
    exact List.append_cancel_right (hothers.symm.trans hleaves.survive)
  rcases opened_cases buffer arrival.sessionId with
    ⟨hframes, hoffset, -, -, hsame⟩ | ⟨hframes, -, -, -, hopen, hother⟩
  · -- the session goes on: only leftovers can be missing from the answer
    have hleft : (buffer.opened arrival.sessionId).leftovers arrival.length =
        buffer.leftovers arrival.length := by
      unfold leftovers
      rw [hframes, hoffset, opened_capacity]
    have hqueue := hleaves.queue
    rw [hframes, hleft] at hqueue
    constructor
    · rintro ⟨others, hbefore, hafter⟩
      obtain rfl := hsurvivors others hafter
      refine ⟨hsame, leftovers_eq_nil_iff.mp ?_⟩
      exact List.append_left_eq_self.mp (hqueue.symm.trans hbefore)
    · intro honly
      refine ⟨survivors, ?_, hleaves.survive⟩
      rw [hqueue, leftovers_eq_nil_iff.mpr honly.noLeftover, List.nil_append]
  · -- another session takes over a queue that holds frames, and the answer lists none of them
    have hevicted := hleaves.queue
    rw [hframes, eq_comm, List.append_eq_nil_iff, List.append_eq_nil_iff] at hevicted
    obtain ⟨-, hevicted, hgone⟩ := hevicted
    constructor
    · rintro ⟨others, hbefore, hafter⟩
      rw [hsurvivors others hafter, hevicted, hgone] at hbefore
      exact absurd hbefore (hholds hopen)
    · intro honly
      exact absurd (honly.sameSession hopen) hother

theorem ten_pos : 0 < 10 := by
  decide

/-- Three frames in an arena of ten bytes; the third wraps and takes the place of the first. -/
def secondLap : List FrameArrival :=
  [⟨0, 4, true, "live"⟩, ⟨1, 4, false, "live"⟩, ⟨2, 4, false, "live"⟩]

/-- What `allocate` answers to a frame of eight bytes after the second lap has begun. -/
def thirdLap : Allocation where
  descriptor := ⟨3, 3, 0, 8, true, "live"⟩
  evicted := [⟨2, 2, 0, 4, false, "live"⟩]
  sessionRestarted := false

/-- The buffer after it. -/
def atThirdLap : RingBuffer where
  capacity := 10
  frames := [⟨3, 3, 0, 8, true, "live"⟩]
  writeOffset := 8
  nextSequence := 4
  hasSession := true
  sessionId := "live"
  ingestedTotal := 4
  evictedTotal := 3

theorem allocate_thirdLap :
    (allocateAll ⟨10, ten_pos⟩ secondLap).1.allocate 3 8 true "live" =
      (.ok thirdLap, atThirdLap) := by
  rfl

theorem allocate_evicted_iff_thirdLap :
    (∃ survivors, (allocateAll ⟨10, ten_pos⟩ secondLap).1.frames = thirdLap.evicted ++ survivors ∧
        atThirdLap.frames = survivors ++ [thirdLap.descriptor]) ↔
      OnlyOverwrites (allocateAll ⟨10, ten_pos⟩ secondLap).1 ⟨3, 8, true, "live"⟩ :=
  allocate_evicted_iff ⟨10, ten_pos⟩ secondLap ⟨3, 8, true, "live"⟩ allocate_thirdLap

/-- The second frame is discarded with its lap, and the answer does not name it. -/
theorem leftover_dies_unnamed :
    ¬ ∀ (capacity : BufferCapacity) (arrivals : List FrameArrival) (arrival : FrameArrival)
      (allocation : Allocation) (after : RingBuffer),
        (allocateAll capacity arrivals).1.allocate arrival.captureTsNs arrival.length
            arrival.isKeyframe arrival.sessionId = (.ok allocation, after) →
          ∃ survivors,
            (allocateAll capacity arrivals).1.frames = allocation.evicted ++ survivors ∧
              after.frames = survivors ++ [allocation.descriptor] := by
  intro h
  obtain ⟨survivors, hbefore, -⟩ := h ⟨10, ten_pos⟩ secondLap ⟨3, 8, true, "live"⟩ thirdLap
    atThirdLap allocate_thirdLap
  -- the oldest live frame is the one at offset four, the answer begins with the one at zero
  have hhead := congrArg (fun frames => frames.head?.map FrameDescriptor.offset) hbefore
  have hfour : (allocateAll ⟨10, ten_pos⟩ secondLap).1.frames.head?.map
      FrameDescriptor.offset = some 4 := by
    rfl
  rw [hfour] at hhead
  cases hhead

/-! ### Refused calls -/

/-- **A refused call changes nothing.** In every reachable state, a call that throws does so for the
size of the frame or for its clock, and the index stays what it was. -/
theorem allocate_error_atomic (capacity : BufferCapacity) (arrivals : List FrameArrival)
    (arrival : FrameArrival) {error : DomainError} {after : RingBuffer}
    (h : (allocateAll capacity arrivals).1.allocate arrival.captureTsNs arrival.length
      arrival.isKeyframe arrival.sessionId = (.error error, after)) :
    after = (allocateAll capacity arrivals).1 ∧
      (error.kind = .frameTooLarge ∨ error.kind = .nonMonotonicTimestamp) := by
  refine ⟨allocate_error_eq (allocateAll_runInv capacity arrivals).sessionOpen h, ?_⟩
  cases allocate_refused h with
  | size hsize hkind => exact .inl hkind
  | clock hnewest hback hkind => exact .inr hkind

def emptyFrame : DomainError where
  kind := .frameTooLarge
  message := "Frame of 0 bytes does not fit in an arena of 10 bytes"

/-- An empty frame of another session arrives during the second lap. -/
theorem allocate_emptyFrame :
    (allocateAll ⟨10, ten_pos⟩ secondLap).1.allocate 0 0 true "replay" =
      (.error emptyFrame, (allocateAll ⟨10, ten_pos⟩ secondLap).1) := by
  rfl

theorem allocate_error_atomic_emptyFrame :
    (allocateAll ⟨10, ten_pos⟩ secondLap).1 = (allocateAll ⟨10, ten_pos⟩ secondLap).1 ∧
      (emptyFrame.kind = .frameTooLarge ∨ emptyFrame.kind = .nonMonotonicTimestamp) :=
  allocate_error_atomic ⟨10, ten_pos⟩ secondLap ⟨0, 0, true, "replay"⟩ allocate_emptyFrame

end RingBuffer

end Ods.S4
