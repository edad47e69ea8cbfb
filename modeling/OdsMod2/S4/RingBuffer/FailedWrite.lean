import OdsMod2.S4.RingBuffer.Lifecycle

/-!
# A write that fails

`IngestFrameUseCase` allocates first and writes second, so that no reader sees a descriptor whose bytes
are already being reused. The order has another side: when the write throws, the index has let the
oldest frames go and counts as live a frame that is not in the arena, and nothing takes it back. The
exception is no `DomainError`, so the facade does not catch it either.

Whether the write throws is known before the call (`WriteIsSafe`): the index refuses the frame, so that
nothing is written, or the arena is open and reaches as far as the region the frame would be given. In
every other state the call throws and leaves the descriptor behind (`ingestFrame_failedWrite_iff`).
-/

namespace Ods.S4

namespace RingBuffer

/-! ### Known before the call -/

/-- The frame is of the open session, or the first one. -/
def Continued (buffer : RingBuffer) (arrival : FrameArrival) : Prop :=
  buffer.hasSession = true → buffer.sessionId = arrival.sessionId

instance (buffer : RingBuffer) (arrival : FrameArrival) : Decidable (buffer.Continued arrival) :=
  inferInstanceAs (Decidable (_ → _))

/-- The index refuses the frame, for its size or for its clock. -/
def Refuses (buffer : RingBuffer) (arrival : FrameArrival) : Prop :=
  arrival.length = 0 ∨ buffer.capacity < arrival.length ∨
    buffer.Continued arrival ∧ ∃ newest, buffer.frames.getLast? = some newest ∧
      arrival.captureTsNs < newest.captureTsNs

/-- Where the region of the frame begins, if it is not refused. -/
def regionStart (buffer : RingBuffer) (arrival : FrameArrival) : Nat :=
  if buffer.Continued arrival ∧ buffer.writeOffset + arrival.length ≤ buffer.capacity then
    buffer.writeOffset
  else
    0

section Outcome

variable {buffer after : RingBuffer} {arrival : FrameArrival}

theorem Accepted.not_refuses {allocation : Allocation}
    (h : Accepted buffer arrival allocation after) : ¬ buffer.Refuses arrival := by
  rintro (hempty | hlong | ⟨hsame, newest, hnewest, hback⟩)
  · exact absurd hempty (Nat.ne_of_gt h.length_pos)
  · exact absurd h.length_le (Nat.not_le.mpr hlong)
  · rcases opened_cases buffer arrival.sessionId with ⟨hframes, -⟩ | ⟨-, -, -, -, hopen, hother⟩
    · -- the clock was checked against this frame
      rw [← hframes] at hnewest
      exact absurd (h.not_backwards newest hnewest) (Int.not_le.mpr hback)
    · exact hother (hsame hopen)

theorem Accepted.offset_eq {allocation : Allocation}
    (h : Accepted buffer arrival allocation after) :
    allocation.descriptor.offset = buffer.regionStart arrival := by
  have hle := h.length_le
  unfold regionStart
  rcases opened_cases buffer arrival.sessionId with
    ⟨-, hoffset, -, -, hsame⟩ | ⟨-, hoffset, -, -, hopen, hother⟩
  · have hplaced := h.placed
    rw [hoffset] at hplaced
    rcases hplaced with ⟨hfit, hstart, -⟩ | ⟨hwrap, hstart, -⟩
    · rw [if_pos ⟨hsame, hfit⟩, hstart]
    · rw [if_neg (fun hfit => absurd hfit.2 (Nat.not_le.mpr hwrap)), hstart]
  · -- another session begins at the start of the arena
    rw [if_neg (fun hsame => hother (hsame.1 hopen))]
    rcases h.placed with ⟨-, hstart, -⟩ | ⟨-, hstart, -⟩
    · exact hstart.trans hoffset
    · exact hstart

theorem refuses_of_allocate_error {error : DomainError}
    (h : buffer.allocate arrival.captureTsNs arrival.length arrival.isKeyframe
      arrival.sessionId = (.error error, after)) : buffer.Refuses arrival := by
  cases allocate_refused h with
  | size hsize hkind => exact hsize.elim .inl (fun hlong => .inr (.inl hlong))
  | clock hnewest hback hkind =>
    obtain ⟨hlast, hsame⟩ := opened_of_newest hnewest
    exact .inr (.inr ⟨hsame, _, hlast, hback⟩)

end Outcome

end RingBuffer

namespace SharedMemoryFrameStore

/-- A write that comes back was inside an open arena. -/
theorem inside_of_write {store store' : SharedMemoryFrameStore} {offset : Nat} {data : List UInt8}
    (h : store.write offset data = .ok store') :
    store.isClosed = false ∧ offset + data.length ≤ store.capacityBytes := by
  unfold write at h
  split at h
  · cases h
  · next hinside =>
    refine ⟨?_, rejectOutOfBounds_ok hinside⟩
    unfold rejectOutOfBounds at hinside
    split at hinside
    · cases hinside
    · next hopen => exact Bool.eq_false_iff.mpr hopen

end SharedMemoryFrameStore

/-! ### What a failed write leaves -/

/-- Nothing is written, or the write cannot fail. -/
def WriteIsSafe (media : MediaBuffer) (frame : CapturedFrame) : Prop :=
  media.ringBuffer.Refuses frame.arrival ∨
    media.frameStore.isClosed = false ∧
      media.ringBuffer.regionStart frame.arrival + frame.length ≤ media.frameStore.capacityBytes

/-- A write that throws leaves the index as it was before the call. -/
def FailedWriteUndone (media : MediaBuffer) (frame : CapturedFrame) : Prop :=
  ∀ error after, ingestFrame media frame = (.error (.application error), after) →
    after.ringBuffer = media.ringBuffer

/-- **The index keeps what was not written.** In every state, the index is left as it was by a write
that throws if and only if the write cannot throw. -/
theorem ingestFrame_failedWrite_iff (media : MediaBuffer) (frame : CapturedFrame) :
    FailedWriteUndone media frame ↔ WriteIsSafe media frame := by
  unfold FailedWriteUndone
  cases hingest : ingestFrame media frame with
  | mk result after =>
    have houtcome := ingestFrame_outcome media frame
    rw [hingest] at houtcome
    cases houtcome with
    | refused hrefused =>
      -- refused by the index: the arena is not reached
      refine iff_of_true ?_ (.inl (RingBuffer.refuses_of_allocate_error hrefused))
      intro error after hfailed
      cases hfailed
    | @unwritten allocation buffer failure hallocated hwrite =>
      have haccepted := RingBuffer.allocate_accepted hallocated
      refine iff_of_false ?_ ?_
      · -- the frame has been counted
        intro hundone
        have hsame : buffer = media.ringBuffer := hundone failure _ rfl
        have hcounted := haccepted.ingestedTotal_eq
        rw [hsame] at hcounted
        omega
      · rintro (hrefused | ⟨hopen, hinside⟩)
        · exact haccepted.not_refuses hrefused
        · rw [← haccepted.offset_eq] at hinside
          obtain ⟨store, hwritten, -⟩ := SharedMemoryFrameStore.write_ok hopen hinside
          rw [hwrite] at hwritten
          cases hwritten
    | written hallocated hwrite =>
      have haccepted := RingBuffer.allocate_accepted hallocated
      refine iff_of_true ?_ (.inr ?_)
      · intro error after hfailed
        cases hfailed
      · rw [← haccepted.offset_eq]
        exact SharedMemoryFrameStore.inside_of_write hwrite

/-- The first frame after a restart is live, and the arena is closed. -/
theorem restarted_frame_stays_unwritten :
    ¬ ∀ (capacity : BufferCapacity) (store : SharedMemoryFrameStore) (calls : List LifecycleCall)
      (frame : CapturedFrame),
        FailedWriteUndone
          (EventRun.run CaptureLifecycle.after (.constructed capacity store) calls).facade.media
          frame := by
  intro h
  have hundone := h ⟨16, CaptureLifecycle.sixteen_pos⟩
    (.create "ods" ⟨16, CaptureLifecycle.sixteen_pos⟩) CaptureLifecycle.restart
    ⟨5, [1, 2], true, "live"⟩
  have hsame := hundone ⟨.frameStore, "arena 'ods' is already closed"⟩ _ rfl
  -- one frame against none
  have hcount := congrArg (fun buffer => buffer.frames.length) hsame
  cases hcount

end Ods.S4
