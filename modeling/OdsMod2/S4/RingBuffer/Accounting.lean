import Mathlib.Algebra.Order.Field.Basic
import Mathlib.Data.Rat.Cast.Order
import OdsMod2.S4.RingBuffer.Evictions
import OdsMod2.S4.RingBuffer.FacadeCalls
import OdsMod2.S4.RingBuffer.Occupancy

/-!
# The counters of the capture

`stats` is what the operators calibrate the window with: frames stored, ingested and evicted, and the
bytes in use. The evicted ones are counted where they leave, in three helpers of `allocate`, the
ingested ones where they are registered, and the rejected ones by the facade, outside the index.

`Balanced` is the double entry that ties them: every ingested frame is either stored or counted as
evicted. Each call keeps it, whichever way its frame goes, so no frame is dropped without a count
(`onFrames_accounted`). The bytes in use stay within the capacity because the live frames tile parts of
the arena that do not meet (`Layout.totalBytes_le`).
-/

namespace Ods.S4

/-- `BufferStats`. -/
structure BufferStats where
  capacityBytes : Nat
  bytesUsed : Nat
  framesStored : Nat
  framesIngestedTotal : Nat
  framesEvictedTotal : Nat
  hasFrames : Bool
  oldestCaptureTsNs : Nanoseconds
  newestCaptureTsNs : Nanoseconds
  sessionId : String
  deriving DecidableEq, Repr

/-- As an exact quotient: a rounded one is not above `1` either, since `1` is a `double`. -/
def BufferStats.fillRatio (stats : BufferStats) : Rat :=
  stats.bytesUsed / stats.capacityBytes

namespace RingBuffer

def newestCaptureTsNs (buffer : RingBuffer) : Nanoseconds :=
  match buffer.frames.getLast? with
  | none => 0
  | some newest => newest.captureTsNs

def oldestCaptureTsNs (buffer : RingBuffer) : Nanoseconds :=
  match buffer.frames.head? with
  | none => 0
  | some oldest => oldest.captureTsNs

def stats (buffer : RingBuffer) : BufferStats where
  capacityBytes := buffer.capacity
  bytesUsed := buffer.frames.foldl (fun bytesUsed frame => bytesUsed + frame.length) 0
  framesStored := buffer.frames.length
  framesIngestedTotal := buffer.ingestedTotal
  framesEvictedTotal := buffer.evictedTotal
  hasFrames := !buffer.frames.isEmpty
  oldestCaptureTsNs := buffer.oldestCaptureTsNs
  newestCaptureTsNs := buffer.newestCaptureTsNs
  sessionId := buffer.sessionId

theorem stats_bytesUsed (buffer : RingBuffer) :
    buffer.stats.bytesUsed = totalBytes buffer.frames := by
  have hloop : ∀ (frames : List FrameDescriptor) (used : Nat),
      frames.foldl (fun bytesUsed frame => bytesUsed + frame.length) used =
        used + totalBytes frames := by
    intro frames
    induction frames with
    | nil =>
      intro used
      rfl
    | cons frame frames ih =>
      intro used
      rw [List.foldl_cons, ih, totalBytes, totalBytes, List.map_cons, List.sum_cons,
        Nat.add_assoc]
  exact (hloop buffer.frames 0).trans (Nat.zero_add _)

/-! ### The bytes in use -/

/-- The live frames fit in the arena together. -/
theorem Layout.totalBytes_le {buffer : RingBuffer} (h : Layout buffer) :
    totalBytes buffer.frames ≤ buffer.capacity := by
  obtain ⟨leftover, current, front, back, hlaps⟩ := h
  have hleft := hlaps.leftover_tiles.sum_len
  have hcur := hlaps.current_tiles.sum_len
  have hback := hlaps.back_le
  have hwrite := hlaps.writeOffset_le
  have hsum : totalBytes buffer.frames
      = (leftover.map FrameDescriptor.length).sum + (current.map FrameDescriptor.length).sum := by
    unfold totalBytes
    rw [hlaps.frames_eq, List.map_append, List.sum_append]
  rcases hlaps.ahead with hnone | hahead
  · -- one lap, up to the write pointer
    have hzero : (leftover.map FrameDescriptor.length).sum = 0 := by
      rw [hnone, List.map_nil, List.sum_nil]
    calc totalBytes buffer.frames
        = buffer.writeOffset := by omega
      _ ≤ buffer.capacity := hwrite
  · -- the leftovers begin where the current lap has not arrived yet
    calc totalBytes buffer.frames
        = (leftover.map FrameDescriptor.length).sum + buffer.writeOffset := by omega
      _ ≤ (leftover.map FrameDescriptor.length).sum + front := by omega
      _ ≤ buffer.capacity := by omega

/-! ### Double entry -/

structure Balanced (buffer : RingBuffer) : Prop where
  layout : Layout buffer
  sessionOpen : buffer.SessionOpen
  stored : buffer.ingestedTotal = buffer.frames.length + buffer.evictedTotal
  issued : buffer.nextSequence = buffer.ingestedTotal

theorem Balanced.new (capacity : BufferCapacity) : Balanced (RingBuffer.new capacity) where
  layout := ⟨[], [], 0, 0, Laps.empty rfl rfl⟩
  sessionOpen := fun _ => rfl
  stored := rfl
  issued := rfl

section Step

variable {buffer after : RingBuffer} {arrival : FrameArrival}

/-- The session check moves what it clears to the other account. -/
theorem opened_balance (buffer : RingBuffer) (sid : String) :
    (buffer.opened sid).frames.length + (buffer.opened sid).evictedTotal =
      buffer.frames.length + buffer.evictedTotal := by
  rcases opened_cases buffer sid with ⟨hframes, -, hevicted, -⟩ | ⟨hframes, -, hevicted, -⟩
  · rw [hframes, hevicted]
  · rw [hframes, hevicted, List.length_nil, Nat.zero_add, Nat.add_comm]

/-- An accepted call books its own frame as ingested and stored, and every frame that leaves as
evicted. -/
theorem Balanced.accepted {allocation : Allocation} (h : Balanced buffer)
    (hok : buffer.allocate arrival.captureTsNs arrival.length arrival.isKeyframe
      arrival.sessionId = (.ok allocation, after)) : Balanced after := by
  have hacc := allocate_accepted hok
  obtain ⟨survivors, hleaves⟩ := allocate_leaves hok
  refine ⟨h.layout.accepted hacc, hacc.sessionOpen, ?_, ?_⟩
  · have hlength := hleaves.length_eq
    have hopened := opened_balance buffer arrival.sessionId
    calc after.ingestedTotal
        = buffer.ingestedTotal + 1 := hacc.ingestedTotal_eq
      _ = buffer.frames.length + buffer.evictedTotal + 1 := by rw [h.stored]
      _ = survivors.length + 1 + after.evictedTotal := by
        rw [hleaves.counted]
        omega
      _ = after.frames.length + after.evictedTotal := by
        rw [hleaves.survive, List.length_append, List.length_singleton]
  · rw [hacc.nextSequence_eq, hacc.ingestedTotal_eq, h.issued]

end Step

end RingBuffer

/-! ### The deliveries -/

namespace RingBufferRAMFacade

/-- `stats` of the facade: a snapshot under the mutex. -/
def stats (facade : RingBufferRAMFacade) : BufferStats :=
  facade.media.ringBuffer.stats

/-- Nothing of what was delivered is unaccounted for. -/
structure Accounted (delivered : Nat) (facade : RingBufferRAMFacade) : Prop where
  delivered_eq : delivered = facade.stats.framesIngestedTotal + facade.framesRejectedTotal
  ingested_eq : facade.stats.framesIngestedTotal =
    facade.stats.framesStored + facade.stats.framesEvictedTotal
  issued_eq : facade.media.ringBuffer.nextSequence = facade.stats.framesIngestedTotal
  bytesUsed_eq : facade.stats.bytesUsed =
    (facade.media.ringBuffer.frames.map FrameDescriptor.length).sum
  bytesUsed_le : facade.stats.bytesUsed ≤ facade.stats.capacityBytes
  fillRatio_le : facade.stats.fillRatio ≤ 1

/-- The books of the index and of the facade. -/
structure Books (delivered : Nat) (facade : RingBufferRAMFacade) : Prop where
  balanced : facade.media.ringBuffer.Balanced
  delivered_eq : delivered =
    facade.media.ringBuffer.ingestedTotal + facade.framesRejectedTotal

variable {facade : RingBufferRAMFacade} {delivered : Nat}

theorem Books.accounted (h : Books delivered facade) : Accounted delivered facade := by
  have hused := RingBuffer.stats_bytesUsed facade.media.ringBuffer
  have hle : facade.stats.bytesUsed ≤ facade.stats.capacityBytes :=
    hused.trans_le h.balanced.layout.totalBytes_le
  refine ⟨h.delivered_eq, h.balanced.stored, h.balanced.issued, hused, hle, ?_⟩
  unfold BufferStats.fillRatio
  apply div_le_one_of_le₀
  · exact_mod_cast hle
  · exact Nat.cast_nonneg _

/-- A delivery is booked once: as ingested, also when its bytes do not reach the arena, or else as
rejected. -/
theorem Books.onFrame (h : Books delivered facade) (now : TimePoint) (frame : CapturedFrame) :
    Books (delivered + 1) (facade.onFrame now frame).2 := by
  have hdelivered := h.delivered_eq
  cases hingest : ingestFrame facade.media frame with
  | mk result after =>
    have houtcome := ingestFrame_outcome facade.media frame
    unfold RingBufferRAMFacade.onFrame
    rw [hingest] at houtcome ⊢
    cases houtcome with
    | refused hrefused =>
      -- the index stays as it was
      obtain rfl := RingBuffer.allocate_error_eq h.balanced.sessionOpen hrefused
      refine ⟨h.balanced, ?_⟩
      dsimp only
      omega
    | unwritten hallocated hwrite =>
      -- the exception leaves the callback, the index has the frame
      have hcount := (RingBuffer.allocate_accepted hallocated).ingestedTotal_eq
      refine ⟨h.balanced.accepted hallocated, ?_⟩
      dsimp only
      omega
    | written hallocated hwrite =>
      have hcount := (RingBuffer.allocate_accepted hallocated).ingestedTotal_eq
      refine ⟨h.balanced.accepted hallocated, ?_⟩
      dsimp only
      omega

theorem Books.onFrames (h : Books delivered facade)
    (deliveries : List (TimePoint × CapturedFrame)) :
    Books (delivered + deliveries.length) (facade.onFrames deliveries).2 := by
  induction deliveries generalizing facade delivered with
  | nil => exact h
  | cons delivery deliveries ih =>
    rw [List.length_cons, Nat.add_comm deliveries.length, ← Nat.add_assoc]
    exact ih (h.onFrame delivery.1 delivery.2)

theorem Books.capacity_onFrame (h : Books delivered facade) (now : TimePoint)
    (frame : CapturedFrame) :
    (facade.onFrame now frame).2.stats.capacityBytes = facade.stats.capacityBytes := by
  cases hingest : ingestFrame facade.media frame with
  | mk result after =>
    have houtcome := ingestFrame_outcome facade.media frame
    unfold RingBufferRAMFacade.onFrame
    rw [hingest] at houtcome ⊢
    cases houtcome with
    | refused hrefused =>
      obtain rfl := RingBuffer.allocate_error_eq h.balanced.sessionOpen hrefused
      rfl
    | unwritten hallocated hwrite => exact (RingBuffer.allocate_accepted hallocated).capacity_eq
    | written hallocated hwrite => exact (RingBuffer.allocate_accepted hallocated).capacity_eq

/-- The capacity is the one the index was made with. -/
theorem Books.capacity_onFrames (h : Books delivered facade)
    (deliveries : List (TimePoint × CapturedFrame)) :
    (facade.onFrames deliveries).2.stats.capacityBytes = facade.stats.capacityBytes := by
  induction deliveries generalizing facade delivered with
  | nil => rfl
  | cons delivery deliveries ih =>
    exact (ih (h.onFrame delivery.1 delivery.2)).trans
      (h.capacity_onFrame delivery.1 delivery.2)

/-- **Nothing is dropped silently.** After any sequence of deliveries, each is counted as ingested or
as rejected, each ingested frame is stored or counted as evicted and has the next number, and the
bytes in use are those of the live frames and fit in the arena. -/
theorem onFrames_accounted (capacity : BufferCapacity) (store : SharedMemoryFrameStore)
    (deliveries : List (TimePoint × CapturedFrame)) :
    Accounted deliveries.length ((constructed capacity store).onFrames deliveries).2 := by
  have hnew : Books 0 (constructed capacity store) := ⟨RingBuffer.Balanced.new capacity, rfl⟩
  have hall := hnew.onFrames deliveries
  rw [Nat.zero_add] at hall
  exact hall.accounted

end RingBufferRAMFacade

end Ods.S4
