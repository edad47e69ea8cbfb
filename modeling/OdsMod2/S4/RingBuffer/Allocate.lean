import OdsMod2.S4.RingBuffer.Model

/-!
# What one `allocate` can do

`RingBuffer.allocate` ends in one of two ways, and every invariant of the index is derived from
these two statements alone.

* **Refused** (`allocate_refused`): the frame is empty, larger than the arena, or older than the
  newest live frame. The buffer is what it was (`allocate_error_eq`). The clock check runs after the
  session switch has already written to the buffer, so this needs `SessionOpen`: a buffer that holds
  frames holds them for a session.
* **Accepted** (`allocate_accepted`): the session is `opened`, a run of frames leaves from the
  front, and the new descriptor is appended. `Accepted` records the placement: where the write
  pointer was, whether the write wrapped, and which frames survived.

A run of calls is `allocateAll`, which also collects the accepted descriptors.
-/

namespace Ods.S4

/-- The arguments of one `allocate` call. -/
structure FrameArrival where
  captureTsNs : Nanoseconds
  length : Nat
  isKeyframe : Bool
  sessionId : String
  deriving DecidableEq, Repr

namespace RingBuffer

/-- A buffer that has opened no session holds no frame. -/
def SessionOpen (buffer : RingBuffer) : Prop :=
  buffer.hasSession = false → buffer.frames = []

/-- The buffer right after the session check of `allocate`. -/
def opened (buffer : RingBuffer) (sessionId : String) : RingBuffer :=
  (buffer.switchSessionIfNeeded sessionId).2

/-! ### The session check -/

section Opened

variable (buffer : RingBuffer) (sid : String)

@[simp] theorem opened_capacity : (buffer.opened sid).capacity = buffer.capacity := by
  unfold opened switchSessionIfNeeded
  split
  · rfl
  · split <;> rfl

@[simp] theorem opened_nextSequence :
    (buffer.opened sid).nextSequence = buffer.nextSequence := by
  unfold opened switchSessionIfNeeded
  split
  · rfl
  · split <;> rfl

@[simp] theorem opened_ingestedTotal :
    (buffer.opened sid).ingestedTotal = buffer.ingestedTotal := by
  unfold opened switchSessionIfNeeded
  split
  · rfl
  · split <;> rfl

@[simp] theorem opened_sessionId : (buffer.opened sid).sessionId = sid := by
  unfold opened switchSessionIfNeeded
  split
  · rfl
  · split
    · assumption
    · rfl

@[simp] theorem opened_hasSession : (buffer.opened sid).hasSession = true := by
  unfold opened switchSessionIfNeeded
  split
  · rfl
  · next h => split <;> simpa using h

end Opened

/-- The session check either leaves the frames alone or clears them, and it clears them only
when another session was open. -/
theorem opened_cases (buffer : RingBuffer) (sid : String) :
    ((buffer.opened sid).frames = buffer.frames ∧
        (buffer.opened sid).writeOffset = buffer.writeOffset ∧
        (buffer.opened sid).evictedTotal = buffer.evictedTotal ∧
        (buffer.switchSessionIfNeeded sid).1 = false ∧
        (buffer.hasSession = true → buffer.sessionId = sid)) ∨
      ((buffer.opened sid).frames = [] ∧
        (buffer.opened sid).writeOffset = 0 ∧
        (buffer.opened sid).evictedTotal = buffer.evictedTotal + buffer.frames.length ∧
        (buffer.switchSessionIfNeeded sid).1 = true ∧
        buffer.hasSession = true ∧ buffer.sessionId ≠ sid) := by
  unfold opened switchSessionIfNeeded
  by_cases h₁ : buffer.hasSession = true
  · by_cases h₂ : buffer.sessionId = sid
    · -- the open session goes on
      left
      simp [h₁, h₂]
    · -- another session was open: its frames go
      right
      simp [h₁, h₂]
  · -- no session was open
    left
    simp [h₁]

/-- Re-opening the open session changes nothing. -/
theorem opened_eq_self {buffer : RingBuffer} {sid : String} (h : buffer.hasSession = true)
    (hs : buffer.sessionId = sid) : buffer.opened sid = buffer := by
  unfold opened switchSessionIfNeeded
  simp [h, hs]

/-! ### Accepted calls -/

/-- Everything an accepted call does to the index. -/
structure Accepted (buffer : RingBuffer) (arrival : FrameArrival) (allocation : Allocation)
    (after : RingBuffer) : Prop where
  length_pos : 0 < arrival.length
  length_le : arrival.length ≤ buffer.capacity
  /-- The frame is not older than the newest live frame of its session. -/
  not_backwards : ∀ last, (buffer.opened arrival.sessionId).frames.getLast? = some last →
    last.captureTsNs ≤ arrival.captureTsNs
  descriptor_eq : allocation.descriptor =
    { sequence := buffer.nextSequence
      captureTsNs := arrival.captureTsNs
      offset := allocation.descriptor.offset
      length := arrival.length
      isKeyframe := arrival.isKeyframe
      sessionId := arrival.sessionId }
  restarted_eq : allocation.sessionRestarted =
    (buffer.switchSessionIfNeeded arrival.sessionId).1
  /-- Where the frame was put, and which frames of the session were left in the queue. -/
  placed :
    ((buffer.opened arrival.sessionId).writeOffset + arrival.length ≤ buffer.capacity ∧
      allocation.descriptor.offset = (buffer.opened arrival.sessionId).writeOffset ∧
      after.frames = (buffer.opened arrival.sessionId).frames.dropWhile (fun frame =>
        frame.occupies allocation.descriptor.offset
          (allocation.descriptor.offset + arrival.length)) ++ [allocation.descriptor]) ∨
    (buffer.capacity < (buffer.opened arrival.sessionId).writeOffset + arrival.length ∧
      allocation.descriptor.offset = 0 ∧
      after.frames = ((buffer.opened arrival.sessionId).frames.dropWhile (fun frame =>
          decide ((buffer.opened arrival.sessionId).writeOffset ≤ frame.offset))).dropWhile
        (fun frame => frame.occupies allocation.descriptor.offset
          (allocation.descriptor.offset + arrival.length)) ++ [allocation.descriptor])
  writeOffset_eq : after.writeOffset = allocation.descriptor.offset + arrival.length
  capacity_eq : after.capacity = buffer.capacity
  nextSequence_eq : after.nextSequence = buffer.nextSequence + 1
  ingestedTotal_eq : after.ingestedTotal = buffer.ingestedTotal + 1
  hasSession_eq : after.hasSession = true
  sessionId_eq : after.sessionId = arrival.sessionId

theorem rejectIfTooLarge_ok {buffer : RingBuffer} {length : Nat}
    (h : buffer.rejectIfTooLarge length = .ok ()) : 0 < length ∧ length ≤ buffer.capacity := by
  unfold rejectIfTooLarge at h
  split at h
  · cases h
  · omega

theorem rejectIfClockWentBackwards_ok {buffer : RingBuffer} {ts : Nanoseconds}
    (h : buffer.rejectIfClockWentBackwards ts = .ok ()) {last : FrameDescriptor}
    (hlast : buffer.frames.getLast? = some last) : last.captureTsNs ≤ ts := by
  unfold rejectIfClockWentBackwards at h
  rw [hlast] at h
  simp only at h
  split at h
  · cases h
  · next hlt => exact Int.not_lt.mp hlt

theorem rejectIfTooLarge_error {buffer : RingBuffer} {length : Nat} {error : DomainError}
    (h : buffer.rejectIfTooLarge length = .error error) :
    (length = 0 ∨ buffer.capacity < length) ∧ error.kind = .frameTooLarge := by
  unfold rejectIfTooLarge at h
  split at h
  · next hsize =>
    obtain rfl := Except.error.inj h
    exact ⟨hsize, rfl⟩
  · cases h

/-- A timestamp is refused for the newest frame that is held. -/
theorem rejectIfClockWentBackwards_error {buffer : RingBuffer} {ts : Nanoseconds}
    {error : DomainError} (h : buffer.rejectIfClockWentBackwards ts = .error error) :
    (∃ newest, buffer.frames.getLast? = some newest ∧ ts < newest.captureTsNs) ∧
      error.kind = .nonMonotonicTimestamp := by
  unfold rejectIfClockWentBackwards at h
  split at h
  · cases h
  · next newest hnewest =>
    split at h
    · next hback =>
      obtain rfl := Except.error.inj h
      exact ⟨⟨newest, hnewest, hback⟩, rfl⟩
    · cases h

/-- What a refused call is refused for, and how far it has come. -/
inductive Refused (buffer : RingBuffer) (arrival : FrameArrival) (error : DomainError) :
    RingBuffer → Prop
  /-- Before anything is written. -/
  | size (hsize : arrival.length = 0 ∨ buffer.capacity < arrival.length)
      (hkind : error.kind = .frameTooLarge) : Refused buffer arrival error buffer
  /-- After the session check. -/
  | clock {newest : FrameDescriptor}
      (hnewest : (buffer.opened arrival.sessionId).frames.getLast? = some newest)
      (hback : arrival.captureTsNs < newest.captureTsNs)
      (hkind : error.kind = .nonMonotonicTimestamp) :
      Refused buffer arrival error (buffer.opened arrival.sessionId)

section Outcome

variable {buffer after : RingBuffer} {arrival : FrameArrival} {allocation : Allocation}

/-- **The accepted outcome.** -/
theorem allocate_accepted
    (h : buffer.allocate arrival.captureTsNs arrival.length arrival.isKeyframe
      arrival.sessionId = (.ok allocation, after)) :
    Accepted buffer arrival allocation after := by
  unfold allocate at h
  split at h
  · cases h
  · next hlen =>
    obtain ⟨hpos, hle⟩ := rejectIfTooLarge_ok hlen
    simp only at h
    split at h
    · cases h
    · next hclock =>
      -- what the session check leaves alone, the later steps find as it was
      have hback : ∀ last, (buffer.opened arrival.sessionId).frames.getLast? = some last →
          last.captureTsNs ≤ arrival.captureTsNs :=
        fun last hlast => rejectIfClockWentBackwards_ok hclock hlast
      have hcap : ((buffer.switchSessionIfNeeded arrival.sessionId).2).capacity
          = buffer.capacity := opened_capacity buffer arrival.sessionId
      have hseq : ((buffer.switchSessionIfNeeded arrival.sessionId).2).nextSequence
          = buffer.nextSequence := opened_nextSequence buffer arrival.sessionId
      have hing : ((buffer.switchSessionIfNeeded arrival.sessionId).2).ingestedTotal
          = buffer.ingestedTotal := opened_ingestedTotal buffer arrival.sessionId
      have hses : ((buffer.switchSessionIfNeeded arrival.sessionId).2).hasSession
          = true := opened_hasSession buffer arrival.sessionId
      have hsid : ((buffer.switchSessionIfNeeded arrival.sessionId).2).sessionId
          = arrival.sessionId := opened_sessionId buffer arrival.sessionId
      simp only [Prod.mk.injEq, Except.ok.injEq] at h
      obtain ⟨rfl, rfl⟩ := h
      unfold offsetFor
      split
      · next hfit =>
        -- the frame fits before the end of the arena
        rw [hcap] at hfit
        exact
          { length_pos := hpos, length_le := hle, not_backwards := hback
            descriptor_eq := by simp [registerFrame, evictOverlapping, hseq]
            restarted_eq := rfl
            placed := Or.inl ⟨hfit, rfl, rfl⟩
            writeOffset_eq := rfl
            capacity_eq := hcap
            nextSequence_eq := congrArg (· + 1) hseq
            ingestedTotal_eq := congrArg (· + 1) hing
            hasSession_eq := hses
            sessionId_eq := hsid }
      · next hfit =>
        -- the write wraps: the leftovers of the previous lap go first
        rw [hcap] at hfit
        exact
          { length_pos := hpos, length_le := hle, not_backwards := hback
            descriptor_eq := by
              simp [registerFrame, evictOverlapping, discardFramesBeyondWritePointer, hseq]
            restarted_eq := rfl
            placed := Or.inr ⟨Nat.lt_of_not_le hfit, rfl, rfl⟩
            writeOffset_eq := rfl
            capacity_eq := hcap
            nextSequence_eq := congrArg (· + 1) hseq
            ingestedTotal_eq := congrArg (· + 1) hing
            hasSession_eq := hses
            sessionId_eq := hsid }

theorem allocate_refused {error : DomainError}
    (h : buffer.allocate arrival.captureTsNs arrival.length arrival.isKeyframe
      arrival.sessionId = (.error error, after)) : Refused buffer arrival error after := by
  unfold allocate at h
  split at h
  · next hlength =>
    simp only [Prod.mk.injEq, Except.error.injEq] at h
    obtain ⟨rfl, rfl⟩ := h
    obtain ⟨hsize, hkind⟩ := rejectIfTooLarge_error hlength
    exact .size hsize hkind
  · simp only at h
    split at h
    · next hclock =>
      simp only [Prod.mk.injEq, Except.error.injEq] at h
      obtain ⟨rfl, rfl⟩ := h
      obtain ⟨⟨newest, hnewest, hback⟩, hkind⟩ := rejectIfClockWentBackwards_error hclock
      exact .clock hnewest hback hkind
    · cases h

/-- The clock is checked only against a frame of the session that goes on. -/
theorem opened_of_newest {newest : FrameDescriptor}
    (h : (buffer.opened arrival.sessionId).frames.getLast? = some newest) :
    buffer.frames.getLast? = some newest ∧
      (buffer.hasSession = true → buffer.sessionId = arrival.sessionId) := by
  rcases opened_cases buffer arrival.sessionId with ⟨hframes, -, -, -, hsame⟩ | ⟨hframes, -⟩
  · rw [hframes] at h
    exact ⟨h, hsame⟩
  · -- a queue that was cleared has no newest frame
    rw [hframes] at h
    cases h

/-- **The refused outcome**: the index is what it was, also when the frame came with a new
session. -/
theorem allocate_error_eq {error : DomainError} (hopen : buffer.SessionOpen)
    (h : buffer.allocate arrival.captureTsNs arrival.length arrival.isKeyframe
      arrival.sessionId = (.error error, after)) : after = buffer := by
  cases allocate_refused h with
  | size hsize hkind => rfl
  | clock hnewest hback hkind =>
    obtain ⟨hlast, hsame⟩ := opened_of_newest hnewest
    -- a buffer that holds frames has a session
    have hses : buffer.hasSession = true := by
      by_contra hno
      rw [hopen (Bool.eq_false_iff.mpr hno)] at hlast
      cases hlast
    exact opened_eq_self hses (hsame hses)

/-- The descriptor is appended to what is left of the session's queue. -/
theorem Accepted.frames_eq (h : Accepted buffer arrival allocation after) :
    ∃ kept, kept <:+ (buffer.opened arrival.sessionId).frames ∧
      after.frames = kept ++ [allocation.descriptor] := by
  rcases h.placed with ⟨-, -, hf⟩ | ⟨-, -, hf⟩
  · exact ⟨_, List.dropWhile_suffix _, hf⟩
  · exact ⟨_, (List.dropWhile_suffix _).trans (List.dropWhile_suffix _), hf⟩

theorem Accepted.sessionOpen (h : Accepted buffer arrival allocation after) :
    after.SessionOpen := by
  intro hno
  rw [h.hasSession_eq] at hno
  cases hno

end Outcome

/-! ### Runs of calls -/

/-- One call of a run: the buffer moves on, and an accepted descriptor is collected. -/
def allocateStep (run : RingBuffer × List FrameDescriptor) (arrival : FrameArrival) :
    RingBuffer × List FrameDescriptor :=
  match run.1.allocate arrival.captureTsNs arrival.length arrival.isKeyframe
      arrival.sessionId with
  | (.ok allocation, buffer) => (buffer, run.2 ++ [allocation.descriptor])
  | (.error _, buffer) => (buffer, run.2)

/-- A run of `allocate` calls on a fresh buffer: the buffer it leaves and the frames it
accepted, oldest first. -/
def allocateAll (capacity : BufferCapacity) (arrivals : List FrameArrival) :
    RingBuffer × List FrameDescriptor :=
  arrivals.foldl allocateStep (new capacity, [])

/-- **Run invariants.** A property of the buffer and the accepted frames that holds at the start
and is kept by every accepted call holds after every run; refused calls keep it for free. -/
theorem allocateAll_induction {capacity : BufferCapacity}
    (P : RingBuffer → List FrameDescriptor → Prop)
    (hopen : ∀ buffer acc, P buffer acc → buffer.SessionOpen)
    (hinit : P (new capacity) [])
    (hstep : ∀ buffer acc arrival allocation after, P buffer acc →
      Accepted buffer arrival allocation after → P after (acc ++ [allocation.descriptor]))
    (arrivals : List FrameArrival) :
    P (allocateAll capacity arrivals).1 (allocateAll capacity arrivals).2 := by
  unfold allocateAll
  suffices h : ∀ (run : RingBuffer × List FrameDescriptor), P run.1 run.2 →
      P (arrivals.foldl allocateStep run).1 (arrivals.foldl allocateStep run).2 from
    h _ hinit
  induction arrivals with
  | nil =>
    intro run hP
    exact hP
  | cons arrival arrivals ih =>
    intro run hP
    rw [List.foldl_cons]
    apply ih
    unfold allocateStep
    split
    · next allocation after h => exact hstep _ _ _ _ _ hP (allocate_accepted h)
    · next error after h =>
      -- a refused call leaves the buffer as it was
      rw [allocate_error_eq (hopen _ _ hP) h]
      exact hP

end RingBuffer

end Ods.S4
