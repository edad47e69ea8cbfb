import Mathlib.Logic.Relation
import OdsMod2.S4.MediaClip
import OdsMod2.S4.RingBuffer.Ingest

/-!
# The facade and its two clocks

`RingBufferRAMFacade` owns the buffer and the `CaptureClockBridge`, which ties the capture clock of
a session to the wall clock at the session's first frame. The thread of the frame source delivers
frames (`onFrame`) while request threads extract and translate. `onFrame` holds the mutex of the
facade from the ingest to the anchoring, and so does an extraction while it copies, but a translation
takes only the mutex of the clock, so it may fall between the two.

`FrameStep` is one lock-protected step of the source's thread, labelled by what it did. The labels
are collected in a `Chronicle`: which frames were accepted in which session, and what each session's
clock was anchored to. `CaptureInv` relates it to the state. In every reachable state the frames of
the buffer are frames of the current session, and while no frame is being delivered the clock is
anchored as that session's was.
-/

namespace Ods.S4

open RingBuffer MediaBuffer

/-! ### The clock bridge -/

/-- A moment on both clocks. -/
structure ClockAnchor where
  wallClock : TimePoint
  captureTsNs : Nanoseconds
  deriving DecidableEq, Repr

/-- The translation of a session with that anchor, before it is stored. -/
def ClockAnchor.toWallClock (anchor : ClockAnchor) (captureTsNs : Nanoseconds) : TimePoint :=
  anchor.wallClock + (captureTsNs - anchor.captureTsNs)

structure CaptureClockBridge where
  anchored : Bool
  anchorWallClock : TimePoint
  anchorCaptureTsNs : Nanoseconds
  deriving DecidableEq, Repr

namespace CaptureClockBridge

def new : CaptureClockBridge := ⟨false, 0, 0⟩

/-- `anchorIfNeeded`, with what `system_clock::now` reads. -/
def anchorIfNeeded (clock : CaptureClockBridge) (now : TimePoint) (captureTsNs : Nanoseconds) :
    CaptureClockBridge :=
  if clock.anchored then clock else ⟨true, now, captureTsNs⟩

/-- The old anchor stays where it was; only the flag falls. -/
def reset (clock : CaptureClockBridge) : CaptureClockBridge :=
  { clock with anchored := false }

/-- The sum that `toWallClock` stores in 64 bits. -/
def toWallClock (clock : CaptureClockBridge) (captureTsNs : Nanoseconds) : TimePoint :=
  clock.anchorWallClock + (captureTsNs - clock.anchorCaptureTsNs)

def anchor (clock : CaptureClockBridge) : ClockAnchor :=
  ⟨clock.anchorWallClock, clock.anchorCaptureTsNs⟩

end CaptureClockBridge

/-! ### The facade -/

/-- Where the source's thread stands in `onFrame`. Between the ingest and the anchoring it holds the
mutex; the flag says that the clock is still to be reset. -/
inductive SourceThread where
  | idle
  | ingested (captureTsNs : Nanoseconds) (sessionRestarted : Bool)
  deriving DecidableEq

structure RingBufferRAMFacade where
  media : MediaBuffer
  clock : CaptureClockBridge
  isCapturing : Bool
  framesRejectedTotal : Nat
  source : SourceThread

namespace RingBufferRAMFacade

/-- Capturing, before the first frame. -/
def new (capacity : BufferCapacity) (store : SharedMemoryFrameStore) : RingBufferRAMFacade where
  media := ⟨RingBuffer.new capacity, store⟩
  clock := .new
  isCapturing := true
  framesRejectedTotal := 0
  source := .idle

/-- `hasReached`. -/
def hasReached (facade : RingBufferRAMFacade) (targetTsNs : Nanoseconds) : Bool :=
  match facade.media.ringBuffer.frames.getLast? with
  | none => false
  | some newest => decide (targetTsNs ≤ newest.captureTsNs)

/-- Some frame has been accepted, so there is a current session. -/
def hasSession (facade : RingBufferRAMFacade) : Bool :=
  facade.media.ringBuffer.hasSession

end RingBufferRAMFacade

/-- What a step of the source's thread did. -/
inductive FrameEvent where
  | accepted (frame : CapturedFrame) (allocation : Allocation)
  | rejected (frame : CapturedFrame)
  | clockReset
  | anchored (anchor : ClockAnchor)
  | alreadyAnchored

/-- One step of `onFrame`. A frame may arrive whenever none is being delivered. An
`ApplicationError` of the ingest is not caught; what follows it is left out. -/
inductive FrameStep : RingBufferRAMFacade → FrameEvent → RingBufferRAMFacade → Prop
  | accept {facade : RingBufferRAMFacade} {frame : CapturedFrame} {allocation : Allocation}
      {media : MediaBuffer} (hidle : facade.source = .idle)
      (hingest : ingestFrame facade.media frame = (.ok allocation, media)) :
      FrameStep facade (.accepted frame allocation)
        { facade with
          media := media
          source := .ingested frame.captureTsNs allocation.sessionRestarted }
  | reject {facade : RingBufferRAMFacade} {frame : CapturedFrame} {error : DomainError}
      {media : MediaBuffer} (hidle : facade.source = .idle)
      (hingest : ingestFrame facade.media frame = (.error (.domain error), media)) :
      FrameStep facade (.rejected frame)
        { facade with
          media := media
          framesRejectedTotal := facade.framesRejectedTotal + 1 }
  | reset {facade : RingBufferRAMFacade} {captureTsNs : Nanoseconds}
      (hsource : facade.source = .ingested captureTsNs true) :
      FrameStep facade .clockReset
        { facade with clock := facade.clock.reset, source := .ingested captureTsNs false }
  | anchor {facade : RingBufferRAMFacade} {captureTsNs : Nanoseconds} (now : TimePoint)
      (hsource : facade.source = .ingested captureTsNs false)
      (hanchored : facade.clock.anchored = false) :
      FrameStep facade (.anchored ⟨now, captureTsNs⟩)
        { facade with
          clock := facade.clock.anchorIfNeeded now captureTsNs
          source := .idle }
  | keep {facade : RingBufferRAMFacade} {captureTsNs : Nanoseconds} (now : TimePoint)
      (hsource : facade.source = .ingested captureTsNs false)
      (hanchored : facade.clock.anchored = true) :
      FrameStep facade .alreadyAnchored
        { facade with
          clock := facade.clock.anchorIfNeeded now captureTsNs
          source := .idle }

/-! ### What is known of a run -/

/-- A frame that was accepted, with its session and its sequence number. -/
structure AcceptedFrame where
  session : Nat
  sequence : Nat
  frame : CapturedFrame

/-- The sessions of a run, counted from its start, with their frames and their anchors. A session
that comes back is a session of its own. -/
structure Chronicle where
  session : Nat
  accepted : List AcceptedFrame
  anchorOf : Nat → Option ClockAnchor

namespace Chronicle

def new : Chronicle := ⟨0, [], fun _ => none⟩

/-- The session after a frame has been accepted. -/
def sessionAfter (chronicle : Chronicle) (allocation : Allocation) : Nat :=
  if allocation.sessionRestarted then chronicle.session + 1 else chronicle.session

theorem sessionAfter_eq_self {chronicle : Chronicle} {allocation : Allocation} :
    chronicle.sessionAfter allocation = chronicle.session ↔
      allocation.sessionRestarted = false := by
  cases hrestarted : allocation.sessionRestarted <;> simp [sessionAfter, hrestarted]

def note (chronicle : Chronicle) : FrameEvent → Chronicle
  | .accepted frame allocation =>
    { chronicle with
      session := chronicle.sessionAfter allocation
      accepted := chronicle.accepted ++
        [⟨chronicle.sessionAfter allocation, allocation.descriptor.sequence, frame⟩] }
  | .anchored anchor =>
    { chronicle with anchorOf := Function.update chronicle.anchorOf chronicle.session anchor }
  | .rejected _ | .clockReset | .alreadyAnchored => chronicle

end Chronicle

/-- The facade with what is known of its run. -/
structure Capture where
  facade : RingBufferRAMFacade
  chronicle : Chronicle

namespace Capture

def new (capacity : BufferCapacity) (store : SharedMemoryFrameStore) : Capture :=
  ⟨.new capacity store, .new⟩

/-- A step of the source's thread. -/
def Step (c c' : Capture) : Prop :=
  ∃ event, FrameStep c.facade event c'.facade ∧ c'.chronicle = c.chronicle.note event

/-- Any number of steps of the source's thread. -/
def Later : Capture → Capture → Prop :=
  Relation.ReflTransGen Step

/-- The clock is not, or no longer, that of a session that has ended. -/
def Current (c : Capture) : Prop :=
  ∀ captureTsNs, c.facade.source ≠ .ingested captureTsNs true

/-- The invariant of the runs. -/
structure Inv (c : Capture) : Prop where
  sound : c.facade.media.Sound
  held : ∀ frame ∈ c.facade.media.held, ∃ captured,
    ⟨c.chronicle.session, frame.sequence, captured⟩ ∈ c.chronicle.accepted ∧
      frame = asHeld frame.sequence captured ∧
        captured.sessionId = c.facade.media.ringBuffer.sessionId
  /-- From the ingest of a new session's first frame to the reset of the clock, the clock is still
  that of the session before. -/
  anchorOf : c.Current → c.facade.clock.anchored = true →
    c.chronicle.anchorOf c.chronicle.session = some c.facade.clock.anchor
  anchored : c.facade.source = .idle → c.facade.media.ringBuffer.frames ≠ [] →
    c.facade.clock.anchored = true

theorem Inv.new {capacity : BufferCapacity} {store : SharedMemoryFrameStore}
    (hcap : store.capacityBytes = capacity.totalBytes) (hopen : store.isClosed = false) :
    Inv (new capacity store) where
  sound := Sound.new hcap hopen
  held := by
    intro frame hframe
    cases hframe
  anchorOf := by
    intro _ hanchored
    cases hanchored
  anchored := by
    intro _ hframes
    exact absurd rfl hframes

variable {c c' : Capture} {frame : CapturedFrame} {allocation : Allocation}
  {media after : MediaBuffer}

/-- An ingest that returns is an accepted call of the index. -/
theorem accepted_of_ingestFrame (hingest : ingestFrame media frame = (.ok allocation, after)) :
    Accepted media.ringBuffer frame.arrival allocation after.ringBuffer := by
  have houtcome := ingestFrame_outcome media frame
  rw [hingest] at houtcome
  cases houtcome with
  | written hallocated hwrite => exact allocate_accepted hallocated

/-- With a new session the queue starts over. -/
theorem held_ingest_restarted (hsound : Sound media)
    (hingest : ingestFrame media frame = (.ok allocation, after))
    (hrestarted : allocation.sessionRestarted = true) :
    after.held = [asHeld allocation.descriptor.sequence frame] := by
  have haccepted := accepted_of_ingestFrame hingest
  obtain ⟨-, -, -, kept, -, hheld⟩ := held_ingest hsound hingest
  rcases opened_cases media.ringBuffer frame.sessionId with ⟨-, -, -, hsame, -⟩ | ⟨hempty, -⟩
  · have hswitched := haccepted.restarted_eq
    rw [hrestarted] at hswitched
    exact absurd (hswitched.trans hsame) (by decide)
  · obtain ⟨suffix, hsuffix, hframes⟩ := haccepted.frames_eq
    have hnone : suffix = [] := List.suffix_nil.mp (hempty ▸ hsuffix)
    have hlength : after.held.length = 1 := by
      rw [held, List.length_map, hframes, hnone]
      rfl
    rw [hheld, List.length_append, List.length_singleton] at hlength
    have hkept : kept = [] := List.length_eq_zero_iff.mp (by omega)
    rw [hheld, hkept, List.nil_append]

/-- A frame of the open session leaves the session id. -/
theorem sessionId_of_not_restarted
    (hingest : ingestFrame media frame = (.ok allocation, after))
    (hrestarted : allocation.sessionRestarted = false)
    (hsession : media.ringBuffer.hasSession = true) :
    after.ringBuffer.sessionId = media.ringBuffer.sessionId := by
  have haccepted := accepted_of_ingestFrame hingest
  rcases opened_cases media.ringBuffer frame.sessionId with ⟨-, -, -, -, hsame⟩ | ⟨-, -, -, hswitched, -⟩
  · exact haccepted.sessionId_eq.trans (hsame hsession).symm
  · have hnot := haccepted.restarted_eq
    rw [hrestarted] at hnot
    exact absurd (hswitched.symm.trans hnot.symm) (by decide)

theorem hasSession_of_held (hsound : Sound media) {held : ExtractedFrame} (h : held ∈ media.held) :
    media.ringBuffer.hasSession = true := by
  by_contra hnone
  have hframes := hsound.sessionOpen (by simpa using hnone)
  rw [MediaBuffer.held, hframes] at h
  cases h

/-- After an accepted frame the buffer holds frames of the session after it. -/
theorem held_of_accepted (h : c.Inv)
    (hingest : ingestFrame c.facade.media frame = (.ok allocation, after)) :
    ∀ held ∈ after.held, ∃ captured,
      ⟨c.chronicle.sessionAfter allocation, held.sequence, captured⟩ ∈
        (c.chronicle.note (.accepted frame allocation)).accepted ∧
          held = asHeld held.sequence captured ∧
            captured.sessionId = after.ringBuffer.sessionId := by
  have hsessionId := (accepted_of_ingestFrame hingest).sessionId_eq
  have hnew : ∀ held, held = asHeld allocation.descriptor.sequence frame → ∃ captured,
      ⟨c.chronicle.sessionAfter allocation, held.sequence, captured⟩ ∈
        (c.chronicle.note (.accepted frame allocation)).accepted ∧
          held = asHeld held.sequence captured ∧
            captured.sessionId = after.ringBuffer.sessionId := by
    rintro held rfl
    exact ⟨frame, List.mem_append_right _ List.mem_cons_self, rfl, hsessionId.symm⟩
  intro held hheld
  cases hrestarted : allocation.sessionRestarted with
  | true =>
    rw [held_ingest_restarted h.sound hingest hrestarted] at hheld
    exact hnew held (List.mem_singleton.mp hheld)
  | false =>
    obtain ⟨-, -, -, kept, hkept, hafter⟩ := held_ingest h.sound hingest
    rw [hafter] at hheld
    rcases List.mem_append.mp hheld with hold | hlast
    · -- the frame was there before, in the same session
      have hbefore := hkept.subset hold
      obtain ⟨captured, haccepted, hsame, hid⟩ := h.held held hbefore
      have hkeeps := sessionId_of_not_restarted hingest hrestarted
        (hasSession_of_held h.sound hbefore)
      refine ⟨captured, List.mem_append_left _ ?_, hsame, hid.trans hkeeps.symm⟩
      rwa [Chronicle.sessionAfter, hrestarted]
    · exact hnew held (List.mem_singleton.mp hlast)

theorem Inv.step (h : c.Inv) (hstep : Step c c') : c'.Inv := by
  obtain ⟨facade', chronicle'⟩ := c'
  obtain ⟨event, hframe, rfl⟩ := hstep
  cases hframe with
  | @accept frame allocation media hidle hingest =>
    -- the frame of another session restarts the buffer; until it is anchored, nothing is current
    refine ⟨(held_ingest h.sound hingest).1, held_of_accepted h hingest, ?_, ?_⟩
    · intro hfresh hanchored
      have hrestarted : allocation.sessionRestarted = false := by
        by_contra hnot
        rw [Bool.not_eq_false] at hnot
        exact hfresh frame.captureTsNs (congrArg (SourceThread.ingested _) hnot)
      have hidle' : c.Current := by simp [Current, hidle]
      simpa [Chronicle.note, Chronicle.sessionAfter, hrestarted] using h.anchorOf hidle' hanchored
    · intro hthread
      cases hthread
  | @reject frame error media hidle hingest =>
    obtain rfl := ingestFrame_error h.sound hingest
    exact ⟨h.sound, h.held, h.anchorOf, h.anchored⟩
  | reset hsource =>
    refine ⟨h.sound, h.held, ?_, ?_⟩
    · intro _ hanchored
      cases hanchored
    · intro hthread
      cases hthread
  | @anchor captureTsNs now hsource hanchored =>
    refine ⟨h.sound, h.held, ?_, ?_⟩
    · intro _ _
      simp [Chronicle.note, CaptureClockBridge.anchorIfNeeded, CaptureClockBridge.anchor, hanchored]
    · intro _ _
      simp [CaptureClockBridge.anchorIfNeeded, hanchored]
  | @keep captureTsNs now hsource hanchored =>
    refine ⟨h.sound, h.held, ?_, ?_⟩
    · intro _ _
      simpa [Chronicle.note, CaptureClockBridge.anchorIfNeeded, hanchored] using
        h.anchorOf (by simp [Current, hsource]) hanchored
    · intro _ _
      simp [CaptureClockBridge.anchorIfNeeded, hanchored]

theorem Later.trans {c'' : Capture} (h : Later c c') (h' : Later c' c'') : Later c c'' :=
  Relation.ReflTransGen.trans h h'

theorem Inv.later (h : c.Inv) (hlater : Later c c') : c'.Inv := by
  induction hlater with
  | refl => exact h
  | tail _ hstep ih => exact ih.step hstep

/-! ### Sessions along a run -/

theorem Step.session_le (hstep : Step c c') : c.chronicle.session ≤ c'.chronicle.session := by
  obtain ⟨facade', chronicle'⟩ := c'
  obtain ⟨event, hframe, rfl⟩ := hstep
  cases hframe with
  | @accept frame allocation media hidle hingest =>
    simp only [Chronicle.note, Chronicle.sessionAfter]
    split
    · omega
    · exact le_rfl
  | _ => exact le_rfl

theorem Later.session_le (hlater : Later c c') : c.chronicle.session ≤ c'.chronicle.session := by
  induction hlater with
  | refl => exact le_rfl
  | tail _ hstep ih => exact ih.trans hstep.session_le

theorem Step.sessionId_eq (hstep : Step c c') (hinv : c.Inv)
    (hsession : c.facade.hasSession = true)
    (hsame : c'.chronicle.session = c.chronicle.session) :
    c'.facade.hasSession = true ∧
      c'.facade.media.ringBuffer.sessionId = c.facade.media.ringBuffer.sessionId := by
  obtain ⟨facade', chronicle'⟩ := c'
  obtain ⟨event, hframe, rfl⟩ := hstep
  cases hframe with
  | @accept frame allocation media hidle hingest =>
    have hrestarted := Chronicle.sessionAfter_eq_self.mp hsame
    exact ⟨(accepted_of_ingestFrame hingest).hasSession_eq,
      sessionId_of_not_restarted hingest hrestarted hsession⟩
  | @reject frame error media hidle hingest =>
    obtain rfl := ingestFrame_error hinv.sound hingest
    exact ⟨hsession, rfl⟩
  | _ => exact ⟨hsession, rfl⟩

/-- A session keeps its id for as long as it is the current one. -/
theorem Later.sessionId_eq (hlater : Later c c') (hinv : c.Inv)
    (hsession : c.facade.hasSession = true)
    (hsame : c'.chronicle.session = c.chronicle.session) :
    c'.facade.hasSession = true ∧
      c'.facade.media.ringBuffer.sessionId = c.facade.media.ringBuffer.sessionId := by
  induction hlater with
  | refl => exact ⟨hsession, rfl⟩
  | @tail b d hlater hstep ih =>
    have hle : b.chronicle.session ≤ c.chronicle.session := hsame ▸ hstep.session_le
    have heq : b.chronicle.session = c.chronicle.session :=
      le_antisymm hle (Later.session_le hlater)
    obtain ⟨hb, hid⟩ := ih heq
    obtain ⟨hd, hid'⟩ := hstep.sessionId_eq (hinv.later hlater) hb (hsame.trans heq.symm)
    exact ⟨hd, hid'.trans hid⟩

/-- The clock of the current session is anchored. -/
structure Anchored (c : Capture) : Prop where
  current : c.Current
  anchored : c.facade.clock.anchored = true

theorem Step.clock_eq (hstep : Step c c') (h : c.Anchored)
    (hsame : c'.chronicle.session = c.chronicle.session) :
    c'.Anchored ∧ c'.facade.clock = c.facade.clock := by
  obtain ⟨facade', chronicle'⟩ := c'
  obtain ⟨event, hframe, rfl⟩ := hstep
  cases hframe with
  | @accept frame allocation media hidle hingest =>
    have hrestarted := Chronicle.sessionAfter_eq_self.mp hsame
    exact ⟨⟨by simp [Current, hrestarted], h.anchored⟩, rfl⟩
  | @reject frame error media hidle hingest => exact ⟨⟨h.current, h.anchored⟩, rfl⟩
  | @reset captureTsNs hsource => exact absurd hsource (h.current captureTsNs)
  | @anchor captureTsNs now hsource hanchored =>
    rw [h.anchored] at hanchored
    cases hanchored
  | @keep captureTsNs now hsource hanchored =>
    have hclock : c.facade.clock.anchorIfNeeded now captureTsNs = c.facade.clock := by
      rw [CaptureClockBridge.anchorIfNeeded, if_pos hanchored]
    exact ⟨⟨by simp [Current], by rw [hclock, hanchored]⟩, hclock⟩

/-- Only a session that is being opened is given an anchor. -/
theorem Step.anchorOf_eq (hstep : Step c c') {session : Nat}
    (h : session < c.chronicle.session ∨ c.Anchored) :
    c'.chronicle.anchorOf session = c.chronicle.anchorOf session := by
  obtain ⟨facade', chronicle'⟩ := c'
  obtain ⟨event, hframe, rfl⟩ := hstep
  cases hframe with
  | anchor now hsource hanchored =>
    rcases h with hpast | h
    · exact Function.update_of_ne (Nat.ne_of_lt hpast) _ _
    · rw [h.anchored] at hanchored
      cases hanchored
  | _ => rfl

/-- A session keeps its anchor, also after it has ended; and while it is the current one, the clock
keeps to it. -/
theorem Later.keepsAnchor (hlater : Later c c') (h : c.Anchored) :
    c'.chronicle.anchorOf c.chronicle.session = c.chronicle.anchorOf c.chronicle.session ∧
      (c'.chronicle.session = c.chronicle.session →
        c'.Anchored ∧ c'.facade.clock = c.facade.clock) := by
  induction hlater with
  | refl => exact ⟨rfl, fun _ => ⟨h, rfl⟩⟩
  | @tail b d hlater hstep ih =>
    obtain ⟨hanchorOf, hclock⟩ := ih
    have hle := Later.session_le hlater
    have hle' := hstep.session_le
    have hfixed : c.chronicle.session < b.chronicle.session ∨ b.Anchored := by
      rcases Nat.lt_or_eq_of_le hle with hpast | hnow
      · exact .inl hpast
      · exact .inr (hclock hnow.symm).1
    refine ⟨(hstep.anchorOf_eq hfixed).trans hanchorOf, fun hsame => ?_⟩
    obtain ⟨hb, hclockb⟩ := hclock (by omega)
    obtain ⟨hd, hclockd⟩ := hstep.clock_eq hb (by omega)
    exact ⟨hd, hclockd.trans hclockb⟩

theorem Later.accepted_subset (hlater : Later c c') :
    c.chronicle.accepted ⊆ c'.chronicle.accepted := by
  induction hlater with
  | refl => exact List.Subset.refl _
  | @tail b d _ hstep ih =>
    refine List.Subset.trans ih ?_
    obtain ⟨facade', chronicle'⟩ := d
    obtain ⟨event, hframe, rfl⟩ := hstep
    cases hframe with
    | accept => exact List.subset_append_left _ _
    | _ => exact List.Subset.refl _

/-- What is copied while no frame is being delivered is of the current session, whose clock is
anchored. -/
theorem Inv.copied (h : c.Inv) (hidle : c.facade.source = .idle) {window : CaptureWindow}
    {segment : ExtractedSegment}
    (hcopy : extractCaptureWindow c.facade.media window = .ok segment)
    (hne : segment.frames ≠ []) :
    c.Anchored ∧ c.chronicle.anchorOf c.chronicle.session = some c.facade.clock.anchor ∧
      ∀ frame ∈ segment.frames, ∃ captured,
        ⟨c.chronicle.session, frame.sequence, captured⟩ ∈ c.chronicle.accepted ∧
          frame = asHeld frame.sequence captured ∧
            captured.sessionId = c.facade.media.ringBuffer.sessionId := by
  have hheld := extract_held h.sound hcopy
  have hframes : c.facade.media.ringBuffer.frames ≠ [] := by
    intro hnone
    rw [MediaBuffer.held, hnone] at hheld
    exact hne (List.eq_nil_of_infix_nil hheld)
  have hcurrent : c.Current := by simp [Current, hidle]
  have hanchored := h.anchored hidle hframes
  exact ⟨⟨hcurrent, hanchored⟩, h.anchorOf hcurrent hanchored,
    fun frame hframe => h.held frame (hheld.subset hframe)⟩

/-! ### Delivering a frame -/

def resetIfRestarted (c : Capture) : Capture :=
  match c.facade.source with
  | .ingested captureTsNs true =>
    { c with facade := { c.facade with
        clock := c.facade.clock.reset
        source := .ingested captureTsNs false } }
  | _ => c

def anchorAt (now : TimePoint) (c : Capture) : Capture :=
  match c.facade.source with
  | .ingested captureTsNs false =>
    { facade := { c.facade with
        clock := c.facade.clock.anchorIfNeeded now captureTsNs
        source := .idle }
      chronicle := c.chronicle.note
        (if c.facade.clock.anchored then .alreadyAnchored else .anchored ⟨now, captureTsNs⟩) }
  | _ => c

/-- The rest of `onFrame`, with the wall clock standing at `now`. -/
def finish (now : TimePoint) (c : Capture) : Capture :=
  c.resetIfRestarted.anchorAt now

/-- `onFrame` from its start. -/
def receive (frame : CapturedFrame) (c : Capture) : Capture :=
  match ingestFrame c.facade.media frame with
  | (.ok allocation, media) =>
    { facade := { c.facade with
        media := media
        source := .ingested frame.captureTsNs allocation.sessionRestarted }
      chronicle := c.chronicle.note (.accepted frame allocation) }
  | (.error (.domain _), media) =>
    { c with facade := { c.facade with
        media := media
        framesRejectedTotal := c.facade.framesRejectedTotal + 1 } }
  | _ => c

/-- A frame is delivered, after the one before it. -/
def deliver (now : TimePoint) (frame : CapturedFrame) (c : Capture) : Capture :=
  ((c.finish now).receive frame).finish now

theorem resetIfRestarted_later (c : Capture) : c.Later c.resetIfRestarted := by
  unfold resetIfRestarted
  split
  · next captureTsNs hsource => exact .single ⟨_, .reset hsource, rfl⟩
  · exact .refl

theorem anchorAt_later (now : TimePoint) (c : Capture) : c.Later (c.anchorAt now) := by
  unfold anchorAt
  split
  · next captureTsNs hsource =>
    cases hanchored : c.facade.clock.anchored with
    | true => exact .single ⟨_, .keep now hsource hanchored, rfl⟩
    | false => exact .single ⟨_, .anchor now hsource hanchored, rfl⟩
  · exact .refl

theorem finish_later (now : TimePoint) (c : Capture) : c.Later (c.finish now) :=
  (resetIfRestarted_later c).trans (anchorAt_later now _)

theorem finish_idle (now : TimePoint) (c : Capture) : (c.finish now).facade.source = .idle := by
  cases hsource : c.facade.source with
  | idle => simp [finish, resetIfRestarted, anchorAt, hsource]
  | ingested captureTsNs sessionRestarted =>
    cases sessionRestarted with
    | true => simp [finish, resetIfRestarted, anchorAt, hsource]
    | false => simp [finish, resetIfRestarted, anchorAt, hsource]

theorem receive_later (frame : CapturedFrame) (hidle : c.facade.source = .idle) :
    c.Later (c.receive frame) := by
  unfold receive
  split
  · next allocation media hingest => exact .single ⟨_, .accept hidle hingest, rfl⟩
  · next error media hingest => exact .single ⟨_, .reject hidle hingest, rfl⟩
  · exact .refl

theorem deliver_later (now : TimePoint) (frame : CapturedFrame) (c : Capture) :
    c.Later (c.deliver now frame) :=
  ((finish_later now c).trans (receive_later frame (finish_idle now c))).trans (finish_later now _)

/-- A frame is delivered at each of the moments. -/
def deliverAll (frames : List (TimePoint × CapturedFrame)) (c : Capture) : Capture :=
  frames.foldl (fun c delivery => c.deliver delivery.1 delivery.2) c

theorem deliverAll_later (frames : List (TimePoint × CapturedFrame)) (c : Capture) :
    c.Later (c.deliverAll frames) := by
  induction frames generalizing c with
  | nil => exact .refl
  | cons delivery frames ih => exact (deliver_later delivery.1 delivery.2 c).trans (ih _)

end Capture

end Ods.S4
