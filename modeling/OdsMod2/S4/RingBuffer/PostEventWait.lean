import OdsMod2.Framework.CondVar
import OdsMod2.Framework.LabelledRun
import OdsMod2.S4.RingBuffer.FacadeCalls

/-!
# Waiting for the end of the window

`extractCaptureWindow` of the facade waits on a condition variable until the newest frame has reached
the end of its window, the capture is stopped, or its time is up. `onFrame` and `stopCapture` change
under the mutex what it waits for and notify behind it. Nothing may be lost in between: an extraction
that checked its predicate before the change and fell asleep after the notification would wait for its
whole timeout.

A step is a section under the mutex, a notification, or one of the calls of the owner that take no
mutex. Any number of threads extract, one thread delivers, and the owner calls `startCapture` and
`stopCapture` one at a time. An exception that leaves the callback ends the process, and with it the
run.

In every reachable state an extraction that sleeps although it could go on is about to be woken, and no
extraction that was not timed out comes back without the end of its window (`waits_rightly`).
-/

namespace Ods.S4

open CondVar LabelledRun MediaBuffer RingBuffer

/-- The predicate of the wait. -/
def RingBufferRAMFacade.isReady (facade : RingBufferRAMFacade) (window : CaptureWindow) : Bool :=
  !facade.isCapturing || facade.hasReached window.endNs

/-- Who calls `notify_all`. -/
inductive CaptureNotifier where
  /-- The thread of the source, behind an accepted frame. -/
  | source
  /-- The owner, behind the flag of `stopCapture`. -/
  | stopper
  deriving DecidableEq

/-- Where the owner stands. -/
inductive OwnerPoint where
  | idle
  /-- In `startCapture`, in front of the source. -/
  | starting
  /-- In `stopCapture`, behind the flag. -/
  | notifying
  | stoppingSource
  | closing
  deriving DecidableEq

/-- The facade with its threads; those of `ι` extract. -/
structure CaptureThreads (ι : Type) where
  facade : RingBufferRAMFacade
  isSourceRunning : Bool
  owner : OwnerPoint
  board : Board ι CaptureNotifier CaptureWindow

namespace CaptureThreads

variable {ι : Type}

def constructed (capacity : BufferCapacity) (store : SharedMemoryFrameStore) : CaptureThreads ι where
  facade := .constructed capacity store
  isSourceRunning := false
  owner := .idle
  board := .clear

/-- The source may call `onFrame`: not inside another call, and not before its `start`. -/
def MayDeliver (s : CaptureThreads ι) : Prop :=
  (s.isSourceRunning = true ∨ s.owner = .starting) ∧ s.board.owes .source = false

end CaptureThreads

/-- What a step did. -/
inductive CaptureLabel (ι : Type) where
  | start
  /-- `start` of the source has come back. -/
  | sourceStarted (hasThrown : Bool)
  | accepted (frame : CapturedFrame)
  | rejected (frame : CapturedFrame)
  | notifies (notifier : CaptureNotifier)
  | stop
  | sourceStopped
  | closes
  | sleeps (waiter : ι) (window : CaptureWindow)
  | wakes (waiter : ι) (isTimeout : Bool)
  /-- The extraction has come back. -/
  | answered (waiter : ι) (window : CaptureWindow) (isTimeout : Bool)
      (result : Except ODSException ExtractedSegment)

section Steps

variable {ι : Type} [DecidableEq ι]

inductive CaptureStep : CaptureThreads ι → CaptureLabel ι → CaptureThreads ι → Prop
  | start {s : CaptureThreads ι} (hidle : s.owner = .idle) (hdown : s.facade.isCapturing = false) :
    CaptureStep s .start { s with
      facade := { s.facade with isCapturing := true }
      owner := .starting }
  /-- A capture that runs is not started again. -/
  | startAgain {s : CaptureThreads ι} (hidle : s.owner = .idle)
      (hcapturing : s.facade.isCapturing = true) : CaptureStep s .start s
  | sourceStarted {s : CaptureThreads ι} (hasThrown : Bool) (hstarting : s.owner = .starting)
      (houtside : s.board.owes .source = false) :
    CaptureStep s (.sourceStarted hasThrown) { s with
      isSourceRunning := !hasThrown
      owner := .idle }
  /-- The section of `onFrame` under the mutex, with what `system_clock::now` reads. -/
  | accept {s : CaptureThreads ι} {frame : CapturedFrame} {allocation : Allocation}
      {media : MediaBuffer} (now : TimePoint) (hdeliver : s.MayDeliver)
      (hingest : ingestFrame s.facade.media frame = (.ok allocation, media)) :
    CaptureStep s (.accepted frame) { s with
      facade := (s.facade.onFrame now frame).2
      board := s.board.owe .source }
  /-- It comes back without a notification. -/
  | reject {s : CaptureThreads ι} {frame : CapturedFrame} {error : DomainError}
      {media : MediaBuffer} (now : TimePoint) (hdeliver : s.MayDeliver)
      (hingest : ingestFrame s.facade.media frame = (.error (.domain error), media)) :
    CaptureStep s (.rejected frame) { s with facade := (s.facade.onFrame now frame).2 }
  | notifySource {s : CaptureThreads ι} (howes : s.board.owes .source = true) :
    CaptureStep s (.notifies .source) { s with board := s.board.notifyAll .source }
  | stop {s : CaptureThreads ι} (hidle : s.owner = .idle)
      (hcapturing : s.facade.isCapturing = true) :
    CaptureStep s .stop { s with
      facade := { s.facade with isCapturing := false }
      owner := .notifying
      board := s.board.owe .stopper }
  /-- There is nothing to stop. -/
  | stopIdle {s : CaptureThreads ι} (hidle : s.owner = .idle)
      (hdown : s.facade.isCapturing = false) : CaptureStep s .stop s
  | notifyStop {s : CaptureThreads ι} (hnotifying : s.owner = .notifying)
      (howes : s.board.owes .stopper = true) :
    CaptureStep s (.notifies .stopper) { s with
      owner := .stoppingSource
      board := s.board.notifyAll .stopper }
  /-- The source stops when it is not in the callback. -/
  | sourceStopped {s : CaptureThreads ι} (hstopping : s.owner = .stoppingSource)
      (houtside : s.board.owes .source = false) :
    CaptureStep s .sourceStopped { s with isSourceRunning := false, owner := .closing }
  | close {s : CaptureThreads ι} (hclosing : s.owner = .closing) :
    CaptureStep s .closes { s with facade := s.facade.closeStore, owner := .idle }
  /-- An extraction finds the flag down. -/
  | refuse {s : CaptureThreads ι} {waiter : ι} (window : CaptureWindow)
      (houtside : s.board.point waiter = .outside) (hdown : s.facade.isCapturing = false) :
    CaptureStep s (.answered waiter window false (.error (.application
      ⟨.bufferNotRunning, "call startCapture() before extracting segments"⟩))) s
  /-- Its window has been reached already. -/
  | answerAtOnce {s : CaptureThreads ι} {waiter : ι} {window : CaptureWindow}
      (houtside : s.board.point waiter = .outside) (hcapturing : s.facade.isCapturing = true)
      (hready : s.facade.isReady window = true) :
    CaptureStep s (.answered waiter window false (s.facade.copyWindow window)) s
  | sleep {s : CaptureThreads ι} {waiter : ι} {window : CaptureWindow}
      (houtside : s.board.point waiter = .outside) (hcapturing : s.facade.isCapturing = true)
      (hnot : s.facade.isReady window = false) :
    CaptureStep s (.sleeps waiter window)
      { s with board := s.board.goTo waiter (.asleep window) }
  /-- The time is up, or nothing at all has happened. -/
  | wake {s : CaptureThreads ι} {waiter : ι} {window : CaptureWindow} (isTimeout : Bool)
      (hasleep : s.board.point waiter = .asleep window) :
    CaptureStep s (.wakes waiter isTimeout)
      { s with board := s.board.goTo waiter (.awake window isTimeout) }
  | sleepAgain {s : CaptureThreads ι} {waiter : ι} {window : CaptureWindow}
      (hawake : s.board.point waiter = .awake window false)
      (hnot : s.facade.isReady window = false) :
    CaptureStep s (.sleeps waiter window)
      { s with board := s.board.goTo waiter (.asleep window) }
  /-- After the time is up, `wait_for` returns whatever the predicate is. -/
  | answer {s : CaptureThreads ι} {waiter : ι} {window : CaptureWindow} {isTimeout : Bool}
      (hawake : s.board.point waiter = .awake window isTimeout)
      (hready : (isTimeout || s.facade.isReady window) = true) :
    CaptureStep s (.answered waiter window isTimeout (s.facade.copyWindow window))
      { s with board := s.board.goTo waiter .outside }

/-! ### What the sections do to the predicate -/

section Ready

variable {facade : RingBufferRAMFacade} {window : CaptureWindow}

/-- A rejected frame leaves the newest one where it is. -/
theorem hasReached_rejected {frame : CapturedFrame} {error : DomainError} {media : MediaBuffer}
    (now : TimePoint) (hingest : ingestFrame facade.media frame = (.error (.domain error), media))
    (targetTsNs : Nanoseconds) :
    (facade.onFrame now frame).2.hasReached targetTsNs = facade.hasReached targetTsNs := by
  have hframes : media.ringBuffer.frames = facade.media.ringBuffer.frames := by
    have houtcome := ingestFrame_outcome facade.media frame
    rw [hingest] at houtcome
    cases houtcome with
    | refused hrefused =>
      cases allocate_refused hrefused with
      | size hsize hkind => rfl
      | clock hnewest hback hkind =>
        -- a queue that was cleared would have refused nothing
        rcases opened_cases facade.media.ringBuffer frame.arrival.sessionId with
          ⟨hkept, -⟩ | ⟨hcleared, -⟩
        · exact hkept
        · rw [hcleared] at hnewest
          cases hnewest
  unfold RingBufferRAMFacade.hasReached RingBufferRAMFacade.onFrame
  rw [hingest]
  dsimp only
  rw [hframes]

theorem isReady_rejected {frame : CapturedFrame} {error : DomainError} {media : MediaBuffer}
    (now : TimePoint) (hingest : ingestFrame facade.media frame = (.error (.domain error), media)) :
    (facade.onFrame now frame).2.isReady window = facade.isReady window := by
  unfold RingBufferRAMFacade.isReady
  rw [RingBufferRAMFacade.onFrame_isCapturing, hasReached_rejected now hingest]

/-- The flag that goes up makes nobody ready. -/
theorem isReady_of_start
    (hready : { facade with isCapturing := true }.isReady window = true) :
    facade.isReady window = true := by
  have hreached : facade.hasReached window.endNs = true := hready
  rw [RingBufferRAMFacade.isReady, hreached, Bool.or_true]

/-- What is copied when the window has been reached is not cut off at its end. -/
theorem copyWindow_reached {segment : ExtractedSegment} (hready : facade.isReady window = true)
    (hcopy : facade.copyWindow window = .ok segment) :
    segment.requestedWindow = window ∧ segment.isTruncatedAtEnd = false := by
  unfold RingBufferRAMFacade.copyWindow at hcopy
  split at hcopy
  · next hcapturing =>
    have hreached : facade.hasReached window.endNs = true := by
      rw [RingBufferRAMFacade.isReady, hcapturing] at hready
      exact hready
    unfold extractCaptureWindow at hcopy
    cases hsegment : facade.media.ringBuffer.segmentFor window with
    | error error =>
      rw [hsegment] at hcopy
      cases hcopy
    | ok index =>
      rw [hsegment] at hcopy
      cases hframes : index.frames.mapM (materialize facade.media.frameStore) with
      | error error =>
        change (index.frames.mapM (materialize facade.media.frameStore) >>= fun frames => _) = _
          at hcopy
        rw [hframes] at hcopy
        cases hcopy
      | ok frames =>
        change (index.frames.mapM (materialize facade.media.frameStore) >>= fun frames => _) = _
          at hcopy
        rw [hframes] at hcopy
        obtain rfl := Except.ok.inj hcopy
        obtain ⟨startIndex, -, rfl⟩ := segmentFor_eq_ok hsegment
        refine ⟨rfl, decide_eq_false ?_⟩
        -- the newest frame is the one the wait has looked at
        unfold RingBufferRAMFacade.hasReached at hreached
        split at hreached
        · cases hreached
        · next newest hnewest =>
          rw [hnewest]
          exact Int.not_lt.mpr (of_decide_eq_true hreached)
  · cases hcopy

end Ready

/-! ### The invariant -/

variable {s s' : CaptureThreads ι} {label : CaptureLabel ι} {history : List (CaptureLabel ι)}

/-- No extraction sleeps on without a reason. -/
def WokenInTime (s : CaptureThreads ι) : Prop :=
  NoneLost (fun window => s.facade.isReady window = true) s.board

/-- **Every step keeps it.** -/
theorem WokenInTime.step (h : WokenInTime s) (hstep : CaptureStep s label s') : WokenInTime s' := by
  cases hstep with
  | start hidle hdown => exact h.mono fun window hready => isReady_of_start hready
  | startAgain hidle hcapturing => exact h
  | sourceStarted hasThrown hstarting houtside => exact h
  | accept now hdeliver hingest => exact noneLost_owe CaptureNotifier.source
  | reject now hdeliver hingest =>
    exact h.mono fun window hready => (isReady_rejected now hingest).symm.trans hready
  | notifySource howes => exact noneLost_notifyAll CaptureNotifier.source
  | stop hidle hcapturing => exact noneLost_owe CaptureNotifier.stopper
  | stopIdle hidle hdown => exact h
  | notifyStop hnotifying howes => exact noneLost_notifyAll CaptureNotifier.stopper
  | sourceStopped hstopping houtside => exact h
  | close hclosing => exact h.mono fun window hready => hready
  | refuse window houtside hdown => exact h
  | answerAtOnce houtside hcapturing hready => exact h
  | @sleep waiter window houtside hcapturing hnot =>
    exact h.sleep waiter (ne_true_of_eq_false hnot)
  | wake isTimeout hasleep => exact h.goTo fun target htarget => by cases htarget
  | @sleepAgain waiter window hawake hnot => exact h.sleep waiter (ne_true_of_eq_false hnot)
  | answer hawake hready => exact h.goTo fun target htarget => by cases htarget

theorem wokenInTime_run {capacity : BufferCapacity} {store : SharedMemoryFrameStore}
    (hrun : Run CaptureStep (.constructed capacity store) history s) : WokenInTime s := by
  induction hrun with
  | refl => exact noneLost_clear
  | step hrun hstep ih => exact ih.step hstep

/-- The owner notifies behind its flag and nowhere else. -/
def OwnerOwes (s : CaptureThreads ι) : Prop :=
  s.board.owes .stopper = true → s.owner = .notifying

theorem OwnerOwes.step (h : OwnerOwes s) (hstep : CaptureStep s label s') : OwnerOwes s' := by
  cases hstep with
  | start hidle hdown => exact fun howes => absurd ((h howes).symm.trans hidle) (by decide)
  | startAgain hidle hcapturing => exact h
  | sourceStarted hasThrown hstarting houtside =>
    exact fun howes => absurd ((h howes).symm.trans hstarting) (by decide)
  | accept now hdeliver hingest => exact h
  | reject now hdeliver hingest => exact h
  | notifySource howes => exact h
  | stop hidle hcapturing => exact fun _ => rfl
  | stopIdle hidle hdown => exact h
  | notifyStop hnotifying howes =>
    intro howes
    simp [Board.notifyAll] at howes
  | sourceStopped hstopping houtside =>
    exact fun howes => absurd ((h howes).symm.trans hstopping) (by decide)
  | close hclosing => exact fun howes => absurd ((h howes).symm.trans hclosing) (by decide)
  | refuse window houtside hdown => exact h
  | answerAtOnce houtside hcapturing hready => exact h
  | sleep houtside hcapturing hnot => exact h
  | wake isTimeout hasleep => exact h
  | sleepAgain hawake hnot => exact h
  | answer hawake hready => exact h

theorem ownerOwes_run {capacity : BufferCapacity} {store : SharedMemoryFrameStore}
    (hrun : Run CaptureStep (.constructed capacity store) history s) : OwnerOwes s := by
  induction hrun with
  | refl => exact fun howes => absurd howes Bool.false_ne_true
  | step hrun hstep ih => exact ih.step hstep

/-! ### What the extractions get -/

/-- An answer that did not wait for its timeout has the end of its window. -/
def CaptureLabel.IsComplete : CaptureLabel ι → Prop
  | .answered _ window false (.ok segment) =>
    segment.requestedWindow = window ∧ segment.isTruncatedAtEnd = false
  | _ => True

theorem CaptureStep.isComplete (hstep : CaptureStep s label s') : label.IsComplete := by
  cases hstep with
  | @answerAtOnce waiter window houtside hcapturing hready =>
    cases hcopy : s.facade.copyWindow window with
    | error error => trivial
    | ok segment => exact copyWindow_reached hready hcopy
  | @answer waiter window isTimeout hawake hready =>
    cases isTimeout with
    | true => trivial
    | false =>
      cases hcopy : s.facade.copyWindow window with
      | error error => trivial
      | ok segment => exact copyWindow_reached hready hcopy
  | _ => trivial

/-- The waits of a run, and the answers they came to. -/
structure WaitsRightly (history : List (CaptureLabel ι)) (s : CaptureThreads ι) : Prop where
  /-- Whoever sleeps and could go on, some thread is about to wake. -/
  woken : ∀ waiter window, s.board.point waiter = .asleep window →
    s.facade.isReady window = true → ∃ notifier s', CaptureStep s (.notifies notifier) s' ∧
      s'.board.point waiter = .awake window false
  /-- Only a timeout cuts a segment off at its end. -/
  complete : ∀ label ∈ history, label.IsComplete

/-- **The wait for the post-event**, in every run of the threads. -/
theorem waits_rightly {capacity : BufferCapacity} {store : SharedMemoryFrameStore}
    (hrun : Run CaptureStep (.constructed capacity store) history s) :
    WaitsRightly history s where
  woken := by
    intro waiter window hasleep hready
    have hwoken : ∀ notifier, (s.board.notifyAll notifier).point waiter = .awake window false := by
      intro notifier
      rw [Board.point_notifyAll, hasleep]
      rfl
    obtain ⟨notifier, howes⟩ := wokenInTime_run hrun waiter window hasleep hready
    cases notifier with
    | source => exact ⟨.source, _, .notifySource howes, hwoken .source⟩
    | stopper =>
      exact ⟨.stopper, _, .notifyStop (ownerOwes_run hrun howes) howes, hwoken .stopper⟩
  complete := hrun.forall_label fun hstep => hstep.isComplete

theorem lateWindow_ordered : (10 : Nanoseconds) < 20 := by decide

/-- A window that ends after the first frame, and a frame behind its end. -/
def lateWindow : CaptureWindow := ⟨10, 20, lateWindow_ordered⟩

def lateFrame : CapturedFrame := ⟨25, [1, 2], true, "live"⟩

/-- An extraction falls asleep, the frame that it waits for arrives, and the source is about to wake
it. -/
theorem waits_rightly_lateFrame : ∃ (history : List (CaptureLabel Unit)) (s : CaptureThreads Unit),
    s.board.point () = .asleep lateWindow ∧ s.facade.isReady lateWindow = true ∧
      WaitsRightly history s := by
  have hrun : Run CaptureStep (.constructed ⟨8, by decide⟩ (.create "ods" ⟨8, by decide⟩)) _ _ :=
    Run.refl |>.step (.start rfl rfl) |>.step (.sourceStarted false rfl rfl)
      |>.step (.sleep rfl rfl rfl : CaptureStep _ (.sleeps () lateWindow) _)
      |>.step (.accept 0 ⟨.inl rfl, rfl⟩ rfl : CaptureStep _ (.accepted lateFrame) _)
  exact ⟨_, _, rfl, rfl, waits_rightly hrun⟩

end Steps

end Ods.S4
