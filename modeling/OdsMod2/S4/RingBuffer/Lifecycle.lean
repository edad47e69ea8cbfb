import OdsMod2.Framework.EventRun
import OdsMod2.S4.RingBuffer.FacadeCalls

/-!
# Starting and stopping the capture

`startCapture` raises the flag of the facade and then starts the source. `stopCapture` lowers the
flag, stops the source and closes the arena, which nothing opens again. Frames, extractions and
reads ask the flag whether the arena may be touched, so the flag must not be up without a source
that was started and an arena that is open.

The owner calls `startCapture` and `stopCapture` one at a time. Frames are delivered between any two
calls while the source is started, and also inside them: before `start` comes back, and before the
source has stopped. An extraction gives the mutex back while it waits for the end of its window, so
it is two calls of a run. A run keeps to all this exactly if whatever raises the flag finds the arena
open and a source that starts (`lifecycle_iff`).
-/

namespace Ods.S4

open EventRun

/-! ### Sequences of calls -/

/-- The facade between two calls, with its source and the extractions that wait. -/
structure CaptureLifecycle where
  facade : RingBufferRAMFacade
  /-- The last `start` of the source has returned, and the source was not stopped since. -/
  sourceStarted : Bool
  waiting : List CaptureWindow
  isCapturing_of_started : sourceStarted = true → facade.isCapturing = true

/-- A call, with what the source does meanwhile. -/
inductive LifecycleCall where
  /-- The source delivers frames and then comes back from `start`, by an exception or without. -/
  | startCapture (early : List (TimePoint × CapturedFrame)) (thrown : Option ODSException)
  /-- The source may still deliver frames before it has stopped. -/
  | stopCapture (late : List (TimePoint × CapturedFrame))
  | onFrame (now : TimePoint) (frame : CapturedFrame)
  /-- Up to the wait. -/
  | extractCaptureWindow (window : CaptureWindow)
  /-- The wait of one of the waiting extractions is over: the window has been reached, the capture
  was stopped, or the time is up. -/
  | wakeExtraction (index : Nat)
  | readWindow (start stop : TimePoint)

/-- What a call throws: `escaped` out of the callback, an extraction or a read, `startThrew` for
`startCapture`. -/
structure LifecycleOutcome where
  escaped : List ODSException
  startThrew : Bool

namespace CaptureLifecycle

open RingBufferRAMFacade

def constructed (capacity : BufferCapacity) (store : SharedMemoryFrameStore) :
    CaptureLifecycle where
  facade := .constructed capacity store
  sourceStarted := false
  waiting := []
  isCapturing_of_started := fun h => absurd h Bool.false_ne_true

/-- Nothing happens and nothing is thrown. -/
def unchanged (s : CaptureLifecycle) : LifecycleOutcome × CaptureLifecycle :=
  (⟨[], false⟩, s)

/-- The flag goes up before the source is started, and stays up if it throws. -/
def startCapture (s : CaptureLifecycle) (early : List (TimePoint × CapturedFrame))
    (thrown : Option ODSException) : LifecycleOutcome × CaptureLifecycle :=
  if s.facade.isCapturing then
    s.unchanged
  else
    -- the arena is not looked at: a closed one stays closed
    let started := onFrames early { s.facade with isCapturing := true }
    (⟨started.1, thrown.isSome⟩, { s with
      facade := started.2
      sourceStarted := thrown.isNone
      isCapturing_of_started := fun _ => onFrames_isCapturing early })

/-- A source that was not started delivers nothing while it is stopped. -/
def stopCapture (s : CaptureLifecycle) (late : List (TimePoint × CapturedFrame)) :
    LifecycleOutcome × CaptureLifecycle :=
  if s.facade.isCapturing then
    -- the flag falls first, then the source stops, and the arena is closed last
    let stopped := onFrames (if s.sourceStarted then late else [])
      { s.facade with isCapturing := false }
    (⟨stopped.1, false⟩, { s with
      facade := stopped.2.closeStore
      sourceStarted := false
      isCapturing_of_started := fun h => absurd h Bool.false_ne_true })
  else
    s.unchanged

/-- Only a source that was started delivers. -/
def deliver (s : CaptureLifecycle) (now : TimePoint) (frame : CapturedFrame) :
    LifecycleOutcome × CaptureLifecycle :=
  if s.sourceStarted then
    let delivered := s.facade.onFrame now frame
    (⟨escaping delivered.1, false⟩, { s with
      facade := delivered.2
      isCapturing_of_started := fun h =>
        (onFrame_isCapturing now frame).trans (s.isCapturing_of_started h) })
  else
    s.unchanged

def requestWindow (s : CaptureLifecycle) (window : CaptureWindow) :
    LifecycleOutcome × CaptureLifecycle :=
  if s.facade.isCapturing then
    (⟨[], false⟩, { s with waiting := s.waiting ++ [window] })
  else
    (⟨[.application ⟨.bufferNotRunning, "call startCapture() before extracting segments"⟩], false⟩,
      s)

def wakeExtraction (s : CaptureLifecycle) (index : Nat) : LifecycleOutcome × CaptureLifecycle :=
  match s.waiting[index]? with
  | some window =>
    (⟨escaping (s.facade.copyWindow window), false⟩,
      { s with waiting := s.waiting.eraseIdx index })
  | none => s.unchanged

def read (s : CaptureLifecycle) (start stop : TimePoint) : LifecycleOutcome × CaptureLifecycle :=
  (⟨escaping (s.facade.readWindow start stop), false⟩, s)

def serve (s : CaptureLifecycle) : LifecycleCall → LifecycleOutcome × CaptureLifecycle
  | .startCapture early thrown => s.startCapture early thrown
  | .stopCapture late => s.stopCapture late
  | .onFrame now frame => s.deliver now frame
  | .extractCaptureWindow window => s.requestWindow window
  | .wakeExtraction index => s.wakeExtraction index
  | .readWindow start stop => s.read start stop

def after (call : LifecycleCall) (s : CaptureLifecycle) : CaptureLifecycle :=
  (s.serve call).2

/-- The source was started successfully and the arena is open. -/
def IsOperational (s : CaptureLifecycle) : Prop :=
  s.sourceStarted = true ∧ s.facade.IsOpen

/-- The lifecycle invariant: whoever finds the flag up may rely on the source and the arena. -/
def FlagHolds (s : CaptureLifecycle) : Prop :=
  s.facade.isCapturing = true → s.IsOperational

/-- A call of `startCapture` with a source that starts puts the facade to work. -/
def CanBeStarted (s : CaptureLifecycle) : Prop :=
  ∀ early, ((s.startCapture early none).2.facade.isCapturing = true) ∧
    (s.startCapture early none).2.IsOperational

/-- No closed arena shows through the call, and a start that threw can be repeated. -/
def Serves (call : LifecycleCall) (s : CaptureLifecycle) : Prop :=
  (∀ error ∈ (s.serve call).1.escaped, ¬ error.IsClosedArena) ∧
    ((s.serve call).1.startThrew = true → (after call s).CanBeStarted)

/-- A call that raises the flag finds the arena open and starts a source that does not throw. -/
def StartsCleanly : LifecycleCall → CaptureLifecycle → Prop
  | .startCapture _ thrown, s =>
    s.facade.isCapturing = false → thrown = none ∧ s.facade.IsOpen
  | _, _ => True

variable {s : CaptureLifecycle} {call : LifecycleCall}

theorem FlagHolds.isOpen (h : s.FlagHolds) : s.facade.isCapturing = true → s.facade.IsOpen :=
  fun hcapturing => (h hcapturing).2

theorem FlagHolds.isOpen_of_started (h : s.FlagHolds) (hstarted : s.sourceStarted = true) :
    s.facade.IsOpen :=
  h.isOpen (s.isCapturing_of_started hstarted)

/-- What a call has to keep to in which no start of the source throws. -/
theorem serves_quietly {escaped : List ODSException} {s' : CaptureLifecycle}
    (hcall : s.serve call = (⟨escaped, false⟩, s'))
    (hescaped : ∀ error ∈ escaped, ¬ error.IsClosedArena) (hflag : s'.FlagHolds) :
    Serves call s ∧ (after call s).FlagHolds := by
  unfold Serves after
  rw [hcall]
  refine ⟨⟨hescaped, ?_⟩, hflag⟩
  intro hthrew
  cases hthrew

/-- A call that throws nothing and leaves the facade as it is. -/
theorem serves_unchanged (h : s.FlagHolds) (hcall : s.serve call = s.unchanged) :
    Serves call s ∧ (after call s).FlagHolds :=
  serves_quietly hcall (List.forall_mem_nil _) h

theorem startCapture_iff (h : s.FlagHolds) (early : List (TimePoint × CapturedFrame))
    (thrown : Option ODSException) :
    StartsCleanly (.startCapture early thrown) s ↔
      Serves (.startCapture early thrown) s ∧ (after (.startCapture early thrown) s).FlagHolds := by
  cases hcapturing : s.facade.isCapturing with
  | true =>
    have hsame : s.serve (.startCapture early thrown) = s.unchanged := if_pos hcapturing
    constructor
    · intro _
      exact serves_unchanged h hsame
    · intro _ hdown
      rw [hcapturing] at hdown
      cases hdown
  | false =>
    have hstarts : s.serve (.startCapture early thrown) = _ :=
      if_neg (by rw [hcapturing]; exact Bool.false_ne_true)
    have hclosed := @onFrames_isClosed { s.facade with isCapturing := true } early
    constructor
    · intro hclean
      obtain ⟨rfl, hopen⟩ := hclean hcapturing
      -- frames may come before the source is back from its start
      refine serves_quietly hstarts (onFrames_open hopen) ?_
      exact fun _ => ⟨rfl, hclosed.trans hopen⟩
    · rintro ⟨-, hflag⟩ -
      -- the flag is up, so the source must have been started and the arena must be open
      unfold after at hflag
      rw [hstarts] at hflag
      obtain ⟨hstarted, hopen⟩ := hflag (onFrames_isCapturing early)
      exact ⟨Option.isNone_iff_eq_none.mp hstarted, hclosed.symm.trans hopen⟩

theorem stopCapture_serves (h : s.FlagHolds) (late : List (TimePoint × CapturedFrame)) :
    Serves (.stopCapture late) s ∧ (after (.stopCapture late) s).FlagHolds := by
  cases hcapturing : s.facade.isCapturing with
  | false =>
    exact serves_unchanged h (if_neg (by rw [hcapturing]; exact Bool.false_ne_true))
  | true =>
    have hstops : s.serve (.stopCapture late) = _ := if_pos hcapturing
    -- the late frames still find the arena open
    refine serves_quietly hstops (onFrames_open (h.isOpen hcapturing)) ?_
    -- the flag is down until the capture is started again
    intro hup
    cases (onFrames_isCapturing _).symm.trans hup

theorem deliver_serves (h : s.FlagHolds) (now : TimePoint) (frame : CapturedFrame) :
    Serves (.onFrame now frame) s ∧ (after (.onFrame now frame) s).FlagHolds := by
  cases hstarted : s.sourceStarted with
  | false =>
    exact serves_unchanged h (if_neg (by rw [hstarted]; exact Bool.false_ne_true))
  | true =>
    have hdelivers : s.serve (.onFrame now frame) = _ := if_pos hstarted
    have hopen := h.isOpen_of_started hstarted
    refine serves_quietly hdelivers ?_ ?_
    · intro error herror
      exact onFrame_open hopen (mem_escaping.mp herror)
    · exact fun _ => ⟨hstarted, (onFrame_isClosed now frame).trans hopen⟩

theorem requestWindow_serves (h : s.FlagHolds) (window : CaptureWindow) :
    Serves (.extractCaptureWindow window) s ∧
      (after (.extractCaptureWindow window) s).FlagHolds := by
  cases hcapturing : s.facade.isCapturing with
  | true =>
    have hwaits : s.serve (.extractCaptureWindow window) = _ := if_pos hcapturing
    exact serves_quietly hwaits (List.forall_mem_nil _) h
  | false =>
    have hrefused : s.serve (.extractCaptureWindow window) = _ :=
      if_neg (by rw [hcapturing]; exact Bool.false_ne_true)
    refine serves_quietly hrefused ?_ h
    -- the refusal is an error of another kind
    intro error herror
    rw [List.mem_singleton.mp herror]
    refine not_isClosedArena_of_kind ?_
    decide

theorem wakeExtraction_serves (h : s.FlagHolds) (index : Nat) :
    Serves (.wakeExtraction index) s ∧ (after (.wakeExtraction index) s).FlagHolds := by
  cases hwaiting : s.waiting[index]? with
  | none =>
    refine serves_unchanged h ?_
    show s.wakeExtraction index = s.unchanged
    rw [CaptureLifecycle.wakeExtraction, hwaiting]
  | some window =>
    have hwakes : s.serve (.wakeExtraction index) =
        (⟨escaping (s.facade.copyWindow window), false⟩,
          { s with waiting := s.waiting.eraseIdx index }) := by
      show s.wakeExtraction index = _
      rw [CaptureLifecycle.wakeExtraction, hwaiting]
    refine serves_quietly hwakes ?_ h
    -- the flag is looked at again after the wait
    intro error herror
    exact copyWindow_open h.isOpen (mem_escaping.mp herror)

theorem read_serves (h : s.FlagHolds) (start stop : TimePoint) :
    Serves (.readWindow start stop) s ∧ (after (.readWindow start stop) s).FlagHolds := by
  refine serves_quietly rfl ?_ h
  intro error herror
  exact readWindow_open h.isOpen (mem_escaping.mp herror)

/-- One call. Only raising the flag can break the invariant. -/
theorem startsCleanly_iff (h : s.FlagHolds) (call : LifecycleCall) :
    StartsCleanly call s ↔ Serves call s ∧ (after call s).FlagHolds := by
  cases call with
  | startCapture early thrown => exact startCapture_iff h early thrown
  | stopCapture late => exact iff_of_true trivial (stopCapture_serves h late)
  | onFrame now frame => exact iff_of_true trivial (deliver_serves h now frame)
  | extractCaptureWindow window => exact iff_of_true trivial (requestWindow_serves h window)
  | wakeExtraction index => exact iff_of_true trivial (wakeExtraction_serves h index)
  | readWindow start stop => exact iff_of_true trivial (read_serves h start stop)

/-- A sequence of calls keeps to the lifecycle exactly if every call that raises the flag finds the
arena open and a source that starts. -/
theorem lifecycle_iff (capacity : BufferCapacity) (store : SharedMemoryFrameStore)
    (calls : List LifecycleCall) :
    Always after (constructed capacity store) calls FlagHolds ∧
        EachStep after (constructed capacity store) calls Serves ↔
      EachStep after (constructed capacity store) calls StartsCleanly := by
  -- the flag is down at first, and from there on call by call
  have hstart : (constructed capacity store).FlagHolds := by
    intro hcapturing
    cases hcapturing
  have hstep : ∀ call s, FlagHolds s →
      (StartsCleanly call s ↔ Serves call s ∧ FlagHolds (after call s)) :=
    fun call _ h => startsCleanly_iff h call
  exact always_iff hstart hstep calls

theorem sixteen_pos : 0 < 16 := by
  decide

/-- A new facade with a small arena. -/
def smallFacade : CaptureLifecycle :=
  constructed ⟨16, sixteen_pos⟩ (.create "ods" ⟨16, sixteen_pos⟩)

def restart : List LifecycleCall :=
  [.startCapture [] none, .stopCapture [], .startCapture [] none]

/-- Restarted after a stop, the facade captures into the closed arena, and the first frame throws
into the thread of the source. -/
theorem restart_breaks_lifecycle :
    (run after smallFacade restart).facade.isCapturing = true ∧
      (run after smallFacade restart).facade.media.frameStore.isClosed = true ∧
      ((run after smallFacade restart).serve (.onFrame 0 ⟨5, [1, 2], true, "live"⟩)).1.escaped =
        [.application ⟨.frameStore, "arena 'ods' is already closed"⟩] ∧
      ¬ (Always after smallFacade restart FlagHolds ∧
          EachStep after smallFacade restart Serves) := by
  refine ⟨rfl, rfl, rfl, ?_⟩
  rintro ⟨halways, -⟩
  have hclosed : (run after smallFacade restart).IsOperational := halways restart List.prefix_rfl rfl
  cases hclosed.2

end CaptureLifecycle

end Ods.S4
