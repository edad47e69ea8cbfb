import Mathlib.Data.List.Basic
import Mathlib.Logic.Function.Basic
import OdsMod2.Framework.LabelledRun
import OdsMod2.S4.Retention.Strategies

/-!
# The purge daemon

`PurgeDaemon` owns a thread that sweeps at once when it is started, whenever its interval has passed
or the disk is over its quota, and whenever somebody asks for a sweep. Between two rounds it waits on
a condition variable, with two flags as the predicate.

A step is what a thread does without another one in between: a section under the mutex with a single
statement, or one move of `run`, which holds the mutex from its return out of `wait_for` to the
`unlock` and from the `lock` after a sweep until it falls asleep. Any number of threads call
`requestSweep`, one calls `stop`, and the history of a run records who did what.

The request flag is cleared before the sweep, so that a request may arrive anywhere between the two
without being lost: as long as one is not answered by the beginning of a sweep, the flag is up or the
round that took it has not come to its sweep (`DaemonInv.served`). A thread that fell asleep found
the flag down under the mutex, and whoever raises it afterwards still has the condition variable to
notify (`DaemonInv.notified`).
-/

namespace Ods.S4

open LabelledRun

/-- Time on the steady clock, in nanoseconds. -/
abbrev SteadyTime := Int

structure PurgeDaemonConfig where
  retentionSweepInterval : SteadyTime
  quotaPolicy : QuotaPolicy

/-! ### The thread -/

/-- Where `run` stands. -/
inductive RunPoint where
  /-- There is no thread. -/
  | notStarted
  /-- In front of the first lock. -/
  | locking
  /-- At the condition of the loop. -/
  | looping
  /-- Behind the exchange of the request flag. -/
  | unlocking (wasRequested : Bool)
  | deciding (wasRequested : Bool)
  | sweeping
  | relocking
  /-- In `wait_for`, at its predicate. -/
  | waiting
  /-- Blocked on the condition variable. -/
  | asleep
  /-- Awake, in front of the lock. -/
  | awake (isTimeout : Bool)
  | returned
  deriving DecidableEq

/-- The mutex is held from one step of the thread to the next. -/
def RunPoint.HoldsMutex : RunPoint → Prop
  | .looping | .unlocking _ | .waiting => True
  | _ => False

/-- The variables of `run`. -/
structure RunLocals where
  lastSweep : SteadyTime
  hasSwept : Bool

/-- Where the call of `stop` stands. -/
inductive StopPoint where
  | idle | notifying | joining | returned
  deriving DecidableEq

/-- The daemon, with the threads `ι` that may ask for a sweep. -/
structure PurgeDaemon (ι : Type) where
  isStopRequested : Bool
  isSweepRequested : Bool
  sweepsCompleted : Nat
  isRunning : Bool
  point : RunPoint
  locals : RunLocals
  stopper : StopPoint
  /-- The thread has raised the request flag and has not notified yet. -/
  notifies : ι → Bool

namespace PurgeDaemon

variable {ι : Type}

def constructed : PurgeDaemon ι where
  isStopRequested := false
  isSweepRequested := false
  sweepsCompleted := 0
  isRunning := false
  point := .notStarted
  locals := ⟨0, false⟩
  stopper := .idle
  notifies := fun _ => false

/-- `notify_all`. -/
def wakeUp (s : PurgeDaemon ι) : PurgeDaemon ι :=
  if s.point = .asleep then { s with point := .awake false } else s

end PurgeDaemon

/-- A failed reading is no reason to sweep. -/
def PurgeDaemonConfig.isDiskOverQuota (config : PurgeDaemonConfig)
    (currentUsage : Except ODSException DiskUsage) : Bool :=
  match currentUsage with
  | .ok usage => config.quotaPolicy.isExceededBy usage
  | .error _ => false

def PurgeDaemonConfig.isSweepDue (config : PurgeDaemonConfig) (wasRequested : Bool)
    (locals : RunLocals) (now : SteadyTime) (currentUsage : Except ODSException DiskUsage) : Bool :=
  if wasRequested || !locals.hasSwept then true
  else
    decide (now - locals.lastSweep ≥ config.retentionSweepInterval) ||
      config.isDiskOverQuota currentUsage

/-! ### The steps -/

/-- What a thread does in one step. -/
inductive DaemonLabel (ι : Type) where
  | start
  | requestSweep (thread : ι)
  | notifySweep (thread : ι)
  | stop
  | notifyStop
  | join
  -- the thread of the daemon
  | lock
  | exchange
  | unlock
  | sweepBegins
  | sweepSkipped
  | sweepEnds
  | relock
  | blocks
  | wakes (isTimeout : Bool)
  | reacquires
  | leavesWait
  | returns
  deriving DecidableEq

section Steps

variable {ι : Type}

/-- One step of one of the threads. -/
inductive DaemonStep [DecidableEq ι] (config : PurgeDaemonConfig) :
    PurgeDaemon ι → DaemonLabel ι → PurgeDaemon ι → Prop
  | start {s : PurgeDaemon ι} (hfree : ¬ s.point.HoldsMutex) (hidle : s.isRunning = false) :
    DaemonStep config s .start { s with
      isRunning := true
      isStopRequested := false
      point := .locking
      locals := ⟨0, false⟩ }
  /-- A daemon that runs is not started again. -/
  | startAgain {s : PurgeDaemon ι} (hfree : ¬ s.point.HoldsMutex) (hrunning : s.isRunning = true) :
    DaemonStep config s .start s
  | requestSweep {s : PurgeDaemon ι} (thread : ι) (hfree : ¬ s.point.HoldsMutex)
      (hidle : s.notifies thread = false) :
    DaemonStep config s (.requestSweep thread) { s with
      isSweepRequested := true
      notifies := Function.update s.notifies thread true }
  | notifySweep {s : PurgeDaemon ι} (thread : ι) (hnotifies : s.notifies thread = true) :
    DaemonStep config s (.notifySweep thread)
      { s with notifies := Function.update s.notifies thread false }.wakeUp
  | stop {s : PurgeDaemon ι} (hfree : ¬ s.point.HoldsMutex) (hidle : s.stopper = .idle)
      (hrunning : s.isRunning = true) :
    DaemonStep config s .stop { s with isStopRequested := true, stopper := .notifying }
  /-- There is nothing to stop. -/
  | stopIdle {s : PurgeDaemon ι} (hfree : ¬ s.point.HoldsMutex) (hidle : s.stopper = .idle)
      (hstopped : s.isRunning = false) :
    DaemonStep config s .stop { s with stopper := .returned }
  | notifyStop {s : PurgeDaemon ι} (hnotifies : s.stopper = .notifying) :
    DaemonStep config s .notifyStop { s with stopper := .joining }.wakeUp
  | join {s : PurgeDaemon ι} (hjoining : s.stopper = .joining) (hreturned : s.point = .returned) :
    DaemonStep config s .join { s with isRunning := false, stopper := .returned }
  | lock {s : PurgeDaemon ι} (hpoint : s.point = .locking) :
    DaemonStep config s .lock { s with point := .looping }
  | exchange {s : PurgeDaemon ι} (hpoint : s.point = .looping) (hstop : s.isStopRequested = false) :
    DaemonStep config s .exchange { s with
      isSweepRequested := false
      point := .unlocking s.isSweepRequested }
  | returns {s : PurgeDaemon ι} (hpoint : s.point = .looping) (hstop : s.isStopRequested = true) :
    DaemonStep config s .returns { s with point := .returned }
  | unlock {s : PurgeDaemon ι} {wasRequested : Bool} (hpoint : s.point = .unlocking wasRequested) :
    DaemonStep config s .unlock { s with point := .deciding wasRequested }
  | sweepBegins {s : PurgeDaemon ι} {wasRequested : Bool} {now : SteadyTime}
      {currentUsage : Except ODSException DiskUsage} (hpoint : s.point = .deciding wasRequested)
      (hdue : config.isSweepDue wasRequested s.locals now currentUsage = true) :
    DaemonStep config s .sweepBegins { s with point := .sweeping }
  | sweepSkipped {s : PurgeDaemon ι} {wasRequested : Bool} {now : SteadyTime}
      {currentUsage : Except ODSException DiskUsage} (hpoint : s.point = .deciding wasRequested)
      (hdue : config.isSweepDue wasRequested s.locals now currentUsage = false) :
    DaemonStep config s .sweepSkipped { s with point := .relocking }
  /-- Whether it went well or not, the sweep is counted. -/
  | sweepEnds {s : PurgeDaemon ι} (now : SteadyTime) (hpoint : s.point = .sweeping) :
    DaemonStep config s .sweepEnds { s with
      sweepsCompleted := s.sweepsCompleted + 1
      point := .relocking
      locals := ⟨now, true⟩ }
  | relock {s : PurgeDaemon ι} (hpoint : s.point = .relocking) :
    DaemonStep config s .relock { s with point := .waiting }
  | blocks {s : PurgeDaemon ι} (hpoint : s.point = .waiting) (hstop : s.isStopRequested = false)
      (hrequest : s.isSweepRequested = false) :
    DaemonStep config s .blocks { s with point := .asleep }
  | leavesWait {s : PurgeDaemon ι} (hpoint : s.point = .waiting)
      (hpredicate : (s.isStopRequested || s.isSweepRequested) = true) :
    DaemonStep config s .leavesWait { s with point := .looping }
  /-- The time is up, or nothing at all has happened. -/
  | wakes {s : PurgeDaemon ι} (isTimeout : Bool) (hpoint : s.point = .asleep) :
    DaemonStep config s (.wakes isTimeout) { s with point := .awake isTimeout }
  /-- After the time is up, `wait_for` returns whatever the predicate is. -/
  | reacquires {s : PurgeDaemon ι} {isTimeout : Bool} (hpoint : s.point = .awake isTimeout) :
    DaemonStep config s .reacquires { s with point := if isTimeout then .looping else .waiting }

/-! ### The invariant -/

def IsRequest : DaemonLabel ι → Prop
  | .requestSweep _ => True
  | _ => False

/-- Between the exchange and the sweep, the request is with the thread. -/
def PurgeDaemon.Pending (s : PurgeDaemon ι) : Prop :=
  s.isSweepRequested = true ∨ s.point = .unlocking true ∨ s.point = .deciding true

structure DaemonInv (s : PurgeDaemon ι) (history : List (DaemonLabel ι)) : Prop where
  /-- A request without a sweep behind it is still noted. -/
  served : Answered IsRequest (· = .sweepBegins) history ∨ s.Pending
  finished : Answered (· = .sweepBegins) (· = .sweepEnds) history ∨ s.point = .sweeping
  /-- Whoever raised the flag of a sleeping thread will wake it. -/
  notified : s.point = .asleep → s.isSweepRequested = true → ∃ thread, s.notifies thread = true
  threadless : s.isRunning = false → s.point = .notStarted ∨ s.point = .returned

theorem DaemonInv.constructed : DaemonInv (PurgeDaemon.constructed : PurgeDaemon ι) [] where
  served := .inl answered_nil
  finished := .inl answered_nil
  notified := nofun
  threadless := fun _ => .inl rfl

section Invariant

variable {s s' : PurgeDaemon ι} {history : List (DaemonLabel ι)} {label : DaemonLabel ι}

/-- A step of another thread that does not ask for a sweep. -/
theorem DaemonInv.aside (h : DaemonInv s history) (hrequest : ¬ IsRequest label)
    (hbegins : label ≠ .sweepBegins) (hpending : s.Pending → s'.Pending)
    (hsweeping : s.point = .sweeping → s'.point = .sweeping)
    (hnotified : s'.point = .asleep → s'.isSweepRequested = true →
      ∃ thread, s'.notifies thread = true)
    (hthreadless : s'.isRunning = false → s'.point = .notStarted ∨ s'.point = .returned) :
    DaemonInv s' (history ++ [label]) where
  served := h.served.imp (fun hanswered => hanswered.concat hrequest) hpending
  finished := h.finished.imp (fun hanswered => hanswered.concat hbegins) hsweeping
  notified := hnotified
  threadless := hthreadless

/-- There is a thread that has not returned. -/
def RunPoint.IsAlive : RunPoint → Prop
  | .notStarted | .returned => False
  | _ => True

/-- It is not in a sweep either. -/
def RunPoint.IsQuiet : RunPoint → Prop
  | .notStarted | .returned | .sweeping => False
  | _ => True

theorem RunPoint.IsQuiet.isAlive {point : RunPoint} (h : point.IsQuiet) : point.IsAlive := by
  cases point <;> trivial

theorem DaemonInv.isRunning (h : DaemonInv s history) (halive : s.point.IsAlive) :
    s.isRunning = true := by
  by_contra hidle
  rcases h.threadless (Bool.eq_false_iff.mpr hidle) with hpoint | hpoint
  · rw [hpoint] at halive
    exact halive
  · rw [hpoint] at halive
    exact halive

/-- A move of the thread that neither begins nor ends a sweep. -/
theorem DaemonInv.move (h : DaemonInv s history) {point : RunPoint} (hpoint : s.point = point)
    (hquiet : point.IsQuiet) (hrequest : ¬ IsRequest label) (hbegins : label ≠ .sweepBegins)
    (hrunning : s'.isRunning = s.isRunning) (hpending : s.Pending → s'.Pending)
    (hnotified : s'.point = .asleep → s'.isSweepRequested = true →
      ∃ thread, s'.notifies thread = true) : DaemonInv s' (history ++ [label]) := by
  refine h.aside hrequest hbegins hpending (fun hsweeping => ?_) hnotified fun hidle => ?_
  · rw [← hpoint, hsweeping] at hquiet
    exact hquiet.elim
  · rw [hrunning, h.isRunning (hpoint ▸ hquiet.isAlive)] at hidle
    cases hidle

/-- A request that was taken is always due. -/
theorem PurgeDaemonConfig.isSweepDue_requested {config : PurgeDaemonConfig} {locals : RunLocals}
    {now : SteadyTime} {currentUsage : Except ODSException DiskUsage} :
    config.isSweepDue true locals now currentUsage = true := rfl

theorem PurgeDaemon.wakeUp_pending : s.wakeUp.Pending ↔ s.Pending := by
  unfold wakeUp
  split
  · rename_i hasleep
    simp [Pending, hasleep]
  · rfl

theorem PurgeDaemon.wakeUp_ne_asleep (s : PurgeDaemon ι) : s.wakeUp.point ≠ .asleep := by
  unfold wakeUp
  split
  · nofun
  · assumption

theorem PurgeDaemon.wakeUp_point (h : s.point ≠ .asleep) : s.wakeUp.point = s.point := by
  rw [wakeUp, if_neg h]

theorem PurgeDaemon.wakeUp_isRunning (s : PurgeDaemon ι) : s.wakeUp.isRunning = s.isRunning := by
  unfold wakeUp
  split <;> rfl

/-- A notification after the notifier has been taken off the list. -/
theorem DaemonInv.wakeUp (h : DaemonInv s history) (hrequest : ¬ IsRequest label)
    (hbegins : label ≠ .sweepBegins) (hpoint : s'.point = s.point)
    (hflag : s'.isSweepRequested = s.isSweepRequested) (hrunning : s'.isRunning = s.isRunning) :
    DaemonInv s'.wakeUp (history ++ [label]) := by
  refine h.aside hrequest hbegins (fun hpending => ?_) (fun hsweeping => ?_)
    (fun hasleep => absurd hasleep (PurgeDaemon.wakeUp_ne_asleep s')) fun hidle => ?_
  · rw [PurgeDaemon.wakeUp_pending, PurgeDaemon.Pending, hflag, hpoint]
    exact hpending
  · rw [PurgeDaemon.wakeUp_point (by rw [hpoint, hsweeping]; nofun), hpoint, hsweeping]
  · -- without a thread nobody is asleep
    rw [PurgeDaemon.wakeUp_isRunning, hrunning] at hidle
    have hthreadless := h.threadless hidle
    rw [← hpoint] at hthreadless
    rw [PurgeDaemon.wakeUp_point]
    · exact hthreadless
    · rcases hthreadless with hnone | hnone <;> rw [hnone] <;> nofun

variable [DecidableEq ι] {config : PurgeDaemonConfig}

/-- **Every step keeps the invariant.** -/
theorem DaemonInv.step (h : DaemonInv s history) (hstep : DaemonStep config s label s') :
    DaemonInv s' (history ++ [label]) := by
  cases hstep with
  | start hfree hidle =>
    -- there was no thread, so nothing was with it
    have hnone := h.threadless hidle
    refine h.aside id nofun (fun hpending => ?_) (fun hsweeping => ?_) nofun nofun
    · rcases hpending with hflag | hpoint | hpoint
      · exact .inl hflag
      · rw [hpoint] at hnone
        exact absurd hnone (by decide)
      · rw [hpoint] at hnone
        exact absurd hnone (by decide)
    · rw [hsweeping] at hnone
      exact absurd hnone (by decide)
  | startAgain hfree hrunning =>
    exact h.aside id nofun id id h.notified h.threadless
  | requestSweep thread hfree hidle =>
    -- the request is pending through the flag, and its thread has yet to notify
    refine ⟨.inr (.inl rfl), h.finished.imp (fun hanswered => hanswered.concat nofun) id,
      fun _ _ => ⟨thread, Function.update_self _ _ _⟩, h.threadless⟩
  | notifySweep thread hnotifies =>
    exact h.wakeUp id nofun rfl rfl rfl
  | stop hfree hidle hrunning =>
    exact h.aside id nofun id id h.notified h.threadless
  | stopIdle hfree hidle hstopped =>
    exact h.aside id nofun id id h.notified h.threadless
  | notifyStop hnotifies =>
    exact h.wakeUp id nofun rfl rfl rfl
  | join hjoining hreturned =>
    exact h.aside id nofun id id h.notified fun _ => .inr hreturned
  | lock hpoint =>
    exact h.move hpoint trivial id nofun rfl (by simp [PurgeDaemon.Pending, hpoint]) nofun
  | exchange hpoint hstop =>
    -- the thread takes the flag with it
    exact h.move hpoint trivial id nofun rfl (by simp [PurgeDaemon.Pending, hpoint]) nofun
  | returns hpoint hstop =>
    exact h.move hpoint trivial id nofun rfl (by simp [PurgeDaemon.Pending, hpoint]) nofun
  | unlock hpoint =>
    exact h.move hpoint trivial id nofun rfl (by simp [PurgeDaemon.Pending, hpoint]) nofun
  | sweepBegins hpoint hdue =>
    have hrunning := h.isRunning (hpoint ▸ trivial)
    -- the sweep answers every request so far
    exact ⟨.inl (answered_concat_of rfl id), .inr rfl, nofun,
      fun hidle => absurd (hidle.symm.trans hrunning) (by decide)⟩
  | @sweepSkipped wasRequested _ _ hpoint hdue =>
    -- a round that took a request does not pass over its sweep
    have hnot : wasRequested = false := by
      cases wasRequested with
      | false => rfl
      | true => exact absurd (PurgeDaemonConfig.isSweepDue_requested.symm.trans hdue) (by decide)
    exact h.move hpoint trivial id nofun rfl (by simp [PurgeDaemon.Pending, hpoint, hnot]) nofun
  | sweepEnds now hpoint =>
    have hrunning := h.isRunning (hpoint ▸ trivial)
    refine ⟨h.served.imp (fun hanswered => hanswered.concat id) ?_,
      .inl (answered_concat_of rfl nofun), nofun,
      fun hidle => absurd (hidle.symm.trans hrunning) (by decide)⟩
    simp [PurgeDaemon.Pending, hpoint]
  | relock hpoint =>
    exact h.move hpoint trivial id nofun rfl (by simp [PurgeDaemon.Pending, hpoint]) nofun
  | blocks hpoint hstop hrequest =>
    -- it only blocks after it has seen that there is no request
    refine h.move hpoint trivial id nofun rfl (by simp [PurgeDaemon.Pending, hpoint]) ?_
    exact fun _ hflag => absurd (hflag.symm.trans hrequest) (by decide)
  | leavesWait hpoint hpredicate =>
    exact h.move hpoint trivial id nofun rfl (by simp [PurgeDaemon.Pending, hpoint]) nofun
  | wakes isTimeout hpoint =>
    exact h.move hpoint trivial id nofun rfl (by simp [PurgeDaemon.Pending, hpoint]) nofun
  | @reacquires isTimeout hpoint =>
    cases isTimeout with
    | false =>
      exact h.move hpoint trivial id nofun rfl (by simp [PurgeDaemon.Pending, hpoint]) nofun
    | true =>
      exact h.move hpoint trivial id nofun rfl (by simp [PurgeDaemon.Pending, hpoint]) nofun

/-- The invariant holds after every run. -/
theorem DaemonInv.run (h : Run (DaemonStep config) PurgeDaemon.constructed history s) :
    DaemonInv s history := by
  induction h with
  | refl => exact .constructed
  | step _ hstep ih => exact ih.step hstep

end Invariant

/-! ### No request is lost -/

/-- Behind every request there is a whole sweep. -/
def SweptBehindRequests (history : List (DaemonLabel ι)) : Prop :=
  ∀ before thread after, history = before ++ .requestSweep thread :: after →
    [.sweepBegins, .sweepEnds].Sublist after

/-- The last sweep has not come to its end. -/
def SweepInProgress (history : List (DaemonLabel ι)) : Prop :=
  ∃ earlier since, history = earlier ++ .sweepBegins :: since ∧ .sweepEnds ∉ since

/-- Behind a request that arrived during a sweep, that sweep ends and another one follows. -/
def SweptAgainBehindRequests (history : List (DaemonLabel ι)) : Prop :=
  ∀ before thread after, history = before ++ .requestSweep thread :: after →
    SweepInProgress before → [.sweepEnds, .sweepBegins, .sweepEnds].Sublist after

theorem DaemonInv.sweptBehindRequests {s : PurgeDaemon ι} {history : List (DaemonLabel ι)}
    (h : DaemonInv s history) (hpending : ¬ s.Pending) (hsweeping : s.point ≠ .sweeping) :
    SweptBehindRequests history := by
  intro before thread after heq
  have hserved := h.served.resolve_right hpending
  have hfinished := h.finished.resolve_right hsweeping
  -- behind the request a sweep begins, and that sweep ends
  obtain ⟨between, _, rest, rfl, -, rfl, _, hends, rfl⟩ := hserved.chain hfinished heq trivial
  exact (List.Sublist.cons_cons _ (List.singleton_sublist.mpr hends)).trans
    (List.sublist_append_right between _)

section Served

variable [DecidableEq ι] {config : PurgeDaemonConfig} {s s' : PurgeDaemon ι}
  {history : List (DaemonLabel ι)}

/-- A sweep begins only when the one before it is over. -/
theorem sweepBegins_point (hstep : DaemonStep config s .sweepBegins s') :
    s.point ≠ .sweeping := by
  cases hstep with
  | sweepBegins hpoint => rw [hpoint]; nofun

theorem sweptAgainBehindRequests (hrun : Run (DaemonStep config) PurgeDaemon.constructed history s)
    (hpending : ¬ s.Pending) (hsweeping : s.point ≠ .sweeping) :
    SweptAgainBehindRequests history := by
  intro before thread after heq hprogress
  have hinv := DaemonInv.run hrun
  have hserved := hinv.served.resolve_right hpending
  have hfinished := hinv.finished.resolve_right hsweeping
  -- the sweep that answers the request is not the one in progress
  obtain ⟨between, _, rest, rfl, -, rfl, _, hends, rfl⟩ := hserved.chain hfinished heq trivial
  obtain ⟨earlier, since, rfl, hopen⟩ := hprogress
  -- the state in front of the next sweep
  have hsplit : history = (earlier ++ .sweepBegins :: (since ++ .requestSweep thread :: between)) ++
      .sweepBegins :: rest := by
    rw [heq]
    simp only [List.append_assoc, List.cons_append]
  rw [hsplit] at hrun
  -- it begins when the other one is over
  obtain ⟨s₁, s₂, hrun₁, hstep⟩ := hrun.exists_step
  have hclosed := (DaemonInv.run hrun₁).finished.resolve_right (sweepBegins_point hstep)
  obtain ⟨_, hmem, rfl⟩ := hclosed earlier _ _ rfl rfl
  have hbetween : .sweepEnds ∈ between := by
    rcases List.mem_append.mp hmem with hsince | hmem
    · exact absurd hsince hopen
    · rcases List.mem_cons.mp hmem with hrequest | hmem
      · cases hrequest
      · exact hmem
  exact (List.singleton_sublist.mpr hbetween).append
    (List.Sublist.cons_cons _ (List.singleton_sublist.mpr hends))

/-- **No lost request.** Whenever the thread falls asleep, nobody has asked for a stop, a whole sweep
stands behind every request, and another one behind a sweep that was in progress. While it sleeps
this stays so, unless a thread that has raised the flag is about to wake it. -/
theorem daemon_never_idle (hrun : Run (DaemonStep config) PurgeDaemon.constructed history s) :
    (∀ s', DaemonStep config s .blocks s' → s.isStopRequested = false ∧
      SweptBehindRequests history ∧ SweptAgainBehindRequests history) ∧
    (s.point = .asleep → SweptBehindRequests history ∨ ∃ thread, s.notifies thread = true) := by
  have hinv := DaemonInv.run hrun
  constructor
  · rintro s' hblocks
    cases hblocks with
    | blocks hpoint hstop hrequest =>
      -- in front of the wait, a request that is pending has its flag up
      have hpending : ¬ s.Pending := by
        simp [PurgeDaemon.Pending, hpoint, hrequest]
      have hsweeping : s.point ≠ .sweeping := by
        rw [hpoint]
        nofun
      exact ⟨hstop, hinv.sweptBehindRequests hpending hsweeping,
        sweptAgainBehindRequests hrun hpending hsweeping⟩
  · intro hasleep
    cases hflag : s.isSweepRequested with
    | true => exact .inr (hinv.notified hasleep hflag)
    | false =>
      refine .inl (hinv.sweptBehindRequests ?_ ?_)
      · simp [PurgeDaemon.Pending, hasleep, hflag]
      · rw [hasleep]
        nofun

end Served

/-- The configuration of the source. -/
def hourly : PurgeDaemonConfig where
  retentionSweepInterval := 3600000000000
  quotaPolicy := .default

/-- A request that arrives during the first sweep. -/
def requestedMidway : List (DaemonLabel Unit) :=
  [.start, .lock, .exchange, .unlock, .sweepBegins, .requestSweep (), .sweepEnds, .relock,
    .leavesWait, .exchange, .unlock, .sweepBegins, .notifySweep (), .sweepEnds, .relock]

/-- The running daemon at a point of such a history, with a request noted or still to notify. -/
def PurgeDaemon.midway (point : RunPoint) (isSweepRequested : Bool) (sweepsCompleted : Nat)
    (locals : RunLocals) (isNotifying : Bool) : PurgeDaemon Unit where
  isStopRequested := false
  isSweepRequested := isSweepRequested
  sweepsCompleted := sweepsCompleted
  isRunning := true
  point := point
  locals := locals
  stopper := .idle
  notifies := fun _ => isNotifying

/-- In front of the wait after the second sweep. -/
def sweptTwice : PurgeDaemon Unit :=
  .midway .waiting false 2 ⟨20, true⟩ false

/-- Whatever the clock and the disk say, a first round and a request are due. -/
theorem PurgeDaemon.midway_sweepBegins {wasRequested isSweepRequested isNotifying : Bool}
    {sweepsCompleted : Nat} {locals : RunLocals} (hdue : (wasRequested || !locals.hasSwept) = true) :
    DaemonStep hourly
      (midway (.deciding wasRequested) isSweepRequested sweepsCompleted locals isNotifying)
      .sweepBegins (midway .sweeping isSweepRequested sweepsCompleted locals isNotifying) :=
  @DaemonStep.sweepBegins Unit _ hourly (midway (.deciding wasRequested) isSweepRequested
    sweepsCompleted locals isNotifying) wasRequested 0 (.error (.mediaMux "")) rfl (if_pos hdue)

theorem PurgeDaemon.midway_requestSweep {sweepsCompleted : Nat} {locals : RunLocals} :
    DaemonStep hourly (midway .sweeping false sweepsCompleted locals false) (.requestSweep ())
      (midway .sweeping true sweepsCompleted locals true) := by
  have hnotifies : Function.update (fun _ : Unit => false) () true = fun _ => true :=
    funext fun _ => rfl
  rw [midway, midway, ← hnotifies]
  exact .requestSweep () id rfl

theorem PurgeDaemon.midway_notifySweep {sweepsCompleted : Nat} {locals : RunLocals} :
    DaemonStep hourly (midway .sweeping false sweepsCompleted locals true) (.notifySweep ())
      (midway .sweeping false sweepsCompleted locals false) := by
  have hnotifies : Function.update (fun _ : Unit => true) () false = fun _ => false :=
    funext fun _ => rfl
  rw [midway, midway, ← hnotifies]
  exact .notifySweep () rfl

theorem run_requestedMidway :
    Run (DaemonStep hourly) PurgeDaemon.constructed requestedMidway sweptTwice := by
  have hfirst : Run (DaemonStep hourly) PurgeDaemon.constructed
      [.start, .lock, .exchange, .unlock] (.midway (.deciding false) false 0 ⟨0, false⟩ false) :=
    (((Run.refl.step (.start id rfl)).step (.lock rfl)).step (.exchange rfl rfl)).step (.unlock rfl)
  have hrequested : Run (DaemonStep hourly) PurgeDaemon.constructed
      [.start, .lock, .exchange, .unlock, .sweepBegins, .requestSweep ()]
      (.midway .sweeping true 0 ⟨0, false⟩ true) :=
    (hfirst.step (PurgeDaemon.midway_sweepBegins rfl)).step PurgeDaemon.midway_requestSweep
  have hagain : Run (DaemonStep hourly) PurgeDaemon.constructed
      [.start, .lock, .exchange, .unlock, .sweepBegins, .requestSweep (), .sweepEnds, .relock,
        .leavesWait, .exchange, .unlock] (.midway (.deciding true) false 1 ⟨10, true⟩ true) :=
    ((((hrequested.step (.sweepEnds 10 rfl)).step (.relock rfl)).step (.leavesWait rfl rfl)).step
      (.exchange rfl rfl)).step (.unlock rfl)
  exact (((hagain.step (PurgeDaemon.midway_sweepBegins rfl)).step
    PurgeDaemon.midway_notifySweep).step (.sweepEnds 20 rfl)).step (.relock rfl)

/-- The thread may fall asleep now, and the request has been served by a sweep of its own. -/
theorem daemon_never_idle_midway :
    DaemonStep hourly sweptTwice .blocks { sweptTwice with point := .asleep } ∧
      SweptBehindRequests requestedMidway ∧ SweptAgainBehindRequests requestedMidway := by
  have hblocks : DaemonStep hourly sweptTwice .blocks { sweptTwice with point := .asleep } :=
    .blocks rfl rfl rfl
  exact ⟨hblocks, ((daemon_never_idle run_requestedMidway).1 _ hblocks).2⟩

end Steps

end Ods.S4
