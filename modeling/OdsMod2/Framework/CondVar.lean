import Mathlib.Logic.Function.Basic

/-!
# Waiting on a condition variable

A thread that waits for a target checks its predicate under the mutex and falls asleep if it fails. Other
threads change the shared state under the mutex and notify everybody once they have given it back. In
between, the state may already be what a sleeper waits for, and nobody has told it.

`NoneLost` is what keeps such a gap from lasting: whenever a sleeper's target is ready, somebody is
still to notify. It survives whatever makes nothing ready (`NoneLost.mono`), whatever makes something
ready by a thread that will notify (`NoneLost.owe`), a notification (`NoneLost.notifyAll`), and a thread
that falls asleep behind a predicate that fails (`NoneLost.sleep`) or wakes up (`NoneLost.goTo`).
-/

universe u v w

namespace CondVar

/-- Where a thread stands that may wait. -/
inductive WaitPoint (Target : Type u) where
  | outside
  | asleep (target : Target)
  /-- Off the condition variable, in front of the mutex. -/
  | awake (target : Target) (isTimeout : Bool)

/-- A thread that sleeps is woken; any other goes on. -/
def WaitPoint.woken {Target : Type u} : WaitPoint Target → WaitPoint Target
  | .asleep target => .awake target false
  | point => point

/-- Who waits, and who has changed the state and is still to notify. -/
structure Board (Waiter : Type v) (Notifier : Type w) (Target : Type u) where
  point : Waiter → WaitPoint Target
  owes : Notifier → Bool

namespace Board

variable {Waiter : Type v} {Notifier : Type w} {Target : Type u}

def clear : Board Waiter Notifier Target where
  point := fun _ => .outside
  owes := fun _ => false

variable (board : Board Waiter Notifier Target)

section Waiters

variable [DecidableEq Waiter] (waiter : Waiter) (point : WaitPoint Target)

def goTo : Board Waiter Notifier Target :=
  { board with point := Function.update board.point waiter point }

@[simp] theorem point_goTo_self : (board.goTo waiter point).point waiter = point := by
  simp [goTo]

theorem point_goTo_of_ne {other : Waiter} (hne : other ≠ waiter) :
    (board.goTo waiter point).point other = board.point other := by
  simp [goTo, hne]

@[simp] theorem owes_goTo : (board.goTo waiter point).owes = board.owes := rfl

end Waiters

section Notifiers

variable [DecidableEq Notifier] (notifier : Notifier)

def owe : Board Waiter Notifier Target :=
  { board with owes := Function.update board.owes notifier true }

/-- `notify_all`. -/
def notifyAll : Board Waiter Notifier Target where
  point := fun waiter => (board.point waiter).woken
  owes := Function.update board.owes notifier false

@[simp] theorem point_owe : (board.owe notifier).point = board.point := rfl

theorem owes_owe_self : (board.owe notifier).owes notifier = true := by
  simp [owe]

@[simp] theorem point_notifyAll (waiter : Waiter) :
    (board.notifyAll notifier).point waiter = (board.point waiter).woken := rfl

end Notifiers

end Board

section NoneLost

variable {Waiter : Type v} {Notifier : Type w} {Target : Type u}
  {board : Board Waiter Notifier Target} {ready ready' : Target → Prop}

/-- Whoever sleeps although its target is ready will be notified. -/
def NoneLost (ready : Target → Prop) (board : Board Waiter Notifier Target) : Prop :=
  ∀ waiter target, board.point waiter = .asleep target → ready target →
    ∃ notifier, board.owes notifier = true

theorem noneLost_clear : NoneLost ready (Board.clear : Board Waiter Notifier Target) := by
  intro waiter target hasleep
  cases hasleep

/-- A change that makes nothing ready needs no notification. -/
theorem NoneLost.mono (h : NoneLost ready board) (hready : ∀ target, ready' target → ready target) :
    NoneLost ready' board := by
  intro waiter target hasleep htarget
  exact h waiter target hasleep (hready target htarget)

/-- Any change at all, by a thread that will notify. -/
theorem noneLost_owe [DecidableEq Notifier] (notifier : Notifier) :
    NoneLost ready (board.owe notifier) := by
  intro waiter target hasleep htarget
  exact ⟨notifier, board.owes_owe_self notifier⟩

/-- Behind a notification nobody sleeps. -/
theorem noneLost_notifyAll [DecidableEq Notifier] (notifier : Notifier) :
    NoneLost ready (board.notifyAll notifier) := by
  intro waiter target hasleep
  rw [Board.point_notifyAll] at hasleep
  cases hpoint : board.point waiter with
  | outside =>
    rw [hpoint] at hasleep
    cases hasleep
  | asleep target' =>
    rw [hpoint] at hasleep
    cases hasleep
  | awake target' isTimeout =>
    rw [hpoint] at hasleep
    cases hasleep

/-- A thread may go wherever it does not wait in vain. -/
theorem NoneLost.goTo [DecidableEq Waiter] (h : NoneLost ready board) {waiter : Waiter}
    {point : WaitPoint Target} (hpoint : ∀ target, point = .asleep target → ¬ ready target) :
    NoneLost ready (board.goTo waiter point) := by
  intro other target hasleep htarget
  by_cases hother : other = waiter
  · rw [hother, Board.point_goTo_self] at hasleep
    exact absurd htarget (hpoint target hasleep)
  · rw [Board.point_goTo_of_ne _ _ _ hother] at hasleep
    exact h other target hasleep htarget

theorem NoneLost.sleep [DecidableEq Waiter] (h : NoneLost ready board) (waiter : Waiter)
    {target : Target} (hnot : ¬ ready target) :
    NoneLost ready (board.goTo waiter (.asleep target)) := by
  refine h.goTo fun target' htarget => ?_
  cases htarget
  exact hnot

end NoneLost

end CondVar
