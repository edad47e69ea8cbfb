import Mathlib.Data.List.Basic
import Mathlib.Data.List.Infix

/-!
# Runs of an event handler

A component that reacts to events has a state and a handler, and its run over a list of events is
the fold of the handler. What the run promises is of two kinds: something of every state reached
(`Always`), and something of every event at the state it finds (`EachStep`). An invariant that is
kept by a step exactly when the step is safe holds along a run exactly when all its steps are
(`always_iff`). Where only some steps touch a part of the state, that part is what the last of them
left (`exists_last_step`, `eq_of_eachStep`).
-/

universe u v

variable {State : Type u} {Event : Type v}

namespace EventRun

/-- The state after the events, in order. -/
def run (handle : Event → State → State) (start : State) (events : List Event) : State :=
  events.foldl (fun state event => handle event state) start

/-- `Inv` holds of every state on the way, the first and the last included. -/
def Always (handle : Event → State → State) (start : State) (events : List Event)
    (Inv : State → Prop) : Prop :=
  ∀ earlier, earlier <+: events → Inv (run handle start earlier)

/-- `P` holds of every event and the state it finds. -/
def EachStep (handle : Event → State → State) (start : State) (events : List Event)
    (P : Event → State → Prop) : Prop :=
  ∀ earlier event, earlier ++ [event] <+: events → P event (run handle start earlier)

variable {handle : Event → State → State} {start : State} {events : List Event} {event : Event}
  {Inv : State → Prop} {P : Event → State → Prop}

@[simp] theorem run_nil : run handle start [] = start := rfl

@[simp] theorem run_concat :
    run handle start (events ++ [event]) = handle event (run handle start events) := by
  simp [run]

theorem always_nil : Always handle start [] Inv ↔ Inv start := by
  constructor
  · intro h
    exact h [] List.prefix_rfl
  · intro h earlier hearlier
    rw [List.prefix_nil.mp hearlier]
    exact h

theorem always_concat : Always handle start (events ++ [event]) Inv ↔
    Always handle start events Inv ∧ Inv (handle event (run handle start events)) := by
  constructor
  · intro h
    refine ⟨fun earlier hearlier => h earlier (hearlier.trans (List.prefix_append _ _)), ?_⟩
    have hlast := h (events ++ [event]) List.prefix_rfl
    rwa [run_concat] at hlast
  · rintro ⟨hearlier, hlast⟩ earlier h
    rcases List.prefix_concat_iff.mp h with rfl | h
    · rwa [run_concat]
    · exact hearlier earlier h

theorem eachStep_nil : EachStep handle start [] P := by
  intro earlier event h
  simpa using List.prefix_nil.mp h

theorem eachStep_concat : EachStep handle start (events ++ [event]) P ↔
    EachStep handle start events P ∧ P event (run handle start events) := by
  constructor
  · intro h
    exact ⟨fun earlier event h' => h earlier event (h'.trans (List.prefix_append _ _)),
      h events event List.prefix_rfl⟩
  · rintro ⟨hearlier, hlast⟩ earlier event' h
    rcases List.prefix_concat_iff.mp h with heq | h
    · obtain ⟨rfl, rfl⟩ : earlier = events ∧ event' = event := by simpa using heq
      exact hlast
    · exact hearlier earlier event' h

/-- The rule for runs: where a step from a good state is `Safe` exactly when it goes as `Promised`
and leads to a good state again, the same holds of whole runs. -/
theorem always_iff {Safe Promised : Event → State → Prop} (hstart : Inv start)
    (hstep : ∀ event state, Inv state →
      (Safe event state ↔ Promised event state ∧ Inv (handle event state)))
    (events : List Event) :
    Always handle start events Inv ∧ EachStep handle start events Promised ↔
      EachStep handle start events Safe := by
  -- that the invariant holds at the end goes along with the induction
  suffices h : (Always handle start events Inv ∧ EachStep handle start events Promised ↔
      EachStep handle start events Safe) ∧
        (EachStep handle start events Safe → Inv (run handle start events)) from h.1
  induction events using List.reverseRecOn with
  | nil => exact ⟨by simp [always_nil, eachStep_nil, hstart], fun _ => hstart⟩
  | append_singleton events event ih =>
    obtain ⟨ih, hinv⟩ := ih
    -- what the last step promises, once the steps before it were safe
    have hlast : EachStep handle start events Safe →
        (Safe event (run handle start events) ↔ Promised event (run handle start events) ∧
          Inv (handle event (run handle start events))) :=
      fun h => hstep event _ (hinv h)
    rw [always_concat, eachStep_concat, eachStep_concat, run_concat]
    constructor
    · constructor
      · rintro ⟨⟨halways, hnext⟩, hpromised, hthis⟩
        have hsafe := ih.mp ⟨halways, hpromised⟩
        exact ⟨hsafe, (hlast hsafe).mpr ⟨hthis, hnext⟩⟩
      · rintro ⟨hsafe, hthis⟩
        obtain ⟨halways, hpromised⟩ := ih.mpr hsafe
        obtain ⟨hthis, hnext⟩ := (hlast hsafe).mp hthis
        exact ⟨⟨halways, hnext⟩, hpromised, hthis⟩
    · rintro ⟨hsafe, hthis⟩
      exact ((hlast hsafe).mp hthis).2

/-! ### The last step of a kind -/

theorem run_append (events events' : List Event) :
    run handle start (events ++ events') = run handle (run handle start events) events' :=
  List.foldl_append

/-- A run is cut behind its last step of a kind, or at its start if there is none. -/
theorem exists_last_step (handle : Event → State → State) (start : State)
    (P : Event → State → Prop) (events : List Event) :
    ∃ earlier later, events = earlier ++ later ∧
      (earlier = [] ∨ ∃ before event, earlier = before ++ [event] ∧ P event (run handle start before)) ∧
        EachStep handle (run handle start earlier) later fun event state => ¬ P event state := by
  induction events using List.reverseRecOn with
  | nil => exact ⟨[], [], rfl, .inl rfl, eachStep_nil⟩
  | append_singleton events event ih =>
    by_cases hlast : P event (run handle start events)
    · exact ⟨events ++ [event], [], (List.append_nil _).symm, .inr ⟨events, event, rfl, hlast⟩,
        eachStep_nil⟩
    · obtain ⟨earlier, later, rfl, hearlier, hlater⟩ := ih
      refine ⟨earlier, later ++ [event], List.append_assoc _ _ _, hearlier, ?_⟩
      rw [run_append] at hlast
      exact eachStep_concat.mpr ⟨hlater, hlast⟩

/-- What no step of a run changes is at its end as it was at its start. -/
theorem eq_of_eachStep {α : Type*} {f : State → α} (h : EachStep handle start events P)
    (hsame : ∀ event state, P event state → f (handle event state) = f state) :
    f (run handle start events) = f start := by
  induction events using List.reverseRecOn with
  | nil => rfl
  | append_singleton events event ih =>
    obtain ⟨hearlier, hlast⟩ := eachStep_concat.mp h
    rw [run_concat, hsame event _ hlast]
    exact ih hearlier

/-- What every step keeps holds in every state of a run. -/
theorem always_of_step (hstart : Inv start) (hstep : ∀ event state, Inv state → Inv (handle event state))
    (events : List Event) : Always handle start events Inv := by
  induction events using List.reverseRecOn with
  | nil => exact always_nil.mpr hstart
  | append_singleton events event ih =>
    exact always_concat.mpr ⟨ih, hstep event _ (ih events List.prefix_rfl)⟩

end EventRun
