import Mathlib.Data.List.Basic

/-!
# Handlers that keep a cell for each key

A handler answers each event and goes on with a new state. Where the state is made of cells, one for
each key, and an event reads and writes the cell of its own key only (`Local`), the events of other
keys make no difference to the answers that a key gets (`Local.outputs_filter`).
-/

universe u v w x y

namespace LocalRun

section Outputs

variable {Event : Type u} {State : Type v} {Out : Type w}

/-- Every event with its answer. -/
def outputs (handle : Event → State → Out × State) : State → List Event → List (Event × Out)
  | _, [] => []
  | state, event :: events =>
    (event, (handle event state).1) :: outputs handle (handle event state).2 events

def finalState (handle : Event → State → Out × State) (state : State) (events : List Event) :
    State :=
  events.foldl (fun state event => (handle event state).2) state

variable {handle : Event → State → Out × State} {state : State}

theorem outputs_append (events events' : List Event) :
    outputs handle state (events ++ events') =
      outputs handle state events ++ outputs handle (finalState handle state events) events' := by
  induction events generalizing state with
  | nil => rfl
  | cons event events ih => exact congrArg _ ih

@[simp] theorem map_fst_outputs (events : List Event) :
    (outputs handle state events).map Prod.fst = events := by
  induction events generalizing state with
  | nil => rfl
  | cons event events ih => exact congrArg _ ih

@[simp] theorem length_outputs (events : List Event) :
    (outputs handle state events).length = events.length := by
  rw [← List.length_map Prod.fst, map_fst_outputs]

theorem finalState_concat (events : List Event) (event : Event) :
    finalState handle state (events ++ [event]) =
      (handle event (finalState handle state events)).2 := by
  rw [finalState, List.foldl_concat]
  rfl

theorem outputs_concat (events : List Event) (event : Event) :
    outputs handle state (events ++ [event]) =
      outputs handle state events ++ [(event, (handle event (finalState handle state events)).1)] :=
  outputs_append events [event]

/-- The answer to an event is that of the state which the events before it lead to. -/
theorem getElem?_outputs (earlier later : List Event) (event : Event) :
    (outputs handle state (earlier ++ event :: later))[earlier.length]? =
      some (event, (handle event (finalState handle state earlier)).1) := by
  rw [outputs_append, List.getElem?_append_right (Nat.le_of_eq (length_outputs earlier)), length_outputs,
    Nat.sub_self]
  rfl

end Outputs

section Local

variable {Event : Type u} {State : Type v} {Out : Type w} {Key : Type x} {Cell : Type y}

/-- An event has a key or none. It leaves the cells of other keys as they are, and what it answers
and leaves in its own is determined by what it finds there. -/
structure Local (handle : Event → State → Out × State) (cell : State → Key → Cell)
    (key : Event → Option Key) : Prop where
  untouched : ∀ {event k} state, key event ≠ some k → cell (handle event state).2 k = cell state k
  determined : ∀ {event k state state'}, key event = some k → cell state k = cell state' k →
    (handle event state).1 = (handle event state').1 ∧
      cell (handle event state).2 k = cell (handle event state').2 k

variable {handle : Event → State → Out × State} {cell : State → Key → Cell}
  {key : Event → Option Key} [DecidableEq Key]

/-- **Keys do not interfere.** -/
theorem Local.outputs_filter (h : Local handle cell key) {k : Key} {state state' : State}
    (hcell : cell state k = cell state' k) (events : List Event) :
    (outputs handle state events).filter (fun pair => decide (key pair.1 = some k)) =
      outputs handle state' (events.filter fun event => decide (key event = some k)) := by
  induction events generalizing state state' with
  | nil => rfl
  | cons event events ih =>
    by_cases hkey : key event = some k
    · -- the event finds and leaves the same in both runs
      obtain ⟨hout, hcell'⟩ := h.determined hkey hcell
      rw [outputs, List.filter_cons_of_pos (by simpa using hkey),
        List.filter_cons_of_pos (by simpa using hkey), outputs, hout, ih hcell']
    · -- an event of another key is passed over in one run only
      have hcell' : cell (handle event state).2 k = cell state' k :=
        (h.untouched state hkey).trans hcell
      rw [outputs, List.filter_cons_of_neg (by simpa using hkey),
        List.filter_cons_of_neg (by simpa using hkey), ih hcell']

end Local

end LocalRun
