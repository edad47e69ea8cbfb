import Mathlib.Data.List.Basic

/-!
# Runs of a labelled transition system

A step leads from one state to another under a label, and the history of a run is the list of its
labels. What has to happen after something else is a property of the history alone: `Answered P Q`
says that behind every label of the first kind there is one of the second. A step keeps it if its
label asks for nothing (`Answered.concat`), and brings it about if its label answers
(`answered_concat_of`). Two such properties make a chain (`Answered.chain`).
-/

universe u v

variable {State : Type u} {Label : Type v} {Step : State → Label → State → Prop}

namespace LabelledRun

/-- The history leads from the first state to the second. -/
inductive Run (Step : State → Label → State → Prop) (start : State) : List Label → State → Prop
  | refl : Run Step start [] start
  | step {history : List Label} {label : Label} {s s' : State} (hrun : Run Step start history s)
      (hstep : Step s label s') : Run Step start (history ++ [label]) s'

/-- The step behind a label of the history. -/
theorem Run.exists_step {start s : State} {before after : List Label} {label : Label}
    (h : Run Step start (before ++ label :: after) s) :
    ∃ s₁ s₂, Run Step start before s₁ ∧ Step s₁ label s₂ := by
  generalize hhistory : before ++ label :: after = history at h
  induction h generalizing after with
  | refl => exact absurd hhistory (List.append_ne_nil_of_right_ne_nil _ (List.cons_ne_nil _ _))
  | @step history last s s' hrun hstep ih =>
    -- the last step is the one asked for, or it stands behind it
    rcases List.eq_nil_or_concat' after with rfl | ⟨after, final, rfl⟩
    · obtain ⟨rfl, hlast⟩ := List.append_inj' hhistory rfl
      obtain rfl := (List.cons.inj hlast).1
      exact ⟨s, s', hrun, hstep⟩
    · rw [← List.cons_append, ← List.append_assoc] at hhistory
      exact ih (List.append_inj' hhistory rfl).1

/-- What every step says of its label holds of all labels. -/
theorem Run.forall_label {start s : State} {history : List Label} {P : Label → Prop}
    (h : Run Step start history s) (hstep : ∀ {s label s'}, Step s label s' → P label) :
    ∀ label ∈ history, P label := by
  induction h with
  | refl => exact List.forall_mem_nil _
  | step hrun hlast ih => exact List.forall_mem_append.mpr ⟨ih, List.forall_mem_singleton.mpr (hstep hlast)⟩

section Answered

variable {P Q R : Label → Prop} {history : List Label} {label : Label}

/-- Behind every label of the first kind there is one of the second. -/
def Answered (P Q : Label → Prop) (history : List Label) : Prop :=
  ∀ before label after, history = before ++ label :: after → P label → ∃ later ∈ after, Q later

theorem answered_nil : Answered P Q [] := by
  intro before label after h
  exact absurd h.symm (List.append_ne_nil_of_right_ne_nil _ (List.cons_ne_nil _ _))

/-- A label in a longer history is the last one, or stands in the history before it. -/
theorem append_cons_eq_concat {before after : List Label} {label last : Label}
    (h : history ++ [last] = before ++ label :: after) :
    (history = before ∧ last = label ∧ after = []) ∨
      ∃ earlier, after = earlier ++ [last] ∧ history = before ++ label :: earlier := by
  rcases List.eq_nil_or_concat' after with rfl | ⟨earlier, final, rfl⟩
  · obtain ⟨hbefore, hlast⟩ := List.append_inj' h rfl
    exact .inl ⟨hbefore, (List.cons.inj hlast).1, rfl⟩
  · rw [← List.cons_append, ← List.append_assoc] at h
    obtain ⟨hbefore, hlast⟩ := List.append_inj' h rfl
    obtain rfl := (List.cons.inj hlast).1
    exact .inr ⟨earlier, rfl, hbefore⟩

/-- A label that asks for nothing leaves everything answered. -/
theorem Answered.concat (h : Answered P Q history) (hP : ¬ P label) :
    Answered P Q (history ++ [label]) := by
  intro before asked after heq hasked
  rcases append_cons_eq_concat heq with ⟨-, rfl, -⟩ | ⟨earlier, rfl, hhistory⟩
  · exact absurd hasked hP
  · obtain ⟨later, hmem, hQ⟩ := h before asked earlier hhistory hasked
    exact ⟨later, List.mem_append_left _ hmem, hQ⟩

/-- A label that answers, and asks for nothing, answers everything before it. -/
theorem answered_concat_of (hQ : Q label) (hP : ¬ P label) :
    Answered P Q (history ++ [label]) := by
  intro before asked after heq hasked
  rcases append_cons_eq_concat heq with ⟨-, rfl, -⟩ | ⟨earlier, rfl, -⟩
  · exact absurd hasked hP
  · exact ⟨label, List.mem_append_right _ List.mem_cons_self, hQ⟩

/-- The first answer stands behind labels that are none. -/
theorem Answered.exists_first (h : Answered P Q history) {before after : List Label}
    (heq : history = before ++ label :: after) (hP : P label) :
    ∃ between later rest, after = between ++ later :: rest ∧ (∀ other ∈ between, ¬ Q other) ∧
      Q later := by
  classical
  obtain ⟨later, hmem, hQ⟩ := h before label after heq hP
  -- from here on only the labels behind it count
  clear heq h
  induction after with
  | nil => cases hmem
  | cons other after ih =>
    by_cases hother : Q other
    · exact ⟨[], other, after, rfl, fun _ h => absurd h List.not_mem_nil, hother⟩
    · have hmem' : later ∈ after := by
        rcases List.mem_cons.mp hmem with rfl | hmem'
        · exact absurd hQ hother
        · exact hmem'
      obtain ⟨between, first, rest, rfl, hbetween, hfirst⟩ := ih hmem'
      exact ⟨other :: between, first, rest, rfl, List.forall_mem_cons.mpr ⟨hother, hbetween⟩, hfirst⟩

/-- What answers is itself answered. -/
theorem Answered.chain (h : Answered P Q history) (h' : Answered Q R history)
    {before after : List Label} (heq : history = before ++ label :: after) (hP : P label) :
    ∃ between later rest, after = between ++ later :: rest ∧ (∀ other ∈ between, ¬ Q other) ∧
      Q later ∧ ∃ last ∈ rest, R last := by
  obtain ⟨between, later, rest, rfl, hbetween, hQ⟩ := h.exists_first heq hP
  refine ⟨between, later, rest, rfl, hbetween, hQ, ?_⟩
  -- the first answer asks in its turn
  refine h' (before ++ label :: between) later rest ?_ hQ
  rw [heq, List.append_assoc, List.cons_append]

end Answered

end LabelledRun
