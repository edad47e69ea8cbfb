import Mathlib.Data.List.Flatten
import Mathlib.Data.List.Induction
import Mathlib.Order.Lattice

/-!
# What is admitted in view of what came before

A gate lets an element of a stream through or not, and its rule looks at all that came before it
(`admitted`), whether or not that was let through. One such rule is that nothing may be behind what
came before it under a key: what it admits are the `records`, and nothing is lost exactly if the stream
is in order (`records_eq_self_iff`).
-/

universe u v

namespace Admission

section Admitted

variable {α : Type u} (Admits : List α → α → Prop) [∀ before x, Decidable (Admits before x)]

/-- What is admitted behind the elements that came before. -/
def admittedAfter : List α → List α → List α
  | _, [] => []
  | before, x :: xs =>
    if Admits before x then x :: admittedAfter (before ++ [x]) xs
    else admittedAfter (before ++ [x]) xs

def admitted (xs : List α) : List α :=
  admittedAfter Admits [] xs

theorem admittedAfter_append (before xs ys : List α) :
    admittedAfter Admits before (xs ++ ys) =
      admittedAfter Admits before xs ++ admittedAfter Admits (before ++ xs) ys := by
  induction xs generalizing before with
  | nil => rw [List.nil_append, admittedAfter, List.nil_append, List.append_nil]
  | cons x xs ih =>
    rw [List.cons_append, admittedAfter, admittedAfter, ih, List.append_assoc, List.singleton_append]
    split <;> rfl

theorem admitted_concat (xs : List α) (x : α) :
    admitted Admits (xs ++ [x]) = admitted Admits xs ++ if Admits xs x then [x] else [] := by
  rw [admitted, admittedAfter_append, List.nil_append, admittedAfter, admittedAfter]
  rfl

variable {Admits}

theorem admittedAfter_sublist (before xs : List α) :
    (admittedAfter Admits before xs).Sublist xs := by
  induction xs generalizing before with
  | nil => exact List.Sublist.slnil
  | cons x xs ih =>
    rw [admittedAfter]
    split
    · exact (ih _).cons_cons x
    · exact (ih _).cons x

/-- Two rules that agree on the stream admit the same. -/
theorem admittedAfter_congr {Admits' : List α → α → Prop}
    [∀ before x, Decidable (Admits' before x)] {before before' xs : List α}
    (h : ∀ seen x rest, xs = seen ++ x :: rest →
      (Admits (before ++ seen) x ↔ Admits' (before' ++ seen) x)) :
    admittedAfter Admits before xs = admittedAfter Admits' before' xs := by
  induction xs generalizing before before' with
  | nil => rfl
  | cons x xs ih =>
    have hx : Admits before x ↔ Admits' before' x := by
      have hfirst := h [] x xs rfl
      rwa [List.append_nil, List.append_nil] at hfirst
    have hrest : admittedAfter Admits (before ++ [x]) xs = admittedAfter Admits' (before' ++ [x]) xs := by
      refine ih fun seen y rest heq => ?_
      rw [List.append_assoc, List.append_assoc]
      exact h (x :: seen) y rest (congrArg (x :: ·) heq)
    rw [admittedAfter, admittedAfter, hrest]
    by_cases hadmits : Admits before x
    · rw [if_pos hadmits, if_pos (hx.mp hadmits)]
    · rw [if_neg hadmits, if_neg (mt hx.mpr hadmits)]

/-- A rule that sees only some of the elements, and admits only these. -/
theorem admittedAfter_filter (keep : α → Bool) (before xs : List α) :
    admittedAfter (fun before x => keep x = true ∧ Admits (before.filter keep) x) before xs =
      admittedAfter Admits (before.filter keep) (xs.filter keep) := by
  induction xs generalizing before with
  | nil => rfl
  | cons x xs ih =>
    rw [admittedAfter, ih, List.filter_append]
    by_cases hkeep : keep x = true
    · rw [List.filter_cons_of_pos hkeep, List.filter_cons_of_pos hkeep, List.filter_nil, admittedAfter]
      by_cases hadmits : Admits (before.filter keep) x
      · rw [if_pos hadmits, if_pos ⟨hkeep, hadmits⟩]
      · rw [if_neg hadmits, if_neg fun h => hadmits h.2]
    · rw [List.filter_cons_of_neg hkeep, List.filter_cons_of_neg hkeep, List.filter_nil,
        List.append_nil, if_neg fun h => hkeep h.1]

end Admitted

section Records

variable {α : Type u} {κ : Type v} [LinearOrder κ] (key : α → κ)

/-- The element is not behind any of the others. -/
def NotBehind (before : List α) (x : α) : Prop :=
  ∀ y ∈ before, key y ≤ key x

instance (before : List α) (x : α) : Decidable (NotBehind key before x) :=
  inferInstanceAs (Decidable (∀ y ∈ before, _))

def records (xs : List α) : List α :=
  admitted (NotBehind key) xs

variable {key} {xs : List α}

theorem records_concat (xs : List α) (x : α) :
    records key (xs ++ [x]) = records key xs ++ if NotBehind key xs x then [x] else [] :=
  admitted_concat _ xs x

/-- All is admitted exactly if nothing goes back. -/
theorem records_eq_self_iff :
    records key xs = xs ↔ xs.Pairwise fun x y => key x ≤ key y := by
  induction xs using List.reverseRecOn with
  | nil => exact iff_of_true rfl List.Pairwise.nil
  | append_singleton xs x ih =>
    rw [records_concat, List.pairwise_append, ← ih]
    have hnotBehind : NotBehind key xs x ↔ ∀ y ∈ xs, ∀ z ∈ [x], key y ≤ key z := by
      simp only [List.mem_singleton, forall_eq]
      exact Iff.rfl
    rw [← hnotBehind]
    by_cases hx : NotBehind key xs x
    · rw [if_pos hx, List.append_cancel_right_eq]
      exact ⟨fun h => ⟨h, List.pairwise_singleton _ _, hx⟩, fun h => h.1⟩
    · rw [if_neg hx, List.append_nil]
      refine iff_of_false (fun h => ?_) fun h => hx h.2.2
      -- the records are not more than the elements before the last one
      have hle : (records key xs).length ≤ xs.length := (admittedAfter_sublist [] xs).length_le
      rw [h, List.length_append] at hle
      exact absurd hle (Nat.not_succ_le_self _)

/-- Streams one after the other lose nothing if none of them does. -/
theorem flatMap_records_eq_iff {ι : Type u} {streams : List ι} {stream : ι → List α} :
    (streams.flatMap fun i => records key (stream i)) = streams.flatMap stream ↔
      ∀ i ∈ streams, records key (stream i) = stream i := by
  have hpart : ∀ i, (records key (stream i)).Sublist (stream i) := fun i =>
    admittedAfter_sublist [] (stream i)
  constructor
  · intro h
    induction streams with
    | nil => exact List.forall_mem_nil _
    | cons i streams ih =>
      rw [List.flatMap_cons, List.flatMap_cons] at h
      have hrest : (streams.flatMap fun i => records key (stream i)).length ≤
          (streams.flatMap stream).length :=
        (List.Sublist.flatMap_right streams fun i _ => hpart i).length_le
      have hlength := congrArg List.length h
      rw [List.length_append, List.length_append] at hlength
      -- each part is as long as the one it comes from
      obtain ⟨hfirst, hothers⟩ := List.append_inj h (by have := (hpart i).length_le; omega)
      exact List.forall_mem_cons.mpr ⟨hfirst, ih hothers⟩
  · intro h
    rw [List.flatMap_def, List.flatMap_def, List.map_congr_left h]

end Records

end Admission
