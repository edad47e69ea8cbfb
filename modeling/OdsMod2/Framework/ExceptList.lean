import Mathlib.Data.List.Forall2

/-!
# Lists of computations that may raise

`xs.mapM f` runs `f` on one element after the other and stops at the first exception. It returns
exactly when every element does (`mapM_eq_ok_iff`), so what is known about one element is known
about all. The same holds of a sequence of two (`exists_bind_eq_ok`).
-/

universe u

variable {α : Type u} {β ε : Type u} {f : α → Except ε β}

theorem exists_eq_ok {x : Except ε β} (h : x.isOk = true) : ∃ y, x = .ok y := by
  cases x with
  | error raised => cases h
  | ok y => exact ⟨y, rfl⟩

/-- A sequence returns exactly if its parts do. -/
theorem exists_bind_eq_ok {γ : Type u} {x : Except ε β} {g : β → Except ε γ} :
    (∃ z, (x >>= g) = .ok z) ↔ ∃ y, x = .ok y ∧ ∃ z, g y = .ok z := by
  cases x with
  | error raised =>
    constructor
    · rintro ⟨z, h⟩
      cases h
    · rintro ⟨y, h, -⟩
      cases h
  | ok y =>
    constructor
    · intro h
      exact ⟨y, rfl, h⟩
    · rintro ⟨y', h, hg⟩
      obtain rfl := Except.ok.inj h
      exact hg

theorem bind_eq_ok_iff {γ : Type u} {x : Except ε β} {g : β → Except ε γ} {z : γ} :
    (x >>= g) = .ok z ↔ ∃ y, x = .ok y ∧ g y = .ok z := by
  cases x with
  | error raised =>
    refine iff_of_false (fun h => by cases h) ?_
    rintro ⟨y, h, -⟩
    cases h
  | ok y =>
    constructor
    · intro h
      exact ⟨y, rfl, h⟩
    · rintro ⟨y', h, hg⟩
      rw [Except.ok.inj h]
      exact hg

theorem mapM_eq_ok_iff {xs : List α} {ys : List β} :
    xs.mapM f = .ok ys ↔ List.Forall₂ (fun x y => f x = .ok y) xs ys := by
  induction xs generalizing ys with
  | nil =>
    rw [List.mapM_nil, List.forall₂_nil_left_iff]
    exact ⟨fun h => (Except.ok.inj h).symm, fun h => congrArg Except.ok h.symm⟩
  | cons x xs ih =>
    rw [List.mapM_cons]
    constructor
    · -- the first that raises would have ended it
      intro h
      cases hx : f x with
      | error raised =>
        rw [hx] at h
        cases h
      | ok y =>
        cases hxs : xs.mapM f with
        | error raised =>
          rw [hx, hxs] at h
          cases h
        | ok ys' =>
          rw [hx, hxs] at h
          cases h
          exact .cons hx (ih.mp hxs)
    · rintro (_ | ⟨hx, hxs⟩)
      rw [hx, ih.mpr hxs]
      rfl

/-- What the list raises is raised by one of its elements. -/
theorem exists_error_of_mapM {xs : List α} {raised : ε} (h : xs.mapM f = .error raised) :
    ∃ x ∈ xs, f x = .error raised := by
  induction xs with
  | nil => cases h
  | cons x xs ih =>
    rw [List.mapM_cons] at h
    cases hx : f x with
    | error raised' =>
      rw [hx] at h
      obtain rfl := Except.error.inj h
      exact ⟨x, List.mem_cons_self, hx⟩
    | ok y =>
      cases hxs : xs.mapM f with
      | error raised' =>
        rw [hx, hxs] at h
        obtain rfl := Except.error.inj h
        obtain ⟨x', hmem, hraises⟩ := ih hxs
        exact ⟨x', List.mem_cons_of_mem _ hmem, hraises⟩
      | ok ys =>
        rw [hx, hxs] at h
        cases h

/-- Something for each element. -/
theorem exists_forall₂ {R : α → β → Prop} {xs : List α} (h : ∀ x ∈ xs, ∃ y, R x y) :
    ∃ ys, List.Forall₂ R xs ys := by
  induction xs with
  | nil => exact ⟨[], .nil⟩
  | cons x xs ih =>
    obtain ⟨⟨y, hy⟩, hxs⟩ := List.forall_mem_cons.mp h
    obtain ⟨ys, hys⟩ := ih hxs
    exact ⟨y :: ys, .cons hy hys⟩

theorem Forall₂.exists_of_mem {R : α → β → Prop} {xs : List α} {ys : List β}
    (h : List.Forall₂ R xs ys) {x : α} (hx : x ∈ xs) : ∃ y ∈ ys, R x y := by
  induction h with
  | nil => cases hx
  | cons hxy _ ih =>
    rcases List.mem_cons.mp hx with rfl | hx
    · exact ⟨_, List.mem_cons_self, hxy⟩
    · obtain ⟨y, hy, hr⟩ := ih hx
      exact ⟨y, List.mem_cons_of_mem _ hy, hr⟩

theorem Forall₂.comp {γ : Type u} {R : α → β → Prop} {S : β → γ → Prop} {xs : List α} {ys : List β}
    {zs : List γ} (h : List.Forall₂ R xs ys) (h' : List.Forall₂ S ys zs) :
    List.Forall₂ (fun x z => ∃ y, R x y ∧ S y z) xs zs := by
  induction h generalizing zs with
  | nil =>
    cases h'
    exact .nil
  | cons hxy _ ih =>
    cases h' with
    | cons hyz hrest => exact .cons ⟨_, hxy, hyz⟩ (ih hrest)

theorem forall₂_append_iff {R : α → β → Prop} {xs xs' : List α} {ys ys' : List β}
    (hlength : xs.length = ys.length) :
    List.Forall₂ R (xs ++ xs') (ys ++ ys') ↔ List.Forall₂ R xs ys ∧ List.Forall₂ R xs' ys' := by
  induction xs generalizing ys with
  | nil =>
    obtain rfl := List.length_eq_zero_iff.mp hlength.symm
    exact ⟨fun h => ⟨.nil, h⟩, fun h => h.2⟩
  | cons x xs ih =>
    cases ys with
    | nil => cases hlength
    | cons y ys =>
      rw [List.cons_append, List.cons_append, List.forall₂_cons, List.forall₂_cons,
        ih (Nat.succ.inj hlength), and_assoc]
