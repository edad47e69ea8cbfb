import Mathlib.Data.List.Basic

/-!
# Normal forms by overwriting

A list is brought to normal form by writing fixed values at some of its positions, where the
positions themselves are found by reading the list. This is a normal form as soon as the search
does not depend on what stands at the positions it finds (`Locates`): two lists of one length have
the same normal form if and only if they agree everywhere else, and a normal form is its own.
-/

universe u

variable {α : Type u}

/-- Positions, each with the value to be written there. -/
abbrev Patch (α : Type u) := List (Nat × α)

namespace Patch

def positions (patch : Patch α) : List Nat :=
  patch.map Prod.fst

/-- Write the values one after the other. -/
def overwrite (patch : Patch α) (xs : List α) : List α :=
  patch.foldl (fun xs write => xs.set write.1 write.2) xs

@[simp] theorem positions_nil : positions ([] : Patch α) = [] := rfl

@[simp] theorem positions_append (patch patch' : Patch α) :
    positions (patch ++ patch') = patch.positions ++ patch'.positions :=
  List.map_append

@[simp] theorem overwrite_nil (xs : List α) : overwrite ([] : Patch α) xs = xs := rfl

@[simp] theorem overwrite_cons (write : Nat × α) (patch : Patch α) (xs : List α) :
    overwrite (write :: patch) xs = overwrite patch (xs.set write.1 write.2) := rfl

theorem overwrite_append (patch patch' : Patch α) (xs : List α) :
    overwrite (patch ++ patch') xs = overwrite patch' (overwrite patch xs) :=
  List.foldl_append

@[simp] theorem length_overwrite (patch : Patch α) (xs : List α) :
    (overwrite patch xs).length = xs.length := by
  induction patch generalizing xs with
  | nil => rfl
  | cons write patch ih => rw [overwrite_cons, ih, List.length_set]

end Patch

/-- The lists hold the same at every position but these. -/
def AgreeOutside (positions : List Nat) (xs ys : List α) : Prop :=
  ∀ i, i ∉ positions → xs[i]? = ys[i]?

namespace AgreeOutside

variable {positions positions' : List Nat} {xs ys zs : List α}

theorem symm (h : AgreeOutside positions xs ys) : AgreeOutside positions ys xs :=
  fun i hi => (h i hi).symm

theorem trans (h : AgreeOutside positions xs ys) (h' : AgreeOutside positions ys zs) :
    AgreeOutside positions xs zs :=
  fun i hi => (h i hi).trans (h' i hi)

end AgreeOutside

namespace Patch

theorem agreeOutside_overwrite (patch : Patch α) (xs : List α) :
    AgreeOutside patch.positions xs (overwrite patch xs) := by
  intro i hi
  induction patch generalizing xs with
  | nil => rfl
  | cons write patch ih =>
    obtain ⟨hne, hrest⟩ := not_or.mp (mt List.mem_cons.mpr hi)
    rw [overwrite_cons, ← ih _ hrest, List.getElem?_set_ne (Ne.symm hne)]

/-- What stood at the positions written is lost. -/
theorem overwrite_congr {patch : Patch α} {xs ys : List α} (hlength : xs.length = ys.length)
    (h : AgreeOutside patch.positions xs ys) : overwrite patch xs = overwrite patch ys := by
  induction patch generalizing xs ys with
  | nil => exact List.ext_getElem? fun i => h i List.not_mem_nil
  | cons write patch ih =>
    refine ih ?_ fun i hi => ?_
    · rw [List.length_set, List.length_set, hlength]
    · by_cases hwrite : write.1 = i
      · subst hwrite
        rw [List.getElem?_set_self', List.getElem?_set_self']
        by_cases hlt : write.1 < xs.length
        · rw [List.getElem?_eq_getElem hlt, List.getElem?_eq_getElem (hlength ▸ hlt)]
          rfl
        · rw [List.getElem?_eq_none (Nat.not_lt.mp hlt),
            List.getElem?_eq_none (hlength ▸ Nat.not_lt.mp hlt)]
      · rw [List.getElem?_set_ne hwrite, List.getElem?_set_ne hwrite]
        exact h i fun hmem => (List.mem_cons.mp hmem).elim (fun heq => hwrite heq.symm) hi

end Patch

/-- The search does not depend on what stands at the positions it finds. -/
def Locates (find : List α → Patch α) : Prop :=
  ∀ xs ys, xs.length = ys.length → AgreeOutside (find xs).positions xs ys → find ys = find xs

namespace Locates

variable {find : List α → Patch α}

/-- The search finds the same again once it has been written. -/
theorem find_overwrite (h : Locates find) (xs : List α) :
    find ((find xs).overwrite xs) = find xs :=
  h _ _ (Patch.length_overwrite _ _).symm (Patch.agreeOutside_overwrite _ _)

/-- **Normal forms.** -/
theorem overwrite_eq_iff (h : Locates find) {xs ys : List α} (hlength : xs.length = ys.length) :
    (find xs).overwrite xs = (find ys).overwrite ys ↔
      AgreeOutside (find xs).positions xs ys := by
  constructor
  · intro heq
    have hfind : find xs = find ys := by
      rw [← h.find_overwrite xs, heq, h.find_overwrite ys]
    have hxs := Patch.agreeOutside_overwrite (find xs) xs
    have hys := Patch.agreeOutside_overwrite (find ys) ys
    rw [← hfind] at hys
    rw [heq, ← hfind] at hxs
    exact hxs.trans hys.symm
  · intro hagree
    rw [h xs ys hlength hagree]
    exact Patch.overwrite_congr hlength hagree

theorem overwrite_idem (h : Locates find) (xs : List α) :
    (find ((find xs).overwrite xs)).overwrite ((find xs).overwrite xs) = (find xs).overwrite xs :=
  (h.overwrite_eq_iff (Patch.length_overwrite _ _)).mpr <| by
    rw [h.find_overwrite]
    exact (Patch.agreeOutside_overwrite _ _).symm

end Locates
