import Mathlib.Data.List.Perm.Subperm
import Mathlib.Data.List.Dedup
import Mathlib.Algebra.BigOperators.Group.List.Basic
import Mathlib.Order.Lattice

/-!
# Pairing up two lists

Pairs with one component from each of two lists, every element used at most once. Some elements of
either list are good, and a pair needs at least one good component. There are then as many pairs as
each list allows, and as the good elements of both allow together (`exists_pairing_iff`).

The classes of a list by a key are disjoint, and together they are the list (`classes_perm`).
-/

universe u v w

section Pairing

variable {α : Type u} {β : Type v} {xs : List α} {ys : List β} {p : α → Bool} {q : β → Bool}

/-- Pairs of elements of `xs` and `ys`, one component of each pair a good one. -/
structure Pairing (p : α → Bool) (q : β → Bool) (xs : List α) (ys : List β)
    (pairs : List (α × β)) : Prop where
  left : (pairs.map Prod.fst).Subperm xs
  right : (pairs.map Prod.snd).Subperm ys
  good : ∀ pair ∈ pairs, p pair.1 = true ∨ q pair.2 = true

/-- The most pairs there can be. -/
def pairable (p : α → Bool) (q : β → Bool) (xs : List α) (ys : List β) : Nat :=
  min (min xs.length ys.length) (xs.countP p + ys.countP q)

/-- With a good component in every pair, the good components are as many as the pairs. -/
theorem length_le_countP_add {pairs : List (α × β)}
    (h : ∀ pair ∈ pairs, p pair.1 = true ∨ q pair.2 = true) :
    pairs.length ≤ pairs.countP (fun pair => p pair.1) + pairs.countP (fun pair => q pair.2) := by
  induction pairs with
  | nil => exact le_rfl
  | cons pair pairs ih =>
    obtain ⟨hpair, hpairs⟩ := List.forall_mem_cons.mp h
    have hrest := ih hpairs
    simp only [List.length_cons, List.countP_cons]
    rcases hpair with hp | hq
    · rw [if_pos hp]
      omega
    · rw [if_pos hq]
      omega

theorem Pairing.length_le {pairs : List (α × β)} (h : Pairing p q xs ys pairs) :
    pairs.length ≤ pairable p q xs ys := by
  have hleft : pairs.length ≤ xs.length := List.length_map Prod.fst ▸ h.left.length_le
  have hright : pairs.length ≤ ys.length := List.length_map Prod.snd ▸ h.right.length_le
  refine le_min (le_min hleft hright) ?_
  -- every pair uses up a good element
  calc pairs.length
      ≤ pairs.countP (fun pair => p pair.1) + pairs.countP (fun pair => q pair.2) :=
        length_le_countP_add h.good
    _ = (pairs.map Prod.fst).countP p + (pairs.map Prod.snd).countP q := by
        rw [List.countP_map, List.countP_map]
        rfl
    _ ≤ xs.countP p + ys.countP q :=
        Nat.add_le_add (h.left.countP_le p) (h.right.countP_le q)

/-- The good elements first. -/
def goodFirst (p : α → Bool) (xs : List α) : List α :=
  xs.filter p ++ xs.filter fun x => !p x

theorem goodFirst_perm (p : α → Bool) (xs : List α) : (goodFirst p xs).Perm xs :=
  List.filter_append_perm p xs

theorem good_of_lt {i : Nat} (hi : i < (goodFirst p xs).length) (h : i < xs.countP p) :
    p (goodFirst p xs)[i] = true := by
  rw [List.countP_eq_length_filter] at h
  -- it stands in the first part
  have hget : (goodFirst p xs)[i] = (xs.filter p)[i] := List.getElem_append_left h
  rw [hget]
  exact (List.mem_filter.mp (List.getElem_mem h)).2

/-- The first of one list with the last of the other: an element behind the good ones meets one in
front. -/
theorem exists_pairing {n : Nat} (h : n ≤ pairable p q xs ys) :
    ∃ pairs, Pairing p q xs ys pairs ∧ pairs.length = n := by
  obtain ⟨hboth, hgood⟩ := Nat.le_min.mp h
  obtain ⟨hleft, hright⟩ := Nat.le_min.mp hboth
  rw [← (goodFirst_perm p xs).length_eq] at hleft
  rw [← (goodFirst_perm q ys).length_eq] at hright
  have hfront : ((goodFirst p xs).take n).length = n := List.length_take_of_le hleft
  have hback : ((goodFirst q ys).take n).reverse.length = n := by
    rw [List.length_reverse, List.length_take_of_le hright]
  refine ⟨((goodFirst p xs).take n).zip ((goodFirst q ys).take n).reverse, ⟨?_, ?_, ?_⟩, ?_⟩
  · rw [List.map_fst_zip (hfront.trans hback.symm).le]
    exact ((List.take_sublist _ _).subperm).trans (goodFirst_perm p xs).subperm
  · rw [List.map_snd_zip (hback.trans hfront.symm).le]
    exact (List.reverse_perm _).subperm.trans
      ((List.take_sublist _ _).subperm.trans (goodFirst_perm q ys).subperm)
  · intro pair hpair
    obtain ⟨i, hi, rfl⟩ := List.mem_iff_getElem.mp hpair
    rw [List.length_zip, hfront, hback, min_self] at hi
    rw [List.getElem_zip, List.getElem_take, List.getElem_reverse, List.getElem_take]
    rcases lt_or_ge i (xs.countP p) with hlt | hge
    · exact .inl (good_of_lt _ hlt)
    · refine .inr (good_of_lt _ ?_)
      rw [List.length_take_of_le hright]
      omega
  · rw [List.length_zip, hfront, hback, min_self]

/-- **How many pairs there can be.** -/
theorem exists_pairing_iff {n : Nat} :
    (∃ pairs, Pairing p q xs ys pairs ∧ pairs.length = n) ↔ n ≤ pairable p q xs ys := by
  refine ⟨?_, exists_pairing⟩
  rintro ⟨pairs, hpairs, rfl⟩
  exact hpairs.length_le

end Pairing

/-! ### The classes of a key -/

section Classes

variable {α : Type u} {κ : Type w} [DecidableEq κ] (key : α → κ)

/-- The elements of some keys, class by class. -/
theorem classes_perm {keys : List κ} (hkeys : keys.Nodup) (xs : List α) :
    (keys.flatMap fun k => xs.filter fun x => decide (key x = k)).Perm
      (xs.filter fun x => decide (key x ∈ keys)) := by
  induction keys with
  | nil =>
    rw [List.flatMap_nil, List.filter_eq_nil_iff.mpr fun x _ => by simp]
  | cons k keys ih =>
    obtain ⟨hnew, hrest⟩ := List.nodup_cons.mp hkeys
    rw [List.flatMap_cons]
    refine ((List.Perm.refl _).append (ih hrest)).trans ?_
    -- cut the elements of all these keys by the first key
    have hcut := List.filter_append_perm (fun x => decide (key x = k))
      (xs.filter fun x => decide (key x ∈ k :: keys))
    rw [List.filter_filter, List.filter_filter] at hcut
    refine .trans (.of_eq ?_) hcut
    congr 1
    · refine List.filter_congr fun x _ => ?_
      by_cases hx : key x = k
      · simp [hx]
      · simp [hx]
    · refine List.filter_congr fun x _ => ?_
      by_cases hx : key x = k
      · simp [hx, hnew]
      · simp [hx]

/-- The classes of all keys are the whole list. -/
theorem classes_perm_self {keys : List κ} (hkeys : keys.Nodup) {xs : List α}
    (hall : ∀ x ∈ xs, key x ∈ keys) :
    (keys.flatMap fun k => xs.filter fun x => decide (key x = k)).Perm xs := by
  have hperm := classes_perm key hkeys xs
  rwa [List.filter_eq_self.mpr fun x hx => decide_eq_true (hall x hx)] at hperm

end Classes
