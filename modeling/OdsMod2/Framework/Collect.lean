import Mathlib.Data.List.Nodup
import Mathlib.Data.List.Induction
import Mathlib.Data.List.Perm.Basic

/-!
# Dictionaries that collect

A dictionary in the order in which its keys came first. Values that arrive with a key are collected
in its entry: counted, appended, or added up (`collect`). The entry of a key is then what its own
values make, in their order (`mem_collect_iff`), and the keys stand in the order of their first
values (`keys_collect_sublist`).
-/

universe u v w

/-- A reordering of images is the image of a reordering. -/
theorem exists_perm_of_perm_map {α : Type u} {β : Type v} {f : α → β} {xs : List α} {ys : List β}
    (h : ys.Perm (xs.map f)) : ∃ zs : List α, zs.Perm xs ∧ ys = zs.map f := by
  have hmap : List.Forall₂ (fun y x => y = f x) (xs.map f) xs :=
    List.forall₂_map_left_iff.mpr (List.forall₂_same.mpr fun x _ => rfl)
  obtain ⟨zs, hzs, hperm⟩ := List.perm_comp_forall₂ h hmap
  refine ⟨zs, hperm, ?_⟩
  rw [← List.forall₂_eq_eq_eq, List.forall₂_map_right_iff]
  exact hzs

/-- A list without repetitions of keys has one element of each. -/
theorem filter_key_eq_singleton {α : Type u} {κ : Type v} [DecidableEq κ] {key : α → κ}
    {xs : List α} (h : (xs.map key).Nodup) {x : α} (hx : x ∈ xs) :
    (xs.filter fun y => decide (key y = key x)) = [x] := by
  induction xs with
  | nil => cases hx
  | cons y ys ih =>
    obtain ⟨hnew, hrest⟩ := List.nodup_cons.mp h
    rcases List.mem_cons.mp hx with rfl | hmem
    · rw [List.filter_cons_of_pos (by simp), List.filter_eq_nil_iff.mpr]
      intro z hz hkey
      exact hnew (of_decide_eq_true hkey ▸ List.mem_map_of_mem hz)
    · have hne : key y ≠ key x := fun hkey => hnew (hkey ▸ List.mem_map_of_mem hmem)
      rw [List.filter_cons_of_neg (by simpa using hne), ih hrest hmem]

section Collect

variable {κ : Type u} {α : Type v} {β : Type w} [DecidableEq κ]

/-- Change the entry of a key; a new key starts with `initial`, behind the others. -/
def modifyEntry (key : κ) (initial : β) (change : β → β) : List (κ × β) → List (κ × β)
  | [] => [(key, change initial)]
  | entry :: entries =>
    if entry.1 = key then (entry.1, change entry.2) :: entries
    else entry :: modifyEntry key initial change entries

/-- Collect values, each with its key. -/
def collect (initial : β) (add : β → α → β) (items : List (κ × α)) : List (κ × β) :=
  items.foldl (fun entries item => modifyEntry item.1 initial (add · item.2) entries) []

/-- The values of a key, in their order. -/
def valuesOf (key : κ) (items : List (κ × α)) : List α :=
  (items.filter fun item => decide (item.1 = key)).map Prod.snd

theorem valuesOf_concat (key : κ) (items : List (κ × α)) (item : κ × α) :
    valuesOf key (items ++ [item]) =
      valuesOf key items ++ if item.1 = key then [item.2] else [] := by
  by_cases hkey : item.1 = key
  · simp [valuesOf, hkey]
  · simp [valuesOf, hkey]

theorem valuesOf_eq_nil {key : κ} {items : List (κ × α)} (h : key ∉ items.map Prod.fst) :
    valuesOf key items = [] := by
  rw [valuesOf, List.map_eq_nil_iff, List.filter_eq_nil_iff]
  intro item hitem hkey
  exact h (of_decide_eq_true hkey ▸ List.mem_map_of_mem hitem)

variable {key : κ} {initial : β} {change : β → β} {entries : List (κ × β)}

theorem keys_modifyEntry :
    (modifyEntry key initial change entries).map Prod.fst =
      entries.map Prod.fst ++ if key ∈ entries.map Prod.fst then [] else [key] := by
  induction entries with
  | nil => rfl
  | cons entry entries ih =>
    by_cases hkey : entry.1 = key
    · simp [modifyEntry, hkey]
    · rw [modifyEntry, if_neg hkey, List.map_cons, ih, List.map_cons, List.cons_append]
      simp only [List.mem_cons, Ne.symm hkey, false_or]

/-- The entry of the key is changed, and no other one. -/
theorem mem_modifyEntry_iff (hnodup : (entries.map Prod.fst).Nodup) {k : κ} {b : β} :
    (k, b) ∈ modifyEntry key initial change entries ↔
      k ≠ key ∧ (k, b) ∈ entries ∨
        k = key ∧ ((∃ b', (key, b') ∈ entries ∧ b = change b') ∨
          key ∉ entries.map Prod.fst ∧ b = change initial) := by
  induction entries with
  | nil => simp [modifyEntry]
  | cons entry entries ih =>
    obtain ⟨k', b'⟩ := entry
    obtain ⟨hnew, hrest⟩ := List.nodup_cons.mp hnodup
    -- there is no second entry of the first key
    have hgone : ∀ c, (k', c) ∉ entries := fun c hmem =>
      hnew (List.mem_map.mpr ⟨(k', c), hmem, rfl⟩)
    by_cases hkey : k' = key
    · subst hkey
      rw [modifyEntry, if_pos rfl]
      simp only [List.mem_cons, Prod.mk.injEq, List.map_cons, true_or, not_true_eq_false, false_and,
        or_false]
      constructor
      · rintro (⟨rfl, rfl⟩ | hmem)
        · exact .inr ⟨rfl, b', .inl ⟨trivial, rfl⟩, rfl⟩
        · exact .inl ⟨fun h => hgone b (h ▸ hmem), .inr hmem⟩
      · rintro (⟨hne, hmem⟩ | ⟨rfl, c, hmem, rfl⟩)
        · exact .inr (hmem.resolve_left fun h => hne h.1)
        · rcases hmem with ⟨-, rfl⟩ | hmem
          · exact .inl ⟨rfl, rfl⟩
          · exact absurd hmem (hgone c)
    · rw [modifyEntry, if_neg hkey, List.mem_cons, ih hrest]
      simp only [List.mem_cons, Prod.mk.injEq, List.map_cons, Ne.symm hkey, false_and, false_or]
      constructor
      · rintro (⟨rfl, rfl⟩ | ⟨hne, hmem⟩ | hown)
        · exact .inl ⟨hkey, .inl ⟨rfl, rfl⟩⟩
        · exact .inl ⟨hne, .inr hmem⟩
        · exact .inr hown
      · rintro (⟨hne, hhead | hmem⟩ | hown)
        · exact .inl hhead
        · exact .inr (.inl ⟨hne, hmem⟩)
        · exact .inr (.inr hown)

end Collect

section Items

variable {κ : Type u} {α : Type v} {β : Type w} [DecidableEq κ] {initial : β} {add : β → α → β}

theorem collect_concat (items : List (κ × α)) (item : κ × α) :
    collect initial add (items ++ [item]) =
      modifyEntry item.1 initial (add · item.2) (collect initial add items) :=
  List.foldl_concat ..

theorem mem_keys_collect {items : List (κ × α)} {k : κ} :
    k ∈ (collect initial add items).map Prod.fst ↔ k ∈ items.map Prod.fst := by
  induction items using List.reverseRecOn with
  | nil => exact Iff.rfl
  | append_singleton items item ih =>
    rw [collect_concat, keys_modifyEntry, List.map_append, List.mem_append, List.mem_append, ih,
      List.map_singleton, List.mem_singleton]
    split
    · next hold =>
      -- the key was there already
      refine ⟨fun h => .inl (h.resolve_right List.not_mem_nil), fun h => .inl (h.elim id ?_)⟩
      rintro rfl
      exact ih.mp hold
    · rw [List.mem_singleton]

theorem nodup_keys_collect (items : List (κ × α)) :
    ((collect initial add items).map Prod.fst).Nodup := by
  induction items using List.reverseRecOn with
  | nil => exact .nil
  | append_singleton items item ih =>
    rw [collect_concat, keys_modifyEntry]
    split
    · rwa [List.append_nil]
    · next hnew => exact List.nodup_append_comm.mp (List.nodup_cons.mpr ⟨hnew, ih⟩)

/-- The keys stand in the order in which they came first. -/
theorem keys_collect_sublist (items : List (κ × α)) :
    ((collect initial add items).map Prod.fst).Sublist (items.map Prod.fst) := by
  induction items using List.reverseRecOn with
  | nil => exact .slnil
  | append_singleton items item ih =>
    rw [collect_concat, keys_modifyEntry, List.map_append]
    refine ih.append ?_
    split
    · exact List.nil_sublist _
    · exact List.Sublist.refl _

/-- **The entry of a key.** -/
theorem mem_collect_iff {items : List (κ × α)} {k : κ} {b : β} :
    (k, b) ∈ collect initial add items ↔
      k ∈ items.map Prod.fst ∧ b = (valuesOf k items).foldl add initial := by
  induction items using List.reverseRecOn generalizing b with
  | nil => simp [collect]
  | append_singleton items item ih =>
    rw [collect_concat, mem_modifyEntry_iff (nodup_keys_collect items), valuesOf_concat,
      List.map_append, List.mem_append, List.map_singleton, List.mem_singleton, mem_keys_collect]
    by_cases hkey : k = item.1
    · subst hkey
      simp only [ne_eq, not_true_eq_false, false_and, false_or, true_and, or_true, if_true,
        List.foldl_concat, ih]
      constructor
      · rintro (⟨b', ⟨-, rfl⟩, rfl⟩ | ⟨hnew, rfl⟩)
        · rfl
        · rw [valuesOf_eq_nil hnew]
          rfl
      · rintro rfl
        by_cases hold : item.1 ∈ items.map Prod.fst
        · exact .inl ⟨_, ⟨hold, rfl⟩, rfl⟩
        · refine .inr ⟨hold, ?_⟩
          rw [valuesOf_eq_nil hold]
          rfl
    · simp only [ne_eq, hkey, not_false_eq_true, true_and, false_and, or_false, if_neg (Ne.symm hkey),
        List.append_nil, ih]

end Items
