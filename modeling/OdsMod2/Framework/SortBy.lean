import Mathlib.Data.List.Sort

/-!
# Stable sorting by a key

`sortBy key` is the sort of most standard libraries: by a key, and stable. What lies on the two
sides of a cut through the keys is sorted independently (`sortBy_eq_append`), which also settles
where elements of equal keys go: they are on the same side.
-/

universe u v

variable {α : Type u} {κ : Type v} [LinearOrder κ]

/-- `x` may stand before `y`. -/
abbrev ByKey (key : α → κ) (x y : α) : Prop :=
  key x ≤ key y

/-- The list in the order of the keys; elements of one key keep their order. -/
def sortBy (key : α → κ) (xs : List α) : List α :=
  xs.insertionSort (ByKey key)

section SortBy

variable {key : α → κ}

@[simp] theorem sortBy_nil : sortBy key ([] : List α) = [] := rfl

theorem sortBy_cons (x : α) (xs : List α) :
    sortBy key (x :: xs) = (sortBy key xs).orderedInsert (ByKey key) x := rfl

theorem sortBy_perm (key : α → κ) (xs : List α) : (sortBy key xs).Perm xs :=
  List.perm_insertionSort _ xs

@[simp] theorem mem_sortBy {x : α} {xs : List α} : x ∈ sortBy key xs ↔ x ∈ xs :=
  (sortBy_perm key xs).mem_iff

@[simp] theorem length_sortBy (xs : List α) : (sortBy key xs).length = xs.length :=
  (sortBy_perm key xs).length_eq

/-- An element that belongs to the front is inserted there. -/
theorem orderedInsert_append_left {x : α} {front back : List α} (h : ∀ y ∈ back, key x ≤ key y) :
    (front ++ back).orderedInsert (ByKey key) x =
      front.orderedInsert (ByKey key) x ++ back := by
  induction front with
  | nil =>
    cases back with
    | nil => rfl
    | cons y back => exact List.orderedInsert_cons_of_le (ByKey key) back (h y List.mem_cons_self)
  | cons y front ih =>
    by_cases hle : key x ≤ key y
    · rw [List.cons_append, List.orderedInsert_cons_of_le (ByKey key) _ hle,
        List.orderedInsert_cons_of_le (ByKey key) _ hle]
      rfl
    · rw [List.cons_append, List.orderedInsert_of_not_le (ByKey key) _ hle,
        List.orderedInsert_of_not_le (ByKey key) _ hle, ih]
      rfl

/-- An element that belongs behind the front is inserted there. -/
theorem orderedInsert_append_right {x : α} {front back : List α} (h : ∀ y ∈ front, key y < key x) :
    (front ++ back).orderedInsert (ByKey key) x =
      front ++ back.orderedInsert (ByKey key) x := by
  induction front with
  | nil => rfl
  | cons y front ih =>
    obtain ⟨hy, hfront⟩ := List.forall_mem_cons.mp h
    rw [List.cons_append, List.orderedInsert_of_not_le (ByKey key) _ (not_le.mpr hy), ih hfront]
    rfl

/-- **A cut through the keys.** -/
theorem sortBy_eq_append {p : α → Bool} {xs : List α}
    (h : ∀ x ∈ xs, ∀ y ∈ xs, p x = true → p y = false → key x < key y) :
    sortBy key xs = sortBy key (xs.filter p) ++ sortBy key (xs.filter fun x => !p x) := by
  induction xs with
  | nil => rfl
  | cons x xs ih =>
    have hrest := ih fun y hy z hz =>
      h y (List.mem_cons_of_mem _ hy) z (List.mem_cons_of_mem _ hz)
    rw [sortBy_cons, hrest]
    cases hx : p x with
    | true =>
      rw [List.filter_cons_of_pos hx, List.filter_cons_of_neg (by rw [hx]; decide), sortBy_cons]
      refine orderedInsert_append_left fun y hy => ?_
      obtain ⟨hmem, hy⟩ := List.mem_filter.mp (mem_sortBy.mp hy)
      exact (h x List.mem_cons_self y (List.mem_cons_of_mem _ hmem) hx
        (Bool.not_eq_true' _ ▸ hy)).le
    | false =>
      rw [List.filter_cons_of_neg (by rw [hx]; decide), List.filter_cons_of_pos (by rw [hx]; rfl),
        sortBy_cons]
      refine orderedInsert_append_right fun y hy => ?_
      obtain ⟨hmem, hy⟩ := List.mem_filter.mp (mem_sortBy.mp hy)
      exact h y (List.mem_cons_of_mem _ hmem) x List.mem_cons_self hy hx

/-- Sorting two lists that come one after the other. -/
theorem sortBy_append {xs ys : List α} (h : ∀ x ∈ xs, ∀ y ∈ ys, key x < key y) :
    sortBy key (xs ++ ys) = sortBy key xs ++ sortBy key ys := by
  induction xs with
  | nil => rfl
  | cons x xs ih =>
    obtain ⟨hx, hxs⟩ := List.forall_mem_cons.mp h
    rw [List.cons_append, sortBy_cons, ih hxs, sortBy_cons]
    exact orderedInsert_append_left fun y hy => (hx y (mem_sortBy.mp hy)).le

/-- An insertion next to elements that it may stand before, and behind those of smaller keys. -/
theorem pairwise_orderedInsert {S : α → α → Prop} {x : α} {xs : List α}
    (hxs : xs.Pairwise fun y z => key y < key z ∨ key y = key z ∧ S y z) (h : ∀ y ∈ xs, S x y) :
    (xs.orderedInsert (ByKey key) x).Pairwise fun y z => key y < key z ∨ key y = key z ∧ S y z := by
  induction xs with
  | nil => exact List.pairwise_singleton _ _
  | cons y xs ih =>
    obtain ⟨hy, hxs⟩ := List.pairwise_cons.mp hxs
    obtain ⟨hxy, hrest⟩ := List.forall_mem_cons.mp h
    by_cases hle : key x ≤ key y
    · rw [List.orderedInsert_cons_of_le (ByKey key) _ hle]
      refine List.pairwise_cons.mpr ⟨fun z hz => ?_, List.pairwise_cons.mpr ⟨hy, hxs⟩⟩
      have hyz : key y ≤ key z := by
        rcases List.mem_cons.mp hz with rfl | hz
        · exact le_rfl
        · exact (hy z hz).elim le_of_lt fun heq => heq.1.le
      exact (hle.trans hyz).lt_or_eq.imp_right fun heq => ⟨heq, h z hz⟩
    · rw [List.orderedInsert_of_not_le (ByKey key) _ hle]
      refine List.pairwise_cons.mpr ⟨fun z hz => ?_, ih hxs hrest⟩
      rcases (List.mem_orderedInsert (ByKey key)).mp hz with rfl | hz
      · exact .inl (not_le.mp hle)
      · exact hy z hz

/-- **Stability.** What held of the elements from left to right still holds within a key. -/
theorem pairwise_sortBy {S : α → α → Prop} {xs : List α} (h : xs.Pairwise S) :
    (sortBy key xs).Pairwise fun x y => key x < key y ∨ key x = key y ∧ S x y := by
  induction h with
  | nil => exact .nil
  | cons hx _ ih => exact pairwise_orderedInsert ih fun y hy => hx y (mem_sortBy.mp hy)

theorem sorted_sortBy (xs : List α) : (sortBy key xs).Pairwise fun x y => key x ≤ key y :=
  List.pairwise_insertionSort (ByKey key) xs

/-- Where no two elements have the same key, the order they come in makes no difference. -/
theorem sortBy_eq_of_perm (hkey : Function.Injective key) {xs ys : List α} (h : xs.Perm ys) :
    sortBy key xs = sortBy key ys := by
  have hperm : (sortBy key xs).Perm (sortBy key ys) :=
    (sortBy_perm key xs).trans (h.trans (sortBy_perm key ys).symm)
  exact hperm.eq_of_pairwise (fun x y _ _ hxy hyx => hkey (le_antisymm hxy hyx))
    (sorted_sortBy xs) (sorted_sortBy ys)

/-- The elements of one key stand as they did. -/
theorem filter_sortBy [DecidableEq κ] (k : κ) (xs : List α) :
    (sortBy key xs).filter (fun x => decide (key x = k)) =
      xs.filter fun x => decide (key x = k) := by
  have hclass : (xs.filter fun x => decide (key x = k)).Pairwise (ByKey key) := by
    refine List.pairwise_of_forall_mem_list fun x hx y hy => ?_
    have hxk := of_decide_eq_true (List.mem_filter.mp hx).2
    have hyk := of_decide_eq_true (List.mem_filter.mp hy).2
    exact (hxk.trans hyk.symm).le
  -- a part that is in order is not pulled apart, and there are no more of the key
  have hkept := (List.sublist_insertionSort hclass List.filter_sublist).filter
    fun x => decide (key x = k)
  rw [List.filter_filter] at hkept
  simp only [Bool.and_self] at hkept
  exact (hkept.eq_of_length (((sortBy_perm key xs).filter _).length_eq).symm).symm

end SortBy

section Related

variable {β : Type u} {R : α → β → Prop} {key : α → κ} {key' : β → κ}

theorem forall₂_orderedInsert (hkey : ∀ x y, R x y → key x = key' y) {x : α} {y : β} (hxy : R x y)
    {xs : List α} {ys : List β} (h : List.Forall₂ R xs ys) :
    List.Forall₂ R (xs.orderedInsert (ByKey key) x) (ys.orderedInsert (ByKey key') y) := by
  induction h with
  | nil => exact .cons hxy .nil
  | @cons x' y' xs ys hhead htail ih =>
    by_cases hle : key x ≤ key x'
    · have hle' : key' y ≤ key' y' := hkey x y hxy ▸ hkey x' y' hhead ▸ hle
      rw [List.orderedInsert_cons_of_le (ByKey key) _ hle,
        List.orderedInsert_cons_of_le (ByKey key') _ hle']
      exact .cons hxy (.cons hhead htail)
    · have hle' : ¬ key' y ≤ key' y' := hkey x y hxy ▸ hkey x' y' hhead ▸ hle
      rw [List.orderedInsert_of_not_le (ByKey key) _ hle,
        List.orderedInsert_of_not_le (ByKey key') _ hle']
      exact .cons hhead ih

/-- Lists related element by element, keys included, are sorted alike. -/
theorem forall₂_sortBy (hkey : ∀ x y, R x y → key x = key' y) {xs : List α} {ys : List β}
    (h : List.Forall₂ R xs ys) : List.Forall₂ R (sortBy key xs) (sortBy key' ys) := by
  induction h with
  | nil => exact .nil
  | cons hxy _ ih => exact forall₂_orderedInsert hkey hxy ih

end Related
