import Mathlib.Algebra.Order.BigOperators.Group.List
import Mathlib.Data.List.Induction
import Mathlib.Order.Bounds.Basic

/-!
# Sweeping over a timeline

A timeline is a list of changes, each with its instant. A sweep adds them up from left to right and
remembers the highest level it has seen. Of one instant, the rises come before the falls
(`Swept`); then the sweep finds the highest level of any instant, where the level of an instant
counts what rises up to it and what falls before it (`isGreatest_sweep`).
-/

universe u v

/-- A predicate that holds to the left of wherever it holds cuts the list in two. -/
theorem List.Pairwise.eq_filter_append {α : Type u} {R : α → α → Prop} {p : α → Bool} {xs : List α}
    (h : xs.Pairwise R) (hp : ∀ x y, R x y → p y = true → p x = true) :
    xs = xs.filter p ++ xs.filter fun x => !p x := by
  induction h with
  | nil => rfl
  | @cons x xs hx _ ih =>
    by_cases hpx : p x = true
    · rw [List.filter_cons_of_pos hpx, List.filter_cons_of_neg (by rw [hpx]; decide),
        List.cons_append, ← ih]
    · -- behind an element without it, nothing has it
      have hnone : xs.filter p = [] := by
        refine List.filter_eq_nil_iff.mpr fun y hy hpy => hpx ?_
        exact hp x y (hx y hy) hpy
      rw [hnone, List.nil_append] at ih
      rw [List.filter_cons_of_neg hpx, hnone, List.nil_append,
        List.filter_cons_of_pos (by simpa using hpx), ← ih]

section Sweep

variable {κ : Type u} [LinearOrder κ] {M : Type v} [AddCommGroup M] [LinearOrder M]

/-- One change: the level, and the highest level so far. -/
def sweepStep (state : M × M) (item : κ × M) : M × M :=
  (state.1 + item.2, max state.2 (state.1 + item.2))

/-- By instant, and of one instant the higher change first. -/
def Swept (items : List (κ × M)) : Prop :=
  items.Pairwise fun item item' => item.1 < item'.1 ∨ item.1 = item'.1 ∧ item'.2 ≤ item.2

/-- The rises up to an instant and the falls before it. -/
def countsAt (t : κ) (item : κ × M) : Bool :=
  decide (item.1 < t ∨ item.1 = t ∧ 0 < item.2)

theorem countsAt_iff {t : κ} {item : κ × M} :
    countsAt t item = true ↔ item.1 < t ∨ item.1 = t ∧ 0 < item.2 :=
  decide_eq_true_iff

def total (items : List (κ × M)) : M :=
  (items.map Prod.snd).sum

def levelAt (items : List (κ × M)) (t : κ) : M :=
  total (items.filter (countsAt t))

omit [LinearOrder κ] [LinearOrder M] in
theorem total_append (items items' : List (κ × M)) :
    total (items ++ items') = total items + total items' := by
  rw [total, List.map_append, List.sum_append]
  rfl

omit [LinearOrder κ] [LinearOrder M] in
theorem total_perm {items items' : List (κ × M)} (h : items.Perm items') :
    total items = total items' :=
  (h.map _).sum_eq

theorem levelAt_perm {items items' : List (κ × M)} (h : items.Perm items') (t : κ) :
    levelAt items t = levelAt items' t :=
  total_perm (h.filter _)

theorem levelAt_append (items items' : List (κ × M)) (t : κ) :
    levelAt (items ++ items') t = levelAt items t + levelAt items' t := by
  rw [levelAt, List.filter_append, total_append]
  rfl

theorem levelAt_singleton (item : κ × M) (t : κ) :
    levelAt [item] t = if countsAt t item = true then item.2 else 0 := by
  by_cases hcounts : countsAt t item = true
  · rw [levelAt, List.filter_cons_of_pos hcounts, if_pos hcounts]
    exact List.sum_singleton
  · rw [levelAt, List.filter_cons_of_neg hcounts, if_neg hcounts]
    rfl

/-! ### The sweep sees every prefix -/

omit [LinearOrder κ] in
theorem sweep_le_peak (items : List (κ × M)) (state : M × M) :
    state.2 ≤ (items.foldl sweepStep state).2 := by
  induction items generalizing state with
  | nil => exact le_rfl
  | cons item items ih => exact (le_max_left _ _).trans (ih (sweepStep state item))

omit [LinearOrder κ] in
/-- The peak is at least the level after any prefix. -/
theorem total_take_le_sweep (front back : List (κ × M)) {state : M × M} (hstate : state.1 ≤ state.2) :
    state.1 + total front ≤ ((front ++ back).foldl sweepStep state).2 := by
  induction front generalizing state with
  | nil =>
    have h := hstate.trans (sweep_le_peak back state)
    rwa [total, List.map_nil, List.sum_nil, add_zero]
  | cons item front ih =>
    have h := @ih (sweepStep state item) (le_max_right _ _)
    calc state.1 + total (item :: front)
        = state.1 + item.2 + total front := by
          rw [total, List.map_cons, List.sum_cons, add_assoc]
          rfl
      _ ≤ ((front ++ back).foldl sweepStep (sweepStep state item)).2 := h

omit [LinearOrder κ] in
/-- The peak has been there before, or it is the level after some prefix. -/
theorem sweep_eq_total_take (items : List (κ × M)) (state : M × M) :
    (items.foldl sweepStep state).2 = state.2 ∨
      ∃ front back, items = front ++ back ∧
        (items.foldl sweepStep state).2 = state.1 + total front := by
  induction items generalizing state with
  | nil => exact .inl rfl
  | cons item items ih =>
    have hlevel : state.1 + item.2 = state.1 + total [item] := by
      rw [total, List.map_singleton, List.sum_singleton]
    rcases ih (sweepStep state item) with hpeak | ⟨front, back, hitems, hpeak⟩
    · rcases max_choice state.2 (state.1 + item.2) with hmax | hmax
      · exact .inl (hpeak.trans hmax)
      · exact .inr ⟨[item], items, rfl, hpeak.trans (hmax.trans hlevel)⟩
    · refine .inr ⟨item :: front, back, congrArg _ hitems, hpeak.trans ?_⟩
      rw [← List.singleton_append, total_append, ← add_assoc, ← hlevel]
      rfl

/-! ### The level of an instant -/

section Swept

variable {items : List (κ × M)}

theorem countsAt_of_before {t : κ} {item item' : κ × M}
    (h : item.1 < item'.1 ∨ item.1 = item'.1 ∧ item'.2 ≤ item.2) (h' : countsAt t item' = true) :
    countsAt t item = true := by
  rw [countsAt_iff] at h' ⊢
  rcases h with hlt | ⟨heq, hle⟩
  · exact .inl (h'.elim hlt.trans fun hat => hat.1 ▸ hlt)
  · exact h'.imp (heq.trans_lt ·) fun hat => ⟨heq.trans hat.1, hat.2.trans_le hle⟩

/-- No instant is above the peak. -/
theorem Swept.levelAt_le (h : Swept items) (t : κ) : levelAt items t ≤ (items.foldl sweepStep 0).2 := by
  have hcut : items = items.filter (countsAt t) ++ items.filter fun item => !countsAt t item :=
    List.Pairwise.eq_filter_append h fun _ _ => countsAt_of_before
  have hle := total_take_le_sweep (items.filter (countsAt t))
    (items.filter fun item => !countsAt t item) (le_refl (0 : M × M).1)
  rw [← hcut, Prod.fst_zero, zero_add] at hle
  exact hle

variable [IsOrderedAddMonoid M]

/-- After a rise, the level is at most that of its instant: only more rises are to come there. -/
theorem Swept.total_le_levelAt {front back : List (κ × M)} {item : κ × M}
    (h : Swept (front ++ item :: back)) (hrise : 0 < item.2) :
    total (front ++ [item]) ≤ levelAt (front ++ item :: back) item.1 := by
  obtain ⟨-, hback, hfront⟩ := List.pairwise_append.mp h
  have hitem : countsAt item.1 item = true := countsAt_iff.mpr (.inr ⟨rfl, hrise⟩)
  have hall : (front ++ [item]).filter (countsAt item.1) = front ++ [item] := by
    refine List.filter_eq_self.mpr fun item' hitem' => ?_
    rcases List.mem_append.mp hitem' with hmem | hmem
    · exact countsAt_of_before (hfront item' hmem item List.mem_cons_self) hitem
    · exact List.mem_singleton.mp hmem ▸ hitem
  have hrest : 0 ≤ levelAt back item.1 := by
    refine List.sum_nonneg fun delta hdelta => ?_
    obtain ⟨item', hitem', rfl⟩ := List.mem_map.mp hdelta
    obtain ⟨hmem, hcounts⟩ := List.mem_filter.mp hitem'
    -- nothing behind the item is earlier
    rcases countsAt_iff.mp hcounts with hlt | hat
    · rcases List.rel_of_pairwise_cons hback hmem with hgt | heq
      · exact absurd hlt hgt.not_gt
      · exact absurd heq.1 hlt.ne'
    · exact hat.2.le
  have hlevel : levelAt (front ++ [item]) item.1 = total (front ++ [item]) := congrArg total hall
  calc total (front ++ [item])
      ≤ total (front ++ [item]) + levelAt back item.1 := le_add_of_nonneg_right hrest
    _ = levelAt (front ++ [item]) item.1 + levelAt back item.1 := by rw [hlevel]
    _ = levelAt (front ++ item :: back) item.1 := by
        rw [← levelAt_append, List.append_assoc, List.singleton_append]

/-- The level after any prefix is that of some instant at most, unless nothing has risen yet. -/
theorem Swept.total_take_le {front back : List (κ × M)} (h : Swept (front ++ back)) :
    total front ≤ 0 ∨ ∃ t, total front ≤ levelAt (front ++ back) t := by
  induction front using List.reverseRecOn generalizing back with
  | nil => exact .inl le_rfl
  | append_singleton front item ih =>
    rw [List.append_assoc, List.singleton_append] at h ⊢
    rcases lt_or_ge 0 item.2 with hrise | hfall
    · exact .inr ⟨item.1, h.total_le_levelAt hrise⟩
    · -- a fall only leads away from the levels before
      have hle : total (front ++ [item]) ≤ total front := by
        rw [total_append]
        refine add_le_of_nonpos_right ?_
        rwa [total, List.map_singleton, List.sum_singleton]
      rcases ih h with hzero | ⟨t, ht⟩
      · exact .inl (hle.trans hzero)
      · exact .inr ⟨t, hle.trans ht⟩

/-- **The peak of a sweep.** -/
theorem isGreatest_sweep (h : Swept items) :
    IsGreatest (insert 0 (Set.range (levelAt items))) (items.foldl sweepStep 0).2 := by
  have hnonneg : 0 ≤ (items.foldl sweepStep (0 : M × M)).2 := sweep_le_peak items 0
  refine ⟨?_, ?_⟩
  · rcases sweep_eq_total_take items (0 : M × M) with hzero | ⟨front, back, rfl, hpeak⟩
    · exact .inl hzero
    · rw [Prod.fst_zero, zero_add] at hpeak
      rcases h.total_take_le with hle | ⟨t, ht⟩
      · exact .inl (le_antisymm (hpeak ▸ hle) hnonneg)
      · exact .inr ⟨t, le_antisymm (h.levelAt_le t) (hpeak ▸ ht)⟩
  · rintro level (rfl | ⟨t, rfl⟩)
    · exact hnonneg
    · exact h.levelAt_le t

end Swept

end Sweep
