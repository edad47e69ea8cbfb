import Mathlib.Data.List.Basic
import Mathlib.Data.List.Infix
import Mathlib.Algebra.BigOperators.Group.List.Basic
import Mathlib.Algebra.GroupWithZero.Nat

/-!
# Regions of a linear store

Two facts of linear memory, over an arbitrary element type.

* **Overwriting.** `overwrite arena off data` replaces the cells `[off, off + data.length)` of
  `arena`, `slice arena off n` reads `n` cells from `off`. A slice at the written place reads the
  data back (`slice_overwrite_self`), a slice off it is untouched (`slice_overwrite_disjoint`).
* **Tilings.** `Tiles start len l a b` says that the items of `l`, taken in order, cover `[a, b)`
  with no gap and no overlap. Tilings compose (`Tiles.append`), bound their items
  (`Tiles.start_le`, `Tiles.end_le`), add up to the length of the interval (`Tiles.sum_len`) and
  are disjoint (`Tiles.pairwise`).

The last section is the rule for a queue whose *front* is evicted to free a region
(`Tiles.dropWhile_overlap`): what remains is again a tiling, it starts at or after the end of the
freed region, and the waste, the part of the last evicted item that sticks out of the region, is
less than one item.
-/

namespace Region

/-! ### Overwriting -/

section Overwrite

variable {α : Type*}

/-- The cells of `arena` with `[off, off + data.length)` replaced by `data`. -/
def overwrite (arena : List α) (off : ℕ) (data : List α) : List α :=
  arena.take off ++ data ++ arena.drop (off + data.length)

/-- The `n` cells of `arena` from `off` on. -/
def slice (arena : List α) (off n : ℕ) : List α :=
  (arena.drop off).take n

theorem length_overwrite {arena : List α} {off : ℕ} {data : List α}
    (h : off + data.length ≤ arena.length) :
    (overwrite arena off data).length = arena.length := by
  unfold overwrite
  simp only [List.length_append, List.length_take, List.length_drop]
  omega

/-- The cell at `i` after an overwrite: inside the region it is the data's cell, outside it is
the old one. -/
theorem getElem?_overwrite {arena : List α} {off : ℕ} {data : List α}
    (h : off + data.length ≤ arena.length) (i : ℕ) :
    (overwrite arena off data)[i]? =
      if off ≤ i ∧ i < off + data.length then data[i - off]? else arena[i]? := by
  unfold overwrite
  have htake : (arena.take off).length = off := by
    rw [List.length_take]; omega
  by_cases h1 : i < off
  · -- before the region
    rw [List.append_assoc, List.getElem?_append_left (by omega), List.getElem?_take_of_lt h1,
      if_neg (by omega)]
  · by_cases h2 : i < off + data.length
    · -- inside it
      rw [List.append_assoc, List.getElem?_append_right (by omega), htake,
        List.getElem?_append_left (by omega), if_pos ⟨by omega, h2⟩]
    · -- after it
      rw [List.getElem?_append_right (by rw [List.length_append, htake]; omega),
        List.length_append, htake, List.getElem?_drop, if_neg (by omega)]
      congr 1
      omega

theorem getElem?_slice (arena : List α) (off n i : ℕ) :
    (slice arena off n)[i]? = if i < n then arena[off + i]? else none := by
  unfold slice
  by_cases h : i < n
  · rw [List.getElem?_take_of_lt h, List.getElem?_drop, if_pos h]
  · rw [List.getElem?_eq_none, if_neg h]
    rw [List.length_take]
    omega

/-- What was written is read back. -/
theorem slice_overwrite_self {arena : List α} {off : ℕ} {data : List α}
    (h : off + data.length ≤ arena.length) :
    slice (overwrite arena off data) off data.length = data := by
  apply List.ext_getElem?
  intro i
  rw [getElem?_slice, getElem?_overwrite h]
  by_cases hi : i < data.length
  · rw [if_pos hi, if_pos ⟨by omega, by omega⟩]
    congr 1
    omega
  · rw [if_neg hi, List.getElem?_eq_none (by omega)]

/-- A slice that shares no cell with the written region is unchanged. -/
theorem slice_overwrite_disjoint {arena : List α} {off : ℕ} {data : List α} {o n : ℕ}
    (h : off + data.length ≤ arena.length)
    (hdis : o + n ≤ off ∨ off + data.length ≤ o) :
    slice (overwrite arena off data) o n = slice arena o n := by
  apply List.ext_getElem?
  intro i
  rw [getElem?_slice, getElem?_slice]
  by_cases hi : i < n
  · rw [if_pos hi, if_pos hi, getElem?_overwrite h, if_neg (by omega)]
  · rw [if_neg hi, if_neg hi]

end Overwrite

/-! ### Tilings -/

section Tiling

variable {α : Type*} {start len : α → ℕ}

/-- The items of the list, in order, cover `[a, b)` with no gap, and none is empty. -/
def Tiles (start len : α → ℕ) : List α → ℕ → ℕ → Prop
  | [], a, b => a = b
  | x :: l, a, b => start x = a ∧ 0 < len x ∧ Tiles start len l (a + len x) b

@[simp] theorem tiles_nil {a b : ℕ} : Tiles start len [] a b ↔ a = b := Iff.rfl

@[simp] theorem tiles_cons {x : α} {l : List α} {a b : ℕ} :
    Tiles start len (x :: l) a b ↔
      start x = a ∧ 0 < len x ∧ Tiles start len l (a + len x) b := Iff.rfl

theorem Tiles.sum_len {l : List α} {a b : ℕ} (h : Tiles start len l a b) :
    a + (l.map len).sum = b := by
  induction l generalizing a with
  | nil => simpa using h
  | cons x l ih =>
    obtain ⟨-, -, hl⟩ := h
    calc a + ((x :: l).map len).sum
        = a + len x + (l.map len).sum := by rw [List.map_cons, List.sum_cons, add_assoc]
      _ = b := ih hl

theorem Tiles.le {l : List α} {a b : ℕ} (h : Tiles start len l a b) : a ≤ b :=
  calc a ≤ a + (l.map len).sum := Nat.le_add_right _ _
    _ = b := h.sum_len

theorem Tiles.append {l m : List α} {a b c : ℕ} (h : Tiles start len l a b)
    (h' : Tiles start len m b c) : Tiles start len (l ++ m) a c := by
  induction l generalizing a with
  | nil =>
    obtain rfl : a = b := h
    exact h'
  | cons x l ih =>
    obtain ⟨hs, hp, hl⟩ := h
    exact ⟨hs, hp, ih hl⟩

theorem Tiles.start_le {l : List α} {a b : ℕ} (h : Tiles start len l a b) {x : α} (hx : x ∈ l) :
    a ≤ start x := by
  induction l generalizing a with
  | nil => cases hx
  | cons y l ih =>
    obtain ⟨hs, -, hl⟩ := h
    rcases List.mem_cons.mp hx with rfl | hx
    · exact hs.ge
    · calc a ≤ a + len y := Nat.le_add_right _ _
        _ ≤ start x := ih hl hx

theorem Tiles.end_le {l : List α} {a b : ℕ} (h : Tiles start len l a b) {x : α} (hx : x ∈ l) :
    start x + len x ≤ b := by
  induction l generalizing a with
  | nil => cases hx
  | cons y l ih =>
    obtain ⟨hs, -, hl⟩ := h
    rcases List.mem_cons.mp hx with rfl | hx
    · calc start x + len x = a + len x := by rw [hs]
        _ ≤ b := hl.le
    · exact ih hl hx

theorem Tiles.len_pos {l : List α} {a b : ℕ} (h : Tiles start len l a b) {x : α} (hx : x ∈ l) :
    0 < len x := by
  induction l generalizing a with
  | nil => cases hx
  | cons y l ih =>
    obtain ⟨-, hp, hl⟩ := h
    rcases List.mem_cons.mp hx with rfl | hx
    · exact hp
    · exact ih hl hx

/-- An earlier item of a tiling ends before a later one starts. -/
theorem Tiles.pairwise {l : List α} {a b : ℕ} (h : Tiles start len l a b) :
    l.Pairwise (fun x y => start x + len x ≤ start y) := by
  induction l generalizing a with
  | nil => exact List.Pairwise.nil
  | cons x l ih =>
    obtain ⟨hs, -, hl⟩ := h
    refine List.Pairwise.cons ?_ (ih hl)
    intro y hy
    calc start x + len x = a + len x := by rw [hs]
      _ ≤ start y := hl.start_le hy

/-! ### Evicting from the front -/

/-- `x` shares a cell with `[lo, hi)`. -/
def Overlaps (start len : α → ℕ) (lo hi : ℕ) (x : α) : Prop :=
  start x < hi ∧ lo < start x + len x

instance (lo hi : ℕ) : DecidablePred (Overlaps start len lo hi) :=
  fun _ => inferInstanceAs (Decidable (_ ∧ _))

/-- **Front eviction.** A tiling of `[a, b)` whose front is dropped as long as it overlaps
`[lo, hi)`, where `lo ≤ a`, is a tiling of some `[c, b)`: either nothing is left, or `c` is past
the region. The eviction wastes less than the length of one item. -/
theorem Tiles.dropWhile_overlap {l : List α} {a b lo : ℕ} (h : Tiles start len l a b)
    (hi : ℕ) (hlo : lo ≤ a) {M : ℕ} (hM : ∀ x ∈ l, len x ≤ M) :
    ∃ c, Tiles start len (l.dropWhile (fun x => decide (Overlaps start len lo hi x))) c b ∧
      (l.dropWhile (fun x => decide (Overlaps start len lo hi x)) = [] ∨ hi ≤ c) ∧
      (l.dropWhile (fun x => decide (Overlaps start len lo hi x)) = l ∧ c = a ∨ c < hi + M) := by
  -- the front `a` moves up with every evicted item and stays at or above `lo`
  induction l generalizing a with
  | nil => exact ⟨a, h, Or.inl rfl, Or.inl ⟨rfl, rfl⟩⟩
  | cons x l ih =>
    obtain ⟨hs, hp, hl⟩ := h
    by_cases hx : Overlaps start len lo hi x
    · -- `x` is evicted: go on with the rest
      have hxM := hM x List.mem_cons_self
      obtain ⟨c, hc, hend, hwaste⟩ :=
        ih hl (by omega) (fun y hy => hM y (List.mem_cons_of_mem _ hy))
      rw [List.dropWhile_cons_of_pos (by simpa using hx)]
      refine ⟨c, hc, hend, Or.inr ?_⟩
      rcases hwaste with ⟨-, rfl⟩ | hlt
      · -- `x` is the last one evicted, and it starts inside the region
        have := hx.1
        omega
      · exact hlt
    · -- `x` stays, and so does everything behind it
      rw [List.dropWhile_cons_of_neg (by simpa using hx)]
      refine ⟨a, ⟨hs, hp, hl⟩, Or.inr ?_, Or.inl ⟨rfl, rfl⟩⟩
      unfold Overlaps at hx
      omega

end Tiling

end Region
