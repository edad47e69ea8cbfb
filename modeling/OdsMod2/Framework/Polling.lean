import Mathlib.Order.Monotone.Basic

/-!
# Waiting for readings that stand still

A loop reads something again and again, and waits until it is ready and has stood still for a number
of rounds. It keeps the last reading that was ready and a counter, which goes up with every ready
reading that shows the same and starts over with one that does not. Readings that are not ready are
passed over, and leave the counter as it is.

Nothing is lost by that if what is read only ever moves forward (`Steady`). Then the counter says how
many of the rounds before have shown the same (`Steady.le_stable_iff`), passed over or not.

The loop ends with the first round that is done, unless it is broken off before (`DoneFrom`).
-/

universe u v

namespace Polling

variable {R : Type u} {K : Type v}

structure Watch (K : Type v) where
  previous : K
  stable : ℕ

section Loop

variable [DecidableEq K] (ready : R → Bool) (key : R → K)

/-- One round. -/
def look (watch : Watch K) (reading : R) : Watch K :=
  if ready reading then
    { previous := key reading
      stable := if key reading = watch.previous then watch.stable + 1 else 0 }
  else watch

/-- In front of each round, without an end. -/
def watching (initial : K) (reading : ℕ → R) : ℕ → Watch K
  | 0 => ⟨initial, 0⟩
  | n + 1 => look ready key (watching initial reading n) (reading n)

end Loop

/-- What is read only moves forward, and two readings on one rank are the same to the loop. -/
structure Steady (ready : R → Bool) (key : R → K) (rank : K → ℕ) (initial : K) (reading : ℕ → R) :
    Prop where
  mono : Monotone fun n => rank (key (reading n))
  same : ∀ m n, rank (key (reading m)) = rank (key (reading n)) →
    key (reading m) = key (reading n) ∧ ready (reading m) = ready (reading n)
  initial_lt : ∀ n, ready (reading n) = true → rank initial < rank (key (reading n))

variable {ready : R → Bool} {key : R → K} {rank : K → ℕ} {initial : K} {reading : ℕ → R}

/-- Between two readings that show the same nothing else is read. -/
theorem Steady.between (h : Steady ready key rank initial reading) {l m n : ℕ} (hlm : l ≤ m)
    (hmn : m ≤ n) (hsame : key (reading l) = key (reading n)) : key (reading m) = key (reading n) := by
  refine (h.same m n (le_antisymm (h.mono hmn) ?_)).1
  calc rank (key (reading n)) = rank (key (reading l)) := by rw [hsame]
    _ ≤ rank (key (reading m)) := h.mono hlm

variable [DecidableEq K]

theorem watching_ready {n : ℕ} (h : ready (reading n) = true) :
    watching ready key initial reading (n + 1) =
      { previous := key (reading n)
        stable := if key (reading n) = (watching ready key initial reading n).previous then
          (watching ready key initial reading n).stable + 1 else 0 } :=
  if_pos h

theorem watching_unready {n : ℕ} (h : ready (reading n) = false) :
    watching ready key initial reading (n + 1) = watching ready key initial reading n :=
  if_neg (by rw [h]; exact Bool.false_ne_true)

/-- What has been kept is an earlier reading, if anything has. -/
theorem watching_previous (ready : R → Bool) (key : R → K) (initial : K) (reading : ℕ → R) (n : ℕ) :
    (watching ready key initial reading n).previous = initial ∨
      ∃ m < n, (watching ready key initial reading n).previous = key (reading m) := by
  induction n with
  | zero => exact .inl rfl
  | succ n ih =>
    cases hready : ready (reading n) with
    | true =>
      rw [watching_ready hready]
      exact .inr ⟨n, Nat.lt_succ_self n, rfl⟩
    | false =>
      rw [watching_unready hready]
      exact ih.imp_right fun ⟨m, hm, hkept⟩ => ⟨m, hm.trans (Nat.lt_succ_self n), hkept⟩

namespace Steady

/-- A ready reading shows what has been kept exactly if the round before was ready and showed it. -/
theorem eq_previous_iff (h : Steady ready key rank initial reading) {n : ℕ}
    (hready : ready (reading (n + 1)) = true) :
    key (reading (n + 1)) = (watching ready key initial reading (n + 1)).previous ↔
      key (reading n) = key (reading (n + 1)) := by
  constructor
  · intro hkept
    rcases watching_previous ready key initial reading (n + 1) with hnone | ⟨m, hm, hprevious⟩
    · -- nothing has been kept
      have hlt := h.initial_lt (n + 1) hready
      rw [hkept, hnone] at hlt
      exact absurd hlt (lt_irrefl _)
    · exact h.between (Nat.le_of_lt_succ hm) (Nat.le_succ n) (hkept.trans hprevious).symm
  · intro hsame
    have hbefore : ready (reading n) = true := by
      rw [(h.same n (n + 1) (congrArg rank hsame)).2, hready]
    rw [watching_ready hbefore]
    exact hsame.symm

/-- **The counter.** At a ready reading it counts the rounds before that have shown the same. -/
theorem le_stable_iff (h : Steady ready key rank initial reading) {n : ℕ}
    (hready : ready (reading n) = true) (needed : ℕ) :
    needed ≤ (watching ready key initial reading (n + 1)).stable ↔
      needed ≤ n ∧ key (reading (n - needed)) = key (reading n) := by
  induction n generalizing needed with
  | zero =>
    have hfirst : key (reading 0) ≠ initial := by
      intro hsame
      have hlt := h.initial_lt 0 hready
      rw [hsame] at hlt
      exact lt_irrefl _ hlt
    rw [watching_ready hready]
    show needed ≤ (if key (reading 0) = initial then _ else 0) ↔ _
    rw [if_neg hfirst, Nat.zero_sub, and_iff_left rfl]
  | succ n ih =>
    rw [watching_ready hready]
    dsimp only
    by_cases hsame : key (reading n) = key (reading (n + 1))
    · have hbefore : ready (reading n) = true := by
        rw [(h.same n (n + 1) (congrArg rank hsame)).2, hready]
      rw [if_pos ((h.eq_previous_iff hready).mpr hsame)]
      cases needed with
      | zero => exact iff_of_true (Nat.zero_le _) ⟨Nat.zero_le _, rfl⟩
      | succ needed =>
        rw [Nat.add_le_add_iff_right, Nat.add_le_add_iff_right, Nat.add_sub_add_right,
          ih hbefore needed, hsame]
    · rw [if_neg (mt (h.eq_previous_iff hready).mp hsame), Nat.le_zero]
      constructor
      · rintro rfl
        exact ⟨Nat.zero_le _, rfl⟩
      · rintro ⟨hle, hkept⟩
        by_contra hne
        -- what showed the same before did so in the round before as well
        exact hsame (h.between (by omega) (Nat.le_succ n) hkept)

end Steady

/-! ### The last round -/

/-- Of the rounds from `n` on, `k` is the first that is done, and the loop goes on up to it. -/
structure DoneFrom (goesOn isDone : ℕ → Prop) (n k : ℕ) : Prop where
  le : n ≤ k
  goes : ∀ m, n ≤ m → m ≤ k → goesOn m
  done : isDone k
  first : ∀ m, n ≤ m → m < k → ¬ isDone m

section Done

variable {goesOn isDone : ℕ → Prop} {n k : ℕ}

theorem doneFrom_zero_iff : DoneFrom goesOn isDone 0 k ↔
    (∀ m ≤ k, goesOn m) ∧ isDone k ∧ ∀ m < k, ¬ isDone m := by
  constructor
  · intro h
    exact ⟨fun m => h.goes m (Nat.zero_le m), h.done, fun m => h.first m (Nat.zero_le m)⟩
  · rintro ⟨hgoesOn, hdone, hfirst⟩
    exact ⟨Nat.zero_le k, fun m _ => hgoesOn m, hdone, fun m _ => hfirst m⟩

theorem not_doneFrom (hbroken : ¬ goesOn n) : ¬ DoneFrom goesOn isDone n k := by
  intro h
  exact hbroken (h.goes n le_rfl h.le)

theorem doneFrom_iff_eq (hgoesOn : goesOn n) (hdone : isDone n) :
    DoneFrom goesOn isDone n k ↔ k = n := by
  constructor
  · intro h
    by_contra hne
    -- `n` is done already
    exact h.first n le_rfl (lt_of_le_of_ne h.le (Ne.symm hne)) hdone
  · rintro rfl
    refine ⟨le_rfl, fun m hlow hhigh => ?_, hdone, fun m hlow hhigh => ?_⟩
    · rw [le_antisymm hhigh hlow]
      exact hgoesOn
    · exact absurd hhigh (not_lt.mpr hlow)

theorem doneFrom_iff_succ (hgoesOn : goesOn n) (hdone : ¬ isDone n) :
    DoneFrom goesOn isDone n k ↔ DoneFrom goesOn isDone (n + 1) k := by
  constructor
  · intro h
    -- the round `n` itself is not the one
    have hlt : n < k := by
      rcases h.le.eq_or_lt with rfl | hlt
      · exact absurd h.done hdone
      · exact hlt
    exact ⟨hlt, fun m hlow => h.goes m (Nat.le_of_succ_le hlow), h.done,
      fun m hlow => h.first m (Nat.le_of_succ_le hlow)⟩
  · intro h
    refine ⟨Nat.le_of_succ_le h.le, fun m hlow hhigh => ?_, h.done, fun m hlow hhigh => ?_⟩
    · rcases hlow.eq_or_lt with rfl | hlt
      · exact hgoesOn
      · exact h.goes m hlt hhigh
    · rcases hlow.eq_or_lt with rfl | hlt
      · exact hdone
      · exact h.first m hlt hhigh

end Done

end Polling
