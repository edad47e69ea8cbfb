import Mathlib.Data.List.Basic
import Mathlib.Data.List.Infix
import Mathlib.Data.List.TakeWhile

/-!
# Searching a text

`afterFirst pattern text` is what follows the first occurrence of the pattern. A pattern written
between two marks, such as a quoted word, can only occur between two consecutive marks of the text:
the search then goes from one marked piece to the next (`afterFirst_skip`, `afterFirst_marked`) and
never has to look inside a piece.
-/

namespace TextSearch

variable {α : Type*} [DecidableEq α] {mark : α} {skipped piece key text rest : List α}

/-- What follows the first occurrence of the pattern, if there is one. -/
def afterFirst (pattern : List α) : List α → Option (List α)
  | [] => if pattern = [] then some [] else none
  | c :: text =>
    if pattern <+: c :: text then some ((c :: text).drop pattern.length)
    else afterFirst pattern text

/-- What stands between the first two marks. -/
def between (mark : α) (text : List α) : Option (List α) := do
  let rest ← afterFirst [mark] text
  let _ ← afterFirst [mark] rest
  some (rest.takeWhile (· ≠ mark))

/-- The word between two marks. -/
def marked (mark : α) (key : List α) : List α :=
  mark :: (key ++ [mark])

/-! ### Passing over what cannot be the beginning -/

theorem afterFirst_skip {pattern : List α} (h : mark ∉ skipped) :
    afterFirst (mark :: pattern) (skipped ++ text) = afterFirst (mark :: pattern) text := by
  induction skipped with
  | nil => rfl
  | cons c skipped ih =>
    obtain ⟨hc, hskipped⟩ : mark ≠ c ∧ mark ∉ skipped := by simpa using h
    have hno : ¬ mark :: pattern <+: c :: (skipped ++ text) := by
      rw [List.cons_prefix_cons]
      exact fun h => hc h.1
    rw [List.cons_append, afterFirst, if_neg hno, ih hskipped]

theorem afterFirst_eq_none {pattern : List α} (h : mark ∉ text) :
    afterFirst (mark :: pattern) text = none := by
  have hskip : afterFirst (mark :: pattern) (text ++ []) = afterFirst (mark :: pattern) [] :=
    afterFirst_skip h
  rw [List.append_nil] at hskip
  rw [hskip]
  rfl

/-- A single mark is found at its first place. -/
theorem afterFirst_mark (h : mark ∉ skipped) :
    afterFirst [mark] (skipped ++ mark :: rest) = some rest := by
  rw [afterFirst_skip h, afterFirst, if_pos (by simp)]
  rfl

theorem ne_mark (h : mark ∉ piece) : ∀ c ∈ piece, decide (c ≠ mark) = true := by
  intro c hc
  simpa using ne_of_mem_of_not_mem hc h

/-- What stands before the first mark. -/
theorem takeWhile_mark (h : mark ∉ piece) : (piece ++ mark :: rest).takeWhile (· ≠ mark) = piece := by
  rw [List.takeWhile_append_of_pos (ne_mark h), List.takeWhile_cons_of_neg (by simp),
    List.append_nil]

theorem not_mem_takeWhile (mark : α) (text : List α) : mark ∉ text.takeWhile (· ≠ mark) := by
  intro h
  simpa using List.all_eq_true.mp List.all_takeWhile mark h

/-- A text that holds the mark is what stands before it, the mark, and what stands behind it. -/
theorem takeWhile_append_mark (h : mark ∈ text) :
    text.takeWhile (· ≠ mark) ++ mark :: (text.dropWhile (· ≠ mark)).tail = text := by
  induction text with
  | nil => simp at h
  | cons c text ih =>
    by_cases hc : c = mark
    · simp [hc]
    · have hmem : mark ∈ text := by simpa [Ne.symm hc] using h
      simpa [hc] using ih hmem

/-- Between the first two marks stands what is in front of the first mark of the rest. -/
theorem between_append (hskipped : mark ∉ skipped) :
    between mark (skipped ++ mark :: (piece ++ mark :: rest)) =
      some (piece.takeWhile (· ≠ mark)) := by
  by_cases hpiece : mark ∈ piece
  · have hsplit := takeWhile_append_mark hpiece
    have hfirst : mark ∉ piece.takeWhile (· ≠ mark) := not_mem_takeWhile mark piece
    generalize piece.takeWhile (· ≠ mark) = first at hsplit hfirst
    rw [← hsplit, List.append_assoc, List.cons_append]
    simp only [between, afterFirst_mark hskipped, afterFirst_mark hfirst, Option.bind_eq_bind,
      Option.bind_some, takeWhile_mark hfirst]
  · have hself : piece.takeWhile (· ≠ mark) = piece :=
      List.takeWhile_eq_self_iff.mpr (ne_mark hpiece)
    simp only [between, afterFirst_mark hskipped, afterFirst_mark hpiece, Option.bind_eq_bind,
      Option.bind_some, takeWhile_mark hpiece, hself]

theorem between_eq_none (h : mark ∉ text) : between mark text = none := by
  rw [between, afterFirst_eq_none h]
  rfl

/-! ### From one marked piece to the next -/

theorem marked_prefix_iff (hkey : mark ∉ key) (hpiece : mark ∉ piece) :
    marked mark key <+: mark :: (piece ++ mark :: rest) ↔ piece = key := by
  rw [marked, List.cons_prefix_cons]
  constructor
  · rintro ⟨-, tail, htail⟩
    rw [List.append_assoc, List.singleton_append] at htail
    have hbefore : (piece ++ mark :: rest).takeWhile (· ≠ mark) = piece := takeWhile_mark hpiece
    rw [← hbefore, ← htail, takeWhile_mark hkey]
  · rintro rfl
    exact ⟨rfl, rest, by simp⟩

/-- The search decides at a mark whether the piece it opens is the word, and goes on from the mark
that closes the piece. -/
theorem afterFirst_marked (hkey : mark ∉ key) (hpiece : mark ∉ piece) :
    afterFirst (marked mark key) (mark :: (piece ++ mark :: rest)) =
      if piece = key then some rest else afterFirst (marked mark key) (mark :: rest) := by
  rw [afterFirst]
  simp only [marked_prefix_iff hkey hpiece]
  split
  · rename_i h
    subst h
    have hdrop : (mark :: (piece ++ mark :: rest)).drop (marked mark piece).length = rest := by
      simp [marked]
    rw [hdrop]
  · exact afterFirst_skip hpiece

/-- Nothing is found from a mark that is the last one. -/
theorem afterFirst_last_mark (h : mark ∉ rest) :
    afterFirst (marked mark key) (mark :: rest) = none := by
  have hno : ¬ marked mark key <+: mark :: rest := by
    rw [marked, List.cons_prefix_cons]
    exact fun hword => h (hword.2.subset (by simp))
  rw [afterFirst, if_neg hno]
  exact afterFirst_eq_none h

end TextSearch
