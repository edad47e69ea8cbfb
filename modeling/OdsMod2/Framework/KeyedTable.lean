import Mathlib.Data.List.Nodup
import Mathlib.Logic.Function.Basic

/-!
# Tables with a primary key

A table is a list of rows, no two with the same key; the order of the rows means nothing. Read by
key it is a finite map (`KeyedTable.lookup`), and the two statements that change it are the two
changes of a map: inserting or replacing a row is an update at its key (`lookup_upsert`), deleting
by key is an update to nothing (`lookup_erase`).
-/

/-- Rows with a primary key. -/
structure KeyedTable {α κ : Type} (key : α → κ) where
  rows : List α
  nodup_key : (rows.map key).Nodup

namespace KeyedTable

variable {α κ : Type} {key : α → κ}

def empty : KeyedTable key where
  rows := []
  nodup_key := List.nodup_nil

/-- The key names one row. -/
theorem eq_of_key (table : KeyedTable key) {row row' : α} (h : row ∈ table.rows)
    (h' : row' ∈ table.rows) (hkey : key row = key row') : row = row' :=
  List.inj_on_of_nodup_map table.nodup_key h h' hkey

variable [DecidableEq κ]

def lookup (table : KeyedTable key) (k : κ) : Option α :=
  table.rows.find? fun row => key row = k

/-- Insert or replace. -/
def upsert (table : KeyedTable key) (row : α) : KeyedTable key where
  rows := (table.rows.filter fun row' => key row' ≠ key row) ++ [row]
  nodup_key := by
    rw [List.map_append, List.nodup_append]
    refine ⟨table.nodup_key.sublist ((List.filter_sublist).map _), List.nodup_singleton _, ?_⟩
    -- the rows that stay have other keys than the new row
    intro k hk k' hk'
    obtain ⟨row', hrow', rfl⟩ := List.mem_map.mp hk
    rw [List.map_singleton, List.mem_singleton] at hk'
    rw [hk']
    exact of_decide_eq_true (List.mem_filter.mp hrow').2

/-- Delete by key. -/
def erase (table : KeyedTable key) (k : κ) : KeyedTable key where
  rows := table.rows.filter fun row => key row ≠ k
  nodup_key := table.nodup_key.sublist ((List.filter_sublist).map _)

theorem mem_upsert {table : KeyedTable key} {row row' : α} :
    row' ∈ (table.upsert row).rows ↔ row' = row ∨ row' ∈ table.rows ∧ key row' ≠ key row := by
  unfold upsert
  rw [List.mem_append, List.mem_singleton, List.mem_filter, decide_eq_true_eq, or_comm]

theorem mem_erase {table : KeyedTable key} {k : κ} {row : α} :
    row ∈ (table.erase k).rows ↔ row ∈ table.rows ∧ key row ≠ k := by
  unfold erase
  rw [List.mem_filter, decide_eq_true_eq]

/-- A lookup finds exactly the rows of the table. -/
theorem lookup_eq_some {table : KeyedTable key} {k : κ} {row : α} :
    table.lookup k = some row ↔ row ∈ table.rows ∧ key row = k := by
  constructor
  · intro h
    have hkey := List.find?_some h
    exact ⟨List.mem_of_find?_eq_some h, of_decide_eq_true hkey⟩
  · rintro ⟨hmem, rfl⟩
    cases hfound : table.lookup (key row) with
    | none => exact absurd (decide_eq_true rfl) (List.find?_eq_none.mp hfound row hmem)
    | some row' =>
      -- whichever row is found first, the key makes it `row`
      have hkey := List.find?_some hfound
      rw [table.eq_of_key (List.mem_of_find?_eq_some hfound) hmem (of_decide_eq_true hkey)]

theorem lookup_upsert (table : KeyedTable key) (row : α) :
    (table.upsert row).lookup = Function.update table.lookup (key row) (some row) := by
  ext k row'
  rw [lookup_eq_some, mem_upsert]
  by_cases hk : k = key row
  · -- at the key: the new row and nothing else
    subst hk
    rw [Function.update_self, Option.some.injEq]
    constructor
    · rintro ⟨rfl | ⟨-, hne⟩, hkey⟩
      · rfl
      · exact absurd hkey hne
    · rintro rfl
      exact ⟨.inl rfl, rfl⟩
  · -- elsewhere: the old row, if there is one
    rw [Function.update_of_ne hk, lookup_eq_some]
    constructor
    · rintro ⟨rfl | ⟨hmem, -⟩, rfl⟩
      · exact absurd rfl hk
      · exact ⟨hmem, rfl⟩
    · rintro ⟨hmem, rfl⟩
      exact ⟨.inr ⟨hmem, hk⟩, rfl⟩

theorem lookup_erase (table : KeyedTable key) (k : κ) :
    (table.erase k).lookup = Function.update table.lookup k none := by
  ext k' row
  rw [lookup_eq_some, mem_erase]
  by_cases hk : k' = k
  · subst hk
    rw [Function.update_self]
    constructor
    · rintro ⟨⟨-, hne⟩, hkey⟩
      exact absurd hkey hne
    · intro h
      cases h
  · rw [Function.update_of_ne hk, lookup_eq_some]
    constructor
    · rintro ⟨⟨hmem, -⟩, hkey⟩
      exact ⟨hmem, hkey⟩
    · rintro ⟨hmem, rfl⟩
      exact ⟨⟨hmem, hk⟩, rfl⟩

end KeyedTable
