import Mathlib.Data.Multiset.AddSub

/-!
# Counted references

A program may hold several references to an object, and has to give back each of them once. What it
holds is a multiset of objects: an object is in it as often as there are references to it. To give back
one that is not held is a step that does not exist (`giveBack`), so that a program which takes every
step has given back nothing twice.
-/

universe u

namespace References

variable {κ : Type u}

/-- What a pointer accounts for. -/
def owned (pointer : Option κ) : Multiset κ :=
  match pointer with
  | none => 0
  | some object => {object}

@[simp] theorem owned_none : owned (none : Option κ) = 0 := rfl

@[simp] theorem owned_some (object : κ) : owned (some object) = {object} := rfl

variable [DecidableEq κ]

/-- One reference less. -/
def giveBack (object : κ) (held : Multiset κ) : Option (Multiset κ) :=
  if object ∈ held then some (held.erase object) else none

/-- A pointer that may be null. -/
def giveBackIfAny (pointer : Option κ) (held : Multiset κ) : Option (Multiset κ) :=
  match pointer with
  | none => some held
  | some object => giveBack object held

/-- What has been taken can be given back. -/
theorem giveBack_add (object : κ) (held : Multiset κ) :
    giveBack object (held + {object}) = some held := by
  have hmem : object ∈ held + {object} :=
    Multiset.mem_add.mpr (.inr (Multiset.mem_singleton_self object))
  rw [giveBack, if_pos hmem, Multiset.add_comm, Multiset.singleton_add, Multiset.erase_cons_head]

theorem giveBackIfAny_add (pointer : Option κ) (held : Multiset κ) :
    giveBackIfAny pointer (held + owned pointer) = some held := by
  cases pointer with
  | none => exact congrArg some (Multiset.add_zero held)
  | some object => exact giveBack_add object held

end References
