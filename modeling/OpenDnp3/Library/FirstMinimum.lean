import Mathlib.Data.List.Perm.Basic
import Mathlib.Order.Lattice

/-!
# First minimum of a list

The element of a list with the least key, and the first one of those if there
are several. A pass over the list that keeps the best element so far finds it.
-/

set_option autoImplicit false

namespace OpenDnp3.Library

universe u v

/-- The element at a position has the least key, and those before it have greater ones. -/
structure FirstMinimum {α : Type u} {β : Type v} [LinearOrder β] (key : α → β) (list : List α)
    (position : Nat) (best : α) : Prop where
  found : list[position]? = some best
  least : ∀ one ∈ list, key best ≤ key one
  first : ∀ other one, list[other]? = some one → other < position → key best < key one

namespace FirstMinimum

variable {α : Type u} {β : Type v} [LinearOrder β] {key : α → β} {list : List α}
  {position : Nat} {best : α}

theorem singleton (one : α) : FirstMinimum key [one] 0 one where
  found := rfl
  least := List.forall_mem_singleton.mpr le_rfl
  first other _ _ before := absurd before (Nat.not_lt_zero other)

/-- One more element is the first minimum only if it is less than the one so far. -/
theorem concat (minimum : FirstMinimum key list position best) (one : α) :
    if key one < key best then FirstMinimum key (list ++ [one]) list.length one
    else FirstMinimum key (list ++ [one]) position best := by
  have inside : position < list.length := (List.getElem?_eq_some_iff.mp minimum.found).1
  split_ifs with less
  · refine ⟨by simp, fun other member => ?_, fun other before found earlier => ?_⟩
    · rcases List.mem_append.mp member with old | new
      · exact (less.trans_le (minimum.least other old)).le
      · exact (congrArg key (List.mem_singleton.mp new)).ge
    · rw [List.getElem?_append_left earlier] at found
      exact less.trans_le (minimum.least before (List.mem_of_getElem? found))
  · refine ⟨?_, fun other member => ?_, fun other before found earlier => ?_⟩
    · rw [List.getElem?_append_left inside]
      exact minimum.found
    · rcases List.mem_append.mp member with old | new
      · exact minimum.least other old
      · rw [List.mem_singleton.mp new]
        exact not_lt.mp less
    · rw [List.getElem?_append_left (Nat.lt_trans earlier inside)] at found
      exact minimum.first other before found earlier

/-- The least key does not depend on the order of the list. -/
theorem key_eq_of_perm (minimum : FirstMinimum key list position best) {others : List α}
    {place : Nat} {other : α} (again : FirstMinimum key others place other)
    (perm : List.Perm list others) : key best = key other := by
  have one := minimum.least other (perm.mem_iff.mpr (List.mem_of_getElem? again.found))
  have two := again.least best (perm.mem_iff.mp (List.mem_of_getElem? minimum.found))
  exact le_antisymm one two

end FirstMinimum

end OpenDnp3.Library
