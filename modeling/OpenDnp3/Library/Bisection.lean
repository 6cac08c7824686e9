import Mathlib.Data.List.Pairwise
import Mathlib.Order.Lattice

/-!
# Bisection

Positions of an increasing list that are closest to a target, and the bounds
between which such a position is searched.
-/

set_option autoImplicit false

namespace OpenDnp3.Library

universe u

variable {Key : Type u} [LinearOrder Key]

/-- Everything before the position is below the target, and everything behind it is above. -/
structure Closest (keys : List Key) (target : Key) (position : Nat) : Prop where
  inside : position < keys.length
  below : ∀ {place : Nat} {key : Key}, place < position → keys[place]? = some key → key < target
  above : ∀ {place : Nat} {key : Key}, position < place → keys[place]? = some key → target < key

/-- A position that is closest lies between the bounds, or next to them when there is nothing
left between them. -/
structure Brackets (keys : List Key) (target : Key) (lower upper : Nat) : Prop where
  inside : upper < keys.length
  near : lower ≤ upper + 1
  below : ∀ {place : Nat} {key : Key}, place < lower → keys[place]? = some key → key < target
  above : ∀ {place : Nat} {key : Key}, upper < place → keys[place]? = some key → target < key

variable {keys : List Key} {target key : Key} {lower upper position : Nat}

theorem lt_of_increasing (increasing : keys.Pairwise (· < ·)) {place other : Nat}
    {first second : Key} (before : place < other) (here : keys[place]? = some first)
    (there : keys[other]? = some second) : first < second := by
  obtain ⟨within, rfl⟩ := List.getElem?_eq_some_iff.mp here
  obtain ⟨inside, rfl⟩ := List.getElem?_eq_some_iff.mp there
  exact List.pairwise_iff_getElem.mp increasing place other within inside before

namespace Brackets

theorem whole (nonempty : 0 < keys.length) : Brackets keys target 0 (keys.length - 1) where
  inside := by omega
  near := by omega
  below := by
    intro place key before
    omega
  above := by
    intro place key behind found
    have within := (List.getElem?_eq_some_iff.mp found).1
    omega

/-- The search goes on above a key that is too small. -/
theorem raise (brackets : Brackets keys target lower upper)
    (increasing : keys.Pairwise (· < ·)) (found : keys[position]? = some key) (less : key < target)
    (most : position ≤ upper) : Brackets keys target (position + 1) upper where
  inside := brackets.inside
  near := by omega
  below := by
    intro place other before there
    obtain here | here := Nat.lt_or_eq_of_le (Nat.le_of_lt_succ before)
    · exact (lt_of_increasing increasing here there found).trans less
    · subst here
      rwa [← Option.some.inj (found.symm.trans there)]
  above := brackets.above

/-- The search goes on below a key that is too large. -/
theorem descend (brackets : Brackets keys target lower upper)
    (increasing : keys.Pairwise (· < ·)) (found : keys[position]? = some key) (more : target < key)
    (least : lower ≤ position) (positive : 0 < position) :
    Brackets keys target lower (position - 1) where
  inside := by
    have within := (List.getElem?_eq_some_iff.mp found).1
    omega
  near := by omega
  below := brackets.below
  above := by
    intro place other behind there
    obtain here | here := Nat.lt_or_eq_of_le (show position ≤ place by omega)
    · exact more.trans (lt_of_increasing increasing here found there)
    · subst here
      rwa [← Option.some.inj (found.symm.trans there)]

/-- Nothing is left between the bounds. -/
theorem closest (brackets : Brackets keys target lower upper) (crossed : upper < lower)
    (within : position < keys.length) (last : position = upper ∨ position = lower) :
    Closest keys target position where
  inside := within
  below := by
    intro place key before found
    exact brackets.below (by omega) found
  above := by
    intro place key behind found
    exact brackets.above (by omega) found

end Brackets

namespace Closest

theorem of_found (increasing : keys.Pairwise (· < ·)) (found : keys[position]? = some target) :
    Closest keys target position where
  inside := (List.getElem?_eq_some_iff.mp found).1
  below := by
    intro place key before there
    exact lt_of_increasing increasing before there found
  above := by
    intro place key behind there
    exact lt_of_increasing increasing behind found there

theorem of_first (increasing : keys.Pairwise (· < ·)) (found : keys[0]? = some key)
    (more : target < key) : Closest keys target 0 where
  inside := (List.getElem?_eq_some_iff.mp found).1
  below := by
    intro place other before
    omega
  above := by
    intro place other behind there
    exact more.trans (lt_of_increasing increasing behind found there)

/-- Where the keys begin that are not below the target. -/
theorem first_iff (closest : Closest keys target position) (found : keys[position]? = some key)
    {place : Nat} {other : Key} (there : keys[place]? = some other) :
    (if key < target then position + 1 else position) ≤ place ↔ target ≤ other := by
  obtain before | rfl | behind := Nat.lt_trichotomy place position
  · have below := closest.below before there
    have outside : ¬(if key < target then position + 1 else position) ≤ place := by
      split <;> omega
    exact iff_of_false outside (not_le.mpr below)
  · obtain rfl := Option.some.inj (found.symm.trans there)
    by_cases less : key < target
    · rw [if_pos less]
      exact iff_of_false (by omega) (not_le.mpr less)
    · rw [if_neg less]
      exact iff_of_true (Nat.le_refl place) (not_lt.mp less)
  · have above := closest.above behind there
    have inside : (if key < target then position + 1 else position) ≤ place := by
      split <;> omega
    exact iff_of_true inside above.le

/-- Where the keys end that are not above the target. -/
theorem last_iff (closest : Closest keys target position) (found : keys[position]? = some key)
    {place : Nat} {other : Key} (there : keys[place]? = some other) :
    place < (if target < key then position else position + 1) ↔ other ≤ target := by
  obtain before | rfl | behind := Nat.lt_trichotomy place position
  · have below := closest.below before there
    have inside : place < (if target < key then position else position + 1) := by
      split <;> omega
    exact iff_of_true inside below.le
  · obtain rfl := Option.some.inj (found.symm.trans there)
    by_cases more : target < key
    · rw [if_pos more]
      exact iff_of_false (by omega) (not_le.mpr more)
    · rw [if_neg more]
      exact iff_of_true (by omega) (not_lt.mp more)
  · have above := closest.above behind there
    have outside : ¬place < (if target < key then position else position + 1) := by
      split <;> omega
    exact iff_of_false outside (not_le.mpr above)

end Closest

end OpenDnp3.Library
