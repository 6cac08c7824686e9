import Mathlib.Data.List.Basic
import Mathlib.Data.List.Infix

/-!
# Views of arrays

A view of an array whose size is a 16 bit number, so that every position of an
element is one too. Elements are changed in place; none are added or removed.
-/

set_option autoImplicit false

namespace OpenDnp3.Library

structure ArrayView (α : Type) where
  elements : List α
  fits : elements.length < 65536
deriving DecidableEq, Repr

namespace ArrayView

theorem none_fits : 0 < 65536 := by decide

theorem one_fits : 1 < 65536 := by decide

theorem two_fits : 2 < 65536 := by decide

variable {α β : Type}

def size (view : ArrayView α) : Nat := view.elements.length

def get? (view : ArrayView α) (position : Nat) : Option α := view.elements[position]?

def contains (view : ArrayView α) (position : Nat) : Bool := position < view.size

def modify (view : ArrayView α) (position : Nat) (change : α → α) : ArrayView α :=
  ⟨view.elements.modify position change, by rw [List.length_modify]; exact view.fits⟩

/-- Change the elements from one position to another, both included. -/
def modifyRange (view : ArrayView α) (start stop : Nat) (change : α → α) : ArrayView α :=
  ⟨view.elements.mapIdx fun position element =>
      if start ≤ position ∧ position ≤ stop then change element else element,
    by rw [List.length_mapIdx]; exact view.fits⟩

/-- Change every element. -/
def map (view : ArrayView α) (change : α → β) : ArrayView β :=
  ⟨view.elements.map change, by rw [List.length_map]; exact view.fits⟩

@[ext] theorem ext {view other : ArrayView α} (same : view.elements = other.elements) :
    view = other := by
  cases view
  cases other
  cases same
  rfl

theorem get?_split {view : ArrayView α} {before after : List α} {element : α}
    (split : view.elements = before ++ element :: after) :
    view.get? before.length = some element := by
  rw [get?, split, List.getElem?_append_right (Nat.le_refl _), Nat.sub_self]
  rfl

theorem elements_modify_split {view : ArrayView α} {before after : List α} {element : α}
    (split : view.elements = before ++ element :: after) (change : α → α) :
    (view.modify before.length change).elements = before ++ change element :: after := by
  change view.elements.modify before.length change = _
  rw [split]
  clear split
  induction before with
  | nil => rfl
  | cons head before ih => exact congrArg (head :: ·) ih

/-- What the elements of a range are afterwards, and what those outside it are. -/
theorem get?_modifyRange (view : ArrayView α) (start stop position : Nat) (change : α → α) :
    (view.modifyRange start stop change).get? position =
      (view.get? position).map fun element =>
        if start ≤ position ∧ position ≤ stop then change element else element := by
  rw [get?, modifyRange, List.getElem?_mapIdx]
  rfl

theorem get?_modify (view : ArrayView α) (position other : Nat) (change : α → α) :
    (view.modify position change).get? other =
      (view.get? other).map fun element => if position = other then change element else element := by
  change (view.elements.modify position change)[other]? = _
  rw [List.getElem?_modify]
  split <;> rfl

/-- Replacing an element by one that looks the same. -/
theorem map_elements_modify {view : ArrayView α} {position : Nat} {old new : α}
    (found : view.get? position = some old) {look : α → β} (same : look new = look old) :
    (view.modify position fun _ => new).elements.map look = view.elements.map look := by
  change (view.elements.modify position fun _ => new).map look = _
  refine List.ext_getElem? fun other => ?_
  rw [List.getElem?_map, List.getElem?_map, List.getElem?_modify]
  split
  · rename_i equal
    subst equal
    rw [show view.elements[position]? = some old from found]
    exact congrArg some same
  · rw [id_map']

/-- Changing elements in a way that does not show. -/
theorem map_elements_modifyRange (view : ArrayView α) (start stop : Nat) {change : α → α}
    {look : α → β} (same : ∀ element, look (change element) = look element) :
    (view.modifyRange start stop change).elements.map look = view.elements.map look := by
  refine List.ext_getElem? fun position => ?_
  have changed := get?_modifyRange view start stop position change
  rw [get?, get?] at changed
  rw [List.getElem?_map, List.getElem?_map, changed, Option.map_map]
  refine congrArg (Option.map · view.elements[position]?) (funext fun element => ?_)
  rw [Function.comp_apply]
  split
  · exact same element
  · rfl

/-! ## Views that look the same -/

/-- Two views whose elements look the same. -/
def Alike (look : α → β) (view other : ArrayView α) : Prop :=
  view.elements.map look = other.elements.map look

namespace Alike

variable {look : α → β} {view other : ArrayView α}

theorem size (alike : view.Alike look other) : view.size = other.size := by
  have length := congrArg List.length alike
  rwa [List.length_map, List.length_map] at length

theorem get? (alike : view.Alike look other) (position : Nat) :
    (view.get? position = none ∧ other.get? position = none) ∨
      ∃ one two, view.get? position = some one ∧ other.get? position = some two ∧
        look one = look two := by
  have found := congrArg (·[position]?) alike
  simp only [List.getElem?_map] at found
  change Option.map look (view.get? position) = Option.map look (other.get? position) at found
  cases here : view.get? position with
  | none =>
      rw [here, Option.map_none] at found
      exact .inl ⟨rfl, Option.map_eq_none_iff.mp found.symm⟩
  | some one =>
      rw [here, Option.map_some] at found
      obtain ⟨two, present, equal⟩ := Option.map_eq_some_iff.mp found.symm
      exact .inr ⟨one, two, rfl, present, equal.symm⟩

theorem of_get? (same : ∀ position, (view.get? position).map look = (other.get? position).map look) :
    view.Alike look other := by
  refine List.ext_getElem? fun position => ?_
  rw [List.getElem?_map, List.getElem?_map]
  exact same position

/-- Changing an element in a way that does not show. -/
theorem of_modify (view : ArrayView α) (position : Nat) {change : α → α}
    (same : ∀ element, look (change element) = look element) :
    (view.modify position change).Alike look view := by
  refine of_get? fun place => ?_
  rw [get?_modify, Option.map_map]
  refine congrArg (Option.map · (view.get? place)) (funext fun element => ?_)
  rw [Function.comp_apply]
  split
  · exact same element
  · rfl

theorem modify (alike : view.Alike look other) (position : Nat) {change replace : α → α}
    (same : ∀ one two, view.get? position = some one → look one = look two →
      look (change one) = look (replace two)) :
    (view.modify position change).Alike look (other.modify position replace) := by
  refine of_get? fun place => ?_
  rw [get?_modify, get?_modify]
  rcases alike.get? place with ⟨absent, missing⟩ | ⟨one, two, found, present, equal⟩
  · rw [absent, missing]
    rfl
  · rw [found, present, Option.map_some, Option.map_some]
    split
    · rename_i here
      subst here
      exact congrArg some (same one two found equal)
    · exact congrArg some equal

theorem modifyRange (alike : view.Alike look other) (start stop : Nat) {change : α → α}
    (same : ∀ one two, look one = look two → look (change one) = look (change two)) :
    (view.modifyRange start stop change).Alike look (other.modifyRange start stop change) := by
  refine of_get? fun position => ?_
  rw [get?_modifyRange, get?_modifyRange]
  rcases alike.get? position with ⟨absent, missing⟩ | ⟨one, two, found, present, equal⟩
  · rw [absent, missing]
  · rw [found, present, Option.map_some, Option.map_some]
    split
    · exact congrArg some (same one two equal)
    · exact congrArg some equal

end Alike

end ArrayView

end OpenDnp3.Library
