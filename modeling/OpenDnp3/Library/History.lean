import Mathlib.Data.List.Infix

/-!
# Histories

What has happened so far, and laws about what may happen next.
-/

set_option autoImplicit false

namespace OpenDnp3.Library

universe u

variable {Event : Type u}

/-- Every event of a history was lawful when it happened. -/
def Lawful (law : List Event → Event → Prop) (history : List Event) : Prop :=
  ∀ before event, before ++ [event] <+: history → law before event

namespace Lawful

variable {law : List Event → Event → Prop} {history : List Event}

theorem nil : Lawful law [] := by
  intro before event isPrefix
  have empty := List.prefix_nil.mp isPrefix
  simp at empty

/-- One more event has to be lawful now. -/
theorem concat_iff {event : Event} :
    Lawful law (history ++ [event]) ↔ Lawful law history ∧ law history event := by
  constructor
  · intro lawful
    exact ⟨fun before event isPrefix =>
      lawful before event (isPrefix.trans (List.prefix_append _ _)),
      lawful history event (List.prefix_refl _)⟩
  · rintro ⟨lawful, last⟩ before other isPrefix
    rcases List.prefix_concat_iff.mp isPrefix with same | earlier
    · obtain ⟨rfl, equal⟩ := List.append_inj' same rfl
      obtain rfl := List.singleton_inj.mp equal
      exact last
    · exact lawful before other earlier

theorem concat {event : Event} (lawful : Lawful law history) (last : law history event) :
    Lawful law (history ++ [event]) :=
  concat_iff.mpr ⟨lawful, last⟩

/-- Events that are always lawful can follow at any time. -/
theorem append {events : List Event} (lawful : Lawful law history)
    (free : ∀ event ∈ events, ∀ before, law before event) : Lawful law (history ++ events) := by
  induction events generalizing history with
  | nil => rwa [List.append_nil]
  | cons event events ih =>
      obtain ⟨first, others⟩ := List.forall_mem_cons.mp free
      rw [← List.singleton_append, ← List.append_assoc]
      exact ih (lawful.concat (first history)) others

end Lawful

/-! ## Since an event -/

variable {Value : Type u}

/-- What a history yields after the last event that separates it. -/
def since (separates : Event → Bool) (yields : Event → List Value) (history : List Event) :
    List Value :=
  history.foldl (fun values event => if separates event then [] else values ++ yields event) []

theorem since_concat (separates : Event → Bool) (yields : Event → List Value)
    (history : List Event) (event : Event) :
    since separates yields (history ++ [event]) =
      if separates event then [] else since separates yields history ++ yields event := by
  rw [since, List.foldl_append]
  rfl

end OpenDnp3.Library
