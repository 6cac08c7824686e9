import Mathlib.Data.List.Basic
import Mathlib.Logic.Function.Basic

/-!
# Bursts

A machine reads symbol after symbol. When its steps tell states and pairs of
symbols apart, two inputs that differ in a burst of one or two symbols leave it in
different states.
-/

set_option autoImplicit false

namespace OpenDnp3.Library

universe u v

variable {State : Type u} {Symbol : Type v}

/-- Two inputs of one length that are the same outside a burst of two symbols. -/
structure Burst (one two : List Symbol) (position : Nat) : Prop where
  length : one.length = two.length
  outside : ∀ place, place ≠ position → place ≠ position + 1 → one[place]? = two[place]?

/-- The steps tell apart the states they start in and the pairs of symbols they read. -/
structure Separates (step : State → Symbol → State) : Prop where
  states : ∀ symbol, Function.Injective fun state => step state symbol
  pairs : ∀ {state first second other another},
    step (step state first) second = step (step state other) another →
      first = other ∧ second = another

namespace Separates

variable {step : State → Symbol → State}

theorem foldl_injective (separates : Separates step) (symbols : List Symbol) :
    Function.Injective fun state => symbols.foldl step state := by
  induction symbols with
  | nil => exact fun _ _ same => same
  | cons symbol symbols ih =>
      intro state other same
      exact separates.states symbol (ih same)

theorem symbol_eq (separates : Separates step) {state : State} {first other : Symbol}
    (same : step state first = step state other) : first = other :=
  (separates.pairs (congrArg (step · first) same)).1

end Separates

namespace Burst

variable {one two : List Symbol} {position : Nat}

/-- What follows a first symbol that is the same. -/
theorem tail {head other : Symbol} (burst : Burst (head :: one) (other :: two) (position + 1)) :
    head = other ∧ Burst one two position := by
  refine ⟨Option.some.inj (burst.outside 0 (by omega) (by omega)), ?_, ?_⟩
  · exact Nat.succ.inj burst.length
  · intro place first second
    exact burst.outside (place + 1) (by omega) (by omega)

/-- A burst in the first symbol and the second one. -/
theorem rest {head next other another : Symbol}
    (burst : Burst (head :: next :: one) (other :: another :: two) 0) : one = two := by
  apply List.ext_getElem?
  intro place
  exact burst.outside (place + 2) (by omega) (by omega)

/-- Inputs that end in the same state are the same. -/
theorem eq_of_foldl_eq {step : State → Symbol → State} (separates : Separates step)
    (burst : Burst one two position) (state : State)
    (same : one.foldl step state = two.foldl step state) : one = two := by
  induction position generalizing one two state with
  | zero =>
      match one, two, burst with
      | [], [], _ => rfl
      | [], _ :: _, burst => cases burst.length
      | _ :: _, [], burst => cases burst.length
      | [head], [other], _ => rw [separates.symbol_eq same]
      | [_], _ :: _ :: _, burst => cases burst.length
      | _ :: _ :: _, [_], burst => cases burst.length
      | head :: next :: one, other :: another :: two, burst =>
          obtain rfl := burst.rest
          obtain ⟨rfl, rfl⟩ := separates.pairs (separates.foldl_injective one same)
          rfl
  | succ position ih =>
      match one, two, burst with
      | [], [], _ => rfl
      | [], _ :: _, burst => cases burst.length
      | _ :: _, [], burst => cases burst.length
      | head :: one, other :: two, burst =>
          obtain ⟨rfl, later⟩ := burst.tail
          rw [ih later _ same]

end Burst

end OpenDnp3.Library
