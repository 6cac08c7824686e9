import Mathlib.Data.Option.Basic
import Mathlib.Data.List.Basic

/-!
# Input driven machines

A machine takes one input at a time and answers it with one output. An input
that a state does not accept has no step.
-/

set_option autoImplicit false

namespace OpenDnp3.Library

universe u v w

/-- A partial, deterministic machine. -/
structure Machine (State : Type u) (Input : Type v) (Output : Type w) where
  step : State → Input → Option (State × Output)

namespace Machine

variable {State Other : Type u} {Input : Type v} {Output : Type w}

/-- The state and the outputs after a list of inputs. -/
def run (machine : Machine State Input Output) :
    State → List Input → Option (State × List Output)
  | state, [] => some (state, [])
  | state, input :: inputs =>
      (machine.step state input).bind fun (next, output) =>
        (machine.run next inputs).map fun (last, outputs) => (last, output :: outputs)

/-- States reached from a start state by steps that a guard allows. -/
inductive ReachesWhile (machine : Machine State Input Output) (allowed : State → Input → Prop)
    (start : State) : State → Prop
  | start : ReachesWhile machine allowed start start
  | step {state next : State} {input : Input} {output : Output}
      (reached : ReachesWhile machine allowed start state) (guard : allowed state input)
      (success : machine.step state input = some (next, output)) :
      ReachesWhile machine allowed start next

/-- States reached from a start state. -/
abbrev Reaches (machine : Machine State Input Output) : State → State → Prop :=
  machine.ReachesWhile (fun _ _ => True)

theorem ReachesWhile.reaches {machine : Machine State Input Output}
    {allowed : State → Input → Prop} {start state : State}
    (reached : machine.ReachesWhile allowed start state) : machine.Reaches start state := by
  induction reached with
  | start => exact .start
  | step _ _ success ih => exact .step ih trivial success

theorem ReachesWhile.trans {machine : Machine State Input Output}
    {allowed : State → Input → Prop} {start middle last : State}
    (first : machine.ReachesWhile allowed start middle)
    (second : machine.ReachesWhile allowed middle last) :
    machine.ReachesWhile allowed start last := by
  induction second with
  | start => exact first
  | step _ guard success ih => exact .step ih guard success

/-- What holds at the start and is kept by every allowed step holds of every reached state. -/
theorem ReachesWhile.invariant {machine : Machine State Input Output}
    {allowed : State → Input → Prop} {start state : State} {Invariant : State → Prop}
    (reached : machine.ReachesWhile allowed start state) (initially : Invariant start)
    (preserved : ∀ {before after : State} {input : Input} {output : Output},
      Invariant before → allowed before input →
      machine.step before input = some (after, output) → Invariant after) :
    Invariant state := by
  induction reached with
  | start => exact initially
  | step _ guard success ih => exact preserved ih guard success

/-- A run ends in a state that is reached. -/
theorem reaches_of_run {machine : Machine State Input Output} {start last : State}
    {inputs : List Input} {outputs : List Output}
    (ran : machine.run start inputs = some (last, outputs)) : machine.Reaches start last := by
  suffices behind : ∀ {inputs : List Input} {state : State} {outputs : List Output},
      machine.Reaches start state → machine.run state inputs = some (last, outputs) →
        machine.Reaches start last from behind .start ran
  intro inputs
  induction inputs with
  | nil =>
      intro state outputs reached ran
      cases ran
      exact reached
  | cons input inputs ih =>
      intro state outputs reached ran
      obtain ⟨⟨next, output⟩, stepped, more⟩ := Option.bind_eq_some_iff.mp ran
      obtain ⟨⟨_, others⟩, rest, same⟩ := Option.map_eq_some_iff.mp more
      obtain ⟨rfl, _⟩ := Prod.mk.inj same
      exact ih (.step reached trivial stepped) rest

/-- A run that can be checked reaches a state. -/
theorem exists_reaches_of_run {machine : Machine State Input Output} {start : State}
    {check : State → Bool} (inputs : List Input)
    (checked : (machine.run start inputs).any (fun ran => check ran.1) = true) :
    ∃ state, machine.Reaches start state ∧ check state = true := by
  cases ran : machine.run start inputs with
  | none =>
      rw [ran] at checked
      cases checked
  | some result =>
      rw [ran] at checked
      exact ⟨result.1, reaches_of_run ran, checked⟩

/-- The state after a list of inputs, when a guard allows every one. -/
def runWhile (machine : Machine State Input Output) (allowed : State → Input → Prop)
    [DecidableRel allowed] : State → List Input → Option State
  | state, [] => some state
  | state, input :: inputs =>
      if allowed state input then
        (machine.step state input).bind fun (next, _) => machine.runWhile allowed next inputs
      else
        none

/-- A run that can be checked reaches a state by steps that are allowed. -/
theorem exists_reachesWhile_of_runWhile {machine : Machine State Input Output}
    {allowed : State → Input → Prop} [DecidableRel allowed] {start : State} {check : State → Bool}
    (inputs : List Input) (checked : (machine.runWhile allowed start inputs).any check = true) :
    ∃ state, machine.ReachesWhile allowed start state ∧ check state = true := by
  suffices behind : ∀ {inputs : List Input} {state : State},
      machine.ReachesWhile allowed start state →
        (machine.runWhile allowed state inputs).any check = true →
          ∃ state, machine.ReachesWhile allowed start state ∧ check state = true from
    behind .start checked
  intro inputs
  induction inputs with
  | nil =>
      intro state reached checked
      exact ⟨state, reached, checked⟩
  | cons input inputs ih =>
      intro state reached checked
      unfold runWhile at checked
      split at checked
      · rename_i guard
        cases stepped : machine.step state input with
        | none =>
            rw [stepped] at checked
            cases checked
        | some result =>
            rw [stepped] at checked
            exact ih (reached.step guard stepped) checked
      · cases checked

/-- Every step of the right machine is one of the left machine, with the same output. -/
structure Refinement (left : Machine State Input Output) (right : Machine Other Input Output)
    (Related : State → Other → Prop) : Prop where
  step : ∀ {state : State} {other next : Other} {input : Input} {output : Output},
    Related state other → right.step other input = some (next, output) →
      ∃ after, left.step state input = some (after, output) ∧ Related after next

/-- Every run of the right machine is one of the left machine, with the same outputs. -/
theorem Refinement.run {left : Machine State Input Output} {right : Machine Other Input Output}
    {Related : State → Other → Prop} (refinement : Refinement left right Related) :
    ∀ {inputs : List Input} {state : State} {other last : Other} {outputs : List Output},
      Related state other → right.run other inputs = some (last, outputs) →
        ∃ after, left.run state inputs = some (after, outputs) ∧ Related after last := by
  intro inputs
  induction inputs with
  | nil =>
      intro state other last outputs related ran
      cases ran
      exact ⟨state, rfl, related⟩
  | cons input inputs ih =>
      intro state other last outputs related ran
      obtain ⟨⟨next, output⟩, stepped, more⟩ := Option.bind_eq_some_iff.mp ran
      obtain ⟨⟨_, others⟩, rest, same⟩ := Option.map_eq_some_iff.mp more
      cases same
      obtain ⟨middle, matched, close⟩ := refinement.step related stepped
      obtain ⟨after, matchedRest, final⟩ := ih close rest
      refine ⟨after, ?_, final⟩
      rw [Machine.run, matched, Option.bind_some]
      exact Option.map_eq_some_iff.mpr ⟨_, matchedRest, rfl⟩

/-- Two states that answer every input alike, and go on doing so. -/
structure Bisimulation (left : Machine State Input Output) (right : Machine Other Input Output)
    (Related : State → Other → Prop) : Prop where
  step : ∀ {state : State} {other : Other} (input : Input), Related state other →
    Option.Rel (fun one two => Related one.1 two.1 ∧ one.2 = two.2)
      (left.step state input) (right.step other input)

/-- Bisimilar states give the same outputs on every list of inputs. -/
theorem Bisimulation.run {left : Machine State Input Output}
    {right : Machine Other Input Output} {Related : State → Other → Prop}
    (bisimulation : Bisimulation left right Related) :
    ∀ (inputs : List Input) {state : State} {other : Other}, Related state other →
      Option.Rel (fun one two => Related one.1 two.1 ∧ one.2 = two.2)
        (left.run state inputs) (right.run other inputs) := by
  intro inputs
  induction inputs with
  | nil =>
      intro state other related
      exact .some ⟨related, rfl⟩
  | cons input inputs ih =>
      intro state other related
      have stepped := bisimulation.step input related
      rw [Machine.run, Machine.run]
      generalize left.step state input = one at stepped
      generalize right.step other input = two at stepped
      cases stepped with
      | none => exact .none
      | some agree =>
          obtain ⟨next, same⟩ := agree
          have rest := ih next
          simp only [Option.bind_some]
          generalize left.run _ inputs = one at rest
          generalize right.run _ inputs = two at rest
          cases rest with
          | none => exact .none
          | some agree => exact .some ⟨agree.1, by simp only [same, agree.2]⟩

end Machine

end OpenDnp3.Library
