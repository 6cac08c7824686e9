import OpenDnp3.Library.Machine
import OpenDnp3.Master.TaskBehavior

/-!
# Retry delays

How long a task waits after each response timeout, in any order of timeouts, successes and
resets. Durations and timestamps are `int64_t`; an operation that overflows has no result.
-/

set_option autoImplicit false

namespace OpenDnp3.Master

open OpenDnp3.Library

/-- The result of an operation on `int64_t`. -/
def int64 (value : Int) : Option Int :=
  if int64Min ≤ value ∧ value ≤ int64Max then some value else none

theorem int64_eq_some {value : Int} (low : int64Min ≤ value) (high : value ≤ int64Max) :
    int64 value = some value := if_pos ⟨low, high⟩

namespace MonotonicTimestamp

def checkedAdd (time : MonotonicTimestamp) (duration : TimeDuration) :
    Option MonotonicTimestamp :=
  (int64 (int64Max - time)).bind fun maximum =>
    if duration ≥ maximum then some max else int64 (time + duration)

variable {time : MonotonicTimestamp} {duration : TimeDuration}

theorem add_eq_min : add time duration = Min.min int64Max (time + duration) := by
  unfold add max
  dsimp only [TimeDuration, MonotonicTimestamp] at *
  split <;> omega

/-- Adding a duration to a time that has come does not overflow. -/
theorem checkedAdd_eq_some (come : 0 ≤ time) (last : time ≤ int64Max) (positive : 0 ≤ duration) :
    checkedAdd time duration = some (add time duration) := by
  have low : int64Min ≤ 0 := by decide
  unfold checkedAdd add
  dsimp only [TimeDuration, MonotonicTimestamp] at *
  rw [int64_eq_some (by omega) (by omega), Option.bind_some]
  split
  · rfl
  · exact int64_eq_some (by omega) (by omega)

end MonotonicTimestamp

namespace TaskBehavior

/-! ## Arithmetic that may overflow -/

def checkedSuccess (behavior : TaskBehavior) (now : MonotonicTimestamp) : Option TaskBehavior :=
  let expiration :=
    if behavior.period < 0 then some MonotonicTimestamp.max
    else MonotonicTimestamp.checkedAdd now behavior.period
  expiration.map fun expiration =>
    { behavior with currentRetryDelay := behavior.minRetryDelay, expiration }

def checkedNextRetryTimeout (behavior : TaskBehavior) : Option TimeDuration :=
  let doubled :=
    if behavior.currentRetryDelay ≥ int64Max / 2 then some behavior.maxRetryDelay
    else int64 (2 * behavior.currentRetryDelay)
  doubled.map fun doubled =>
    if doubled > behavior.maxRetryDelay then behavior.maxRetryDelay else doubled

def checkedResponseTimeout (behavior : TaskBehavior) (now : MonotonicTimestamp) :
    Option TaskBehavior :=
  (MonotonicTimestamp.checkedAdd now behavior.currentRetryDelay).bind fun expiration =>
    behavior.checkedNextRetryTimeout.map fun currentRetryDelay =>
      { behavior with expiration, currentRetryDelay }

/-! ## Runs of calls -/

inductive Call where
  | responseTimeout (now : MonotonicTimestamp)
  | success (now : MonotonicTimestamp)
  | reset
  | disable
deriving DecidableEq, Repr

namespace Call

/-- A monotonic clock that counts from zero gives these times. -/
def Timely : Call → Prop
  | responseTimeout now => 0 ≤ now ∧ now ≤ int64Max
  | success now => 0 ≤ now ∧ now ≤ int64Max
  | reset => True
  | disable => True

instance : DecidablePred Timely := by
  intro call
  cases call <;> unfold Timely <;> infer_instance

end Call

/-- What a call means for the delays. -/
inductive Outcome where
  | retry (now : MonotonicTimestamp) (delay : TimeDuration) (expiration : MonotonicTimestamp)
  | reset
  | disabled
deriving DecidableEq, Repr

def call (behavior : TaskBehavior) : Call → Option (TaskBehavior × Outcome)
  | .responseTimeout now =>
      (behavior.checkedResponseTimeout now).map fun after =>
        (after, .retry now behavior.currentRetryDelay after.expiration)
  | .success now => (behavior.checkedSuccess now).map fun after => (after, .reset)
  | .reset => some (behavior.reset, .reset)
  | .disable => some (behavior.disable, .disabled)

def machine : Machine TaskBehavior Call Outcome where
  step := call

/-- The behavior after a call that does not overflow. -/
def after (behavior : TaskBehavior) : Call → TaskBehavior
  | .responseTimeout now => behavior.onResponseTimeout now
  | .success now => behavior.onSuccess now
  | .reset => behavior.reset
  | .disable => behavior.disable

/-! ## Back-off -/

/-- The delay that may follow the previous one since the last reset. -/
def Follows (min max : TimeDuration) : Option TimeDuration → TimeDuration → Prop
  | none, delay => delay = min
  | some previous, delay => previous ≤ delay ∧ Min.min max (2 * previous) ≤ delay

/-- The delays grow from the minimum after every reset, and each expiration is the delay away. -/
def BacksOff (min max : TimeDuration) : Option TimeDuration → List Outcome → Prop
  | _, [] => True
  | previous, .retry now delay expiration :: outcomes =>
      Follows min max previous delay ∧ delay ≤ max ∧
        expiration = Min.min int64Max (now + delay) ∧ BacksOff min max (some delay) outcomes
  | _, .reset :: outcomes => BacksOff min max none outcomes
  | previous, .disabled :: outcomes => BacksOff min max previous outcomes

/-- The delays of a behavior lie between bounds that can be represented. -/
structure Bounded (min max : TimeDuration) (previous : Option TimeDuration)
    (behavior : TaskBehavior) : Prop where
  minRetryDelay : behavior.minRetryDelay = min
  maxRetryDelay : behavior.maxRetryDelay = max
  nonneg : 0 ≤ min
  ordered : min ≤ max
  representable : max ≤ int64Max
  current_nonneg : 0 ≤ behavior.currentRetryDelay
  current_le : behavior.currentRetryDelay ≤ max
  follows : Follows min max previous behavior.currentRetryDelay

variable {min max : TimeDuration} {previous : Option TimeDuration} {behavior : TaskBehavior}

/-- Doubling the delay does not overflow. -/
theorem Bounded.checkedNextRetryTimeout (bounded : Bounded min max previous behavior) :
    behavior.checkedNextRetryTimeout = some behavior.calcNextRetryTimeout := by
  have low : int64Min ≤ 0 := by decide
  have positive := bounded.current_nonneg
  unfold TaskBehavior.checkedNextRetryTimeout calcNextRetryTimeout
  dsimp only [TimeDuration, MonotonicTimestamp] at *
  by_cases large : (int64Max / 2 : Int) ≤ behavior.currentRetryDelay
  · simp only [ge_iff_le, if_pos large, Option.map_some]
  · have fits : (2 * behavior.currentRetryDelay : Int) ≤ int64Max := by
      dsimp only [TimeDuration] at *
      omega
    simp only [ge_iff_le, if_neg large, int64_eq_some (by omega) fits, Option.map_some]

/-- The next delay is twice the current one, up to the maximum. -/
theorem Bounded.calcNextRetryTimeout (bounded : Bounded min max previous behavior) :
    behavior.currentRetryDelay ≤ behavior.calcNextRetryTimeout ∧
      behavior.calcNextRetryTimeout ≤ max ∧
      Min.min max (2 * behavior.currentRetryDelay) ≤ behavior.calcNextRetryTimeout := by
  have positive := bounded.current_nonneg
  have high := bounded.current_le
  unfold TaskBehavior.calcNextRetryTimeout
  rw [bounded.maxRetryDelay]
  dsimp only [TimeDuration, MonotonicTimestamp] at *
  -- a delay that is not doubled is followed by the maximum
  by_cases large : behavior.currentRetryDelay ≥ int64Max / 2
  · rw [if_pos large]
    split <;> omega
  · rw [if_neg large]
    split <;> omega

/-- A behavior that starts again from its minimum. -/
theorem Bounded.restart {other : TaskBehavior} (bounded : Bounded min max previous behavior)
    (minimum : other.minRetryDelay = behavior.minRetryDelay)
    (maximum : other.maxRetryDelay = behavior.maxRetryDelay)
    (current : other.currentRetryDelay = behavior.minRetryDelay) : Bounded min max none other := by
  rw [bounded.minRetryDelay] at minimum current
  rw [bounded.maxRetryDelay] at maximum
  refine ⟨minimum, maximum, bounded.nonneg, bounded.ordered, bounded.representable, ?_, ?_, current⟩
  · rw [current]
    exact bounded.nonneg
  · rw [current]
    exact bounded.ordered

/-- What a call does to the delays that follow. -/
def Advances (min max : TimeDuration) (previous : Option TimeDuration) (after : TaskBehavior)
    (outcome : Outcome) : Prop :=
  ∃ next, Bounded min max next after ∧ ∀ outcomes, BacksOff min max next outcomes →
    BacksOff min max previous (outcome :: outcomes)

theorem Bounded.responseTimeout (bounded : Bounded min max previous behavior)
    {now : MonotonicTimestamp} (come : 0 ≤ now) (last : now ≤ int64Max) :
    ∃ outcome, behavior.call (.responseTimeout now) =
        some (behavior.onResponseTimeout now, outcome) ∧
      Advances min max previous (behavior.onResponseTimeout now) outcome := by
  have added := MonotonicTimestamp.checkedAdd_eq_some come last bounded.current_nonneg
  obtain ⟨grows, within, doubles⟩ := bounded.calcNextRetryTimeout
  refine ⟨.retry now behavior.currentRetryDelay
    (MonotonicTimestamp.add now behavior.currentRetryDelay), ?_,
    some behavior.currentRetryDelay, ?_, fun outcomes rest => ?_⟩
  · rw [TaskBehavior.call, checkedResponseTimeout, added, Option.bind_some,
      bounded.checkedNextRetryTimeout]
    rfl
  · exact ⟨bounded.minRetryDelay, bounded.maxRetryDelay, bounded.nonneg, bounded.ordered,
      bounded.representable, Int.le_trans bounded.current_nonneg grows, within, grows, doubles⟩
  · exact ⟨bounded.follows, bounded.current_le, MonotonicTimestamp.add_eq_min, rest⟩

theorem Bounded.success (bounded : Bounded min max previous behavior)
    {now : MonotonicTimestamp} (come : 0 ≤ now) (last : now ≤ int64Max) :
    ∃ outcome, behavior.call (.success now) = some (behavior.onSuccess now, outcome) ∧
      Advances min max previous (behavior.onSuccess now) outcome := by
  refine ⟨.reset, ?_, none, bounded.restart rfl rfl rfl, fun outcomes rest => rest⟩
  rw [TaskBehavior.call, checkedSuccess, onSuccess]
  split
  · rfl
  · rename_i periodic
    have positive : 0 ≤ behavior.period := Int.not_lt.mp periodic
    rw [MonotonicTimestamp.checkedAdd_eq_some come last positive]
    rfl

/-- A call in time does not overflow, and keeps the delays within their bounds. -/
theorem Bounded.call (bounded : Bounded min max previous behavior) {call : Call}
    (timely : call.Timely) :
    ∃ outcome, behavior.call call = some (behavior.after call, outcome) ∧
      Advances min max previous (behavior.after call) outcome := by
  cases call with
  | responseTimeout now => exact bounded.responseTimeout timely.1 timely.2
  | success now => exact bounded.success timely.1 timely.2
  | reset => exact ⟨.reset, rfl, none, bounded.restart rfl rfl rfl, fun _ rest => rest⟩
  | disable =>
      refine ⟨.disabled, rfl, previous, ?_, fun _ rest => rest⟩
      exact ⟨bounded.minRetryDelay, bounded.maxRetryDelay, bounded.nonneg, bounded.ordered,
        bounded.representable, bounded.current_nonneg, bounded.current_le, bounded.follows⟩

theorem Bounded.run {calls : List Call} (bounded : Bounded min max previous behavior)
    (timely : ∀ call ∈ calls, call.Timely) :
    ∃ outcomes, machine.run behavior calls = some (calls.foldl after behavior, outcomes) ∧
      BacksOff min max previous outcomes := by
  induction calls generalizing previous behavior with
  | nil => exact ⟨[], rfl, trivial⟩
  | cons call calls ih =>
      obtain ⟨outcome, called, next, still, backsOff⟩ :=
        bounded.call (timely call List.mem_cons_self)
      obtain ⟨outcomes, ran, rest⟩ :=
        ih still fun other member => timely other (List.mem_cons_of_mem call member)
      refine ⟨outcome :: outcomes, ?_, backsOff outcomes rest⟩
      have stepped : machine.step behavior call = some (behavior.after call, outcome) := called
      rw [Machine.run, stepped, Option.bind_some]
      exact Option.map_eq_some_iff.mpr ⟨_, ran, rfl⟩

/-- Whatever the calls, nothing overflows, the delays back off from the minimum after every reset,
and no expiration wraps. -/
theorem backsOff_of_calls (period : TimeDuration) (expiration startExpiration : MonotonicTimestamp)
    {minRetryDelay maxRetryDelay : TimeDuration} (nonneg : 0 ≤ minRetryDelay)
    (ordered : minRetryDelay ≤ maxRetryDelay) (representable : maxRetryDelay ≤ int64Max)
    {calls : List Call} (timely : ∀ call ∈ calls, call.Timely) :
    let behavior : TaskBehavior :=
      { period, minRetryDelay, maxRetryDelay, startExpiration, expiration }
    ∃ outcomes, machine.run behavior calls = some (calls.foldl after behavior, outcomes) ∧
      BacksOff minRetryDelay maxRetryDelay none outcomes := by
  refine Bounded.run ?_ timely
  exact ⟨rfl, rfl, nonneg, ordered, representable, nonneg, ordered, rfl⟩

/-- The largest maximum, a clock at its end, and a success in between. -/
theorem backsOff_unbounded :
    let behavior : TaskBehavior :=
      { period := 0, minRetryDelay := 2 ^ 61, maxRetryDelay := int64Max
        startExpiration := .max, expiration := .min }
    let calls := [Call.responseTimeout 5, .responseTimeout (2 ^ 62), .responseTimeout int64Max,
      .success 7, .responseTimeout 9]
    ∃ outcomes, machine.run behavior calls = some (calls.foldl after behavior, outcomes) ∧
      BacksOff (2 ^ 61) int64Max none outcomes :=
  backsOff_of_calls 0 .min .max (by decide) (by decide) (by decide) (by decide)

end TaskBehavior

end OpenDnp3.Master
