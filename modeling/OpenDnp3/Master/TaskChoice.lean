import Mathlib.Data.Prod.Lex
import OpenDnp3.Library.FirstMinimum
import OpenDnp3.Master.TaskFlowRefinement

/-!
# Choice of tasks

Which task the scheduler runs next, and what that means for tasks that are
blocked.
-/

set_option autoImplicit false

namespace OpenDnp3.Master

open OpenDnp3.App OpenDnp3.Library

variable {Runner : Type} [DecidableEq Runner]

namespace Common

/-! ## Comparisons -/

namespace Comparison

variable {α : Type} {β : Type} [LinearOrder α] [LinearOrder β]

/-- The lesser of two keys. -/
def ofKeys (left right : α) : Comparison :=
  if left < right then .left else if right < left then .right else .same

theorem ofKeys_eq_right_iff {left right : α} : ofKeys left right = .right ↔ right < left := by
  rw [ofKeys]
  split_ifs with less greater
  · exact ⟨nofun, fun greater => absurd less greater.not_gt⟩
  · exact ⟨fun _ => greater, fun _ => rfl⟩
  · exact ⟨nofun, fun less => absurd less greater⟩

theorem ofKeys_eq_left_iff {left right : α} : ofKeys left right = .left ↔ left < right := by
  rw [ofKeys]
  split_ifs with less greater
  · exact ⟨fun _ => less, fun _ => rfl⟩
  · exact ⟨nofun, fun again => absurd again less⟩
  · exact ⟨nofun, fun again => absurd again less⟩

/-- Pairs of keys are compared by the first ones, and by the second ones if those are the same. -/
theorem ofKeys_toLex (one two : α) (three four : β) :
    ofKeys (toLex (one, three)) (toLex (two, four)) =
      (ofKeys one two).orElse (ofKeys three four) := by
  rw [ofKeys, ofKeys, orElse]
  simp only [Prod.Lex.toLex_lt_toLex]
  rcases lt_trichotomy one two with less | rfl | greater
  · simp [less]
  · simp [ofKeys]
  · simp [greater, greater.not_gt, greater.ne']

theorem compareLower_eq (left right : Int) : compareLower left right = ofKeys left right := rfl

theorem compareUnless_eq (left right : Bool) : compareUnless left right = ofKeys left right := by
  cases left <;> cases right <;> rfl

end Comparison

/-- A comparison ranks: no element is worse than itself, or than one that is worse than another
one it is better than, and of two elements one is not worse than the other. -/
structure Comparison.TotalPreorder {α : Type} (compare : α → α → Comparison) : Prop where
  refl : ∀ one, compare one one ≠ .right
  trans : ∀ one two three, compare one two ≠ .right → compare two three ≠ .right →
    compare one three ≠ .right
  total : ∀ one two, compare one two ≠ .right ∨ compare two one ≠ .right
  swap : ∀ one two, compare one two = .left ↔ compare two one = .right

theorem Comparison.totalPreorder_ofKeys {α : Type} {β : Type} [LinearOrder β] (key : α → β) :
    TotalPreorder fun one two => ofKeys (key one) (key two) where
  refl one := by simp [ofKeys_eq_right_iff]
  trans one two three first second := by
    rw [Ne, ofKeys_eq_right_iff, not_lt] at first second ⊢
    exact first.trans second
  total one two := by
    simp only [Ne, ofKeys_eq_right_iff, not_lt]
    exact le_total (key one) (key two)
  swap one two := by rw [ofKeys_eq_left_iff, ofKeys_eq_right_iff]

/-! ## Best task -/

/-- What tasks are compared by: whether they are disabled, whether they are blocked, when they
run, and their priority. -/
abbrev TaskKey := Bool ×ₗ Bool ×ₗ Int ×ₗ Int

variable (common : Common Runner) (environment : Environment Runner)

def taskKey (record : Record Runner) : TaskKey :=
  toLex (decide (common.expirationTime environment record.task = .max),
    toLex (common.isBlocked record.task,
      toLex (max environment.now (common.expirationTime environment record.task),
        ((common.body record.task).priority : Int))))

/-- Tasks are compared by their keys. -/
theorem getBestTaskToRun_eq (left right : Record Runner) :
    common.getBestTaskToRun environment left right =
      Comparison.ofKeys (common.taskKey environment left) (common.taskKey environment right) := by
  have effective (time : MonotonicTimestamp) :
      (if environment.now ≥ time then environment.now else time) = max environment.now time := by
    rw [max_comm, max_def]
  rw [taskKey, taskKey, Comparison.ofKeys_toLex, Comparison.ofKeys_toLex, Comparison.ofKeys_toLex,
    ← Comparison.compareUnless_eq, ← Comparison.compareUnless_eq, ← Comparison.compareLower_eq,
    ← Comparison.compareLower_eq, ← effective, ← effective]
  rfl

omit [DecidableEq Runner] in
/-- The best record so far becomes the best record of all. -/
theorem bestFrom_firstMinimum {key : Record Runner → TaskKey}
    {replaces : Record Runner → Record Runner → Bool}
    (strictly : ∀ best record, replaces best record = true ↔ key record < key best)
    {seen : List (Record Runner)} {best : Record Runner × Nat}
    (minimum : FirstMinimum key seen best.2 best.1) (records : List (Record Runner)) :
    FirstMinimum key (seen ++ records) (bestFrom replaces best seen.length records).2
      (bestFrom replaces best seen.length records).1 := by
  induction records generalizing seen best with
  | nil =>
      rw [List.append_nil]
      exact minimum
  | cons record records ih =>
      have length : seen.length + 1 = (seen ++ [record]).length := by simp
      rw [bestFrom, length, ← List.singleton_append, ← List.append_assoc]
      refine ih ?_
      have next := minimum.concat record
      by_cases less : key record < key best.1
      · rw [if_pos ((strictly best.1 record).mpr less)]
        rwa [if_pos less] at next
      · rw [if_neg (mt (strictly best.1 record).mp less)]
        rwa [if_neg less] at next

/-- The task that is chosen, or waited for. -/
theorem chooseTask_firstMinimum (present : common.scheduler.tasks ≠ []) :
    ∃ position best,
      FirstMinimum (common.taskKey environment) common.scheduler.tasks position best ∧
        common.chooseTask environment =
          if environment.now ≥ common.expirationTime environment best.task then
            ({ common with
              scheduler :=
                { common.scheduler with
                  current := some best
                  tasks := common.scheduler.tasks.eraseIdx position } }, some best)
          else
            ({ common with
              scheduler :=
                { common.scheduler with
                  taskTimer := some (common.expirationTime environment best.task) } }, none) := by
  rw [chooseTask]
  cases tasks : common.scheduler.tasks with
  | nil => exact absurd tasks present
  | cons first records =>
      have strictly (best record : Record Runner) :
          (common.getBestTaskToRun environment best record == .right) = true ↔
            common.taskKey environment record < common.taskKey environment best := by
        rw [beq_iff_eq, getBestTaskToRun_eq, Comparison.ofKeys_eq_right_iff]
      have start : FirstMinimum (common.taskKey environment) [first] (first, 0).2 (first, 0).1 :=
        .singleton first
      have minimum := bestFrom_firstMinimum strictly start records
      exact ⟨_, _, minimum, rfl⟩

/-! ## Checks -/

/-- What a check changes before it looks for a task. -/
def checked : Common Runner :=
  ({ common with scheduler := { common.scheduler with taskCheckPending := false } }
    ).restartTimeoutTimer

omit [DecidableEq Runner] in
theorem checked_eq : ∃ taskStartTimeout, common.checked =
    { common with
      scheduler := { common.scheduler with taskCheckPending := false, taskStartTimeout } } := by
  rw [checked, restartTimeoutTimer]
  split
  · exact ⟨common.scheduler.taskStartTimeout, rfl⟩
  · exact ⟨_, rfl⟩

theorem checkForTaskRun_eq (running : common.scheduler.isShutdown = false)
    (free : common.scheduler.current = none) :
    common.checkForTaskRun environment = common.checked.chooseTask environment := by
  obtain ⟨taskStartTimeout, same⟩ := common.checked_eq
  have free : common.checked.scheduler.current.isSome = false := by
    rw [same]
    simp [free]
  rw [checkForTaskRun, if_neg (by simp [running])]
  change (if common.checked.scheduler.current.isSome = true then _ else _) = _
  rw [if_neg (by simp [free])]
  rfl

/-- What a check does with the best task: it is started when its time has come, and waited for
otherwise. -/
structure Chooses (position : Nat) (best : Record Runner) : Prop where
  started : environment.now ≥ common.expirationTime environment best.task →
    (common.checkForTaskRun environment).2 = some best ∧
      (common.checkForTaskRun environment).1.scheduler.current = some best ∧
      (common.checkForTaskRun environment).1.scheduler.tasks =
        common.scheduler.tasks.eraseIdx position
  armed : environment.now < common.expirationTime environment best.task →
    (common.checkForTaskRun environment).2 = none ∧
      (common.checkForTaskRun environment).1.scheduler.taskTimer =
        some (common.expirationTime environment best.task) ∧
      (common.checkForTaskRun environment).1.scheduler.tasks = common.scheduler.tasks

theorem exists_choice (running : common.scheduler.isShutdown = false)
    (free : common.scheduler.current = none) (present : common.scheduler.tasks ≠ []) :
    ∃ position best,
      FirstMinimum (common.taskKey environment) common.scheduler.tasks position best ∧
        common.Chooses environment position best := by
  obtain ⟨taskStartTimeout, same⟩ := common.checked_eq
  have chosen := common.checked.chooseTask_firstMinimum environment (by rwa [same])
  rw [← checkForTaskRun_eq common environment running free, same] at chosen
  obtain ⟨position, best, minimum, chosen⟩ := chosen
  refine ⟨position, best, minimum, ⟨fun due => ?_, fun later => ?_⟩⟩
  · rw [chosen.trans (if_pos due)]
    exact ⟨rfl, rfl, rfl⟩
  · rw [chosen.trans (if_neg (not_le.mpr later))]
    exact ⟨rfl, rfl, rfl⟩

/-- A check chooses the first of the tasks with the least key, which is the same key for any order
of the tasks, and the comparison of two tasks ranks them. -/
theorem checkForTaskRun_firstMinimum (running : common.scheduler.isShutdown = false)
    (free : common.scheduler.current = none) (present : common.scheduler.tasks ≠ []) :
    ∃ position best,
      FirstMinimum (common.taskKey environment) common.scheduler.tasks position best ∧
        common.Chooses environment position best ∧
        (∀ tasks place other, List.Perm common.scheduler.tasks tasks →
          FirstMinimum (common.taskKey environment) tasks place other →
            common.taskKey environment best = common.taskKey environment other) ∧
        Comparison.TotalPreorder (common.getBestTaskToRun environment) := by
  obtain ⟨position, best, minimum, chooses⟩ :=
    common.exists_choice environment running free present
  refine ⟨position, best, minimum, chooses,
    fun tasks place other perm again => minimum.key_eq_of_perm again perm, ?_⟩
  have compared : common.getBestTaskToRun environment = fun left right =>
      Comparison.ofKeys (common.taskKey environment left) (common.taskKey environment right) :=
    funext₂ (common.getBestTaskToRun_eq environment)
  rw [compared]
  exact Comparison.totalPreorder_ofKeys _

omit [DecidableEq Runner] in
/-- A master comes online, and the first of the tasks that it has is the one that disables
unsolicited responses. -/
theorem checkForTaskRun_firstMinimum_startup :
    ∃ (common : Common Unit) (environment : Environment Unit) (position : Nat)
      (best : Record Unit),
      common.scheduler.tasks.length = 6 ∧
        FirstMinimum (common.taskKey environment) common.scheduler.tasks position best ∧
        common.Chooses environment position best := by
  have some := checkForTaskRun_firstMinimum
    (@Channel.after Unit _ .atZero (Channel.initial (fun _ => ⟨1, 10⟩) fun _ => {})
      [(.atZero, .lowerLayerUp ())]).common .atZero (by decide +kernel) (by decide +kernel)
      (by decide +kernel)
  obtain ⟨position, best, minimum, chooses, _⟩ := some
  exact ⟨_, _, position, best, by decide +kernel, minimum, chooses⟩

/-! ## Blocked tasks -/

/-- The tasks that come first: those that are enabled, or all of them if none is. -/
def Preferred (record : Record Runner) : Prop :=
  common.expirationTime environment record.task ≠ .max ∨
    ∀ other ∈ common.scheduler.tasks, common.expirationTime environment other.task = .max

/-- A check finds that a task is due, and that all the tasks that come first are blocked. -/
def Overtakes : Prop :=
  common.scheduler.isShutdown = false ∧ common.scheduler.current = none ∧
    (∃ record ∈ common.scheduler.tasks, common.Preferred environment record ∧
      environment.now ≥ common.expirationTime environment record.task) ∧
    ∀ record ∈ common.scheduler.tasks, common.Preferred environment record →
      common.isBlocked record.task = true

variable {common environment} {best record : Record Runner}

/-- A task that is better than one that is enabled is enabled. -/
theorem enabled_of_le
    (better : common.taskKey environment best ≤ common.taskKey environment record)
    (enabled : common.expirationTime environment record.task ≠ .max) :
    common.expirationTime environment best.task ≠ .max := by
  rw [taskKey, taskKey, Prod.Lex.toLex_le_toLex] at better
  rcases better with less | ⟨same, _⟩
  · exact of_decide_eq_false (Bool.lt_iff.mp less).1
  · exact of_decide_eq_false (same.trans (decide_eq_false enabled))

/-- A task that is worse than one that is blocked, and not for being disabled, is blocked. -/
theorem blocked_of_le
    (better : common.taskKey environment best ≤ common.taskKey environment record)
    (same : common.expirationTime environment best.task = .max ↔
      common.expirationTime environment record.task = .max)
    (blocked : common.isBlocked best.task = true) :
    common.isBlocked record.task = true ∧
      max environment.now (common.expirationTime environment best.task) ≤
        max environment.now (common.expirationTime environment record.task) := by
  rw [taskKey, taskKey, Prod.Lex.toLex_le_toLex, Prod.Lex.toLex_le_toLex,
    Prod.Lex.toLex_le_toLex, decide_eq_decide.mpr same, blocked] at better
  rcases better.resolve_left (lt_irrefl _) with ⟨_, less | ⟨blocked, times⟩⟩
  · exact Bool.noConfusion (Bool.lt_iff.mp less).1
  · refine ⟨blocked.symm, ?_⟩
    rcases times with less | ⟨equal, _⟩
    · exact less.le
    · exact equal.le

variable (minimum : ∀ other ∈ common.scheduler.tasks,
  common.taskKey environment best ≤ common.taskKey environment other)
  (chosen : best ∈ common.scheduler.tasks)

include minimum in
/-- The best task comes first. -/
theorem preferred_of_least : common.Preferred environment best := by
  by_cases disabled : common.expirationTime environment best.task = .max
  · refine .inr fun other member => ?_
    by_contra enabled
    exact enabled_of_le (minimum other member) enabled disabled
  · exact .inl disabled

include minimum chosen in
/-- The best task is disabled only if all those that come first are. -/
theorem disabled_iff_of_least (member : record ∈ common.scheduler.tasks)
    (preferred : common.Preferred environment record) :
    common.expirationTime environment best.task = .max ↔
      common.expirationTime environment record.task = .max := by
  rcases preferred with enabled | disabled
  · exact ⟨fun disabled => absurd disabled (enabled_of_le (minimum record member) enabled),
      fun disabled => absurd disabled enabled⟩
  · exact ⟨fun _ => disabled record member, fun _ => disabled best chosen⟩

variable (common environment)

/-- A check that starts a task has one to choose from. -/
theorem exists_choice_of_started {record : Record Runner}
    (started : (common.checkForTaskRun environment).2 = some record) :
    common.scheduler.isShutdown = false ∧ common.scheduler.current = none ∧
      common.scheduler.tasks ≠ [] := by
  have running : common.scheduler.isShutdown = false := by
    by_contra stopped
    rw [checkForTaskRun, if_pos (Bool.not_eq_false _ ▸ stopped)] at started
    cases started
  obtain ⟨taskStartTimeout, same⟩ := common.checked_eq
  have free : common.scheduler.current = none := by
    by_contra busy
    have busy : common.checked.scheduler.current.isSome = true := by
      rw [same]
      exact Option.isSome_iff_ne_none.mpr busy
    rw [checkForTaskRun, if_neg (by simp [running])] at started
    change (if common.checked.scheduler.current.isSome = true then (common.checked, none)
      else common.checked.chooseTask environment).2 = some record at started
    rw [if_pos busy] at started
    cases started
  refine ⟨running, free, fun empty => ?_⟩
  rw [common.checkForTaskRun_eq environment running free, chooseTask, same] at started
  simp only [empty] at started
  cases started

/-- A blocked task is started exactly when a task is due and all that come first are blocked. -/
theorem starts_blocked_iff :
    (∃ record, (common.checkForTaskRun environment).2 = some record ∧
        common.isBlocked record.task = true) ↔ common.Overtakes environment := by
  constructor
  · rintro ⟨record, started, blocked⟩
    obtain ⟨running, free, present⟩ := common.exists_choice_of_started environment started
    obtain ⟨position, best, minimum, chooses⟩ :=
      common.exists_choice environment running free present
    have member := List.mem_of_getElem? minimum.found
    have due : environment.now ≥ common.expirationTime environment best.task := by
      by_contra later
      rw [(chooses.armed (not_le.mp later)).1] at started
      cases started
    obtain rfl := Option.some.inj ((chooses.started due).1.symm.trans started)
    refine ⟨running, free, ⟨best, member, preferred_of_least minimum.least, due⟩, ?_⟩
    intro record present preferred
    exact (blocked_of_le (minimum.least record present)
      (disabled_iff_of_least minimum.least member present preferred) blocked).1
  · rintro ⟨running, free, ⟨record, present, preferred, due⟩, blocked⟩
    obtain ⟨position, best, minimum, chooses⟩ :=
      common.exists_choice environment running free (List.ne_nil_of_mem present)
    have member := List.mem_of_getElem? minimum.found
    have bestBlocked := blocked best member (preferred_of_least minimum.least)
    have times := (blocked_of_le (minimum.least record present)
      (disabled_iff_of_least minimum.least member present preferred) bestBlocked).2
    have bestDue : environment.now ≥ common.expirationTime environment best.task :=
      (le_max_right _ _).trans (times.trans (max_le le_rfl due))
    exact ⟨best, (chooses.started bestDue).1, bestBlocked⟩

variable {common environment}

/-- If all tasks that come first are blocked, a task with a better priority that blocks others
does not come first itself: it is disabled, or it is not scheduled. -/
theorem exists_blocker
    (blocked : ∀ record ∈ common.scheduler.tasks, common.Preferred environment record →
      common.isBlocked record.task = true) {record : Record Runner}
    (member : record ∈ common.scheduler.tasks)
    (preferred : common.Preferred environment record) :
    ∃ context, ∃ blocking ∈ common.blockingTasks context,
      (common.body blocking).priority < (common.body record.task).priority ∧
        ∀ other ∈ common.scheduler.tasks, other.task = blocking →
          ¬common.Preferred environment other := by
  -- the induction is on the priority: a blocker that comes first is blocked in turn
  induction bound : (common.body record.task).priority using Nat.strong_induction_on
    generalizing record with
  | _ bound' ih =>
      subst bound
      obtain ⟨blocking, present, better⟩ := List.any_eq_true.mp (blocked record member preferred)
      obtain ⟨better, _⟩ := Bool.and_eq_true_iff.mp better
      have better := of_decide_eq_true better
      by_cases first : ∃ other ∈ common.scheduler.tasks, other.task = blocking ∧
          common.Preferred environment other
      · obtain ⟨other, scheduled, rfl, first⟩ := first
        obtain ⟨context, last, found, lower, last_first⟩ := ih _ better scheduled first rfl
        exact ⟨context, last, found, lower.trans better, last_first⟩
      · refine ⟨_, blocking, present, better, fun other scheduled same preferred => ?_⟩
        exact first ⟨other, scheduled, same, preferred⟩

end Common

/-! ## Channels -/

namespace Channel

/-- The state in which the scheduler checks for a task when an event happens. -/
def checks (channel : Channel Runner) : Input Runner → Option (Common Runner)
  | .runPosted =>
      match channel.common.posted with
      | [] => none
      | .checkForTaskRun :: posted => some { channel.common with posted }
      | .demand id :: posted => some (Common.setMinExpiration { channel.common with posted } id)
  | .taskTimer =>
      some { channel.common with
        scheduler := { channel.common.scheduler with taskTimer := none } }
  | _ => none

theorem step_of_checks [FloatOps] {channel : Channel Runner} {input : Input Runner}
    {common : Common Runner} (checks : channel.checks input = some common)
    (environment : Environment Runner) :
    channel.step environment input = { channel with common }.checkForTaskRun environment := by
  cases input with
  | runPosted =>
      rw [Channel.checks] at checks
      rw [step, runPosted]
      split at checks
      · cases checks
      · next posted same =>
        obtain rfl := Option.some.inj checks
        simp only [same]
      · next id posted same =>
        obtain rfl := Option.some.inj checks
        simp only [same]
  | taskTimer =>
      obtain rfl := Option.some.inj checks
      rfl
  | _ => cases checks

/-- No check starts a task that is blocked. -/
def StartsUnblocked (channel : Channel Runner) (input : Environment Runner × Input Runner) :
    Prop :=
  ∀ common record, channel.checks input.2 = some common →
    (common.checkForTaskRun input.1).2 = some record → common.isBlocked record.task = false

/-- A check finds a task that is due, and only blocked ones to start. -/
def Overtaken (channel : Channel Runner) (input : Environment Runner × Input Runner) : Prop :=
  ∃ common, channel.checks input.2 = some common ∧ common.Overtakes input.1

theorem startsUnblocked_iff (channel : Channel Runner)
    (input : Environment Runner × Input Runner) :
    channel.StartsUnblocked input ↔ ¬channel.Overtaken input := by
  constructor
  · rintro unblocked ⟨common, checks, overtakes⟩
    obtain ⟨record, started, blocked⟩ := (common.starts_blocked_iff input.1).mpr overtakes
    rw [unblocked common record checks started] at blocked
    cases blocked
  · intro orderly common record checks started
    by_contra blocked
    exact orderly ⟨common, checks, (common.starts_blocked_iff input.1).mp
      ⟨record, started, Bool.not_eq_false _ ▸ blocked⟩⟩

variable [FloatOps]

/-- As long as no check is overtaken, no task is started that is blocked, and the other way
round. -/
theorem reachesWhile_startsUnblocked_iff {addresses : Runner → Addresses}
    {params : Runner → MasterParams} {channel : Channel Runner} :
    machine.ReachesWhile (fun channel input => channel.StartsUnblocked input)
        (initial addresses params) channel ↔
      machine.ReachesWhile (fun channel input => ¬channel.Overtaken input)
        (initial addresses params) channel := by
  have guards : (fun channel input => StartsUnblocked channel input) =
      fun (channel : Channel Runner) input => ¬channel.Overtaken input := by
    funext channel input
    exact propext (channel.startsUnblocked_iff input)
  rw [guards]

omit [FloatOps] in
/-- The task that disables unsolicited responses fails for good, and the poll that it blocks is
started. -/
theorem check_starts_blocked_task :
    ¬∀ (channel : Channel Unit) (input : Environment Unit × Input Unit),
      (@machine Unit _ .atZero).Reaches (initial (fun _ => ⟨1, 10⟩) fun _ => {}) channel →
        channel.StartsUnblocked input := by
  intro always
  have reached := @reaches_after Unit _ .atZero (initial (fun _ => ⟨1, 10⟩) fun _ => {})
    [(.atZero, .lowerLayerUp ()), (.atZero, .runPosted),
      (.atZero, .receive () ⟨⟨10, 1⟩, [0xC0, 0x81, 0, 0, 0xFF]⟩)]
  have started := always _ (.atZero, .runPosted) reached
    _ ⟨.own () .startupIntegrity, ()⟩ rfl (by decide +kernel)
  exact absurd started (by decide +kernel)

end Channel

end OpenDnp3.Master
