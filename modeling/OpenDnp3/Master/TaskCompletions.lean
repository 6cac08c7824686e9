import OpenDnp3.Master.SchedulerExclusion

/-!
# Completions of tasks

A task that does not recur is completed once, and until then it is held.
-/

set_option autoImplicit false

namespace OpenDnp3.Master

open OpenDnp3.App OpenDnp3.Library

/-! ## Tasks that recur -/

namespace MasterTask

@[simp] theorem isRecurring_initializeTask (task : MasterTask) :
    task.initializeTask.isRecurring = task.isRecurring := by
  cases task <;> rfl

theorem isRecurring_buildRequest {task body : MasterTask} {application : IMasterApplication}
    {apdu after : APDURequest} {seq : UInt8} {success : Bool}
    (built : task.buildRequest application apdu seq = (body, after, success)) :
    body.isRecurring = task.isRecurring := by
  have same : (task.buildRequest application apdu seq).1.isRecurring = task.isRecurring := by
    cases task <;> rfl
  rwa [built] at same

theorem isRecurring_processResponse [FloatOps] {task body : MasterTask}
    {application : IMasterApplication} {header : APDUResponseHeader} {objects : List UInt8}
    {calls : List SOECall} {result : ResponseResult}
    (response : task.processResponse application header objects = (body, calls, result)) :
    body.isRecurring = task.isRecurring := by
  have same : (task.processResponse application header objects).1.isRecurring =
      task.isRecurring := by
    cases task <;> rfl
  rwa [response] at same

end MasterTask

variable {Runner : Type} [DecidableEq Runner]

/-! ## Books -/

/-- Whether an event completes a task. -/
def Event.completes (id : TaskId Runner) : Event Runner → Bool
  | .onTaskComplete other _ _ => other = id
  | _ => false

namespace Ledger

/-- How often a task was completed. -/
def completed (ledger : Ledger Runner) (id : TaskId Runner) : Nat :=
  ledger.history.countP (Event.completes id)

/-- How often the scheduler holds a task. -/
def held (ledger : Ledger Runner) (id : TaskId Runner) : Nat :=
  (ledger.current.toList ++ ledger.tasks).countP (·.task = id)

omit [DecidableEq Runner] in
def recurs (ledger : Ledger Runner) (id : TaskId Runner) : Bool := (ledger.body id).isRecurring

variable (ledger : Ledger Runner) (id : TaskId Runner) (runner : Runner)

theorem completed_log (event : Event Runner) :
    (ledger.log event).completed id = ledger.completed id + if event.completes id then 1 else 0 := by
  rw [completed, completed, log, List.countP_append, List.countP_singleton]

theorem completed_complete (result : TaskCompletion) :
    (ledger.complete id result).completed = ledger.completed + Pi.single id 1 := by
  funext other
  rw [complete, completed_log, Pi.add_apply, Pi.single_apply]
  simp [Event.completes, eq_comm]

theorem completed_completeRecords (result : TaskCompletion) (records : List (Record Runner)) :
    (completeRecords result records ledger).completed id =
      ledger.completed id +
        if ledger.recurs id then 0 else records.countP (·.task = id) := by
  rw [completed, completed, completeRecords, List.countP_append, completions, List.countP_map,
    List.countP_filter]
  congr 1
  split
  · next recurs =>
    refine List.countP_eq_zero.mpr fun record _ => ?_
    simp only [Function.comp_apply, Event.completes, Bool.and_eq_true, decide_eq_true_eq,
      Bool.not_eq_true', not_and, Bool.not_eq_false]
    rintro rfl
    exact recurs
  · next once =>
    refine List.countP_congr fun record _ => ?_
    simp only [Function.comp_apply, Event.completes, Bool.and_eq_true, decide_eq_true_eq,
      Bool.not_eq_true', and_iff_left_iff_imp]
    rintro rfl
    exact Bool.not_eq_true _ ▸ once

theorem held_eq_zero_iff :
    ledger.held id = 0 ↔
      (∀ record, ledger.current = some record → record.task ≠ id) ∧
        ∀ record ∈ ledger.tasks, record.task ≠ id := by
  rw [held, List.countP_eq_zero]
  simp only [List.mem_append, Option.mem_toList, decide_eq_true_eq]
  exact ⟨fun none => ⟨fun record current => none record (.inl current),
    fun record member => none record (.inr member)⟩,
    fun none record member => member.elim (none.1 record) (none.2 record)⟩

theorem held_add (running : ledger.isShutdown = false) :
    (ledger.add id runner).held = ledger.held + Pi.single id 1 := by
  funext other
  rw [add, if_neg (by simp [running]), Pi.add_apply, Pi.single_apply, held, held,
    ← List.append_assoc, List.countP_append, List.countP_singleton]
  simp [eq_comm]

omit [DecidableEq Runner] in
theorem add_of_stopped (stopped : ledger.isShutdown = true) : ledger.add id runner = ledger := by
  rw [add, if_pos stopped]

/-- The task that is chosen is still held. -/
theorem held_chosen {record : Record Runner} {position : Nat} (free : ledger.current = none)
    (chosen : ledger.tasks[position]? = some record) :
    { ledger with
      current := some record
      tasks := ledger.tasks.eraseIdx position }.held = ledger.held := by
  obtain ⟨inside, rfl⟩ := List.getElem?_eq_some_iff.mp chosen
  funext other
  rw [held, held, free]
  exact (List.getElem_cons_eraseIdx_perm inside).countP_eq _

/-- A task that is released is held once more at most, which is not more than before. -/
theorem held_release_le (other : TaskId Runner) :
    (ledger.release runner).held other ≤ ledger.held other := by
  have dropped (tasks : List (Record Runner)) (current : Record Runner) :
      ({ ledger with current := none, tasks } : Ledger Runner).held other ≤
        ({ ledger with current := some current, tasks } : Ledger Runner).held other := by
    simp [held, List.countP_cons]
  rw [release]
  cases current : ledger.current with
  | none => exact le_rfl
  | some record =>
      have same : { ledger with current := some record } = ledger := by rw [← current]
      dsimp only
      split_ifs with foreign recurs
      · exact le_rfl
      · rw [add]
        split
        · exact (dropped ledger.tasks record).trans_eq (by rw [same])
        · rw [held, held, current]
          simp [List.countP_append, List.countP_cons, Nat.add_comm]
      · exact (dropped ledger.tasks record).trans_eq (by rw [same])

/-- A current task that does not recur is not held any more when it is released. -/
theorem held_release {id other : TaskId Runner} (running : ledger.isShutdown = false)
    (current : ledger.current = some ⟨id, runner⟩) (once : ledger.recurs other = false) :
    (ledger.release runner).held other + (Pi.single id 1 : TaskId Runner → Nat) other =
      ledger.held other := by
  have dropped (tasks : List (Record Runner)) :
      ({ ledger with current := none, tasks } : Ledger Runner).held other +
        (Pi.single id 1 : TaskId Runner → Nat) other =
      ({ ledger with current := some ⟨id, runner⟩, tasks } : Ledger Runner).held other := by
    simp [held, List.countP_cons, Pi.single_apply, eq_comm]
  have same : { ledger with current := some ⟨id, runner⟩ } = ledger := by rw [← current]
  have released : (ledger.release runner) =
      { (if ledger.recurs id then ledger.add id runner else ledger) with current := none } := by
    simp only [release, current]
    rw [if_neg (not_not.mpr rfl)]
    rfl
  rw [released]
  split
  · next recurs =>
    have foreign : other ≠ id := by
      rintro rfl
      rw [once] at recurs
      cases recurs
    have held := dropped (ledger.tasks ++ [⟨id, runner⟩])
    have added := congrFun (ledger.held_add id runner running) other
    rw [Pi.add_apply, Pi.single_apply, if_neg foreign, add, if_neg (by simp [running])] at added
    rw [add, if_neg (by simp [running]), held, ← same]
    rwa [← same] at added
  · have held := dropped ledger.tasks
    rwa [same] at held

theorem completed_release : (ledger.release runner).completed = ledger.completed := by
  obtain ⟨current, tasks, released⟩ := ledger.release_eq runner
  rw [released]
  rfl

theorem completed_other {event : Event Runner} (other : ∀ id, event.completes id = false) :
    (ledger.log event).completed = ledger.completed := by
  funext id
  rw [completed_log, other]
  rfl

theorem completed_answered (body : MasterTask) (header : APDUResponseHeader)
    (objects : List UInt8) (calls : List SOECall) :
    (ledger.answered runner id body header objects calls).completed = ledger.completed := by
  rw [answered, completed_other _ fun _ => rfl]
  exact completed_other ledger fun _ => rfl

theorem completed_confirming (header : APDUResponseHeader) :
    (ledger.confirming runner header).completed = ledger.completed := by
  rw [confirming]
  split
  · exact completed_other ledger fun _ => rfl
  · rfl

omit [DecidableEq Runner] in
theorem isShutdown_confirming (header : APDUResponseHeader) :
    (ledger.confirming runner header).isShutdown = ledger.isShutdown := by
  rw [confirming]
  split <;> rfl

omit [DecidableEq Runner] in
theorem recurs_confirming (header : APDUResponseHeader) :
    (ledger.confirming runner header).recurs = ledger.recurs := by
  rw [confirming]
  split <;> rfl

omit [DecidableEq Runner] in
theorem created_confirming (header : APDUResponseHeader) :
    (ledger.confirming runner header).created = ledger.created := by
  rw [confirming]
  split <;> rfl

theorem held_schedule {next : Ledger Runner} (same : next.schedule = ledger.schedule) :
    next.held = ledger.held := by
  obtain ⟨_, same⟩ := Prod.mk.inj same
  obtain ⟨current, tasks⟩ := Prod.mk.inj same
  funext id
  rw [held, held, current, tasks]

theorem recurs_setBody {id : TaskId Runner} {body : MasterTask}
    (same : body.isRecurring = ledger.recurs id) :
    (ledger.setBody id body).recurs = ledger.recurs := by
  funext other
  change (Function.update ledger.body id body other).isRecurring = ledger.recurs other
  rw [Function.update_apply]
  split
  · next own => rw [own, same]
  · rfl

theorem recurs_create (body : MasterTask) :
    (ledger.create runner body).recurs =
      Function.update ledger.recurs (.user runner ledger.created) body.isRecurring :=
  Function.comp_update MasterTask.isRecurring ledger.body _ body

end Ledger

/-! ## Settlement -/

/-- Tasks that are held are completed instead, if they do not recur. -/
structure Ledger.Settles (ledger next : Ledger Runner) : Prop where
  isShutdown : next.isShutdown = ledger.isShutdown
  recurs : next.recurs = ledger.recurs
  created : next.created = ledger.created
  held : ∀ id, next.held id ≤ ledger.held id
  unheld : ∀ id, ledger.held id = 0 → next.completed id = ledger.completed id
  account : ∀ id, ledger.recurs id = false →
    next.completed id + next.held id = ledger.completed id + ledger.held id

namespace Ledger.Settles

theorem refl (ledger : Ledger Runner) : ledger.Settles ledger :=
  ⟨rfl, rfl, rfl, fun _ => le_rfl, fun _ _ => rfl, fun _ _ => rfl⟩

theorem trans {ledger middle last : Ledger Runner} (first : ledger.Settles middle)
    (second : middle.Settles last) : ledger.Settles last where
  isShutdown := second.isShutdown.trans first.isShutdown
  recurs := second.recurs.trans first.recurs
  created := second.created.trans first.created
  held id := (second.held id).trans (first.held id)
  unheld id none :=
    (second.unheld id (Nat.eq_zero_of_le_zero (none ▸ first.held id))).trans (first.unheld id none)
  account id once := (second.account id (first.recurs ▸ once)).trans (first.account id once)

theorem other (ledger : Ledger Runner) {event : Event Runner}
    (other : ∀ id, event.completes id = false) : ledger.Settles (ledger.log event) where
  isShutdown := rfl
  recurs := rfl
  created := rfl
  held _ := le_rfl
  unheld id _ := congrFun (ledger.completed_other other) id
  account id _ := congrArg (· + ledger.held id) (congrFun (ledger.completed_other other) id)

/-- Records are completed and not held any more. -/
theorem completeRecords (ledger : Ledger Runner) (result : TaskCompletion)
    (records : List (Record Runner)) (current : Option (Record Runner))
    (tasks : List (Record Runner))
    (held : ∀ id, records.countP (·.task = id) +
      (current.toList ++ tasks).countP (·.task = id) = ledger.held id) :
    ledger.Settles { Ledger.completeRecords result records ledger with current, tasks } where
  isShutdown := rfl
  recurs := rfl
  created := rfl
  held id := (Nat.le_add_left _ _).trans_eq (held id)
  unheld id none := by
    have uncounted : records.countP (·.task = id) = 0 := by
      have := held id
      omega
    refine (ledger.completed_completeRecords id result records).trans ?_
    rw [uncounted, ite_self, Nat.add_zero]
  account id once := by
    have completed := ledger.completed_completeRecords id result records
    rw [if_neg (by simp [once])] at completed
    change (Ledger.completeRecords result records ledger).completed id +
      (current.toList ++ tasks).countP (·.task = id) = _
    rw [completed, Nat.add_assoc, held]

theorem erase (ledger : Ledger Runner) (result : TaskCompletion)
    (selects : Record Runner → Bool) : ledger.Settles (ledger.erase result selects) := by
  refine completeRecords ledger result _ ledger.current _ fun id => ?_
  have split := List.countP_eq_countP_filter_add ledger.tasks (·.task = id) selects
  rw [Ledger.held, List.countP_append, List.countP_append]
  omega

theorem abandon (ledger : Ledger Runner) (runner : Runner) :
    ledger.Settles (ledger.abandon runner) := by
  rw [Ledger.abandon]
  cases current : ledger.current with
  | none => exact refl ledger
  | some record =>
      dsimp only
      split
      · refine completeRecords ledger _ [record] none ledger.tasks fun id => ?_
        rw [Ledger.held, current]
        simp [List.countP_cons, Nat.add_comm]
      · exact refl ledger

theorem close (ledger : Ledger Runner) (runner : Runner) :
    ledger.Settles (ledger.close runner) := by
  rw [Ledger.close]
  refine Settles.trans ?_ (other _ fun _ => rfl)
  split
  · exact refl ledger
  · exact (abandon ledger runner).trans (erase _ _ _)

end Ledger.Settles

/-! ## What a move makes of the books -/

variable (runner : Runner) (party after : Party Runner) (ledger next : Ledger Runner)

/-- The same tasks are known. -/
structure Knows : Prop where
  isShutdown : next.isShutdown = ledger.isShutdown
  recurs : next.recurs = ledger.recurs
  created : next.created = ledger.created
  boundTasks : after.boundTasks = party.boundTasks

/-- There is a new task. -/
structure Creates (recurring : Bool) : Prop where
  isShutdown : next.isShutdown = ledger.isShutdown
  recurs : next.recurs =
    Function.update ledger.recurs (.user runner ledger.created) recurring
  created : next.created = ledger.created + 1
  activeTask : after.activeTask = party.activeTask
  boundTasks : after.boundTasks = party.boundTasks ∨
    recurring = true ∧ after.boundTasks = party.boundTasks ++ [.user runner ledger.created]

inductive Turnover : Prop
  | kept (knows : Knows party after ledger next)
      (activeTask : after.activeTask = party.activeTask)
      (completed : next.completed = ledger.completed) (held : next.held = ledger.held)
  | started (id : TaskId Runner) (knows : Knows party after ledger next)
      (running : ledger.isShutdown = false) (activeTask : after.activeTask = some id)
      (chosen : ledger.held id ≠ 0) (completed : next.completed = ledger.completed)
      (held : next.held = ledger.held)
  | added (id : TaskId Runner) (knows : Knows party after ledger next)
      (known : id ∈ party.boundTasks ∨ ∃ task, id = .own runner task)
      (running : ledger.isShutdown = false) (activeTask : after.activeTask = party.activeTask)
      (completed : next.completed = ledger.completed)
      (held : next.held = ledger.held + Pi.single id 1)
  | created (recurring : Bool) (creates : Creates runner party after ledger next recurring)
      (done placed : Nat) (atMostOne : done + placed ≤ 1)
      (one : ledger.isShutdown = false → recurring = false → done + placed = 1)
      (completed : next.completed =
        ledger.completed + Pi.single (.user runner ledger.created) done)
      (held : next.held = ledger.held + Pi.single (.user runner ledger.created) placed)
  | done (id : TaskId Runner) (knows : Knows party after ledger next)
      (active : party.activeTask = some id) (inactive : after.activeTask = none)
      (completed : next.completed = ledger.completed + Pi.single id 1)
      (atMost : ∀ other, next.held other ≤ ledger.held other)
      (held : ledger.isShutdown = false → ledger.current = some ⟨id, runner⟩ →
        ∀ other, ledger.recurs other = false →
          next.held other + (Pi.single id 1 : TaskId Runner → Nat) other = ledger.held other)

variable {runner party after ledger next}

namespace Turnover

/-- A completed task is released. -/
theorem of_release {books : Ledger Runner} {id : TaskId Runner} {last : Party Runner}
    (knows : Knows party last ledger books) (schedule : books.schedule = ledger.schedule)
    (active : party.activeTask = some id) (inactive : last.activeTask = none)
    (completed : books.completed = ledger.completed + Pi.single id 1) :
    Turnover runner party last ledger (books.release runner) := by
  refine .done id ?_ active inactive (books.completed_release runner ▸ completed)
    (fun other => Ledger.held_schedule ledger schedule ▸ books.held_release_le runner other) ?_
  · obtain ⟨current, tasks, released⟩ := books.release_eq runner
    rw [released]
    exact ⟨knows.isShutdown, knows.recurs, knows.created, knows.boundTasks⟩
  · intro running current other once
    obtain ⟨isShutdown, same⟩ := Prod.mk.inj schedule
    have sameCurrent := (Prod.mk.inj same).1
    rw [← Ledger.held_schedule ledger schedule]
    exact books.held_release runner (isShutdown.trans running) (sameCurrent.trans current)
      (knows.recurs ▸ once)

end Turnover

variable [FloatOps] {permits : Permits Runner}

theorem Move.turnover (move : Move permits runner party ledger after next) :
    Turnover runner party after ledger next := by
  cases move with
  | note event silent =>
      refine .kept ⟨rfl, rfl, rfl, rfl⟩ rfl (ledger.completed_other fun id => ?_) rfl
      cases event with
      | onTaskComplete => cases silent
      | _ => rfl
  | opened | ignored | confirmed | ready =>
      exact .kept ⟨rfl, rfl, rfl, rfl⟩ rfl (ledger.completed_other fun _ => rfl) rfl
  | expired => exact .kept ⟨rfl, rfl, rfl, rfl⟩ rfl rfl rfl
  | refused id position running free chosen =>
      have held := ledger.held_chosen free chosen
      exact .kept ⟨rfl, rfl, rfl, rfl⟩ rfl (Ledger.completed_other _ fun _ => rfl) held
  | added id online known =>
      cases running : ledger.isShutdown with
      | true =>
          rw [ledger.add_of_stopped id runner running]
          exact .kept ⟨rfl, rfl, rfl, rfl⟩ rfl rfl rfl
      | false =>
          have held := ledger.held_add id runner running
          obtain ⟨tasks, added⟩ := ledger.add_eq id runner
          rw [added] at held ⊢
          exact .added id ⟨rfl, rfl, rfl, rfl⟩ known running rfl rfl held
  | scheduled params request online =>
      have recurs := ledger.recurs_create runner (request.body params)
      cases running : ledger.isShutdown with
      | true =>
          rw [Ledger.add_of_stopped (ledger.create runner (request.body params)) _ runner running]
          refine .created _ ⟨rfl, recurs, rfl, rfl, .inl rfl⟩ 0 0 (by decide) ?_ ?_ ?_
          · intro now
            rw [running] at now
            cases now
          · rw [Pi.single_zero, add_zero]
            rfl
          · rw [Pi.single_zero, add_zero]
            rfl
      | false =>
          have held := Ledger.held_add (ledger.create runner (request.body params))
            (.user runner ledger.created) runner running
          obtain ⟨tasks, added⟩ := Ledger.add_eq (ledger.create runner (request.body params))
            (.user runner ledger.created) runner
          rw [added] at held ⊢
          refine .created _ ⟨rfl, recurs, rfl, rfl, .inl rfl⟩ 0 1 (by decide) (fun _ _ => rfl) ?_
            held
          rw [Pi.single_zero, add_zero]
          rfl
  | declined params request offline =>
      have recurs := ledger.recurs_create runner (request.body params)
      refine .created _ ⟨rfl, recurs, rfl, rfl, .inl rfl⟩ 1 0 (by decide) (fun _ _ => rfl) ?_ ?_
      · exact Ledger.completed_complete (ledger.create runner (request.body params)) _ _
      · rw [Pi.single_zero, add_zero]
        rfl
  | bound builder =>
      have recurs := ledger.recurs_create runner (.userPoll builder true 0)
      refine .created true ⟨rfl, recurs, rfl, rfl, .inr ⟨rfl, rfl⟩⟩ 0 0 (by decide) nofun ?_ ?_
      · rw [Pi.single_zero, add_zero]
        rfl
      · rw [Pi.single_zero, add_zero]
        rfl
  | started id position running free chosen =>
      have recurs := Ledger.recurs_setBody ledger
        (MasterTask.isRecurring_initializeTask (ledger.body id))
      have held := ledger.held_chosen free chosen
      have isHeld : ledger.held id ≠ 0 := fun none =>
        (ledger.held_eq_zero_iff id).mp none |>.2 _ (List.mem_of_getElem? chosen) rfl
      refine .started id ⟨rfl, recurs, rfl, rfl⟩ running rfl isHeld ?_ held
      exact (Ledger.completed_other _ fun _ => rfl).trans (Ledger.completed_other _ fun _ => rfl)
  | requested id application buffer apdu body tstate active quiet built =>
      have recurs := ledger.recurs_setBody (MasterTask.isRecurring_buildRequest built)
      exact .kept ⟨rfl, recurs, rfl, rfl⟩ rfl (Ledger.completed_other _ fun _ => rfl) rfl
  | unformatted id application buffer apdu body tstate active failed =>
      have recurs := ledger.recurs_setBody (MasterTask.isRecurring_buildRequest failed)
      exact .of_release ⟨rfl, recurs, rfl, rfl⟩ rfl active rfl (Ledger.completed_complete _ _ _)
  | timedOut id online tstate active =>
      exact .of_release ⟨rfl, rfl, rfl, rfl⟩ rfl active rfl (Ledger.completed_complete _ _ _)
  | reported =>
      refine .kept ⟨rfl, rfl, rfl, rfl⟩ rfl ?_ rfl
      exact (Ledger.completed_other _ fun _ => rfl).trans (Ledger.completed_other _ fun _ => rfl)
  | unsolicited =>
      refine .kept ⟨rfl, rfl, rfl, rfl⟩ rfl ?_ rfl
      exact (Ledger.completed_other _ fun _ => rfl).trans
        ((Ledger.completed_other _ fun _ => rfl).trans (Ledger.completed_other _ fun _ => rfl))
  | continued answers | repeated answers =>
      obtain ⟨application, response⟩ := answers.response
      have recurs := ledger.recurs_setBody (MasterTask.isRecurring_processResponse response)
      rw [Party.confirming_eq]
      refine .kept ⟨Ledger.isShutdown_confirming .., ?_, Ledger.created_confirming .., rfl⟩ rfl ?_
        (Ledger.held_schedule _ (Ledger.schedule_confirming ..))
      · rw [Ledger.recurs_confirming]
        exact recurs
      · rw [Ledger.completed_confirming, Ledger.completed_answered]
  | finished completion answers =>
      obtain ⟨application, response⟩ := answers.response
      have recurs := ledger.recurs_setBody (MasterTask.isRecurring_processResponse response)
      rw [Party.confirming_eq]
      refine .of_release ⟨Ledger.isShutdown_confirming .., ?_, Ledger.created_confirming .., rfl⟩
        (Ledger.schedule_confirming ..) answers.activeTask rfl ?_
      · rw [Ledger.recurs_confirming]
        exact recurs
      · rw [Ledger.completed_confirming, Ledger.completed_complete, Ledger.completed_answered]

/-! ## The books of a world -/

/-- No task has this identity yet. -/
def TaskId.Unused (created : Nat) (id : TaskId Runner) : Prop :=
  ∃ runner number, id = .user runner number ∧ created ≤ number

omit [DecidableEq Runner] [FloatOps] in
theorem TaskId.Unused.of_succ {created : Nat} {id : TaskId Runner}
    (unused : id.Unused (created + 1)) : id.Unused created := by
  obtain ⟨runner, number, rfl, later⟩ := unused
  exact ⟨runner, number, rfl, Nat.le_of_succ_le later⟩

omit [DecidableEq Runner] [FloatOps] in
theorem TaskId.unused_created (created : Nat) (runner : Runner) :
    (TaskId.user runner created).Unused created :=
  ⟨runner, created, rfl, le_rfl⟩

omit [DecidableEq Runner] [FloatOps] in
theorem TaskId.Unused.ne {created : Nat} {id : TaskId Runner} (unused : id.Unused (created + 1))
    (runner : Runner) : id ≠ .user runner created := by
  obtain ⟨other, number, rfl, later⟩ := unused
  intro same
  obtain ⟨rfl, rfl⟩ := TaskId.user.inj same
  exact absurd later (Nat.not_succ_le_self _)

/-- What is known of the tasks, whether they are completed or not. -/
structure World.Registered (world : World Runner) : Prop where
  unused : ∀ id, TaskId.Unused world.ledger.created id →
    world.ledger.completed id = 0 ∧ world.ledger.held id = 0 ∧ world.ledger.recurs id = true
  active : ∀ runner id, (world.party runner).activeTask = some id →
    ¬TaskId.Unused world.ledger.created id
  bound : ∀ runner, ∀ id ∈ (world.party runner).boundTasks,
    world.ledger.recurs id = true ∧ ¬TaskId.Unused world.ledger.created id
  own : ∀ runner task, world.ledger.recurs (.own runner task) = true

namespace World.Registered

variable {world : World Runner}

omit [FloatOps]

theorem act (registered : world.Registered)
    (turnover : Turnover runner (world.party runner) after world.ledger next) :
    World.Registered ⟨Function.update world.party runner after, next⟩ := by
  have knows (knows : Knows (world.party runner) after world.ledger next)
      (active : ∀ id, after.activeTask = some id → ¬TaskId.Unused world.ledger.created id)
      (unused : ∀ id, TaskId.Unused world.ledger.created id →
        next.completed id = 0 ∧ next.held id = 0) :
      World.Registered ⟨Function.update world.party runner after, next⟩ := by
    refine ⟨?_, ?_, ?_, ?_⟩
    · intro id fresh
      have fresh : TaskId.Unused world.ledger.created id := knows.created ▸ fresh
      exact ⟨(unused id fresh).1, (unused id fresh).2,
        knows.recurs ▸ (registered.unused id fresh).2.2⟩
    · refine (Function.forall_update_iff world.party fun _ party => ∀ id,
        party.activeTask = some id → ¬TaskId.Unused next.created id).mpr ⟨?_, fun other _ => ?_⟩
      · rwa [knows.created]
      · rw [knows.created]
        exact registered.active other
    · refine (Function.forall_update_iff world.party fun _ party => ∀ id ∈ party.boundTasks,
        next.recurs id = true ∧ ¬TaskId.Unused next.created id).mpr ⟨?_, fun other _ => ?_⟩
      · rw [knows.boundTasks, knows.recurs, knows.created]
        exact registered.bound runner
      · rw [knows.recurs, knows.created]
        exact registered.bound other
    · intro other task
      exact knows.recurs ▸ registered.own other task
  cases turnover with
  | kept same active completed held =>
      refine knows same (fun id busy => ?_) fun id fresh => ?_
      · exact registered.active runner id (active ▸ busy)
      · rw [completed, held]
        exact ⟨(registered.unused id fresh).1, (registered.unused id fresh).2.1⟩
  | started id same running active chosen completed held =>
      refine knows same (fun other busy fresh => ?_) fun other fresh => ?_
      · obtain rfl := Option.some.inj (active.symm.trans busy)
        exact chosen (registered.unused _ fresh).2.1
      · rw [completed, held]
        exact ⟨(registered.unused other fresh).1, (registered.unused other fresh).2.1⟩
  | added id same known running active completed held =>
      refine knows same (fun other busy => ?_) fun other fresh => ?_
      · exact registered.active runner other (active ▸ busy)
      · have foreign : other ≠ id := by
          rintro rfl
          rcases known with bound | ⟨task, rfl⟩
          · exact (registered.bound runner other bound).2 fresh
          · obtain ⟨_, _, impossible, _⟩ := fresh
            cases impossible
        rw [completed, held, Pi.add_apply, Pi.single_eq_of_ne foreign]
        exact ⟨(registered.unused other fresh).1, (registered.unused other fresh).2.1⟩
  | done id same active inactive completed atMost held =>
      refine knows same (fun other busy => ?_) fun other fresh => ?_
      · rw [inactive] at busy
        cases busy
      · have foreign : other ≠ id := by
          rintro rfl
          exact registered.active runner other active fresh
        obtain ⟨uncompleted, unheld, _⟩ := registered.unused other fresh
        rw [completed, Pi.add_apply, Pi.single_eq_of_ne foreign]
        exact ⟨uncompleted, Nat.eq_zero_of_le_zero (unheld ▸ atMost other)⟩
  | created recurring creates done placed atMostOne one completed held =>
      refine ⟨?_, ?_, ?_, ?_⟩
      · intro id fresh
        have fresh : TaskId.Unused (world.ledger.created + 1) id := creates.created ▸ fresh
        have foreign := fresh.ne runner
        have before := registered.unused id fresh.of_succ
        change next.completed id = 0 ∧ next.held id = 0 ∧ next.recurs id = true
        rw [completed, held, creates.recurs, Pi.add_apply, Pi.add_apply,
          Pi.single_eq_of_ne foreign, Pi.single_eq_of_ne foreign, Function.update_of_ne foreign]
        exact before
      · refine (Function.forall_update_iff world.party fun _ party => ∀ id,
          party.activeTask = some id → ¬TaskId.Unused next.created id).mpr ⟨?_, fun other _ => ?_⟩
        · intro id busy fresh
          rw [creates.created] at fresh
          exact registered.active runner id (creates.activeTask ▸ busy) fresh.of_succ
        · intro id busy fresh
          rw [creates.created] at fresh
          exact registered.active other id busy fresh.of_succ
      · have old (other : Runner) (id : TaskId Runner)
            (bound : id ∈ (world.party other).boundTasks) :
            next.recurs id = true ∧ ¬TaskId.Unused next.created id := by
          obtain ⟨recurs, used⟩ := registered.bound other id bound
          have foreign : id ≠ .user runner world.ledger.created := by
            rintro rfl
            exact used (TaskId.unused_created _ _)
          rw [creates.recurs, creates.created, Function.update_of_ne foreign]
          exact ⟨recurs, fun fresh => used fresh.of_succ⟩
        refine (Function.forall_update_iff world.party fun _ party => ∀ id ∈ party.boundTasks,
          next.recurs id = true ∧ ¬TaskId.Unused next.created id).mpr
            ⟨?_, fun other _ => old other⟩
        rcases creates.boundTasks with same | ⟨rfl, grown⟩
        · rw [same]
          exact old runner
        · rw [grown]
          intro id member
          rcases List.mem_append.mp member with known | new
          · exact old runner id known
          · obtain rfl := List.mem_singleton.mp new
            rw [creates.recurs, creates.created, Function.update_self]
            exact ⟨rfl, fun fresh => fresh.ne runner rfl⟩
      · intro other task
        change next.recurs (.own other task) = true
        have foreign : TaskId.own other task ≠ .user runner world.ledger.created := nofun
        rw [creates.recurs, Function.update_of_ne foreign]
        exact registered.own other task

theorem settles (registered : world.Registered) {party : Runner → Party Runner}
    (settles : world.ledger.Settles next)
    (active : ∀ runner id, (party runner).activeTask = some id →
      (world.party runner).activeTask = some id)
    (bound : ∀ runner, (party runner).boundTasks = (world.party runner).boundTasks) :
    World.Registered ⟨party, next⟩ where
  unused id fresh := by
    have fresh : TaskId.Unused world.ledger.created id := settles.created ▸ fresh
    obtain ⟨uncompleted, unheld, recurs⟩ := registered.unused id fresh
    exact ⟨(settles.unheld id unheld).trans uncompleted,
      Nat.eq_zero_of_le_zero (unheld ▸ settles.held id), settles.recurs ▸ recurs⟩
  active runner id busy fresh :=
    registered.active runner id (active runner id busy) (settles.created ▸ fresh)
  bound runner id member := by
    rw [bound] at member
    rw [settles.recurs, settles.created]
    exact registered.bound runner id member
  own runner task := settles.recurs ▸ registered.own runner task

end World.Registered

/-- Tasks that do not recur are completed once, and until then they are held. -/
structure World.Settled (world : World Runner) : Prop where
  running : world.ledger.isShutdown = false → ∀ id, world.ledger.recurs id = false →
    world.ledger.completed id + world.ledger.held id = 1
  stopped : world.ledger.isShutdown = true → ∀ id, world.ledger.recurs id = false →
    world.ledger.completed id ≤ 1 ∧
      ∀ runner, (world.party runner).activeTask = some id → world.ledger.completed id = 0

namespace World.Settled

variable {world : World Runner}

omit [FloatOps]

/-- A task that is active is not completed yet. -/
theorem completed_active (settled : world.Settled) (scheduled : world.Scheduled)
    {runner : Runner} {id : TaskId Runner} (active : (world.party runner).activeTask = some id)
    (once : world.ledger.recurs id = false) : world.ledger.completed id = 0 := by
  cases running : world.ledger.isShutdown with
  | true => exact (settled.stopped running id once).2 runner active
  | false =>
      have current := (scheduled.current running id runner).mpr active
      have held : world.ledger.held id ≠ 0 := fun none =>
        (world.ledger.held_eq_zero_iff id).mp none |>.1 _ current rfl
      have account := settled.running running id once
      omega

theorem of_running {party : Runner → Party Runner} (running : next.isShutdown = false)
    (account : ∀ id, next.recurs id = false → next.completed id + next.held id = 1) :
    World.Settled ⟨party, next⟩ where
  running _ := account
  stopped stopped := by
    rw [show next.isShutdown = true from stopped] at running
    cases running

theorem of_stopped {party : Runner → Party Runner} (stopped : next.isShutdown = true)
    (once : ∀ id, next.recurs id = false → next.completed id ≤ 1 ∧
      ∀ runner, (party runner).activeTask = some id → next.completed id = 0) :
    World.Settled ⟨party, next⟩ where
  running running := by
    rw [show next.isShutdown = false from running] at stopped
    cases stopped
  stopped _ := once

theorem act (settled : world.Settled) (scheduled : world.Scheduled)
    (registered : world.Registered)
    (turnover : Turnover runner (world.party runner) after world.ledger next) :
    World.Settled ⟨Function.update world.party runner after, next⟩ := by
  have same (active : after.activeTask = (world.party runner).activeTask) (other : Runner) :
      (Function.update world.party runner after other).activeTask =
        (world.party other).activeTask := by
    rcases eq_or_ne other runner with rfl | foreign
    · rw [Function.update_self, active]
    · rw [Function.update_of_ne foreign]
  cases turnover with
  | kept knows active completed held =>
      cases running : world.ledger.isShutdown with
      | false =>
          refine of_running (knows.isShutdown.trans running) ?_
          rw [completed, held, knows.recurs]
          exact settled.running running
      | true =>
          refine of_stopped (knows.isShutdown.trans running) ?_
          rw [completed, knows.recurs]
          intro id once
          obtain ⟨atMostOne, uncompleted⟩ := settled.stopped running id once
          exact ⟨atMostOne, fun other busy => uncompleted other ((same active other).symm.trans busy)⟩
  | started id knows running active chosen completed held =>
      refine of_running (knows.isShutdown.trans running) ?_
      rw [completed, held, knows.recurs]
      exact settled.running running
  | added id knows known running active completed held =>
      refine of_running (knows.isShutdown.trans running) ?_
      intro other once
      rw [knows.recurs] at once
      have foreign : other ≠ id := by
        rintro rfl
        have recurs : world.ledger.recurs other = true := by
          rcases known with bound | ⟨task, rfl⟩
          · exact (registered.bound runner other bound).1
          · exact registered.own runner task
        rw [once] at recurs
        cases recurs
      rw [completed, held, Pi.add_apply, Pi.single_eq_of_ne foreign]
      exact settled.running running other once
  | done id knows active inactive completed atMost held =>
      cases running : world.ledger.isShutdown with
      | false =>
          refine of_running (knows.isShutdown.trans running) ?_
          intro other once
          rw [knows.recurs] at once
          have account := settled.running running other once
          have dropped := held running ((scheduled.current running id runner).mpr active) other once
          rw [completed, Pi.add_apply]
          omega
      | true =>
          refine of_stopped (knows.isShutdown.trans running) ?_
          intro other once
          rw [knows.recurs] at once
          obtain ⟨atMostOne, uncompleted⟩ := settled.stopped running other once
          rw [completed, Pi.add_apply, Pi.single_apply]
          refine ⟨?_, fun busyRunner busy => ?_⟩
          · split
            · next own =>
              rw [uncompleted runner (own ▸ active)]
            · exact atMostOne
          · rcases eq_or_ne busyRunner runner with rfl | foreign
            · rw [Function.update_self, inactive] at busy
              cases busy
            · rw [Function.update_of_ne foreign] at busy
              exact absurd (scheduled.single busy active) foreign
  | created recurring creates done placed atMostOne one completed held =>
      obtain ⟨uncompleted, unheld, _⟩ :=
        registered.unused _ (TaskId.unused_created world.ledger.created runner)
      cases running : world.ledger.isShutdown with
      | false =>
          refine of_running (creates.isShutdown.trans running) ?_
          rw [completed, held, creates.recurs]
          intro id once
          rcases eq_or_ne id (.user runner world.ledger.created) with rfl | foreign
          · rw [Function.update_self] at once
            rw [Pi.add_apply, Pi.add_apply, Pi.single_eq_same, Pi.single_eq_same, uncompleted,
              unheld, Nat.zero_add, Nat.zero_add]
            exact one running once
          · rw [Function.update_of_ne foreign] at once
            rw [Pi.add_apply, Pi.add_apply, Pi.single_eq_of_ne foreign,
              Pi.single_eq_of_ne foreign]
            exact settled.running running id once
      | true =>
          refine of_stopped (creates.isShutdown.trans running) ?_
          rw [completed, creates.recurs]
          intro id once
          rcases eq_or_ne id (.user runner world.ledger.created) with rfl | foreign
          · rw [Pi.add_apply, Pi.single_eq_same, uncompleted, Nat.zero_add]
            refine ⟨by omega, fun other busy => ?_⟩
            exact absurd (TaskId.unused_created _ _) (registered.active other _
              ((same creates.activeTask other).symm.trans busy))
          · rw [Function.update_of_ne foreign] at once
            rw [Pi.add_apply, Pi.single_eq_of_ne foreign]
            obtain ⟨atMostOne, uncompleted⟩ := settled.stopped running id once
            exact ⟨atMostOne, fun other busy =>
              uncompleted other ((same creates.activeTask other).symm.trans busy)⟩

theorem settles (settled : world.Settled) {party : Runner → Party Runner}
    (settles : world.ledger.Settles next)
    (active : ∀ runner id, (party runner).activeTask = some id →
      (world.party runner).activeTask = some id)
    (kept : world.ledger.isShutdown = true → next.completed = world.ledger.completed) :
    World.Settled ⟨party, next⟩ := by
  cases running : world.ledger.isShutdown with
  | false =>
      refine of_running (settles.isShutdown.trans running) fun id once => ?_
      have once : world.ledger.recurs id = false := settles.recurs ▸ once
      rw [settles.account id once]
      exact settled.running running id once
  | true =>
      refine of_stopped (settles.isShutdown.trans running) fun id once => ?_
      obtain ⟨atMostOne, uncompleted⟩ := settled.stopped running id (settles.recurs ▸ once)
      rw [kept running]
      exact ⟨atMostOne, fun other busy => uncompleted other (active other id busy)⟩

theorem shutdown (settled : world.Settled) (scheduled : world.Scheduled) :
    World.Settled ⟨world.party,
      { world.ledger with isShutdown := true, current := none, tasks := [] }⟩ := by
  refine of_stopped rfl fun id once => ⟨?_, fun runner active => ?_⟩
  · cases running : world.ledger.isShutdown with
    | true => exact (settled.stopped running id once).1
    | false => exact (Nat.le_add_right _ _).trans_eq (settled.running running id once)
  · exact settled.completed_active scheduled active once

end World.Settled

/-- The books of a world in which masters exclude each other. -/
structure World.Booked (world : World Runner) : Prop where
  exclusive : world.Exclusive
  registered : world.Registered
  settled : world.Settled

theorem World.Booked.step {world next : World Runner} (booked : world.Booked)
    (step : World.Step permits world next) : next.Booked := by
  obtain ⟨exclusive, registered, settled⟩ := booked
  suffices books : next.Registered ∧ next.Settled from
    ⟨exclusive.step step, books.1, books.2⟩
  cases step with
  | @act runner party ledger move =>
      exact ⟨registered.act move.turnover,
        settled.act exclusive.scheduled registered move.turnover⟩
  | closed runner online =>
      have active : ∀ other id,
          (Function.update world.party runner (world.party runner).closed other).activeTask =
            some id → (world.party other).activeTask = some id := by
        refine (Function.forall_update_iff world.party fun other party => ∀ id,
          party.activeTask = some id → (world.party other).activeTask = some id).mpr ?_
        exact ⟨nofun, fun _ _ _ busy => busy⟩
      have bound : ∀ other,
          (Function.update world.party runner (world.party runner).closed other).boundTasks =
            (world.party other).boundTasks :=
        (Function.forall_update_iff world.party fun other party =>
          party.boundTasks = (world.party other).boundTasks).mpr ⟨rfl, fun _ _ => rfl⟩
      have settles := Ledger.Settles.close world.ledger runner
      refine ⟨registered.settles settles active bound, settled.settles settles active ?_⟩
      intro stopped
      rw [Ledger.close, if_pos stopped]
      exact world.ledger.completed_other fun _ => rfl
  | erased result selects running =>
      have settles := Ledger.Settles.erase world.ledger result selects
      refine ⟨registered.settles settles (fun _ _ busy => busy) fun _ => rfl,
        settled.settles settles (fun _ _ busy => busy) fun stopped => ?_⟩
      rw [running] at stopped
      cases stopped
  | shutdown =>
      refine ⟨⟨fun id fresh => ?_, registered.active, registered.bound, registered.own⟩,
        settled.shutdown exclusive.scheduled⟩
      obtain ⟨uncompleted, unheld, recurs⟩ := registered.unused id fresh
      exact ⟨uncompleted, rfl, recurs⟩

omit [FloatOps] in
theorem World.registered_initial (addresses : Runner → Addresses)
    (params : Runner → MasterParams) : (Channel.initial addresses params).world.Registered where
  unused := by
    rintro id ⟨runner, number, rfl, _⟩
    exact ⟨rfl, rfl, rfl⟩
  active := nofun
  bound := nofun
  own runner task := by
    cases task with
    | timeSynchronization =>
        change ((params runner).ownBody .timeSynchronization).isRecurring = true
        rw [MasterParams.ownBody]
        split <;> rfl
    | _ => rfl

omit [FloatOps] in
theorem World.booked_initial (addresses : Runner → Addresses) (params : Runner → MasterParams) :
    (Channel.initial addresses params).world.Booked where
  exclusive := World.exclusive_initial addresses params
  registered := registered_initial addresses params
  settled := by
    have registered := registered_initial addresses params
    refine Settled.of_running rfl fun id once => ?_
    have recurs : (Channel.initial addresses params).world.ledger.recurs id = true := by
      cases id with
      | own runner task => exact registered.own runner task
      | user runner number => exact (registered.unused _ ⟨runner, number, rfl, Nat.zero_le _⟩).2.2
    exact absurd (once.symm.trans recurs) (by decide)

/-! ## Channels -/

/-- The scheduler holds a task, or a master does. -/
def Channel.Holds (channel : Channel Runner) (id : TaskId Runner) : Prop :=
  (∃ record ∈ channel.common.scheduler.tasks, record.task = id) ∨
    (∃ record, channel.common.scheduler.current = some record ∧ record.task = id) ∨
      ∃ runner, (channel.master runner).activeTask = some id

/-- How often the completion of a task was reported. -/
def Channel.completions (channel : Channel Runner) (id : TaskId Runner) : Nat :=
  channel.common.history.countP (Event.completes id)

/-- A task that does not recur completes once at most, and when it is not held any more it has
completed, unless there was a shutdown. -/
theorem Channel.completions_of_reaches {addresses : Runner → Addresses}
    {params : Runner → MasterParams} {channel : Channel Runner}
    (reached : machine.Reaches (initial addresses params) channel) (id : TaskId Runner)
    (once : (channel.common.body id).isRecurring = false) :
    channel.completions id ≤ 1 ∧
      (channel.common.scheduler.isShutdown = false → ¬channel.Holds id →
        channel.completions id = 1) := by
  have booked : channel.world.Booked :=
    world_invariant reached (fun _ => permitted_all _ _) (World.booked_initial addresses params)
      fun step booked => booked.step step
  cases running : channel.common.scheduler.isShutdown with
  | true => exact ⟨(booked.settled.stopped running id once).1, nofun⟩
  | false =>
      have account := booked.settled.running running id once
      refine ⟨(Nat.le_add_right _ _).trans_eq account, fun _ released => ?_⟩
      have unheld : channel.world.ledger.held id = 0 :=
        (channel.world.ledger.held_eq_zero_iff id).mpr
          ⟨fun record current own => released (.inr (.inl ⟨record, current, own⟩)),
            fun record member own => released (.inl ⟨record, member, own⟩)⟩
      rwa [unheld, Nat.add_zero] at account

omit [FloatOps] in
/-- A restart is requested, and the master loses its connection before an answer arrives. -/
theorem Channel.completions_of_reaches_restart :
    ∃ channel : Channel Unit,
      (@machine Unit _ .atZero).Reaches (initial (fun _ => ⟨1, 10⟩) fun _ => {}) channel ∧
        ¬channel.Holds (.user () 0) ∧ channel.completions (.user () 0) = 1 := by
  have reached := @reaches_after Unit _ .atZero (initial (fun _ => ⟨1, 10⟩) fun _ => {})
    [(.atZero, .lowerLayerUp ()), (.atZero, .schedule () (.restart .cold)), (.atZero, .runPosted),
      (.atZero, .lowerLayerDown ())]
  generalize given : @after Unit _ .atZero _ _ = channel at reached
  have tasks : channel.common.scheduler.tasks = [] := by
    rw [← given]
    decide +kernel
  have current : channel.common.scheduler.current = none := by
    rw [← given]
    decide +kernel
  have active : (channel.master ()).activeTask = none := by
    rw [← given]
    decide +kernel
  have released : ¬channel.Holds (.user () 0) := by
    simp [Holds, tasks, current, active]
  have once : (channel.common.body (.user () 0)).isRecurring = false := by
    rw [← given]
    decide +kernel
  have running : channel.common.scheduler.isShutdown = false := by
    rw [← given]
    decide +kernel
  exact ⟨channel, reached, released,
    (@completions_of_reaches Unit _ .atZero _ _ _ reached _ once).2 running released⟩

end OpenDnp3.Master
