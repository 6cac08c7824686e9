import OpenDnp3.Master.TaskFlow

/-!
# Masters as a flow of tasks

Every event on a channel is a sequence of moves.
-/

set_option autoImplicit false

namespace OpenDnp3.Master

open OpenDnp3.App OpenDnp3.Library

variable {Runner : Type} [DecidableEq Runner]

/-! ## What the scheduler does to the ledger -/

namespace Common

omit [DecidableEq Runner] in
def ledger (common : Common Runner) : Ledger Runner where
  isShutdown := common.scheduler.isShutdown
  current := common.scheduler.current
  tasks := common.scheduler.tasks
  body := common.body
  created := common.created
  history := common.history

variable (common : Common Runner) (id : TaskId Runner) (now : MonotonicTimestamp)
  (result : TaskCompletion) (runner : Runner)

omit [DecidableEq Runner] in
@[simp] theorem ledger_log (event : Event Runner) :
    (common.log event).ledger = common.ledger.log event := rfl

theorem body_update (tasks : TaskId Runner → Task) (task : Task) :
    (fun other => (Function.update tasks id task other).body) =
      Function.update (fun other => (tasks other).body) id task.body :=
  Function.comp_update Task.body tasks id task

@[simp] theorem ledger_setBody (body : MasterTask) :
    (common.setBody id body).ledger = common.ledger.setBody id body :=
  congrArg (fun bodies => { common.ledger with body := bodies })
    (body_update id common.task { common.task id with body })

@[simp] theorem ledger_setBehavior (behavior : TaskBehavior) :
    (common.setBehavior id behavior).ledger = common.ledger := by
  have same := (body_update id common.task { common.task id with behavior }).trans
    (Function.update_eq_self id common.body)
  exact congrArg (fun bodies => { common.ledger with body := bodies }) same

@[simp] theorem ledger_addBlockIf : (common.addBlockIf id).ledger = common.ledger := by
  rw [addBlockIf]
  split <;> rfl

@[simp] theorem ledger_removeBlock : (common.removeBlock id).ledger = common.ledger := rfl

@[simp] theorem ledger_reschedule : (common.reschedule now id result).ledger = common.ledger := by
  cases result <;> simp [reschedule]

@[simp] theorem ledger_completeTask :
    (common.completeTask now id result).ledger = common.ledger.complete id result := by
  rw [completeTask, ledger_log, ledger_reschedule]
  rfl

@[simp] theorem ledger_onStart :
    (common.onStart id).ledger =
      (common.ledger.log (.onStart id)).setBody id (common.body id).initializeTask := by
  simp [onStart]

@[simp] theorem ledger_setMinExpiration : (common.setMinExpiration id).ledger = common.ledger :=
  common.ledger_setBehavior id _

omit [DecidableEq Runner] in
@[simp] theorem ledger_postCheckForTaskRun :
    common.postCheckForTaskRun.ledger = common.ledger := by
  rw [postCheckForTaskRun]
  split <;> rfl

omit [DecidableEq Runner] in
@[simp] theorem ledger_add : (common.add id runner).ledger = common.ledger.add id runner := by
  rw [add, Ledger.add]
  by_cases stopped : common.scheduler.isShutdown = true
  · rw [if_pos stopped, if_pos (show common.ledger.isShutdown = true from stopped)]
  · rw [if_neg stopped, if_neg (show ¬common.ledger.isShutdown = true from stopped),
      ledger_postCheckForTaskRun]
    rfl

omit [DecidableEq Runner] in
theorem log_postCheckForTaskRun (event : Event Runner) :
    common.postCheckForTaskRun.log event = (common.log event).postCheckForTaskRun := by
  rw [postCheckForTaskRun, postCheckForTaskRun]
  by_cases pending : common.scheduler.taskCheckPending = true
  · rw [if_pos pending, if_pos (show (common.log event).scheduler.taskCheckPending = true
      from pending)]
  · rw [if_neg pending, if_neg (show ¬(common.log event).scheduler.taskCheckPending = true
      from pending)]
    rfl

omit [DecidableEq Runner] in
theorem log_add (event : Event Runner) :
    (common.add id runner).log event = (common.log event).add id runner := by
  rw [add, add]
  by_cases stopped : common.scheduler.isShutdown = true
  · rw [if_pos stopped, if_pos (show (common.log event).scheduler.isShutdown = true from stopped)]
  · rw [if_neg stopped, if_neg (show ¬(common.log event).scheduler.isShutdown = true
      from stopped), log_postCheckForTaskRun]
    rfl

theorem log_completeCurrentFor (event : Event Runner) :
    (common.completeCurrentFor runner).log event =
      (common.log event).completeCurrentFor runner := by
  rw [completeCurrentFor, completeCurrentFor]
  have same : (common.log event).scheduler.current = common.scheduler.current := rfl
  rw [same]
  cases common.scheduler.current with
  | none => rfl
  | some current =>
      dsimp only
      split
      · rfl
      · rw [log_postCheckForTaskRun]
        have body : (common.log event).body current.task = common.body current.task := rfl
        rw [body]
        split
        · rw [← log_add]
          rfl
        · rfl

@[simp] theorem ledger_completeRecords (records : List (Record Runner)) :
    (completeRecords now result records common).ledger =
      Ledger.completeRecords result records common.ledger := by
  induction records generalizing common with
  | nil => simp [completeRecords, Ledger.completeRecords, Ledger.completions]
  | cons record records ih =>
      rw [completeRecords, ih]
      by_cases recurs : (common.body record.task).isRecurring = true
      · have same : (common.ledger.body record.task).isRecurring = true := recurs
        rw [if_pos recurs]
        simp [Ledger.completeRecords, Ledger.completions, same]
      · have same : (common.ledger.body record.task).isRecurring = false :=
          Bool.not_eq_true _ ▸ recurs
        rw [if_neg recurs, ledger_completeTask]
        simp [Ledger.completeRecords, Ledger.completions, Ledger.complete, Ledger.log, same]

omit [DecidableEq Runner] in
@[simp] theorem ledger_clearCurrent :
    common.clearCurrent.ledger = { common.ledger with current := none } := rfl

@[simp] theorem ledger_eraseTasks (selects : Record Runner → Bool) :
    (common.eraseTasks now result selects).ledger = common.ledger.erase result selects := by
  have completed := common.ledger_completeRecords now result
    (common.scheduler.tasks.filter selects)
  rw [eraseTasks, Ledger.erase]
  generalize completeRecords now result (common.scheduler.tasks.filter selects) common = after
    at completed ⊢
  have tasks : after.scheduler.tasks = common.scheduler.tasks := congrArg Ledger.tasks completed
  rw [tasks]
  exact congrArg (fun ledger : Ledger Runner =>
    { ledger with tasks := common.scheduler.tasks.filter (!selects ·) }) completed

@[simp] theorem ledger_closeCurrent :
    (common.closeCurrent now runner).ledger = common.ledger.abandon runner := by
  rw [closeCurrent, Ledger.abandon]
  cases current : common.scheduler.current with
  | none => simp only [show common.ledger.current = none from current]
  | some record =>
      simp only [show common.ledger.current = some record from current]
      split_ifs with owned
      · rw [ledger_clearCurrent, ledger_completeRecords]
      · rfl

theorem ledger_setRunnerOffline :
    ((common.setRunnerOffline now runner).log (.onClose runner)).ledger =
      common.ledger.close runner := by
  rw [setRunnerOffline, Ledger.close, ledger_log]
  by_cases stopped : common.scheduler.isShutdown = true
  · rw [if_pos stopped, if_pos (show common.ledger.isShutdown = true from stopped)]
  · rw [if_neg stopped, if_neg (show ¬common.ledger.isShutdown = true from stopped),
      ledger_postCheckForTaskRun, ledger_eraseTasks, ledger_closeCurrent]

@[simp] theorem ledger_completeCurrentFor :
    (common.completeCurrentFor runner).ledger = common.ledger.release runner := by
  rw [completeCurrentFor, Ledger.release]
  cases current : common.scheduler.current with
  | none => simp only [show common.ledger.current = none from current]
  | some record =>
      simp only [show common.ledger.current = some record from current]
      by_cases other : record.runner ≠ runner
      · rw [if_pos other, if_pos other]
      · rw [if_neg other, if_neg other, ledger_postCheckForTaskRun, ledger_clearCurrent,
          apply_ite ledger, ledger_add]
        rfl

omit [DecidableEq Runner] in
@[simp] theorem ledger_restartTimeoutTimer :
    common.restartTimeoutTimer.ledger = common.ledger := by
  rw [restartTimeoutTimer]
  split <;> rfl

theorem ledger_timeoutTasks (running : common.scheduler.isShutdown = false) :
    ∃ selects, (common.timeoutTasks now).ledger =
      common.ledger.erase .failureStartTimeout selects := by
  rw [timeoutTasks, if_neg (by simp [running]), ledger_restartTimeoutTimer, ledger_eraseTasks]
  exact ⟨_, rfl⟩

omit [DecidableEq Runner] in
/-- The best record is the one at its position. -/
theorem bestFrom_getElem? (replaces : Record Runner → Record Runner → Bool)
    (seen records : List (Record Runner)) (best : Record Runner × Nat)
    (found : (seen ++ records)[best.2]? = some best.1) :
    (seen ++ records)[(bestFrom replaces best seen.length records).2]? =
      some (bestFrom replaces best seen.length records).1 := by
  induction records generalizing seen best with
  | nil => exact found
  | cons record records ih =>
      have split : seen ++ record :: records = (seen ++ [record]) ++ records := by simp
      rw [bestFrom, split]
      have length : seen.length + 1 = (seen ++ [record]).length := by simp
      rw [length]
      refine ih (seen ++ [record]) _ ?_
      rw [← split]
      split_ifs
      · simp
      · exact found

theorem chooseTask_cases (environment : Environment Runner) :
    ((common.chooseTask environment).2 = none ∧
      (common.chooseTask environment).1.ledger = common.ledger) ∨
    ∃ record position, (common.chooseTask environment).2 = some record ∧
      common.ledger.tasks[position]? = some record ∧
      (common.chooseTask environment).1.ledger =
        { common.ledger with
          current := some record
          tasks := common.ledger.tasks.eraseIdx position } := by
  rw [chooseTask]
  cases tasks : common.scheduler.tasks with
  | nil => exact .inl ⟨rfl, rfl⟩
  | cons first records =>
      have found := bestFrom_getElem?
        (fun best record => common.getBestTaskToRun environment best record == .right)
        [first] records (first, 0) rfl
      simp only [List.singleton_append, List.length_singleton, ← tasks] at found
      rcases best : bestFrom (fun best record =>
        common.getBestTaskToRun environment best record == .right) (first, 0) 1 records
        with ⟨record, position⟩
      rw [best] at found
      simp only [best]
      split
      · exact .inr ⟨record, position, rfl, found, by rw [← tasks]; rfl⟩
      · exact .inl ⟨rfl, rfl⟩

/-- A check leaves the ledger as it is, or makes one of the tasks the current one. -/
theorem checkForTaskRun_cases (environment : Environment Runner) :
    ((common.checkForTaskRun environment).2 = none ∧
      (common.checkForTaskRun environment).1.ledger = common.ledger) ∨
    ∃ record position, (common.checkForTaskRun environment).2 = some record ∧
      common.ledger.isShutdown = false ∧ common.ledger.current = none ∧
      common.ledger.tasks[position]? = some record ∧
      (common.checkForTaskRun environment).1.ledger =
        { common.ledger with
          current := some record
          tasks := common.ledger.tasks.eraseIdx position } := by
  rw [checkForTaskRun]
  by_cases stopped : common.scheduler.isShutdown = true
  · rw [if_pos stopped]
    exact .inl ⟨rfl, rfl⟩
  · rw [if_neg stopped]
    have restarted : (Common.restartTimeoutTimer
        { common with
          scheduler := { common.scheduler with taskCheckPending := false } }).ledger =
        common.ledger := ledger_restartTimeoutTimer _
    generalize Common.restartTimeoutTimer
      { common with scheduler := { common.scheduler with taskCheckPending := false } } = after
      at restarted ⊢
    have current : after.scheduler.current = common.ledger.current :=
      congrArg Ledger.current restarted
    by_cases busy : after.scheduler.current.isSome = true
    · dsimp only
      rw [if_pos busy]
      exact .inl ⟨rfl, restarted⟩
    · dsimp only
      rw [if_neg busy]
      have cases := after.chooseTask_cases environment
      rw [restarted] at cases
      refine cases.imp_right ?_
      rintro ⟨record, position, chosen, found, ledger⟩
      refine ⟨record, position, chosen, Bool.not_eq_true _ ▸ stopped, ?_, found, ledger⟩
      rw [← current]
      exact Option.not_isSome_iff_eq_none.mp busy

end Common

/-! ## What a master does -/

def MContext.party (context : MContext Runner) : Party Runner where
  isOnline := context.isOnline
  isSending := context.isSending
  solSeq := context.solSeq
  activeTask := context.activeTask
  responseTimer := context.responseTimer
  boundTasks := context.boundTasks
  confirmQueue := context.confirmQueue
  tstate := context.tstate

/-- A message is the response that a master waits for. -/
structure MContext.Awaits (context : MContext Runner) (message : Message) (id : TaskId Runner)
    (header : APDUResponseHeader) (objects : List UInt8) : Prop where
  isOnline : context.isOnline = true
  destination : message.addresses.destination = context.addresses.source
  source : message.addresses.source = context.addresses.destination
  parsed : APDUHeader.parseResponse message.payload = some (header, objects)
  function : header.function = .response
  tstate : context.tstate = .waitForResponse
  activeTask : context.activeTask = some id
  seq : header.control.seq = context.solSeq.seq

abbrev View (Runner : Type) := Party Runner × Ledger Runner

variable [FloatOps]

/-- A sequence of moves of a master. -/
abbrev Moves (permits : Permits Runner) (runner : Runner) : View Runner → View Runner → Prop :=
  Relation.ReflTransGen fun before after =>
    Move permits runner before.1 before.2 after.1 after.2

theorem moves_cons {permits : Permits Runner} {runner : Runner} {party next : Party Runner}
    {ledger after : Ledger Runner} {last : View Runner}
    (first : Move permits runner party ledger next after)
    (others : Moves permits runner (next, after) last) :
    Moves permits runner (party, ledger) last :=
  Relation.ReflTransGen.head first others

namespace Session

omit [DecidableEq Runner] [FloatOps] in
def view (session : Session Runner) : View Runner :=
  (session.context.party, session.common.ledger)

variable {permits : Permits Runner} {runner : Runner}

/-- A confirm is sent when there is one and nothing else is being sent. -/
theorem checkConfirmTransmit_moves (session : Session Runner)
    (online : session.context.isOnline = true) :
    Moves permits runner session.view (session.checkConfirmTransmit runner).view := by
  rw [checkConfirmTransmit]
  by_cases sending : session.context.isSending = true
  · rw [if_pos sending]
  · rw [if_neg sending]
    cases queued : session.context.confirmQueue with
    | nil => exact .refl
    | cons confirm confirmQueue =>
        exact .single (.confirmed confirm confirmQueue online (Bool.not_eq_true _ ▸ sending) queued)

omit [DecidableEq Runner] [FloatOps] in
@[simp] theorem view_setState (session : Session Runner) (tstate : TaskState) :
    (session.setState tstate).view = ({ session.context.party with tstate }, session.common.ledger) :=
  rfl

omit [FloatOps] in
/-- The active task is given up, and the master is idle again. -/
theorem view_completeActiveTask (session : Session Runner)
    (active : session.context.activeTask.isSome = true) :
    ((session.completeActiveTask runner).setState .idle).view =
      (session.context.party.finished, session.common.ledger.release runner) := by
  obtain ⟨id, some⟩ := Option.isSome_iff_exists.mp active
  rw [completeActiveTask, some, view_setState, Common.ledger_completeCurrentFor]
  rfl

/-- The request of the active task is sent, or cannot be built. -/
theorem resumeActiveTask_moves (session : Session Runner) (environment : Environment Runner)
    {id : TaskId Runner} (active : session.context.activeTask = some id)
    (quiet : session.context.isSending = false) :
    Moves permits runner (session.setState .taskReady).view
      (assignState (session.resumeActiveTask runner environment)).view := by
  rw [resumeActiveTask]
  split
  · next absent =>
      rw [active] at absent
      cases absent
  · next other same =>
    obtain rfl : other = id := Option.some.inj (same.symm.trans active)
    rcases built : (session.common.body other).buildRequest
      (environment.application other.context) (.ofBuffer session.context.txBuffer)
      session.context.solSeq.seq with ⟨body, apdu, success⟩
    cases success with
    | true =>
        have sent : Move permits runner (session.setState .taskReady).view.1
            session.common.ledger
            { (session.setState .taskReady).view.1 with
              responseTimer := true, isSending := true, tstate := .waitForResponse }
            ((session.common.setBody other body).ledger.log
              (.beginTransmit runner (some other) apdu.toRSlice)) := by
          rw [Common.ledger_setBody]
          exact .requested other _ _ apdu body rfl active quiet built
        exact .single sent
    | false =>
        have failed : Move permits runner (session.setState .taskReady).view.1
            session.common.ledger session.context.party.finished
            (((session.common.setBody other body).completeTask environment.now other
              .failureMessageFormatError).ledger.release runner) := by
          rw [Common.ledger_completeTask, Common.ledger_setBody]
          exact .unformatted other _ _ apdu body rfl active built
        refine .single ?_
        simp only [assignState, Bool.false_eq_true, if_false]
        rw [view_completeActiveTask]
        · exact failed
        · exact Option.isSome_of_mem active

/-! ### Starting tasks -/

theorem addTasks_moves (session : Session Runner) (ids : List (TaskId Runner))
    (online : session.context.isOnline = true)
    (known : ∀ id ∈ ids, id ∈ session.context.boundTasks ∨ ∃ task, id = .own runner task) :
    Moves permits runner session.view (session.addTasks runner ids).view := by
  induction ids generalizing session with
  | nil => exact .refl
  | cons id ids ih =>
      obtain ⟨first, others⟩ := List.forall_mem_cons.mp known
      have added : Move permits runner session.view.1 session.view.2 session.view.1
          (session.common.add id runner).ledger := by
        rw [Common.ledger_add]
        exact .added id online first
      exact .head added (ih { session with common := session.common.add id runner } online others)

omit [DecidableEq Runner] [FloatOps] in
theorem log_addTasks (session : Session Runner) (ids : List (TaskId Runner))
    (event : Event Runner) :
    (session.addTasks runner ids).log event = (session.log event).addTasks runner ids := by
  induction ids generalizing session with
  | nil => rfl
  | cons id ids ih =>
      refine (ih { session with common := session.common.add id runner }).trans ?_
      rw [log, Common.log_add]
      rfl

theorem onLowerLayerUp_moves (session : Session Runner) :
    Moves permits runner session.view (session.onLowerLayerUp runner).view := by
  rw [onLowerLayerUp]
  by_cases online : session.context.isOnline = true
  · rw [if_pos online]
  · rw [if_neg online, log_addTasks]
    refine .head (.opened (Bool.not_eq_true _ ▸ online)) (addTasks_moves _ _ rfl ?_)
    intro id member
    rcases List.mem_append.mp member with own | bound
    · obtain ⟨task, _, rfl⟩ := List.mem_map.mp own
      exact .inr ⟨task, rfl⟩
    · exact .inl bound

omit [FloatOps] in
theorem create_eq {session after : Session Runner} {behavior : TaskBehavior} {body : MasterTask}
    {id : TaskId Runner} (created : session.create runner behavior body = (after, id)) :
    id = .user runner session.common.created ∧ after.context = session.context ∧
      after.common.ledger = session.common.ledger.create runner body := by
  obtain ⟨rfl, rfl⟩ := Prod.mk.inj created
  exact ⟨rfl, rfl, congrArg (fun bodies => { session.common.ledger with
    body := bodies, created := session.common.created + 1 }) (Common.body_update _ _ _)⟩

theorem scheduleAdhocTask_moves (session : Session Runner) (environment : Environment Runner)
    (request : UserRequest) :
    Moves permits runner session.view
      (session.scheduleAdhocTask runner environment request).view := by
  rw [scheduleAdhocTask]
  rcases created : session.create runner (.singleExecutionNoRetry
    (MonotonicTimestamp.add environment.now session.context.params.taskStartTimeout))
    (request.body session.context.params) with ⟨after, id⟩
  obtain ⟨rfl, context, ledger⟩ := create_eq created
  dsimp only
  refine .single ?_
  by_cases online : after.context.isOnline = true
  · have scheduled : Move permits runner after.context.party session.common.ledger _ _ :=
      .scheduled session.context.params request online
    rw [← ledger, ← Common.ledger_add] at scheduled
    rw [if_pos online, view, ← context]
    exact scheduled
  · have declined : Move permits runner after.context.party session.common.ledger _ _ :=
      .declined session.context.params request (Bool.not_eq_true _ ▸ online)
    rw [← ledger, ← Common.ledger_completeTask _ _ environment.now] at declined
    rw [if_neg online, view, ← context]
    exact declined

theorem addScan_moves (session : Session Runner) (period : TimeDuration)
    (builder : HeaderBuilder) :
    Moves permits runner session.view (session.addScan runner period builder).view := by
  rw [addScan]
  rcases created : session.create runner (.immediatePeriodic period
    session.context.params.taskRetryPeriod session.context.params.maxTaskRetryPeriod)
    (.userPoll builder true 0) with ⟨after, id⟩
  obtain ⟨rfl, context, ledger⟩ := create_eq created
  have bound : Move permits runner session.context.party session.common.ledger _ _ :=
    .bound builder
  rw [← ledger, ← context] at bound
  refine .head (b := Session.view { after with
    context := { after.context with
      boundTasks := after.context.boundTasks ++ [.user runner session.common.created] } }) ?_ ?_
  · rw [view, ← context]
    exact bound
  · dsimp only
    split
    · next online =>
      exact addTasks_moves _ _ online fun id member =>
        .inl (List.mem_append_right _ member)
    · exact .refl

/-- A chosen task is started, unless the master is busy. -/
theorem run_moves (session : Session Runner) (environment : Environment Runner)
    (id : TaskId Runner) (before : Ledger Runner) (position : Nat)
    (running : before.isShutdown = false) (free : before.current = none)
    (chosen : before.tasks[position]? = some ⟨id, runner⟩)
    (ledger : session.common.ledger =
      { before with current := some ⟨id, runner⟩, tasks := before.tasks.eraseIdx position }) :
    Moves permits runner (session.context.party, before)
      (session.run runner environment id).view := by
  rw [run]
  by_cases busy : session.context.activeTask.isSome || session.context.tstate ≠ .idle
  · rw [if_pos busy]
    have refused : Move permits runner session.context.party before _ _ :=
      .refused id position running free chosen (by
        intro inactive idle
        have none : session.context.activeTask = none := inactive
        have same : session.context.tstate = .idle := idle
        simp [none, same] at busy)
    rw [← ledger] at refused
    exact .single refused
  · rw [if_neg busy]
    obtain ⟨inactive, idle⟩ : session.context.activeTask = none ∧
        session.context.tstate = .idle := by simpa using busy
    have started : Move permits runner session.context.party before _ _ :=
      .started id position running free chosen inactive idle
    have body : before.body id = (session.common.log (.run runner id true)).body id :=
      (congrFun (congrArg Ledger.body ledger) id).symm
    rw [← ledger, body, ← Common.ledger_log, ← Common.ledger_onStart] at started
    dsimp only
    split
    · exact .single started
    · next quiet =>
      exact .head started (resumeActiveTask_moves _ environment rfl (Bool.not_eq_true _ ▸ quiet))

/-! ### Timers and transmissions -/

omit [FloatOps] in
theorem isOnline_completeActiveTask (session : Session Runner) :
    (session.completeActiveTask runner).context.isOnline = session.context.isOnline := by
  rw [completeActiveTask]
  split <;> rfl

omit [FloatOps] in
theorem isOnline_resumeActiveTask (session : Session Runner) (environment : Environment Runner) :
    (session.resumeActiveTask runner environment).1.context.isOnline =
      session.context.isOnline := by
  rw [resumeActiveTask]
  split
  · rfl
  · dsimp only
    split
    · rfl
    · rw [isOnline_completeActiveTask]

theorem onTransmitComplete_moves (session : Session Runner) (environment : Environment Runner)
    (quiet : session.context.isSending = false) :
    Moves permits runner session.view
      (assignState (session.onTransmitComplete runner environment)).view := by
  have kept (tstate : TaskState) (same : session.context.tstate = tstate) :
      (session.setState tstate).view = session.view := by
    rw [← same]
    rfl
  rw [onTransmitComplete]
  cases state : session.context.tstate with
  | taskReady =>
      cases active : session.context.activeTask with
      | none =>
          have unchanged : session.resumeActiveTask runner environment = (session, .taskReady) := by
            rw [resumeActiveTask]
            split
            · rw [state]
            · next other =>
              rw [active] at other
              cases other
          rw [unchanged, assignState, kept _ state]
      | some id =>
          have resumed : Moves permits runner _ _ :=
            resumeActiveTask_moves session environment active quiet
          rwa [kept _ state] at resumed
  | idle => rw [assignState, kept _ state]
  | waitForResponse => rw [assignState, kept _ state]

omit [FloatOps] in
theorem isOnline_onTransmitComplete (session : Session Runner)
    (environment : Environment Runner) :
    (assignState (session.onTransmitComplete runner environment)).context.isOnline =
      session.context.isOnline := by
  rw [onTransmitComplete]
  split
  · exact session.isOnline_resumeActiveTask environment
  · rfl

theorem onTxReady_moves (session : Session Runner) (environment : Environment Runner) :
    Moves permits runner session.view (session.onTxReady runner environment).view := by
  rw [onTxReady]
  split
  · exact .refl
  · next busy =>
    obtain ⟨online, sending⟩ : session.context.isOnline = true ∧
        session.context.isSending = true := by simpa using busy
    have ready : Move permits runner session.view.1 session.view.2
        { session.view.1 with isSending := false } (session.view.2.log (.txReady runner)) :=
      .ready online sending
    refine .trans (.head ready (onTransmitComplete_moves
      ({ session with context := { session.context with isSending := false } }.log
        (.txReady runner)) environment rfl)) (checkConfirmTransmit_moves _ ?_)
    rw [isOnline_onTransmitComplete]
    exact online

theorem onResponseTimeout_moves (session : Session Runner) (environment : Environment Runner) :
    Moves permits runner session.view (session.onResponseTimeout runner environment).view := by
  have expired (unconcerned : session.context.isOnline = true →
      session.context.tstate = .waitForResponse → session.context.activeTask = none) :
      Moves permits runner session.view (Session.view
        { session with context := { session.context with responseTimer := false } }) :=
    .single (.expired unconcerned)
  rw [onResponseTimeout]
  dsimp only
  split
  · next online =>
    split
    · next waiting =>
      rw [onResponseTimeoutWaitForResponse]
      split
      · next absent =>
        have kept : (setState { session with
            context := { session.context with responseTimer := false } } .waitForResponse).view =
              Session.view { session with
                context := { session.context with responseTimer := false } } := by
          rw [← waiting]
          rfl
        rw [assignState, kept]
        exact expired fun _ _ => absent
      · next id active =>
        have timedOut : Move permits runner session.context.party session.common.ledger _ _ :=
          .timedOut id online waiting active
        rw [← Common.ledger_completeTask _ _ environment.now] at timedOut
        refine .single ?_
        rw [assignState, view_completeActiveTask]
        · exact timedOut
        · exact Option.isSome_of_mem active
    · next other => exact expired fun _ waiting => absurd waiting other
  · next offline => exact expired fun online => absurd online offline

/-! ### Receiving -/

omit [FloatOps] in
@[simp] theorem view_demandTask (session : Session Runner) (task : OwnTask) :
    (session.demandTask runner task).view = session.view := by
  rw [demandTask]
  split
  · exact congrArg (Prod.mk session.context.party) (Common.ledger_setMinExpiration _ _)
  · rfl

omit [DecidableEq Runner] [FloatOps] in
@[simp] theorem view_evaluate (session : Session Runner) : session.evaluate.view = session.view :=
  congrArg (Prod.mk session.context.party) (Common.ledger_postCheckForTaskRun _)

omit [FloatOps] in
@[simp] theorem view_demandAndEvaluate (session : Session Runner) (demanded : Bool)
    (task : OwnTask) :
    (session.demandAndEvaluate runner demanded task).view = session.view := by
  rw [demandAndEvaluate]
  split <;> simp

omit [FloatOps] in
/-- The indications make tasks run sooner, and nothing else. -/
theorem view_processIIN (session : Session Runner) (iin : IINField) :
    (session.processIIN runner iin).view =
      (session.context.party, session.common.ledger.log (.onReceiveIIN runner iin)) := by
  have log (session : Session Runner) (event : Event Runner) :
      (session.log event).view = (session.view.1, session.view.2.log event) := rfl
  rw [processIIN, log, view_demandAndEvaluate, view_demandAndEvaluate, view_demandAndEvaluate,
    apply_ite view, view_evaluate, onRestartDetected, view_demandTask, view_demandTask,
    view_demandTask, view_demandTask, ite_self]
  rfl

theorem processIIN_moves (session : Session Runner) (iin : IINField) :
    Moves permits runner session.view (session.processIIN runner iin).view := by
  rw [view_processIIN]
  exact .single (.note _ trivial)

/-- The confirm of a response waits to be sent. -/
def enqueued (runner : Runner) (session : Session Runner) (header : APDUResponseHeader) : Session Runner :=
  if header.control.con then
    { session with
      context :=
        { session.context with
          confirmQueue :=
            session.context.confirmQueue ++
              [APDUHeader.solicitedConfirm header.control.seq] } }.log
      (.queueConfirm runner (APDUHeader.solicitedConfirm header.control.seq))
  else session

/-! What else a response leads to can be done before its confirm is sent. -/

omit [DecidableEq Runner] [FloatOps] in
theorem setState_checkConfirmTransmit (session : Session Runner) (tstate : TaskState) :
    (session.checkConfirmTransmit runner).setState tstate =
      (session.setState tstate).checkConfirmTransmit runner := by
  have sending : (session.setState tstate).context.isSending = session.context.isSending := rfl
  have queue : (session.setState tstate).context.confirmQueue = session.context.confirmQueue :=
    rfl
  rw [checkConfirmTransmit, checkConfirmTransmit, sending, queue]
  split
  · rfl
  · cases session.context.confirmQueue <;> rfl

omit [DecidableEq Runner] [FloatOps] in
theorem startResponseTimer_checkConfirmTransmit (session : Session Runner) :
    (session.checkConfirmTransmit runner).startResponseTimer =
      session.startResponseTimer.checkConfirmTransmit runner := by
  have sending : session.startResponseTimer.context.isSending = session.context.isSending := rfl
  have queue : session.startResponseTimer.context.confirmQueue = session.context.confirmQueue :=
    rfl
  rw [checkConfirmTransmit, checkConfirmTransmit, sending, queue]
  split
  · rfl
  · cases session.context.confirmQueue <;> rfl

omit [FloatOps] in
theorem completeActiveTask_checkConfirmTransmit (session : Session Runner) :
    (session.checkConfirmTransmit runner).completeActiveTask runner =
      (session.completeActiveTask runner).checkConfirmTransmit runner := by
  obtain ⟨⟨_, _, _, isSending, _, activeTask, _, _, confirmQueue, _, _⟩, common⟩ := session
  cases activeTask with
  | none => cases isSending <;> cases confirmQueue <;> rfl
  | some id =>
      cases isSending with
      | true => rfl
      | false =>
          cases confirmQueue with
          | nil => rfl
          | cons confirm confirmQueue =>
              exact congrArg (Session.mk _) (common.log_completeCurrentFor runner _).symm

/-- Whether a confirm is sent before or after something else makes no difference. -/
theorem confirmSolicited_moves (session : Session Runner) (header : APDUResponseHeader)
    (work : Session Runner → Session Runner)
    (commutes : ∀ session, work (session.checkConfirmTransmit runner) =
      (work session).checkConfirmTransmit runner)
    (kept : ∀ session, (work session).context.isOnline = session.context.isOnline)
    (online : session.context.isOnline = true) :
    Moves permits runner (work (session.enqueued runner header)).view
      (work (session.confirmSolicited runner header)).view := by
  rw [enqueued, confirmSolicited]
  split
  · rw [queueConfirm, commutes]
    exact checkConfirmTransmit_moves _ ((kept _).trans online)
  · exact .refl

/-- What a task makes of a response. -/
theorem taskOnResponse_eq (session : Session Runner) (environment : Environment Runner)
    (id : TaskId Runner) (header : APDUResponseHeader) (objects : List UInt8) {body : MasterTask}
    {calls : List SOECall} {result : ResponseResult}
    (response : (session.common.body id).processResponse (environment.application id.context)
      header objects = (body, calls, result)) :
    ∃ after : Session Runner,
      session.taskOnResponse runner environment id header objects = (after, result) ∧
      after.context = session.context ∧
      (result.completion = none → after.common.ledger =
        (session.common.ledger.setBody id body).log (.measurements runner calls)) ∧
      ∀ completion, result.completion = some completion → after.common.ledger =
        ((session.common.ledger.setBody id body).log (.measurements runner calls)).complete id
          completion := by
  simp only [taskOnResponse, response]
  refine ⟨_, rfl, rfl, ?_, ?_⟩
  · intro open_
    simp [open_]
  · intro completion completed
    simp [completed]

omit [DecidableEq Runner] [FloatOps] in
theorem ledger_enqueued (session : Session Runner) (header : APDUResponseHeader) :
    (session.enqueued runner header).common.ledger =
      session.common.ledger.confirming runner header := by
  rw [enqueued, Ledger.confirming]
  split <;> rfl

omit [DecidableEq Runner] [FloatOps] in
theorem party_enqueued (session : Session Runner) (header : APDUResponseHeader) :
    (session.enqueued runner header).context.party =
      session.context.party.confirming header := by
  rw [enqueued, Party.confirming]
  split <;> rfl

omit [DecidableEq Runner] [FloatOps] in
theorem activeTask_checkConfirmTransmit (session : Session Runner) :
    (session.checkConfirmTransmit runner).context.activeTask = session.context.activeTask := by
  rw [checkConfirmTransmit]
  split
  · rfl
  · split <;> rfl

omit [DecidableEq Runner] [FloatOps] in
theorem activeTask_confirmSolicited (session : Session Runner) (header : APDUResponseHeader) :
    (session.confirmSolicited runner header).context.activeTask = session.context.activeTask := by
  rw [confirmSolicited]
  split
  · rw [queueConfirm, activeTask_checkConfirmTransmit]
    rfl
  · rfl

/-- A task that is complete is given up. -/
theorem afterOnResponse_completed (session : Session Runner) (environment : Environment Runner)
    (header : APDUResponseHeader) {result : ResponseResult} {completion : TaskCompletion}
    (completed : result.completion = some completion)
    (online : session.context.isOnline = true)
    (active : session.context.activeTask.isSome = true) :
    Moves permits runner
      ((session.context.party.confirming header).finished,
        (session.common.ledger.confirming runner header).release runner)
      (assignState (session.afterOnResponse runner environment header result)).view := by
  have given : Moves permits runner _ _ := confirmSolicited_moves session header
    (fun session => (session.completeActiveTask runner).setState .idle)
    (fun session => by
      rw [completeActiveTask_checkConfirmTransmit, setState_checkConfirmTransmit])
    (fun session => isOnline_completeActiveTask session) online
  rw [view_completeActiveTask, party_enqueued, ledger_enqueued] at given
  · cases result with
    | errorBadResponse => exact given
    | okFinal => exact given
    | okRepeat => cases completed
    | okContinue => cases completed
  · rw [enqueued]
    split <;> exact active

/-- A task that expects more goes on waiting. -/
theorem afterOnResponse_continued (session : Session Runner) (environment : Environment Runner)
    (header : APDUResponseHeader) (waiting : session.context.tstate = .waitForResponse)
    (online : session.context.isOnline = true) :
    Moves permits runner
      ({ session.context.party.confirming header with responseTimer := true },
        session.common.ledger.confirming runner header)
      (assignState (session.afterOnResponse runner environment header .okContinue)).view := by
  have given : Moves permits runner _ _ := confirmSolicited_moves session header
    (fun session => session.startResponseTimer.setState .waitForResponse)
    (fun session => by
      rw [startResponseTimer_checkConfirmTransmit, setState_checkConfirmTransmit])
    (fun session => rfl) online
  have start : ((session.enqueued runner header).startResponseTimer.setState
      .waitForResponse).view =
        ({ session.context.party.confirming header with responseTimer := true },
          session.common.ledger.confirming runner header) := by
    rw [← party_enqueued session header, ← ledger_enqueued, enqueued]
    split
    · rw [← waiting]
      rfl
    · rw [← waiting]
      rfl
  rw [start] at given
  exact given

/-- A task that repeats sends its next request, now or when the transmission is over. -/
theorem afterOnResponse_repeated (session : Session Runner) (environment : Environment Runner)
    (header : APDUResponseHeader) (online : session.context.isOnline = true)
    {id : TaskId Runner} (active : session.context.activeTask = some id) :
    Moves permits runner
      ({ session.context.party.confirming header with tstate := .taskReady },
        session.common.ledger.confirming runner header)
      (assignState (session.afterOnResponse runner environment header .okRepeat)).view := by
  have given : Moves permits runner _ _ := confirmSolicited_moves session header
    (fun session => session.setState .taskReady)
    (fun session => setState_checkConfirmTransmit session _) (fun session => rfl) online
  rw [view_setState, party_enqueued, ledger_enqueued] at given
  refine given.trans ?_
  rw [afterOnResponse, startTaskTaskReady]
  split
  · exact .refl
  · next quiet =>
    exact resumeActiveTask_moves _ environment
      ((activeTask_confirmSolicited session header).trans active) (Bool.not_eq_true _ ▸ quiet)

theorem answer_moves {session : Session Runner} {environment : Environment Runner}
    {id : TaskId Runner} {header : APDUResponseHeader} {objects : List UInt8}
    (online : session.context.isOnline = true)
    (waiting : session.context.tstate = .waitForResponse)
    (active : session.context.activeTask = some id)
    (function : header.function = .response)
    (seq : header.control.seq = session.context.solSeq.seq)
    (permitted : permits.answers (session.common.body id) header objects) :
    Moves permits runner session.view
      (assignState ((session.log (.received runner header objects)).onResponseWaitForResponse
        runner environment header objects)).view := by
  rw [onResponseWaitForResponse, if_neg (not_not.mpr (show header.control.seq =
    (session.log (.received runner header objects)).context.solSeq.seq from seq))]
  split
  · next absent =>
    rw [show session.context.activeTask = none from absent] at active
    cases active
  · next other same =>
    obtain rfl : other = id := Option.some.inj ((show session.context.activeTask = some other
      from same).symm.trans active)
    rcases response : (session.common.body other).processResponse
      (environment.application other.context) header objects with ⟨body, calls, result⟩
    have answers : Answers permits session.context.party session.common.ledger other header objects
        body calls result :=
      ⟨online, waiting, active, function, seq, permitted, _, response⟩
    obtain ⟨after, taken, context, incomplete, complete⟩ := taskOnResponse_eq
      { session.log (.received runner header objects) with
        context := { session.context with
          responseTimer := false
          solSeq := session.context.solSeq.next } } environment other header objects response
    have party : after.context.party = session.context.party.answered := by
      rw [context]
      rfl
    have online : after.context.isOnline = true := by
      rw [context]
      exact online
    have active : after.context.activeTask = some other := by
      rw [context]
      exact active
    have waiting : after.context.tstate = .waitForResponse := by
      rw [context]
      exact waiting
    simp only [log] at taken ⊢
    rw [taken]
    change Moves permits runner session.view
      (assignState (after.afterOnResponse runner environment header result)).view
    cases completed : result.completion with
    | some completion =>
        have given : Moves permits runner _ _ := afterOnResponse_completed after
          environment header completed online (Option.isSome_of_mem active)
        rw [party, complete _ completed] at given
        have finished : Move permits runner _ _ _ _ := .finished completion answers
        exact moves_cons finished given
    | none =>
        cases result with
        | errorBadResponse => cases completed
        | okFinal => cases completed
        | okRepeat =>
            have given : Moves permits runner _ _ := afterOnResponse_repeated after
              environment header online active
            rw [party, incomplete rfl] at given
            have repeated : Move permits runner _ _ _ _ := .repeated answers
            exact moves_cons repeated given
        | okContinue =>
            have given : Moves permits runner _ _ := afterOnResponse_continued after
              environment header waiting online
            rw [party, incomplete rfl] at given
            have continued : Move permits runner _ _ _ _ := .continued answers
            exact moves_cons continued given

omit [FloatOps] [DecidableEq Runner] in
theorem setState_self (session : Session Runner) {tstate : TaskState}
    (same : session.context.tstate = tstate) : session.setState tstate = session := by
  rw [← same]
  rfl

theorem processResponse_moves (session : Session Runner) (environment : Environment Runner)
    (header : APDUResponseHeader) (objects : List UInt8)
    (online : session.context.isOnline = true) (function : header.function = .response)
    (permitted : ∀ id, session.context.tstate = .waitForResponse →
      session.context.activeTask = some id → header.control.seq = session.context.solSeq.seq →
      permits.answers (session.common.body id) header objects) :
    Moves permits runner session.view
      ((session.log (.received runner header objects)).processResponse runner environment header
        objects).view := by
  have ignored : Moves permits runner session.view
      (session.log (.received runner header objects)).view :=
    .single (.ignored header objects online)
  rw [processResponse]
  refine .trans ?_ (processIIN_moves _ _)
  rw [onResponseEvent]
  have kept {tstate : TaskState} (same : session.context.tstate = tstate) :
      (session.log (.received runner header objects)).setState tstate =
        session.log (.received runner header objects) :=
    setState_self _ same
  split
  · next waiting =>
    have state : session.context.tstate = .waitForResponse := waiting
    by_cases seq : header.control.seq = session.context.solSeq.seq
    · cases active : session.context.activeTask with
      | none =>
          rw [onResponseWaitForResponse, if_neg (not_not.mpr (show header.control.seq =
            (session.log (.received runner header objects)).context.solSeq.seq from seq))]
          split
          · rwa [assignState, kept state]
          · next other =>
            rw [show (session.log (.received runner header objects)).context.activeTask = none
              from active] at other
            cases other
      | some id => exact answer_moves online state active function seq (permitted id state active seq)
    · rw [onResponseWaitForResponse, if_pos (show header.control.seq ≠
        (session.log (.received runner header objects)).context.solSeq.seq from seq), assignState,
        kept state]
      exact ignored
  · exact ignored

theorem processUnsolicitedResponse_moves (session : Session Runner) (header : APDUResponseHeader)
    (objects : List UInt8) (online : session.context.isOnline = true)
    (function : header.function = .unsolicitedResponse) :
    Moves permits runner session.view
      ((session.log (.received runner header objects)).processUnsolicitedResponse runner header
        objects).view := by
  have ignored : Moves permits runner session.view
      (session.log (.received runner header objects)).view :=
    .single (.ignored header objects online)
  rw [processUnsolicitedResponse]
  split
  · exact ignored
  · refine .trans ?_ (processIIN_moves _ _)
    by_cases con : header.control.con = true
    · cases parsed : MeasurementHandler.processMeasurements objects with
      | ok calls =>
          rw [if_pos (show ((Except.ok calls).isOk && header.control.con) = true from con), queueConfirm]
          have unsolicited : Move permits runner session.view.1 session.view.2 _ _ :=
            .unsolicited header objects calls online function con parsed
          refine moves_cons unsolicited (checkConfirmTransmit_moves (Session.log
            { session with
              context := { session.context with
                confirmQueue := session.context.confirmQueue ++
                  [.unsolicitedConfirm header.control.seq] }
              common := (session.common.log (.received runner header objects)).log
                (.measurements runner calls) } (.queueConfirm runner _)) online)
      | error result =>
          rw [if_neg (by simp [Except.isOk, Except.toBool])]
          exact .single (.reported header objects _ online function)
    · rw [if_neg (by simp [con])]
      exact .single (.reported header objects _ online function)

/-- Everything that a master does with a message is a sequence of moves. -/
theorem onReceive_moves (session : Session Runner) (environment : Environment Runner)
    (message : Message)
    (permitted : ∀ id header objects, session.context.Awaits message id header objects →
      permits.answers (session.common.body id) header objects) :
    Moves permits runner session.view (session.onReceive runner environment message).view := by
  rw [onReceive]
  split
  · exact .refl
  next online =>
  split
  · exact .refl
  next destination =>
  split
  · exact .refl
  next source =>
  have online : session.context.isOnline = true := by simpa using online
  cases parsed : APDUHeader.parseResponse message.payload with
  | none => exact .refl
  | some result =>
      obtain ⟨header, objects⟩ := result
      dsimp only
      rw [processAPDU]
      split
      · next function => exact processUnsolicitedResponse_moves _ _ _ online function
      · next function =>
        refine processResponse_moves _ _ _ _ online function fun id waiting active seq => ?_
        exact permitted id header objects ⟨online, not_not.mp destination, not_not.mp source,
          parsed, function, waiting, active, seq⟩
      · exact .single (.ignored header objects online)

end Session

/-! ## What happens on a channel -/

omit [DecidableEq Runner] [FloatOps] in
def Channel.world (channel : Channel Runner) : World Runner where
  party runner := (channel.master runner).party
  ledger := channel.common.ledger

/-- A sequence of steps of a world. -/
abbrev Steps (permits : Permits Runner) : World Runner → World Runner → Prop :=
  Relation.ReflTransGen (World.Step permits)

/-- The moves of one master are steps of the world. -/
theorem World.steps_of_moves {permits : Permits Runner} {runner : Runner} (world : World Runner)
    {view : View Runner}
    (moves : Moves permits runner (world.party runner, world.ledger) view) :
    Steps permits world ⟨Function.update world.party runner view.1, view.2⟩ := by
  induction moves with
  | refl =>
      rw [Function.update_eq_self]
  | tail _ move ih =>
      refine ih.tail ?_
      rename_i before after _
      have acted : World.Step permits ⟨Function.update world.party runner before.1, before.2⟩
          ⟨Function.update (Function.update world.party runner before.1) runner after.1,
            after.2⟩ :=
        .act (by simpa using move)
      rwa [Function.update_idem] at acted

namespace Channel

variable {permits : Permits Runner}

omit [FloatOps] in
theorem world_withSession (channel : Channel Runner) (runner : Runner)
    (work : Session Runner → Session Runner) :
    (channel.withSession runner work).world =
      ⟨Function.update channel.world.party runner
          (work ⟨channel.master runner, channel.common⟩).context.party,
        (work ⟨channel.master runner, channel.common⟩).common.ledger⟩ :=
  congrArg (World.mk · _) (Function.comp_update MContext.party channel.master runner _)

/-- What a master does alone. -/
theorem withSession_steps (channel : Channel Runner) (runner : Runner)
    (work : Session Runner → Session Runner)
    (moves : Moves permits runner (Session.view ⟨channel.master runner, channel.common⟩)
      (work ⟨channel.master runner, channel.common⟩).view) :
    Steps permits channel.world (channel.withSession runner work).world := by
  rw [world_withSession]
  exact channel.world.steps_of_moves moves

theorem checkForTaskRun_steps (channel : Channel Runner) (environment : Environment Runner) :
    Steps permits channel.world (channel.checkForTaskRun environment).world := by
  rw [checkForTaskRun]
  rcases checked : channel.common.checkForTaskRun environment with ⟨common, chosen⟩
  have cases := channel.common.checkForTaskRun_cases environment
  rw [checked] at cases
  rcases cases with ⟨rfl, ledger⟩ | ⟨record, position, rfl, running, free, found, ledger⟩
  · have same : Channel.world ⟨channel.master, common⟩ = channel.world :=
      congrArg (World.mk _) ledger
    dsimp only
    rw [same]
  · dsimp only
    rw [world_withSession]
    exact channel.world.steps_of_moves (Session.run_moves
      ⟨channel.master record.runner, common⟩ environment record.task channel.common.ledger
      position running free found ledger)

theorem runPosted_steps (channel : Channel Runner) (environment : Environment Runner) :
    Steps permits channel.world (channel.runPosted environment).world := by
  rw [runPosted]
  split
  · exact .refl
  · next callback posted _ =>
    cases callback with
    | checkForTaskRun =>
        exact checkForTaskRun_steps { channel with common := { channel.common with posted } }
          environment
    | demand id =>
      have checked : Steps permits _ _ := checkForTaskRun_steps { channel with
        common := Common.setMinExpiration { channel.common with posted } id } environment
      have same : Channel.world { channel with
          common := Common.setMinExpiration { channel.common with posted } id } =
            channel.world :=
        congrArg (World.mk _) (Common.ledger_setMinExpiration _ id)
      rwa [same] at checked

theorem onLowerLayerDown_steps (channel : Channel Runner) (environment : Environment Runner)
    (runner : Runner)
    (permitted : (channel.master runner).isOnline = true →
      permits.closes (channel.master runner).party) :
    Steps permits channel.world (channel.withSession runner fun session =>
      session.onLowerLayerDown runner environment).world := by
  rw [world_withSession]
  simp only [Session.onLowerLayerDown]
  split
  · rw [show (channel.master runner).party = channel.world.party runner from rfl,
      Function.update_eq_self]
    exact .refl
  · next online =>
    have online : (channel.master runner).isOnline = true := by simpa using online
    have closed : World.Step permits channel.world _ := .closed runner online (permitted online)
    dsimp only
    rw [Common.ledger_setRunnerOffline]
    exact .single closed

/-- What has to be permitted of an event. -/
def Permitted (permits : Permits Runner) (channel : Channel Runner) : Input Runner → Prop
  | .lowerLayerDown runner => (channel.master runner).isOnline = true →
      permits.closes (channel.master runner).party
  | .receive runner message => ∀ id header objects,
      (channel.master runner).Awaits message id header objects →
        permits.answers (channel.common.body id) header objects
  | _ => True

/-- Every event on a channel is a sequence of steps of its world. -/
theorem step_steps (channel : Channel Runner) (environment : Environment Runner)
    (input : Input Runner) (permitted : channel.Permitted permits input) :
    Steps permits channel.world (channel.step environment input).world := by
  cases input with
  | lowerLayerUp runner =>
      exact channel.withSession_steps runner (·.onLowerLayerUp runner)
        (Session.onLowerLayerUp_moves _)
  | lowerLayerDown runner => exact channel.onLowerLayerDown_steps environment runner permitted
  | receive runner message =>
      exact channel.withSession_steps runner (·.onReceive runner environment message)
        (Session.onReceive_moves ⟨channel.master runner, channel.common⟩ environment message
          permitted)
  | txReady runner =>
      exact channel.withSession_steps runner (·.onTxReady runner environment)
        (Session.onTxReady_moves _ environment)
  | responseTimeout runner =>
      exact channel.withSession_steps runner (·.onResponseTimeout runner environment)
        (Session.onResponseTimeout_moves _ environment)
  | schedule runner request =>
      exact channel.withSession_steps runner (·.scheduleAdhocTask runner environment request)
        (Session.scheduleAdhocTask_moves _ environment request)
  | addScan runner period builder =>
      exact channel.withSession_steps runner (·.addScan runner period builder)
        (Session.addScan_moves _ period builder)
  | demand id => exact .refl
  | runPosted => exact channel.runPosted_steps environment
  | taskTimer =>
      exact checkForTaskRun_steps { channel with
        common := { channel.common with
          scheduler := { channel.common.scheduler with taskTimer := none } } } environment
  | taskStartTimeout =>
      by_cases stopped : channel.common.scheduler.isShutdown = true
      · rw [step, Common.timeoutTasks, if_pos stopped]
        exact .refl
      · obtain ⟨selects, erased⟩ := Common.ledger_timeoutTasks { channel.common with
          scheduler := { channel.common.scheduler with taskStartTimeout := none } }
          environment.now (Bool.not_eq_true _ ▸ stopped)
        have step : World.Step permits channel.world _ :=
          .erased .failureStartTimeout selects (Bool.not_eq_true _ ▸ stopped)
        have same : Channel.world { channel with
            common := Common.timeoutTasks { channel.common with
              scheduler := { channel.common.scheduler with taskStartTimeout := none } }
              environment.now } =
            ⟨channel.world.party,
              channel.world.ledger.erase .failureStartTimeout selects⟩ :=
          congrArg (World.mk _) erased
        rw [Channel.step, same]
        exact .single step
  | shutdown => exact .single .shutdown

/-- A run on a channel is a run of its world. -/
theorem steps_of_reaches {start channel : Channel Runner}
    {allowed : Channel Runner → Environment Runner × Input Runner → Prop}
    (reached : machine.ReachesWhile allowed start channel)
    (permitted : ∀ {channel : Channel Runner} {input : Environment Runner × Input Runner},
      allowed channel input → channel.Permitted permits input.2) :
    Steps permits start.world channel.world := by
  induction reached with
  | start => exact .refl
  | step _ guard success ih =>
      obtain ⟨rfl, rfl⟩ := Prod.mk.inj (Option.some.inj success)
      exact ih.trans (step_steps _ _ _ (permitted guard))

/-- What every step of a world keeps holds in every state of a channel. -/
theorem world_invariant {start channel : Channel Runner}
    {allowed : Channel Runner → Environment Runner × Input Runner → Prop}
    {Invariant : World Runner → Prop} (reached : machine.ReachesWhile allowed start channel)
    (permitted : ∀ {channel : Channel Runner} {input : Environment Runner × Input Runner},
      allowed channel input → channel.Permitted permits input.2)
    (initially : Invariant start.world)
    (preserved : ∀ {before after : World Runner}, World.Step permits before after →
      Invariant before → Invariant after) : Invariant channel.world := by
  have steps := steps_of_reaches reached permitted
  generalize channel.world = world at steps
  induction steps with
  | refl => exact initially
  | tail _ step ih => exact preserved step ih

omit [DecidableEq Runner] [FloatOps] in
theorem permitted_all (channel : Channel Runner) (input : Input Runner) :
    channel.Permitted .all input := by
  cases input with
  | lowerLayerDown runner => exact fun _ => trivial
  | receive runner message => exact fun _ _ _ _ => trivial
  | _ => trivial

/-- What happened on a channel stays in its history. -/
theorem history_prefix (channel : Channel Runner) (environment : Environment Runner)
    (input : Input Runner) :
    channel.common.history <+: (channel.step environment input).common.history := by
  have steps := channel.step_steps environment input (permitted_all channel input)
  change channel.world.ledger.history <+: (channel.step environment input).world.ledger.history
  generalize (channel.step environment input).world = world at steps
  induction steps with
  | refl => exact List.prefix_refl _
  | tail _ step ih => exact ih.trans step.history_prefix

end Channel

end OpenDnp3.Master
