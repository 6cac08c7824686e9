import OpenDnp3.Master.SelectEcho
import OpenDnp3.Master.TaskCompletions

/-!
# Select before operate

A task that selects before it operates sends the OPERATE only behind a response
to its SELECT that repeats all of its commands.
-/

set_option autoImplicit false

namespace OpenDnp3.Master

open OpenDnp3.App OpenDnp3.Library

/-- The bytes of a request. -/
def requestBytes (function : FunctionCode) (seq : AppSeqNum) (objects : List UInt8) : List UInt8 :=
  (AppControlField.request seq.seq).toByte :: function.toType :: objects

/-! ## Commands of a task -/

namespace CommandTask

/-- What a task keeps while it is run. -/
structure Same (task next : CommandTask) : Prop where
  mode : next.mode = task.mode
  items : next.commands.items = task.commands.items
  bytes : next.commands.bytes task.mode = task.commands.bytes task.mode

def Nonempty (task : CommandTask) : Prop :=
  ∀ items ∈ task.commands.items, items.2 ≠ []

theorem Same.nonempty {task next : CommandTask} (same : task.Same next)
    (nonempty : task.Nonempty) : next.Nonempty := by
  rw [Nonempty, same.items]
  exact nonempty

/-- What a task makes of its next request. -/
structure Requests (task next : CommandTask) (function : FunctionCode) (seq : AppSeqNum)
    (apdu : APDURequest) (success : Bool) : Prop where
  functionCodes : task.functionCodes = function :: next.functionCodes
  same : task.Same next
  init : task.commands.Init → next.commands.Init
  written : success = true →
    task.Nonempty ∧ apdu.toRSlice = requestBytes function seq (task.commands.bytes task.mode)

theorem buildRequest_cases {task next : CommandTask} {buffer : List UInt8} {seq : AppSeqNum}
    {apdu : APDURequest} {success : Bool}
    (built : task.buildRequest (.ofBuffer buffer) seq.seq = (next, apdu, success)) :
    (task.functionCodes = [] ∧ next = task ∧ success = false) ∨
      ∃ function, task.Requests next function seq apdu success := by
  rw [buildRequest] at built
  cases codes : task.functionCodes with
  | nil =>
      simp only [codes] at built
      obtain ⟨rfl, rest⟩ := Prod.mk.inj built
      exact .inl ⟨rfl, rfl, (Prod.mk.inj rest).2.symm⟩
  | cons function functionCodes =>
      refine .inr ⟨function, ?_⟩
      simp only [codes, CommandSet.write] at built
      have kept := CommandSet.writeHeaders_same task.mode task.commands.headers
        ⟨⟨[], buffer.drop 2⟩, none⟩
      have written := CommandSet.writeHeaders_written task.mode task.commands.headers
        ⟨⟨[], buffer.drop 2⟩, none⟩
      change (_, _, _) = _ at built
      obtain ⟨rfl, rest⟩ := Prod.mk.inj built
      obtain ⟨rfl, rfl⟩ := Prod.mk.inj rest
      obtain ⟨items, bytes, init⟩ := kept
      refine ⟨codes, ⟨rfl, items, bytes⟩, init, fun done => ?_⟩
      obtain ⟨present, complete⟩ := written done
      refine ⟨fun items member => ?_, ?_⟩
      · obtain ⟨header, inside, rfl⟩ := List.mem_map.mp member
        exact present header inside
      · rw [APDURequest.toRSlice, requestBytes]
        exact congrArg _ (congrArg _ complete)

variable [FloatOps]

/-- A response leaves the commands, and is accepted only if it selects all of them. -/
theorem processResponse_cases (task : CommandTask) (header : APDUResponseHeader)
    (objects : List UInt8) :
    (task.processResponse header objects).1.functionCodes = task.functionCodes ∧
      task.Same (task.processResponse header objects).1 ∧
      (task.processResponse header objects).2 ≠ .okContinue ∧
      ((task.processResponse header objects).2 = .okRepeat →
        validateSingleResponse header = true ∧
          (task.commands.processSelectResponse objects).2 = .ok) := by
  rw [processResponse]
  by_cases single : validateSingleResponse header = true
  · rw [if_pos single, processObjects]
    split
    · obtain ⟨items, bytes⟩ := task.commands.processOperateResponse_same objects
      refine ⟨rfl, ⟨rfl, items, bytes _⟩, ?_, fun accepted => ?_⟩
      · simp only [finalIf]
        split <;> nofun
      · simp only [finalIf] at accepted
        split at accepted <;> cases accepted
    · obtain ⟨items, bytes⟩ := task.commands.processSelectResponse_same objects
      refine ⟨rfl, ⟨rfl, items, bytes _⟩, ?_, fun accepted => ⟨single, ?_⟩⟩
      · dsimp only
        split <;> nofun
      · dsimp only at accepted
        split at accepted
        · next selected => exact selected
        · cases accepted
        · cases accepted
  · rw [if_neg single]
    exact ⟨rfl, ⟨rfl, rfl, rfl⟩, nofun, nofun⟩

end CommandTask

/-! ## The law of select and operate -/

variable {Runner : Type}

/-- An event sends a request of a task. -/
def Event.Sends (id : TaskId Runner) : Event Runner → Prop
  | .beginTransmit _ (some sender) _ => sender = id
  | _ => False

variable [FloatOps]

/-- A SELECT was sent, and then a response was received that repeats all commands. -/
def Selected (agrees : Agreement) (runner : Runner) (id : TaskId Runner)
    (items : List CommandItems) (seq : AppSeqNum) (objects : List UInt8)
    (history : List (Event Runner)) : Prop :=
  ∃ header response headers,
    List.Sublist [.beginTransmit runner (some id) (requestBytes .select seq objects),
      .received runner header response] history ∧
    header.function = .response ∧ header.control.fir = true ∧ header.control.fin = true ∧
    header.control.seq = seq.seq ∧
    APDUParser.parse true commandWhiteList response = .ok headers ∧
    Echoes agrees items headers

/-- An OPERATE has the objects of a SELECT that was repeated, and the number behind its number. -/
def OperatesSelected (agrees : Agreement) (id : TaskId Runner) (items : List CommandItems)
    (before : List (Event Runner)) : Event Runner → Prop
  | .beginTransmit runner (some sender) apdu =>
      sender = id → apdu[1]? = some FunctionCode.operate.toType →
        ∃ seq objects, apdu = requestBytes .operate seq.next objects ∧
          Selected agrees runner id items seq objects before
  | _ => True

/-- Only what a task sends itself can break the law. -/
theorem operatesSelected_of_not_sends {agrees : Agreement} {id : TaskId Runner}
    {items : List CommandItems} {event : Event Runner} (quiet : ¬event.Sends id)
    (before : List (Event Runner)) : OperatesSelected agrees id items before event := by
  cases event with
  | beginTransmit runner sender apdu =>
      cases sender with
      | none => trivial
      | some sender => exact fun own => absurd own quiet
  | _ => trivial

theorem Selected.append {agrees : Agreement} {runner : Runner} {id : TaskId Runner}
    {items : List CommandItems} {seq : AppSeqNum} {objects : List UInt8}
    {history : List (Event Runner)} (selected : Selected agrees runner id items seq objects history)
    (events : List (Event Runner)) :
    Selected agrees runner id items seq objects (history ++ events) := by
  obtain ⟨header, response, headers, inside, facts⟩ := selected
  exact ⟨header, response, headers, inside.trans (List.sublist_append_left _ _), facts⟩

/-- Every response that repeats what a SELECT asked for in its values repeats it in all fields. -/
def CommandTask.EchoesExactly (task : CommandTask) (header : APDUResponseHeader)
    (objects : List UInt8) : Prop :=
  task.functionCodes = [.operate] → (∀ items ∈ task.commands.items, items.1.Discrete) →
    header.control.fir = true → header.control.fin = true →
      ∀ headers, APDUParser.parse true commandWhiteList objects = .ok headers →
        Echoes CommandType.SameValues task.commands.items headers →
          Echoes CommandType.SameFields task.commands.items headers

def Permits.exactEchoes : Permits Runner :=
  ⟨fun _ => True, fun body header objects =>
    ∀ task, body = .command task → task.EchoesExactly header objects⟩

/-! ## Stages -/

variable [DecidableEq Runner]

/-- A task that was requested is active until it is completed. -/
def World.Begun (id : TaskId Runner) (world : World Runner) : Prop :=
  world.ledger.isShutdown = false → world.ledger.completed id = 0 →
    ∃ runner, (world.party runner).activeTask = some id

/-- What a master knows that awaits the response to a SELECT, or has accepted one. -/
inductive Progress (runner : Runner) (id : TaskId Runner) (task : CommandTask)
    (tstate : TaskState) (solSeq : AppSeqNum) (history : List (Event Runner)) : Prop
  | awaiting (waiting : tstate = .waitForResponse) (init : task.commands.Init)
      (nonempty : task.Nonempty)
      (sent : .beginTransmit runner (some id)
        (requestBytes .select solSeq (task.commands.bytes task.mode)) ∈ history)
  | selected (ready : tstate = .taskReady) (seq : AppSeqNum) (next : solSeq = seq.next)
      (selected : Selected CommandType.SameFields runner id task.commands.items seq
        (task.commands.bytes task.mode) history)

/-- How far a task with commands has come. -/
inductive Stage (id : TaskId Runner) (world : World Runner) (task : CommandTask) : Prop
  | fresh
      (functionCodes : task.functionCodes = [.select, .operate] ∨
        task.functionCodes = [.directOperate])
      (init : task.commands.Init)
      (ready : ∀ runner, (world.party runner).activeTask = some id →
        (world.party runner).tstate = .taskReady)
  | selecting (functionCodes : task.functionCodes = [.operate]) (begun : world.Begun id)
      (active : ∀ runner, (world.party runner).activeTask = some id →
        Progress runner id task (world.party runner).tstate (world.party runner).solSeq
          world.ledger.history)
  | done (functionCodes : task.functionCodes = []) (begun : world.Begun id)

/-- What is known of a task if it has commands. -/
structure World.Commanded (id : TaskId Runner) (world : World Runner) : Prop where
  unsent : id.Unused world.ledger.created → ∀ event ∈ world.ledger.history, ¬event.Sends id
  lawful : ∀ task, world.ledger.body id = .command task →
    (∀ items ∈ task.commands.items, items.1.Discrete) →
      Lawful (OperatesSelected CommandType.SameFields id task.commands.items) world.ledger.history
  stage : ∀ task, world.ledger.body id = .command task →
    (∀ items ∈ task.commands.items, items.1.Discrete) → Stage id world task

omit [DecidableEq Runner] in
theorem Progress.append {runner : Runner} {id : TaskId Runner} {task : CommandTask}
    {tstate : TaskState} {solSeq : AppSeqNum} {history : List (Event Runner)}
    (progress : Progress runner id task tstate solSeq history) (events : List (Event Runner)) :
    Progress runner id task tstate solSeq (history ++ events) := by
  cases progress with
  | awaiting waiting init nonempty sent =>
      exact .awaiting waiting init nonempty (List.mem_append_left _ sent)
  | selected ready seq next selected => exact .selected ready seq next (selected.append events)

/-! ## Steps that do not concern a task -/

/-- A task may be given up, but nothing else becomes of it. -/
structure World.Spares (id : TaskId Runner) (world next : World Runner) : Prop where
  body : next.ledger.body id = world.ledger.body id
  history : ∃ events, next.ledger.history = world.ledger.history ++ events ∧
    ∀ event ∈ events, ¬event.Sends id
  unused : id.Unused next.ledger.created → id.Unused world.ledger.created
  begun : world.ledger.recurs id = false → world.Begun id → next.Begun id
  active : ∀ runner, (next.party runner).activeTask = some id →
    (world.party runner).activeTask = some id ∧
      (next.party runner).tstate = (world.party runner).tstate ∧
      (next.party runner).solSeq = (world.party runner).solSeq

theorem World.Commanded.spared {id : TaskId Runner} {world next : World Runner}
    (commanded : world.Commanded id) (spares : world.Spares id next) : next.Commanded id := by
  obtain ⟨events, grown, quiet⟩ := spares.history
  refine ⟨fun unused => ?_, fun task body discrete => ?_, fun task body discrete => ?_⟩
  · rw [grown]
    exact List.forall_mem_append.mpr ⟨commanded.unsent (spares.unused unused), quiet⟩
  · rw [grown]
    exact (commanded.lawful task (spares.body ▸ body) discrete).append fun event member before =>
      operatesSelected_of_not_sends (quiet event member) before
  · have once : world.ledger.recurs id = false := by
      rw [Ledger.recurs, ← spares.body, body]
      rfl
    cases commanded.stage task (spares.body ▸ body) discrete with
    | fresh functionCodes init ready =>
        refine .fresh functionCodes init fun runner active => ?_
        obtain ⟨before, tstate, _⟩ := spares.active runner active
        exact tstate.trans (ready runner before)
    | selecting functionCodes begun progress =>
        refine .selecting functionCodes (spares.begun once begun) fun runner active => ?_
        obtain ⟨before, tstate, solSeq⟩ := spares.active runner active
        rw [tstate, solSeq, grown]
        exact (progress runner before).append events
    | done functionCodes begun => exact .done functionCodes (spares.begun once begun)

section turnovers

variable {runner : Runner} {party after : Party Runner} {ledger next : Ledger Runner}

omit [FloatOps]

theorem Turnover.isShutdown_eq (turnover : Turnover runner party after ledger next) :
    next.isShutdown = ledger.isShutdown := by
  cases turnover with
  | kept knows => exact knows.isShutdown
  | started _ knows => exact knows.isShutdown
  | added _ knows => exact knows.isShutdown
  | created _ creates => exact creates.isShutdown
  | done _ knows => exact knows.isShutdown

theorem Turnover.unused (turnover : Turnover runner party after ledger next) {id : TaskId Runner}
    (unused : id.Unused next.created) : id.Unused ledger.created := by
  cases turnover with
  | kept knows => exact knows.created ▸ unused
  | started _ knows => exact knows.created ▸ unused
  | added _ knows => exact knows.created ▸ unused
  | created _ creates =>
      rw [creates.created] at unused
      exact unused.of_succ
  | done _ knows => exact knows.created ▸ unused

/-- A task that is not active any more was completed. -/
theorem Turnover.completed_ne_zero (turnover : Turnover runner party after ledger next)
    {id : TaskId Runner} (active : party.activeTask = some id) (inactive : after.activeTask = none) :
    next.completed id ≠ 0 := by
  cases turnover with
  | kept _ same | added _ _ _ _ same =>
      rw [inactive, active] at same
      cases same
  | created _ creates =>
      have same := creates.activeTask
      rw [inactive, active] at same
      cases same
  | started _ _ _ busy =>
      rw [inactive] at busy
      cases busy
  | done other _ own _ completed =>
      obtain rfl := Option.some.inj (own.symm.trans active)
      rw [completed, Pi.add_apply, Pi.single_eq_same]
      exact Nat.succ_ne_zero _

end turnovers

section steps

variable {world : World Runner} {id : TaskId Runner}

omit [FloatOps] in
theorem Ledger.completed_eq_zero_of_append {ledger next : Ledger Runner}
    {events : List (Event Runner)} (grown : next.history = ledger.history ++ events)
    (none : next.completed id = 0) : ledger.completed id = 0 := by
  rw [completed, grown, List.countP_append] at none
  exact Nat.eq_zero_of_add_eq_zero_right none

omit [FloatOps] in
theorem World.Spares.act {runner : Runner} {after : Party Runner} {next : Ledger Runner}
    (turnover : Turnover runner (world.party runner) after world.ledger next)
    (body : next.body id = world.ledger.body id)
    (history : ∃ events, next.history = world.ledger.history ++ events ∧
      ∀ event ∈ events, ¬event.Sends id)
    (active : after.activeTask = some id → (world.party runner).activeTask = some id ∧
      after.tstate = (world.party runner).tstate ∧ after.solSeq = (world.party runner).solSeq)
    (done : (world.party runner).activeTask = some id →
      after.activeTask = some id ∨ after.activeTask = none) :
    world.Spares id ⟨Function.update world.party runner after, next⟩ where
  body := body
  history := history
  unused := turnover.unused
  begun _ begun running none := by
    obtain ⟨events, grown, _⟩ := history
    obtain ⟨busy, before⟩ := begun (turnover.isShutdown_eq ▸ running)
      (Ledger.completed_eq_zero_of_append grown none)
    refine ⟨busy, ?_⟩
    change (Function.update world.party runner after busy).activeTask = some id
    rcases eq_or_ne busy runner with rfl | foreign
    · rw [Function.update_self]
      rcases done before with still | inactive
      · exact still
      · exact absurd none (turnover.completed_ne_zero before inactive)
    · rwa [Function.update_of_ne foreign]
  active := by
    refine (Function.forall_update_iff world.party fun other party =>
      party.activeTask = some id → (world.party other).activeTask = some id ∧
        party.tstate = (world.party other).tstate ∧
        party.solSeq = (world.party other).solSeq).mpr ⟨active, fun _ _ busy => ⟨busy, rfl, rfl⟩⟩

/-! ## Bodies -/

omit [FloatOps] [DecidableEq Runner] in
theorem MasterTask.command_of_initializeTask {body : MasterTask} {task : CommandTask}
    (command : body.initializeTask = .command task) : body = .command task := by
  cases body with
  | command other => exact command
  | _ => cases command

omit [FloatOps] in
theorem MasterTask.command_of_buildRequest {body built : MasterTask} {task : CommandTask}
    {application : IMasterApplication} {apdu after : APDURequest} {seq : UInt8} {success : Bool}
    (build : body.buildRequest application apdu seq = (built, after, success))
    (command : built = .command task) :
    ∃ before, body = .command before ∧ before.buildRequest apdu seq = (task, after, success) := by
  cases body with
  | command before =>
      refine ⟨before, rfl, ?_⟩
      rw [MasterTask.buildRequest] at build
      obtain ⟨rfl, rest⟩ := Prod.mk.inj build
      obtain ⟨rfl, rfl⟩ := Prod.mk.inj rest
      obtain rfl := MasterTask.command.inj command
      rfl
  | _ =>
      rw [MasterTask.buildRequest] at build
      obtain ⟨rfl, _⟩ := Prod.mk.inj build
      cases command

theorem MasterTask.command_of_processResponse {body answered : MasterTask} {task : CommandTask}
    {application : IMasterApplication} {header : APDUResponseHeader} {objects : List UInt8}
    {calls : List SOECall} {result : ResponseResult}
    (response : body.processResponse application header objects = (answered, calls, result))
    (command : answered = .command task) :
    ∃ before, body = .command before ∧
      before.processResponse header objects = (task, result) := by
  cases body with
  | command before =>
      refine ⟨before, rfl, ?_⟩
      rw [MasterTask.processResponse] at response
      obtain ⟨rfl, rest⟩ := Prod.mk.inj response
      obtain ⟨_, rfl⟩ := Prod.mk.inj rest
      obtain rfl := MasterTask.command.inj command
      rfl
  | _ =>
      rw [MasterTask.processResponse] at response
      obtain ⟨rfl, _⟩ := Prod.mk.inj response
      cases command

omit [FloatOps] in
theorem MasterTask.fresh_of_request (params : MasterParams) (request : UserRequest)
    {task : CommandTask} (body : request.body params = .command task) :
    task.commands.Init ∧
      (task.functionCodes = [.select, .operate] ∨ task.functionCodes = [.directOperate]) := by
  cases request with
  | directOperate commands =>
      obtain rfl := MasterTask.command.inj body
      exact ⟨CommandSet.init_ofItems commands, .inr rfl⟩
  | selectAndOperate commands =>
      obtain rfl := MasterTask.command.inj body
      exact ⟨CommandSet.init_ofItems commands, .inl rfl⟩
  | _ => cases body

/-! ## Steps of a task -/

omit [FloatOps] [DecidableEq Runner] in
theorem Ledger.body_confirming (ledger : Ledger Runner) (runner : Runner)
    (header : APDUResponseHeader) : (ledger.confirming runner header).body = ledger.body := by
  rw [confirming]
  split <;> rfl

omit [FloatOps] in
theorem Ledger.events_answered (ledger : Ledger Runner) (runner : Runner) (id : TaskId Runner)
    (body : MasterTask) (header : APDUResponseHeader) (objects : List UInt8)
    (calls : List SOECall) :
    (ledger.answered runner id body header objects calls).history =
      ledger.history ++ .received runner header objects :: [.measurements runner calls] := by
  rw [answered, log, log, setBody, List.append_assoc]
  rfl

namespace World.Commanded

variable {runner : Runner} {after : Party Runner} {next : Ledger Runner}

/-- A task is created. -/
theorem created (commanded : world.Commanded id) {party : Runner → Party Runner}
    (unused : id.Unused world.ledger.created) (used : ¬id.Unused next.created)
    (history : ∃ events, next.history = world.ledger.history ++ events ∧
      ∀ event ∈ events, ¬event.Sends id)
    (inactive : ∀ runner, (party runner).activeTask ≠ some id)
    (fresh : ∀ task, next.body id = .command task → task.commands.Init ∧
      (task.functionCodes = [.select, .operate] ∨ task.functionCodes = [.directOperate])) :
    World.Commanded id ⟨party, next⟩ := by
  obtain ⟨events, grown, quiet⟩ := history
  refine ⟨fun still => absurd still used, fun task _ _ => ?_, fun task body _ => ?_⟩
  · change Lawful _ next.history
    rw [grown, ← List.nil_append (world.ledger.history ++ events)]
    refine Lawful.nil.append fun event member before => operatesSelected_of_not_sends ?_ before
    exact List.forall_mem_append.mpr ⟨commanded.unsent unused, quiet⟩ event member
  · obtain ⟨init, functionCodes⟩ := fresh task body
    exact .fresh functionCodes init fun runner active => absurd active (inactive runner)

/-- A task without commands. -/
theorem otherwise {party : Runner → Party Runner} (used : ¬id.Unused next.created)
    (body : ∀ task, next.body id ≠ .command task) : World.Commanded id ⟨party, next⟩ where
  unsent still := absurd still used
  lawful task commands := absurd commands (body task)
  stage task commands := absurd commands (body task)

/-- A task with commands goes on. -/
theorem goesOn (commanded : world.Commanded id) {party : Runner → Party Runner}
    {task changed : CommandTask} {events : List (Event Runner)}
    (body : world.ledger.body id = .command task) (same : task.Same changed)
    (nextBody : next.body id = .command changed) (used : ¬id.Unused next.created)
    (grown : next.history = world.ledger.history ++ events)
    (goesOn : Stage id world task →
      (Lawful (OperatesSelected CommandType.SameFields id task.commands.items)
          world.ledger.history →
        Lawful (OperatesSelected CommandType.SameFields id task.commands.items)
          (world.ledger.history ++ events)) ∧
        ((∀ items ∈ task.commands.items, items.1.Discrete) → Stage id ⟨party, next⟩ changed)) :
    World.Commanded id ⟨party, next⟩ := by
  have only {other : CommandTask} (body : next.body id = .command other) : other = changed :=
    MasterTask.command.inj (body.symm.trans nextBody)
  refine ⟨fun still => absurd still used, fun other otherBody discrete => ?_,
    fun other otherBody discrete => ?_⟩
  · obtain rfl := only otherBody
    rw [same.items] at discrete ⊢
    change Lawful _ next.history
    rw [grown]
    exact (goesOn (commanded.stage task body discrete)).1 (commanded.lawful task body discrete)
  · obtain rfl := only otherBody
    rw [same.items] at discrete
    exact (goesOn (commanded.stage task body discrete)).2 discrete

omit [FloatOps] in
/-- A task that is chosen was not begun before. -/
theorem not_begun (booked : world.Booked) {position : Nat}
    (running : world.ledger.isShutdown = false) (free : world.ledger.current = none)
    (chosen : world.ledger.tasks[position]? = some ⟨id, runner⟩)
    (once : world.ledger.recurs id = false) : ¬world.Begun id := by
  intro begun
  have held : world.ledger.held id ≠ 0 := fun none =>
    ((world.ledger.held_eq_zero_iff id).mp none).2 _ (List.mem_of_getElem? chosen) rfl
  have account := booked.settled.running running id once
  obtain ⟨busy, active⟩ := begun running (by omega)
  rw [← booked.exclusive.scheduled.current running, free] at active
  cases active

theorem started (commanded : world.Commanded id) (booked : world.Booked) {position : Nat}
    (running : world.ledger.isShutdown = false) (free : world.ledger.current = none)
    (chosen : world.ledger.tasks[position]? = some ⟨id, runner⟩)
    (ready : after.tstate = .taskReady)
    (body : next.body id = (world.ledger.body id).initializeTask)
    (used : ¬id.Unused next.created) {events : List (Event Runner)}
    (grown : next.history = world.ledger.history ++ events)
    (quiet : ∀ event ∈ events, ¬event.Sends id) :
    World.Commanded id ⟨Function.update world.party runner after, next⟩ := by
  by_cases commands : ∃ task, next.body id = .command task
  · obtain ⟨task, command⟩ := commands
    have before := MasterTask.command_of_initializeTask (body.symm.trans command)
    have once : world.ledger.recurs id = false := by
      rw [Ledger.recurs, before]
      rfl
    have unbegun := not_begun booked running free chosen once
    refine commanded.goesOn before ⟨rfl, rfl, rfl⟩ command used grown fun stage => ⟨fun lawful =>
      lawful.append fun event member => operatesSelected_of_not_sends (quiet event member),
      fun discrete => ?_⟩
    cases stage with
    | fresh functionCodes init known =>
        refine .fresh functionCodes init ?_
        exact (Function.forall_update_iff world.party fun _ party =>
          party.activeTask = some id → party.tstate = .taskReady).mpr
            ⟨fun _ => ready, fun other _ => known other⟩
    | selecting _ begun | done _ begun => exact absurd begun unbegun
  · exact otherwise used fun task command => commands ⟨task, command⟩

omit [FloatOps] in
/-- Another master is not active with the task of a master. -/
theorem inactive_elsewhere (booked : world.Booked)
    (active : (world.party runner).activeTask = some id) {other : Runner} (foreign : other ≠ runner) :
    (Function.update world.party runner after other).activeTask ≠ some id := by
  rw [Function.update_of_ne foreign]
  exact fun busy => foreign (booked.exclusive.scheduled.single busy active)

omit [FloatOps] in
theorem begun_of_active (active : after.activeTask = some id) :
    World.Begun id ⟨Function.update world.party runner after, next⟩ := by
  refine fun _ _ => ⟨runner, ?_⟩
  change (Function.update world.party runner after runner).activeTask = some id
  rwa [Function.update_self]

theorem requested (commanded : world.Commanded id) (booked : world.Booked)
    {application : IMasterApplication} {buffer : List UInt8} {apdu : APDURequest}
    {body : MasterTask} (tstate : (world.party runner).tstate = .taskReady)
    (active : (world.party runner).activeTask = some id)
    (built : (world.ledger.body id).buildRequest application (.ofBuffer buffer)
      (world.party runner).solSeq.seq = (body, apdu, true)) :
    World.Commanded id
      ⟨Function.update world.party runner
        { world.party runner with
          responseTimer := true, isSending := true, tstate := .waitForResponse },
        (world.ledger.setBody id body).log (.beginTransmit runner (some id) apdu.toRSlice)⟩ := by
  have used := booked.registered.active runner id active
  have changed : (world.ledger.setBody id body).body id = body := Function.update_self ..
  by_cases commands : ∃ task, body = .command task
  swap
  · exact otherwise used fun task command => commands ⟨task, changed.symm.trans command⟩
  obtain ⟨task, rfl⟩ := commands
  obtain ⟨before, command, request⟩ := MasterTask.command_of_buildRequest built rfl
  obtain ⟨_, _, impossible⟩ | ⟨function, requests⟩ := CommandTask.buildRequest_cases request
  · cases impossible
  obtain ⟨nonempty, written⟩ := requests.written rfl
  have codes := requests.functionCodes
  have begun : World.Begun id
      ⟨Function.update world.party runner
        { world.party runner with
          responseTimer := true, isSending := true, tstate := .waitForResponse },
        (world.ledger.setBody id (.command task)).log
          (.beginTransmit runner (some id) apdu.toRSlice)⟩ := begun_of_active active
  refine commanded.goesOn command requests.same changed used rfl fun stage => ?_
  -- only the OPERATE behind a SELECT has to obey the law
  have harmless (other : function.toType ≠ FunctionCode.operate.toType)
      (lawful : Lawful (OperatesSelected CommandType.SameFields id before.commands.items)
        world.ledger.history) :
      Lawful (OperatesSelected CommandType.SameFields id before.commands.items)
        (world.ledger.history ++ [.beginTransmit runner (some id) apdu.toRSlice]) := by
    refine lawful.concat fun _ operates => ?_
    rw [written] at operates
    exact absurd (Option.some.inj operates) other
  cases stage with
  | fresh functionCodes init ready =>
      rcases functionCodes with functionCodes | functionCodes
      · rw [functionCodes] at codes
        obtain ⟨rfl, rest⟩ := List.cons_eq_cons.mp codes
        refine ⟨harmless (by decide), fun _ => .selecting rest.symm begun fun other busy => ?_⟩
        obtain rfl : other = runner := by
          by_contra foreign
          exact inactive_elsewhere booked active foreign busy
        rw [show (World.mk _ _).party other = _ from Function.update_self ..]
        refine .awaiting rfl (requests.init init) (requests.same.nonempty nonempty) ?_
        rw [requests.same.mode, requests.same.bytes, ← written]
        exact List.mem_append_right _ List.mem_cons_self
      · rw [functionCodes] at codes
        obtain ⟨rfl, rest⟩ := List.cons_eq_cons.mp codes
        exact ⟨harmless (by decide), fun _ => .done rest.symm begun⟩
  | selecting functionCodes _ progress =>
      rw [functionCodes] at codes
      obtain ⟨rfl, rest⟩ := List.cons_eq_cons.mp codes
      refine ⟨fun lawful => lawful.concat fun _ _ => ?_, fun _ => .done rest.symm begun⟩
      cases progress runner active with
      | awaiting waiting =>
          rw [tstate] at waiting
          cases waiting
      | selected _ seq next selected =>
          exact ⟨seq, _, next ▸ written, selected⟩
  | done functionCodes =>
      rw [functionCodes] at codes
      cases codes

/-- A task that was begun and is not active any more. -/
theorem rests {party : Runner → Party Runner} {task : CommandTask}
    (inactive : ∀ runner, (party runner).activeTask ≠ some id) (completed : next.completed id ≠ 0)
    (functionCodes : task.functionCodes = [.operate] ∨ task.functionCodes = []) :
    Stage id ⟨party, next⟩ task := by
  have begun : World.Begun id ⟨party, next⟩ := fun _ none => absurd none completed
  rcases functionCodes with functionCodes | functionCodes
  · exact .selecting functionCodes begun fun runner active => absurd active (inactive runner)
  · exact .done functionCodes begun

omit [FloatOps] in
/-- The task of a master that finishes it is not active. -/
theorem inactive_of_finished (booked : world.Booked)
    (active : (world.party runner).activeTask = some id) (finished : after.activeTask = none)
    (other : Runner) : (Function.update world.party runner after other).activeTask ≠ some id := by
  rcases eq_or_ne other runner with rfl | foreign
  · rw [Function.update_self, finished]
    exact nofun
  · exact inactive_elsewhere booked active foreign

theorem unformatted (commanded : world.Commanded id) (booked : world.Booked)
    {application : IMasterApplication} {buffer : List UInt8} {apdu : APDURequest}
    {body : MasterTask} (active : (world.party runner).activeTask = some id)
    (built : (world.ledger.body id).buildRequest application (.ofBuffer buffer)
      (world.party runner).solSeq.seq = (body, apdu, false))
    (finished : after.activeTask = none) (changed : next.body id = body)
    (used : ¬id.Unused next.created) (completed : next.completed id ≠ 0)
    {events : List (Event Runner)} (grown : next.history = world.ledger.history ++ events)
    (quiet : ∀ event ∈ events, ¬event.Sends id) :
    World.Commanded id ⟨Function.update world.party runner after, next⟩ := by
  have inactive := inactive_of_finished booked active finished
  by_cases commands : ∃ task, body = .command task
  swap
  · exact otherwise used fun task command => commands ⟨task, changed.symm.trans command⟩
  obtain ⟨task, rfl⟩ := commands
  obtain ⟨before, command, request⟩ := MasterTask.command_of_buildRequest built rfl
  have lawful (lawful : Lawful (OperatesSelected CommandType.SameFields id before.commands.items)
      world.ledger.history) :
      Lawful (OperatesSelected CommandType.SameFields id before.commands.items)
        (world.ledger.history ++ events) :=
    lawful.append fun event member => operatesSelected_of_not_sends (quiet event member)
  obtain ⟨codes, rfl, _⟩ | ⟨function, requests⟩ := CommandTask.buildRequest_cases request
  · exact commanded.goesOn command ⟨rfl, rfl, rfl⟩ changed used grown fun _ =>
      ⟨lawful, fun _ => rests inactive completed (.inr codes)⟩
  · refine commanded.goesOn command requests.same changed used grown fun stage =>
      ⟨lawful, fun _ => rests inactive completed ?_⟩
    have codes := requests.functionCodes
    cases stage with
    | fresh functionCodes =>
        rcases functionCodes with functionCodes | functionCodes
        · rw [functionCodes] at codes
          exact .inl (List.cons_eq_cons.mp codes).2.symm
        · rw [functionCodes] at codes
          exact .inr (List.cons_eq_cons.mp codes).2.symm
    | selecting functionCodes =>
        rw [functionCodes] at codes
        exact .inr (List.cons_eq_cons.mp codes).2.symm
    | done functionCodes =>
        rw [functionCodes] at codes
        cases codes

/-- A task that takes in a response was begun, and its next request is still the same. -/
theorem answered (commanded : world.Commanded id) {header : APDUResponseHeader}
    {objects : List UInt8} {body : MasterTask} {calls : List SOECall} {result : ResponseResult}
    {permits : Permits Runner}
    (answers : Answers permits (world.party runner) world.ledger id header objects body calls result)
    (registered : world.Registered) {party : Runner → Party Runner}
    (changed : next.body id = body) (created : next.created = world.ledger.created)
    {events : List (Event Runner)} (quiet : ∀ event ∈ events, ¬event.Sends id)
    (grown : next.history = world.ledger.history ++ .received runner header objects :: events)
    (stage : ∀ before task, world.ledger.body id = .command before →
      before.processResponse header objects = (task, result) →
      (∀ items ∈ before.commands.items, items.1.Discrete) →
      before.functionCodes = [.operate] ∧
          Progress runner id before (world.party runner).tstate (world.party runner).solSeq
            world.ledger.history ∨
        before.functionCodes = [] →
      Stage id ⟨party, next⟩ task) :
    World.Commanded id ⟨party, next⟩ := by
  obtain ⟨application, response⟩ := answers.response
  have used : ¬id.Unused next.created := by
    rw [created]
    exact registered.active runner id answers.activeTask
  by_cases commands : ∃ task, body = .command task
  swap
  · exact otherwise used fun task command => commands ⟨task, changed.symm.trans command⟩
  obtain ⟨task, rfl⟩ := commands
  obtain ⟨before, command, processed⟩ := MasterTask.command_of_processResponse response rfl
  obtain ⟨functionCodes, same, _⟩ := before.processResponse_cases header objects
  rw [processed] at functionCodes same
  refine commanded.goesOn command same changed used grown fun known => ⟨fun lawful => ?_, ?_⟩
  · refine lawful.append fun event member => operatesSelected_of_not_sends ?_
    rcases List.mem_cons.mp member with rfl | later
    · exact not_false
    · exact quiet event later
  · intro discrete
    refine stage before task command processed discrete ?_
    cases known with
    | fresh _ _ ready =>
        have tstate := ready runner answers.activeTask
        rw [answers.tstate] at tstate
        cases tstate
    | selecting functionCodes _ active =>
        exact .inl ⟨functionCodes, active runner answers.activeTask⟩
    | done functionCodes => exact .inr functionCodes

/-- A master has a new task. -/
theorem creates (commanded : world.Commanded id) (booked : world.Booked)
    (turnover : Turnover runner (world.party runner) after world.ledger next) {body : MasterTask}
    (bodies : next.body =
      Function.update world.ledger.body (.user runner world.ledger.created) body)
    (created : next.created = world.ledger.created + 1)
    (fresh : ∀ task, body = .command task → task.commands.Init ∧
      (task.functionCodes = [.select, .operate] ∨ task.functionCodes = [.directOperate]))
    (history : ∃ events, next.history = world.ledger.history ++ events ∧
      ∀ event ∈ events, ¬event.Sends id)
    (active : after.activeTask = (world.party runner).activeTask)
    (tstate : after.tstate = (world.party runner).tstate)
    (solSeq : after.solSeq = (world.party runner).solSeq) :
    World.Commanded id ⟨Function.update world.party runner after, next⟩ := by
  rcases eq_or_ne id (.user runner world.ledger.created) with rfl | foreign
  · have unused := TaskId.unused_created world.ledger.created runner
    refine commanded.created unused (fun still => ?_) history ?_ ?_
    · rw [created] at still
      exact still.ne runner rfl
    · refine (Function.forall_update_iff world.party fun _ party =>
        party.activeTask ≠ some (.user runner world.ledger.created)).mpr ⟨?_, fun other _ => ?_⟩
      · rw [active]
        exact fun busy => booked.registered.active runner _ busy unused
      · exact fun busy => booked.registered.active other _ busy unused
    · rw [bodies, Function.update_self]
      exact fresh
  · have kept : next.body id = world.ledger.body id := by
      rw [bodies, Function.update_of_ne foreign]
    exact commanded.spared (.act turnover kept history
      (fun busy => ⟨active ▸ busy, tstate, solSeq⟩) fun busy => .inl (active.trans busy))

omit [FloatOps] [DecidableEq Runner] in
/-- What follows a response is no request. -/
theorem history_answered (id : TaskId Runner) {ledger answered : Ledger Runner}
    {header : APDUResponseHeader} {objects : List UInt8} {events : List (Event Runner)}
    (quiet : ∀ event ∈ events, ¬event.Sends id)
    (grown : answered.history = ledger.history ++ .received runner header objects :: events) :
    ∃ events, (answered.confirming runner header).history =
        ledger.history ++ .received runner header objects :: events ∧
      ∀ event ∈ events, ¬event.Sends id := by
  rw [Ledger.confirming]
  split
  · refine ⟨events ++ [.queueConfirm runner (.solicitedConfirm header.control.seq)], ?_,
      List.forall_mem_append.mpr ⟨quiet, by simp [Event.Sends]⟩⟩
    rw [Ledger.log, grown, List.append_assoc, List.cons_append]
  · exact ⟨events, grown, quiet⟩

/-- A master is concerned with another task. -/
theorem foreign (commanded : world.Commanded id)
    (turnover : Turnover runner (world.party runner) after world.ledger next) {other : TaskId Runner}
    (foreign : id ≠ other) (active : (world.party runner).activeTask = some other)
    (later : after.activeTask = some other ∨ after.activeTask = none)
    (body : next.body id = world.ledger.body id)
    (history : ∃ events, next.history = world.ledger.history ++ events ∧
      ∀ event ∈ events, ¬event.Sends id) :
    World.Commanded id ⟨Function.update world.party runner after, next⟩ := by
  refine commanded.spared (.act turnover body history (fun busy => ?_) fun busy => ?_)
  · rcases later with same | inactive
    · exact absurd (Option.some.inj (busy.symm.trans same)) foreign
    · rw [inactive] at busy
      cases busy
  · exact absurd (Option.some.inj (busy.symm.trans active)) foreign

/-- A response is accepted and the next request is due. -/
theorem repeated (commanded : world.Commanded id) (booked : world.Booked)
    {header : APDUResponseHeader} {objects : List UInt8} {body : MasterTask} {calls : List SOECall}
    (answers : Answers .exactEchoes (world.party runner) world.ledger id header objects body calls
      .okRepeat)
    (active : after.activeTask = some id) (ready : after.tstate = .taskReady)
    (solSeq : after.solSeq = (world.party runner).solSeq.next)
    (changed : next.body id = body) (created : next.created = world.ledger.created)
    {events : List (Event Runner)} (quiet : ∀ event ∈ events, ¬event.Sends id)
    (grown : next.history = world.ledger.history ++ .received runner header objects :: events) :
    World.Commanded id ⟨Function.update world.party runner after, next⟩ := by
  refine commanded.answered answers booked.registered changed created quiet grown ?_
  intro before task command response discrete stage
  obtain ⟨functionCodes, same, _, accepted⟩ := before.processResponse_cases header objects
  rw [response] at functionCodes same accepted
  obtain ⟨single, selected⟩ := accepted rfl
  obtain ⟨fir, fin⟩ := Bool.and_eq_true_iff.mp single
  have begun : World.Begun id ⟨Function.update world.party runner after, next⟩ :=
    begun_of_active active
  rcases stage with ⟨operate, progress⟩ | done
  · refine .selecting (functionCodes.trans operate) begun fun other busy => ?_
    obtain rfl : other = runner := by
      by_contra foreign
      exact inactive_elsewhere booked answers.activeTask foreign busy
    rw [show (World.mk _ _).party other = after from Function.update_self ..]
    change Progress other id task after.tstate after.solSeq next.history
    cases progress with
    | awaiting _ init nonempty sent =>
        have present : ∀ header ∈ before.commands.headers, header.2.entries ≠ [] :=
          fun header member => nonempty _ (List.mem_map_of_mem member)
        obtain ⟨headers, parsed, echoes⟩ := CommandSet.echoes_of_selected init present selected
        have exact := answers.permitted before command operate discrete fir fin headers parsed echoes
        refine .selected ready _ solSeq ⟨header, objects, headers, ?_, answers.function, fir, fin,
          answers.seq, parsed, same.items ▸ exact⟩
        rw [same.mode, same.bytes, grown]
        exact (List.singleton_sublist.mpr sent).append
          (List.cons_sublist_cons.mpr (List.nil_sublist events))
    | selected ready =>
        rw [answers.tstate] at ready
        cases ready
  · exact .done (functionCodes.trans done) begun

theorem finished (commanded : world.Commanded id) (booked : world.Booked)
    {header : APDUResponseHeader} {objects : List UInt8} {body : MasterTask} {calls : List SOECall}
    {result : ResponseResult} {permits : Permits Runner}
    (answers : Answers permits (world.party runner) world.ledger id header objects body calls result)
    (inactive : after.activeTask = none) (completed : next.completed id ≠ 0)
    (changed : next.body id = body) (created : next.created = world.ledger.created)
    {events : List (Event Runner)} (quiet : ∀ event ∈ events, ¬event.Sends id)
    (grown : next.history = world.ledger.history ++ .received runner header objects :: events) :
    World.Commanded id ⟨Function.update world.party runner after, next⟩ := by
  refine commanded.answered answers booked.registered changed created quiet grown ?_
  intro before task command response discrete stage
  obtain ⟨functionCodes, _⟩ := before.processResponse_cases header objects
  rw [response] at functionCodes
  refine rests (inactive_of_finished booked answers.activeTask inactive) completed ?_
  rcases stage with ⟨operate, _⟩ | done
  · exact .inl (functionCodes.trans operate)
  · exact .inr (functionCodes.trans done)

/-- Whatever a master does, the discipline of a task is kept. -/
theorem act (commanded : world.Commanded id) (booked : world.Booked)
    (move : Move .exactEchoes runner (world.party runner) world.ledger after next) :
    World.Commanded id ⟨Function.update world.party runner after, next⟩ := by
  have turnover := move.turnover
  have same : (world.party runner).activeTask = some id →
      (world.party runner).activeTask = some id ∧
        (world.party runner).tstate = (world.party runner).tstate ∧
        (world.party runner).solSeq = (world.party runner).solSeq := fun busy => ⟨busy, rfl, rfl⟩
  have nothing : world.ledger.history = world.ledger.history ++ [] := (List.append_nil _).symm
  have body (params : MasterParams) (request : UserRequest) :
      (world.ledger.create runner (request.body params)).body =
        Function.update world.ledger.body (.user runner world.ledger.created)
          (request.body params) := rfl
  cases move with
  | note event silent =>
      refine commanded.spared (.act turnover rfl ⟨[event], rfl, ?_⟩ same .inl)
      refine List.forall_mem_singleton.mpr ?_
      cases event with
      | beginTransmit => cases silent
      | _ => exact not_false
  | opened | refused | ignored | ready | confirmed =>
      exact commanded.spared (.act turnover rfl ⟨[_], rfl, by simp [Event.Sends]⟩ same .inl)
  | expired => exact commanded.spared (.act turnover rfl ⟨[], nothing, by simp⟩ same .inl)
  | reported header objects calls =>
      refine commanded.spared (.act turnover rfl ⟨[.received runner header objects,
        .measurements runner calls], ?_, ?_⟩ same .inl)
      · simp [Ledger.log]
      · simp [Event.Sends]
  | unsolicited header objects calls =>
      refine commanded.spared (.act turnover rfl ⟨[.received runner header objects,
        .measurements runner calls,
        .queueConfirm runner (.unsolicitedConfirm header.control.seq)], ?_, ?_⟩ same .inl)
      · simp [Ledger.log]
      · simp [Event.Sends]
  | added other =>
      obtain ⟨tasks, added⟩ := world.ledger.add_eq other runner
      rw [added] at turnover ⊢
      exact commanded.spared (.act turnover rfl ⟨[], nothing, by simp⟩ same .inl)
  | scheduled params request =>
      obtain ⟨tasks, added⟩ := Ledger.add_eq
        (world.ledger.create runner (request.body params)) (.user runner world.ledger.created) runner
      rw [added] at turnover ⊢
      exact commanded.creates booked turnover (body params request) rfl
        (fun _ => MasterTask.fresh_of_request params request) ⟨[], nothing, by simp⟩ rfl rfl rfl
  | declined params request =>
      exact commanded.creates booked turnover (body params request) rfl
        (fun _ => MasterTask.fresh_of_request params request) ⟨[_], rfl, by simp [Event.Sends]⟩
        rfl rfl rfl
  | bound builder =>
      have body : (world.ledger.create runner (.userPoll builder true 0)).body =
          Function.update world.ledger.body (.user runner world.ledger.created)
            (.userPoll builder true 0) := rfl
      exact commanded.creates booked turnover body rfl (fun _ absent => by cases absent)
        ⟨[], nothing, by simp⟩ rfl rfl rfl
  | started other position running free chosen inactive =>
      have history : world.ledger.history ++ [.run runner other true] ++ [.onStart other] =
          world.ledger.history ++ [.run runner other true, .onStart other] :=
        List.append_assoc _ _ _
      rcases eq_or_ne id other with rfl | foreign
      · have held : world.ledger.held id ≠ 0 := fun none =>
          ((world.ledger.held_eq_zero_iff id).mp none).2 _ (List.mem_of_getElem? chosen) rfl
        have body : Function.update world.ledger.body id (world.ledger.body id).initializeTask id =
            (world.ledger.body id).initializeTask := Function.update_self ..
        exact commanded.started booked running free chosen rfl body
          (fun unused => held (booked.registered.unused id unused).2.1) history
          (by simp [Event.Sends])
      · refine commanded.spared (.act turnover (Function.update_of_ne foreign ..)
          ⟨_, history, by simp [Event.Sends]⟩ (fun busy => ?_) fun busy => ?_)
        · exact absurd (Option.some.inj busy).symm foreign
        · rw [inactive] at busy
          cases busy
  | requested other application buffer apdu body tstate active quiet built =>
      rcases eq_or_ne id other with rfl | foreign
      · exact commanded.requested booked tstate active built
      · refine commanded.spared (.act turnover (Function.update_of_ne foreign ..)
          ⟨[_], rfl, ?_⟩ (fun busy => ?_) fun busy => ?_)
        · exact List.forall_mem_singleton.mpr foreign.symm
        all_goals exact absurd (Option.some.inj (busy.symm.trans active)) foreign
  | unformatted other application buffer apdu body tstate active failed =>
      have completed := turnover.completed_ne_zero active rfl
      obtain ⟨current, tasks, released⟩ := Ledger.release_eq
        ((world.ledger.setBody other body).complete other .failureMessageFormatError) runner
      rw [released] at turnover completed ⊢
      rcases eq_or_ne id other with rfl | foreign
      · exact commanded.unformatted booked active failed rfl (Function.update_self ..)
          (booked.registered.active runner id active) completed rfl (by simp [Event.Sends])
      · exact commanded.spared (.act turnover (Function.update_of_ne foreign ..)
          ⟨[_], rfl, by simp [Event.Sends]⟩ (fun busy => by cases busy) fun _ => .inr rfl)
  | timedOut other =>
      obtain ⟨current, tasks, released⟩ := Ledger.release_eq
        (world.ledger.complete other .failureResponseTimeout) runner
      rw [released] at turnover ⊢
      exact commanded.spared (.act turnover rfl ⟨[_], rfl, by simp [Event.Sends]⟩
        (fun busy => by cases busy) fun _ => .inr rfl)
  | @continued other header objects body calls answers =>
      obtain ⟨events, history, quiet⟩ := history_answered id (by simp [Event.Sends])
        (world.ledger.events_answered runner other body header objects calls)
      have bodies : ((world.ledger.answered runner other body header objects calls).confirming
          runner header).body = Function.update world.ledger.body other body :=
        Ledger.body_confirming _ _ _
      rcases eq_or_ne id other with rfl | foreign
      · refine commanded.answered answers booked.registered (bodies ▸ Function.update_self ..)
          (Ledger.created_confirming _ _ _) quiet history ?_
        intro before task _ response
        have never := (before.processResponse_cases header objects).2.2.1
        rw [response] at never
        exact absurd rfl never
      · refine commanded.foreign turnover foreign answers.activeTask (.inl ?_)
          (bodies ▸ Function.update_of_ne foreign ..) ⟨_, history, ?_⟩
        · rw [Party.confirming_eq]
          exact answers.activeTask
        · exact List.forall_mem_cons.mpr ⟨not_false, quiet⟩
  | @repeated other header objects body calls answers =>
      obtain ⟨events, history, quiet⟩ := history_answered id (by simp [Event.Sends])
        (world.ledger.events_answered runner other body header objects calls)
      have bodies : ((world.ledger.answered runner other body header objects calls).confirming
          runner header).body = Function.update world.ledger.body other body :=
        Ledger.body_confirming _ _ _
      rcases eq_or_ne id other with rfl | foreign
      · refine commanded.repeated booked answers ?_ rfl ?_ (bodies ▸ Function.update_self ..)
          (Ledger.created_confirming _ _ _) quiet history
        · rw [Party.confirming_eq]
          exact answers.activeTask
        · rw [Party.confirming_eq]
          rfl
      · refine commanded.foreign turnover foreign answers.activeTask (.inl ?_)
          (bodies ▸ Function.update_of_ne foreign ..) ⟨_, history, ?_⟩
        · rw [Party.confirming_eq]
          exact answers.activeTask
        · exact List.forall_mem_cons.mpr ⟨not_false, quiet⟩
  | @finished other header objects body calls result completion answers =>
      have completed := turnover.completed_ne_zero answers.activeTask rfl
      have answered := world.ledger.events_answered runner other body header objects calls
      have done : ((world.ledger.answered runner other body header objects calls).complete other
          completion).history = world.ledger.history ++ .received runner header objects ::
            [.measurements runner calls, .onTaskComplete other completion
              ((Function.update world.ledger.body other body other).onTaskComplete completion)] := by
        rw [Ledger.complete, Ledger.log, answered, List.append_assoc]
        rfl
      obtain ⟨events, history, quiet⟩ := history_answered id (by simp [Event.Sends]) done
      have bodies : (((world.ledger.answered runner other body header objects calls).complete other
          completion).confirming runner header).body =
            Function.update world.ledger.body other body := Ledger.body_confirming _ _ _
      have created := Ledger.created_confirming ((world.ledger.answered runner other body header
        objects calls).complete other completion) runner header
      obtain ⟨current, tasks, released⟩ := Ledger.release_eq (Ledger.confirming (Ledger.complete
        (world.ledger.answered runner other body header objects calls) other completion) runner
          header) runner
      rw [released] at turnover completed ⊢
      rcases eq_or_ne id other with rfl | foreign
      · exact commanded.finished booked answers rfl completed (bodies ▸ Function.update_self ..)
          created quiet history
      · exact commanded.foreign turnover foreign answers.activeTask (.inr rfl)
          (bodies ▸ Function.update_of_ne foreign ..)
          ⟨_, history, List.forall_mem_cons.mpr ⟨not_false, quiet⟩⟩

end World.Commanded

/-! ## Steps of the channel -/

/-- An event that is the end of something. -/
def Event.Ends : Event Runner → Prop
  | .onTaskComplete _ _ _ | .onClose _ => True
  | _ => False

omit [DecidableEq Runner] [FloatOps] in
theorem Event.Ends.not_sends {event : Event Runner} (ends : event.Ends) (id : TaskId Runner) :
    ¬event.Sends id := by
  cases event with
  | beginTransmit => cases ends
  | _ => exact not_false

omit [DecidableEq Runner] [FloatOps] in
/-- The same tasks, of which none goes on. -/
structure Ledger.Quiet (ledger next : Ledger Runner) : Prop where
  body : next.body = ledger.body
  created : next.created = ledger.created
  history : ∃ events, next.history = ledger.history ++ events ∧ ∀ event ∈ events, event.Ends

namespace Ledger.Quiet

omit [DecidableEq Runner] [FloatOps] in
theorem trans {ledger middle last : Ledger Runner} (first : ledger.Quiet middle)
    (second : middle.Quiet last) : ledger.Quiet last := by
  obtain ⟨events, grown, quiet⟩ := first.history
  obtain ⟨more, further, silent⟩ := second.history
  refine ⟨second.body.trans first.body, second.created.trans first.created, events ++ more, ?_,
    List.forall_mem_append.mpr ⟨quiet, silent⟩⟩
  rw [further, grown, List.append_assoc]

omit [DecidableEq Runner] [FloatOps] in
theorem same {ledger next : Ledger Runner} (body : next.body = ledger.body)
    (created : next.created = ledger.created) (history : next.history = ledger.history) :
    ledger.Quiet next :=
  ⟨body, created, [], history.trans (List.append_nil _).symm, by simp⟩

omit [DecidableEq Runner] [FloatOps] in
theorem completeRecords (ledger : Ledger Runner) (result : TaskCompletion)
    (records : List (Record Runner)) (current : Option (Record Runner))
    (tasks : List (Record Runner)) :
    ledger.Quiet { Ledger.completeRecords result records ledger with current, tasks } := by
  refine ⟨rfl, rfl, _, rfl, fun event member => ?_⟩
  obtain ⟨record, _, rfl⟩ := List.mem_map.mp member
  trivial

omit [FloatOps] in
theorem close (ledger : Ledger Runner) (runner : Runner) : ledger.Quiet (ledger.close runner) := by
  rw [Ledger.close]
  have logged (closed : Ledger Runner) : closed.Quiet (closed.log (.onClose runner)) :=
    ⟨rfl, rfl, [.onClose runner], rfl, List.forall_mem_singleton.mpr trivial⟩
  refine Quiet.trans ?_ (logged _)
  split
  · exact same rfl rfl rfl
  · refine Quiet.trans ?_ (completeRecords _ _ _ _ _)
    rw [Ledger.abandon]
    split
    · exact same rfl rfl rfl
    · split
      · exact completeRecords _ _ _ _ _
      · exact same rfl rfl rfl

end Ledger.Quiet

omit [FloatOps] in
/-- A task that is given up when its master goes offline is completed. -/
theorem Ledger.completed_close {ledger : Ledger Runner} {runner : Runner}
    (running : ledger.isShutdown = false) (current : ledger.current = some ⟨id, runner⟩)
    (once : ledger.recurs id = false) : (ledger.close runner).completed id ≠ 0 := by
  have abandoned : (ledger.abandon runner).completed id = ledger.completed id + 1 := by
    have counted := ledger.completed_completeRecords id .failureNoComms [⟨id, runner⟩]
    rw [if_neg (by simp [once])] at counted
    simp only [abandon, current, if_true]
    simpa using! counted
  have grown : (ledger.abandon runner).history <+: (ledger.close runner).history := by
    rw [close, if_neg (by simp [running])]
    exact (List.prefix_append _ _).trans (List.prefix_append _ _)
  have more : (ledger.abandon runner).completed id ≤ (ledger.close runner).completed id :=
    grown.sublist.countP_le
  omega

omit [FloatOps] in
/-- Active tasks stay active, or are completed. -/
theorem World.Spares.quiet {party : Runner → Party Runner} {next : Ledger Runner}
    (quiet : world.ledger.Quiet next)
    (running : next.isShutdown = false → world.ledger.isShutdown = false)
    (done : next.isShutdown = false → world.ledger.recurs id = false → ∀ runner,
      (world.party runner).activeTask = some id →
        (party runner).activeTask = some id ∨ next.completed id ≠ 0)
    (active : ∀ runner, (party runner).activeTask = some id →
      (world.party runner).activeTask = some id ∧
        (party runner).tstate = (world.party runner).tstate ∧
        (party runner).solSeq = (world.party runner).solSeq) :
    world.Spares id ⟨party, next⟩ where
  body := congrFun quiet.body id
  history := by
    obtain ⟨events, grown, silent⟩ := quiet.history
    exact ⟨events, grown, fun event member => (silent event member).not_sends id⟩
  unused unused := quiet.created ▸ unused
  begun once begun now none := by
    obtain ⟨events, grown, _⟩ := quiet.history
    obtain ⟨busy, before⟩ :=
      begun (running now) (Ledger.completed_eq_zero_of_append grown none)
    exact ⟨busy, (done now once busy before).resolve_right (not_not.mpr none)⟩
  active := active

/-- Every step keeps the discipline of a task. -/
theorem World.Commanded.step {next : World Runner} (commanded : world.Commanded id)
    (booked : world.Booked) (step : World.Step .exactEchoes world next) : next.Commanded id := by
  cases step with
  | act move => exact commanded.act booked move
  | closed runner online =>
      refine commanded.spared (.quiet (.close world.ledger runner) ?_ ?_ ?_)
      · rw [(Ledger.Settles.close world.ledger runner).isShutdown]
        exact fun now => now
      · intro now once other busy
        rcases eq_or_ne other runner with rfl | foreign
        · have running := (Ledger.Settles.close world.ledger other).isShutdown.symm.trans now
          have current := (booked.exclusive.scheduled.current running id other).mpr busy
          exact .inr (Ledger.completed_close running current once)
        · rw [Function.update_of_ne foreign]
          exact .inl busy
      · refine (Function.forall_update_iff world.party fun other party =>
          party.activeTask = some id → (world.party other).activeTask = some id ∧
            party.tstate = (world.party other).tstate ∧
            party.solSeq = (world.party other).solSeq).mpr ⟨?_, fun _ _ busy => ⟨busy, rfl, rfl⟩⟩
        intro busy
        cases busy
  | erased result selects =>
      exact commanded.spared (.quiet (.completeRecords _ _ _ _ _) (fun now => now)
        (fun _ _ _ busy => .inl busy) fun _ busy => ⟨busy, rfl, rfl⟩)
  | shutdown =>
      exact commanded.spared (.quiet (.same rfl rfl rfl) (by simp) (fun _ _ _ busy => .inl busy)
        fun _ busy => ⟨busy, rfl, rfl⟩)

end steps

structure World.Disciplined (id : TaskId Runner) (world : World Runner) : Prop where
  booked : world.Booked
  commanded : world.Commanded id

theorem World.Disciplined.step {id : TaskId Runner} {world next : World Runner}
    (disciplined : world.Disciplined id) (step : World.Step .exactEchoes world next) :
    next.Disciplined id :=
  ⟨disciplined.booked.step step, disciplined.commanded.step disciplined.booked step⟩

theorem World.commanded_initial (addresses : Runner → Addresses) (params : Runner → MasterParams)
    (id : TaskId Runner) : (Channel.initial addresses params).world.Commanded id where
  unsent _ := List.forall_mem_nil _
  lawful _ _ _ := .nil
  stage task body := by
    cases id with
    | user runner number => cases body
    | own runner own =>
        change (params runner).ownBody own = .command task at body
        cases own with
        | timeSynchronization =>
            rw [MasterParams.ownBody] at body
            split at body <;> cases body
        | _ => cases body

/-! ## Channels -/

/-- Every response to a SELECT that repeats the values of the commands repeats all their fields. -/
def Channel.EchoesExactly (channel : Channel Runner) (input : Environment Runner × Input Runner) :
    Prop :=
  ∀ runner message, input.2 = .receive runner message → ∀ id header objects task,
    (channel.master runner).Awaits message id header objects →
      channel.common.body id = .command task → task.EchoesExactly header objects

/-- A task that selects its commands sends the OPERATE only behind a response that repeats all of
them, as long as no control code is repeated by another one with the same meaning. -/
theorem Channel.operatesSelected_of_reaches {addresses : Runner → Addresses}
    {params : Runner → MasterParams} {channel : Channel Runner}
    (reached : machine.ReachesWhile EchoesExactly (initial addresses params) channel)
    (id : TaskId Runner) (task : CommandTask) (body : channel.common.body id = .command task)
    (discrete : ∀ items ∈ task.commands.items, items.1.Discrete) :
    Lawful (OperatesSelected CommandType.SameFields id task.commands.items)
      channel.common.history := by
  have kept : channel.world.Disciplined id := by
    refine world_invariant reached (fun {channel input} allowed => ?_)
      ⟨World.booked_initial addresses params, World.commanded_initial addresses params id⟩
      fun step disciplined => disciplined.step step
    cases given : input.2 with
    | lowerLayerDown runner => exact fun _ => trivial
    | receive runner message =>
        exact fun id header objects awaits task command =>
          allowed runner message given id header objects task awaits command
    | _ => trivial
  exact kept.commanded.lawful task body discrete

/-! ## Runs -/

/-- The commands of a task, if it has some. -/
def MasterTask.commandItems : MasterTask → Option (List CommandItems)
  | .command task => some task.commands.items
  | _ => none

omit [FloatOps] in
theorem MasterTask.command_of_commandItems {body : MasterTask} {items : List CommandItems}
    (commands : body.commandItems = some items) :
    ∃ task, body = .command task ∧ task.commands.items = items := by
  cases body with
  | command task => exact ⟨task, rfl, Option.some.inj commands⟩
  | _ => cases commands

/-- The request that a task sends. -/
def Event.request? (id : TaskId Runner) : Event Runner → Option (List UInt8)
  | .beginTransmit _ (some sender) apdu => if sender = id then some apdu else none
  | _ => none

omit [DecidableEq Runner] in
/-- The objects of a fragment that is received. -/
def Event.response? : Event Runner → Option (List UInt8)
  | .received _ _ objects => some objects
  | _ => none

/-- An OPERATE that obeys the law finds its response among those received. -/
theorem exists_response_of_lawful {agrees : Agreement} {id : TaskId Runner}
    {items : List CommandItems} {history : List (Event Runner)}
    (lawful : Lawful (OperatesSelected agrees id items) history) {apdu : List UInt8}
    (sent : apdu ∈ history.filterMap (Event.request? id))
    (operates : apdu[1]? = some FunctionCode.operate.toType) :
    ∃ response ∈ history.filterMap Event.response?, ∃ headers,
      APDUParser.parse true commandWhiteList response = .ok headers ∧
        Echoes agrees items headers := by
  obtain ⟨event, member, request⟩ := List.mem_filterMap.mp sent
  obtain ⟨before, after, rfl⟩ := List.append_of_mem member
  have law := lawful before event ⟨after, by simp⟩
  cases event with
  | beginTransmit runner sender bytes =>
      cases sender with
      | none => cases request
      | some sender =>
          rw [Event.request?] at request
          split_ifs at request with own
          obtain rfl := Option.some.inj request
          obtain ⟨seq, objects, _, header, response, headers, inside, _, _, _, _, parsed, echoes⟩ :=
            law own operates
          have received : .received runner header response ∈ before :=
            inside.subset (List.mem_cons_of_mem _ List.mem_cons_self)
          exact ⟨response, List.mem_filterMap.mpr ⟨_, List.mem_append_left _ received, rfl⟩,
            headers, parsed, echoes⟩
  | _ => cases request

/-- A command to a relay, and one to an analog output. -/
def relayItems : List CommandItems :=
  [⟨.controlRelayOutputBlock, [⟨⟨0x42, 1, 100, 100, .success⟩, 0⟩]⟩,
    ⟨.analogOutputInt16, [⟨⟨7, .success⟩, 3⟩]⟩]

/-- The relay is to be operated and the output to be set, and the SELECT is sent. -/
def Channel.selectInputs : List (Environment Unit × Input Unit) :=
  [(.atZero, .lowerLayerUp ()), (.atZero, .schedule () (.selectAndOperate relayItems)),
    (.atZero, .runPosted), (.atZero, .txReady ())]

/-- The objects of a response that has a control code of its own. -/
def relayEcho (code : UInt8) : List UInt8 :=
  [12, 1, 0x28, 1, 0, 0, 0, code, 1, 100, 0, 0, 0, 100, 0, 0, 0, 0,
    41, 2, 0x28, 1, 0, 3, 0, 7, 0, 0]

def Channel.echoInput (code : UInt8) : Environment Unit × Input Unit :=
  (.atZero, .receive () ⟨⟨10, 1⟩, [0xC0, 0x81, 0, 0] ++ relayEcho code⟩)

omit [FloatOps] in
/-- A response repeats the commands, and the master sends the OPERATE. -/
theorem Channel.operatesSelected_of_reaches_echo :
    ∃ (channel : Channel Unit) (task : CommandTask),
      (@machine Unit _ .atZero).ReachesWhile (@EchoesExactly Unit .atZero)
        (initial (fun _ => ⟨1, 10⟩) fun _ => {}) channel ∧
      channel.common.body (.user () 0) = .command task ∧
      channel.common.history.filterMap (Event.request? (.user () 0)) =
        [[0xC0, 3] ++ relayEcho 0x42, [0xC1, 4] ++ relayEcho 0x42] ∧
      Lawful (@OperatesSelected Unit .atZero CommandType.SameFields (.user () 0)
        task.commands.items) channel.common.history := by
  have selected : (@machine Unit _ .atZero).ReachesWhile (@EchoesExactly Unit .atZero)
      (initial (fun _ => ⟨1, 10⟩) fun _ => {}) _ :=
    @reachesWhile_after Unit _ .atZero _ _ selectInputs fun channel => by
      simp [selectInputs, EchoesExactly]
  have commands : ((@after Unit _ .atZero (initial (fun _ => ⟨1, 10⟩) fun _ => {})
      selectInputs).common.body (.user () 0)).commandItems =
        some relayItems := by
    decide +kernel
  have active : ((@after Unit _ .atZero (initial (fun _ => ⟨1, 10⟩) fun _ => {})
      selectInputs).master ()).activeTask = some (.user () 0) := by
    decide +kernel
  have response : APDUHeader.parseResponse ([0xC0, 0x81, 0, 0] ++ relayEcho 0x42) =
      some (⟨⟨.ofByte 0xC0, .response⟩, ⟨0, 0⟩⟩, relayEcho 0x42) := by
    decide +kernel
  have parsedEcho : @APDUParser.parse .atZero true commandWhiteList (relayEcho 0x42) =
      .ok [.prefixOf ⟨.getRecord 12 1, 0x28, 0⟩ 1 .controlRelayOutputBlock
          [⟨⟨0x42, 1, 100, 100, .success⟩, 0⟩],
        .prefixOf ⟨.getRecord 41 2, 0x28, 1⟩ 1 .analogOutputInt16 [⟨⟨7, .success⟩, 3⟩]] := by
    decide +kernel
  have echoed : (@machine Unit _ .atZero).ReachesWhile (@EchoesExactly Unit .atZero)
      (initial (fun _ => ⟨1, 10⟩) fun _ => {})
      (@after Unit _ .atZero (initial (fun _ => ⟨1, 10⟩) fun _ => {})
        (selectInputs ++ [echoInput 0x42])) := by
    refine .step selected (fun runner message given id header objects task awaits body => ?_)
      (rfl : (@machine Unit _ .atZero).step _ (echoInput 0x42) = some _)
    obtain ⟨rfl, rfl⟩ := Input.receive.inj given
    obtain rfl := Option.some.inj (awaits.activeTask.symm.trans active)
    obtain ⟨_, rfl⟩ := Prod.mk.inj (Option.some.inj (awaits.parsed.symm.trans response))
    obtain ⟨_, same, items⟩ := MasterTask.command_of_commandItems commands
    obtain rfl := MasterTask.command.inj (body.symm.trans same)
    intro _ _ _ _ headers parsed _
    obtain rfl := Except.ok.inj (parsed.symm.trans parsedEcho)
    rw [items]
    exact ⟨_, [], rfl, .cons (.intro _ _ (.cons ⟨rfl, ⟨rfl, rfl, rfl, rfl⟩, rfl⟩ .nil))
      (.cons (.intro _ _ (.cons ⟨rfl, rfl, rfl⟩ .nil)) .nil)⟩
  generalize given : @after Unit _ .atZero _ (_ ++ _) = channel at echoed
  have commands : (channel.common.body (.user () 0)).commandItems =
      some relayItems := by
    rw [← given]
    decide +kernel
  obtain ⟨task, body, items⟩ := MasterTask.command_of_commandItems commands
  refine ⟨channel, task, echoed, body, ?_,
    @operatesSelected_of_reaches Unit .atZero _ _ _ _ echoed _ task body ?_⟩
  · rw [← given]
    decide +kernel
  · rw [items]
    exact List.forall_mem_cons.mpr ⟨.inl rfl, List.forall_mem_singleton.mpr (.inr (.inr rfl))⟩

omit [FloatOps] in
/-- A code that is not known is repeated by another one that is not known, and the master sends
the OPERATE. -/
theorem Channel.operate_after_altered_echo :
    ∃ (channel : Channel Unit) (task : CommandTask),
      (@machine Unit _ .atZero).Reaches (initial (fun _ => ⟨1, 10⟩) fun _ => {}) channel ∧
        channel.common.body (.user () 0) = .command task ∧
        (∀ items ∈ task.commands.items, items.1.Discrete) ∧
        ¬Lawful (@OperatesSelected Unit .atZero CommandType.SameFields (.user () 0)
          task.commands.items) channel.common.history := by
  have reached := @reaches_after Unit _ .atZero (initial (fun _ => ⟨1, 10⟩) fun _ => {})
    (selectInputs ++ [echoInput 0x43])
  generalize given : @after Unit _ .atZero _ _ = channel at reached
  have commands : (channel.common.body (.user () 0)).commandItems =
      some relayItems := by
    rw [← given]
    decide +kernel
  obtain ⟨task, body, items⟩ := MasterTask.command_of_commandItems commands
  refine ⟨channel, task, reached, body, ?_, fun lawful => ?_⟩
  · rw [items]
    exact List.forall_mem_cons.mpr ⟨.inl rfl, List.forall_mem_singleton.mpr (.inr (.inr rfl))⟩
  · rw [items] at lawful
    have sent : [0xC1, 4] ++ relayEcho 0x42 ∈
        channel.common.history.filterMap (Event.request? (.user () 0)) := by
      rw [← given]
      decide +kernel
    have received : channel.common.history.filterMap Event.response? =
        [relayEcho 0x43] := by
      rw [← given]
      decide +kernel
    obtain ⟨response, member, headers, parsed, echoes⟩ :=
      @exists_response_of_lawful Unit .atZero _ _ _ _ _ lawful _ sent rfl
    rw [received] at member
    obtain rfl := List.mem_singleton.mp member
    have echoed : @APDUParser.parse .atZero true commandWhiteList (relayEcho 0x43) =
        .ok [.prefixOf ⟨.getRecord 12 1, 0x28, 0⟩ 1 .controlRelayOutputBlock
            [⟨⟨0x43, 1, 100, 100, .success⟩, 0⟩],
          .prefixOf ⟨.getRecord 41 2, 0x28, 1⟩ 1 .analogOutputInt16
            [⟨⟨7, .success⟩, 3⟩]] := by
      decide +kernel
    obtain rfl := Except.ok.inj (parsed.symm.trans echoed)
    obtain ⟨echo, extra, same, repeats⟩ := echoes
    cases repeats with
    | cons first others =>
        cases first with
        | intro record count repeats =>
            cases repeats with
            | cons one more =>
                obtain ⟨head, _⟩ := List.cons_eq_cons.mp same
                cases head
                exact absurd one.value.1 (by decide)

end OpenDnp3.Master
