import OpenDnp3.Library.Machine
import OpenDnp3.Master.MasterSchedulerBackend

/-!
# Master context

The state machine of a master, and the channel on which masters share a
scheduler. The executor runs one event at a time.
-/

set_option autoImplicit false

namespace OpenDnp3.Master

open OpenDnp3.App OpenDnp3.Library

abbrev AppSeqNum := SequenceNum 16

inductive TimeSyncMode where
  | nonLAN
  | lan
  | none
deriving DecidableEq, Repr

structure MasterParams where
  timeSyncMode : TimeSyncMode := .none
  disableUnsolOnStartup : Bool := true
  ignoreRestartIIN : Bool := false
  unsolClassMask : ClassField := .allEventClasses
  startupIntegrityClassMask : ClassField := .allClasses
  integrityOnEventOverflowIIN : Bool := true
  eventScanOnEventsAvailableClassMask : ClassField := .none
  taskRetryPeriod : TimeDuration := 5000
  maxTaskRetryPeriod : TimeDuration := 60000
  taskStartTimeout : TimeDuration := 10000
  maxTxFragSize : Nat := 2048
  controlQualifierMode : IndexQualifierMode := .alwaysTwoBytes
deriving DecidableEq, Repr

/-! ## Tasks -/

namespace MasterParams

/-- A master has some of its tasks only if it is configured to. -/
def hasTask (params : MasterParams) : OwnTask → Bool
  | .enableUnsol => params.unsolClassMask.hasEventClass
  | .disableUnsol => params.disableUnsolOnStartup
  | .timeSynchronization => params.timeSyncMode ≠ .none
  | _ => true

/-- The tasks in the order in which they are added to the scheduler. -/
def ownTasks (params : MasterParams) : List OwnTask :=
  [.clearRestart, .assignClass, .startupIntegrity, .eventScan, .enableUnsol, .disableUnsol,
    .timeSynchronization].filter params.hasTask

def retryBehavior (params : MasterParams) : TaskBehavior :=
  .singleImmediateExecutionWithRetry params.taskRetryPeriod params.maxTaskRetryPeriod

def ownBehavior (params : MasterParams) : OwnTask → TaskBehavior
  | .clearRestart | .eventScan | .timeSynchronization => .reactsToIINOnly
  | .assignClass | .startupIntegrity | .enableUnsol | .disableUnsol => params.retryBehavior

def ownBody (params : MasterParams) : OwnTask → MasterTask
  | .clearRestart => .clearRestart
  | .assignClass => .assignClass
  | .startupIntegrity => .startupIntegrity params.startupIntegrityClassMask 0
  | .eventScan =>
      .eventScan params.eventScanOnEventsAvailableClassMask.onlyEventClasses 0
  | .enableUnsol => .enableUnsolicited params.unsolClassMask
  | .disableUnsol => .disableUnsolicited
  | .timeSynchronization =>
      if params.timeSyncMode = .lan then .lanTimeSync {} else .serialTimeSync {}

end MasterParams

/-- The requests of a user that are carried out once. -/
inductive UserRequest where
  | directOperate (commands : List ((type : CommandType) × List (Indexed type.Value)))
  | selectAndOperate (commands : List ((type : CommandType) × List (Indexed type.Value)))
  | scan (builder : HeaderBuilder)
  | write (value : TimeAndInterval) (index : UInt16)
  | restart (operationType : RestartType)
  | performFunction (function : FunctionCode) (builder : HeaderBuilder)

def writeSingleIndexedValue {α : Type} (serializer : DNP3Serializer α) (value : α)
    (index : UInt16) (writer : HeaderWriter) : Option HeaderWriter :=
  (writer.writeHeaderWithReserve serializer.id .uint16CntUint16Index (4 + serializer.size)).map
    fun writer =>
      { writer with
        position := ((writer.position.put (leBytes 2 1)).put (leBytes 2 index.toNat)).put
          (serializer.write value) }

def UserRequest.body (params : MasterParams) : UserRequest → MasterTask
  | .directOperate commands =>
      .command (.createDirectOperate (.ofItems commands) params.controlQualifierMode)
  | .selectAndOperate commands =>
      .command (.createSelectAndOperate (.ofItems commands) params.controlQualifierMode)
  | .scan builder => .userPoll builder false 0
  | .write value index =>
      .emptyResponse .write
        (.ofWrite (writeSingleIndexedValue group50Var4.inst value index))
  | .restart operationType => .restartOperation { operationType }
  | .performFunction function builder => .emptyResponse function builder

/-! ## State -/

inductive TaskState where
  | idle
  | taskReady
  | waitForResponse
deriving DecidableEq, Repr

structure MContext (Runner : Type) where
  addresses : Addresses
  params : MasterParams
  isOnline : Bool := false
  isSending : Bool := false
  solSeq : AppSeqNum := ⟨0⟩
  activeTask : Option (TaskId Runner) := none
  /-- Whether the response timer is active. -/
  responseTimer : Bool := false
  boundTasks : List (TaskId Runner) := []
  confirmQueue : List APDUHeader := []
  txBuffer : List UInt8 := List.replicate params.maxTxFragSize 0
  tstate : TaskState := .idle

/-- A master at work, with what it shares. -/
structure Session (Runner : Type) where
  context : MContext Runner
  common : Common Runner

namespace Session

variable {Runner : Type} [DecidableEq Runner]

/-! ## Transmission -/

def log (session : Session Runner) (event : Event Runner) : Session Runner :=
  { session with common := session.common.log event }

def setState (session : Session Runner) (tstate : TaskState) : Session Runner :=
  { session with context := { session.context with tstate } }

variable (runner : Runner)

def transmit (session : Session Runner) (task : Option (TaskId Runner)) (apdu : List UInt8) :
    Session Runner :=
  { session with context := { session.context with isSending := true } }.log
    (.beginTransmit runner task apdu)

/-- The first confirm is sent, unless something else is being sent. -/
def checkConfirmTransmit (session : Session Runner) : Session Runner :=
  if session.context.isSending then session
  else
    match session.context.confirmQueue with
    | [] => session
    | confirm :: confirmQueue =>
        let apdu := ((APDURequest.ofBuffer session.context.txBuffer).setFunction
          confirm.function).setControl confirm.control
        { session with
          context := { session.context with txBuffer := apdu.buffer, confirmQueue } }.transmit
            runner none apdu.toRSlice

def queueConfirm (session : Session Runner) (confirm : APDUHeader) : Session Runner :=
  ({ session with
    context :=
      { session.context with confirmQueue := session.context.confirmQueue ++ [confirm] } }.log
    (.queueConfirm runner confirm)).checkConfirmTransmit runner

/-! ## Tasks -/

/-- Starting a timer that is active leaves it active. -/
def startResponseTimer (session : Session Runner) : Session Runner :=
  { session with context := { session.context with responseTimer := true } }

def completeActiveTask (session : Session Runner) : Session Runner :=
  match session.context.activeTask with
  | none => session
  | some _ =>
      { context := { session.context with activeTask := none }
        common := session.common.completeCurrentFor runner }

/-- Build the request of the active task and send it. -/
def resumeActiveTask (session : Session Runner) (environment : Environment Runner) :
    Session Runner × TaskState :=
  match session.context.activeTask with
  -- there is one whenever this is called
  | none => (session, session.context.tstate)
  | some id =>
      let (body, apdu, success) := (session.common.body id).buildRequest
        (environment.application id.context)
        (.ofBuffer session.context.txBuffer) session.context.solSeq.seq
      let session : Session Runner :=
        { context := { session.context with txBuffer := apdu.buffer }
          common := session.common.setBody id body }
      if success then
        (session.startResponseTimer.transmit runner (some id) apdu.toRSlice, .waitForResponse)
      else
        ({ session with
            common := session.common.completeTask environment.now id
              .failureMessageFormatError }.completeActiveTask runner, .idle)

def startTaskTaskReady (session : Session Runner) (environment : Environment Runner) :
    Session Runner × TaskState :=
  if session.context.isSending then (session, .taskReady)
  else session.resumeActiveTask runner environment

def assignState (result : Session Runner × TaskState) : Session Runner :=
  result.1.setState result.2

def run (session : Session Runner) (environment : Environment Runner) (id : TaskId Runner) :
    Session Runner :=
  if session.context.activeTask.isSome || session.context.tstate ≠ .idle then
    session.log (.run runner id false)
  else
    let session : Session Runner :=
      { context := { session.context with tstate := .taskReady, activeTask := some id }
        common := (session.common.log (.run runner id true)).onStart id }
    if session.context.isSending then session
    else assignState (session.resumeActiveTask runner environment)

def addTasks (session : Session Runner) (ids : List (TaskId Runner)) : Session Runner :=
  { session with common := ids.foldl (fun common id => common.add id runner) session.common }

/-- A new task of a user. -/
def create (session : Session Runner) (behavior : TaskBehavior) (body : MasterTask) :
    Session Runner × TaskId Runner :=
  let id := TaskId.user runner session.common.created
  ({ session with
      common :=
        { session.common with
          task := Function.update session.common.task id ⟨behavior, body⟩
          created := session.common.created + 1 } }, id)

def scheduleAdhocTask (session : Session Runner) (environment : Environment Runner)
    (request : UserRequest) : Session Runner :=
  let timeout := MonotonicTimestamp.add environment.now session.context.params.taskStartTimeout
  let (session, id) := session.create runner (.singleExecutionNoRetry timeout)
    (request.body session.context.params)
  if session.context.isOnline then session.addTasks runner [id]
  else
    -- can't run this task since we're offline so fail it immediately
    { session with common := session.common.completeTask environment.now id .failureNoComms }

/-- A poll that is repeated after a period. -/
def addScan (session : Session Runner) (period : TimeDuration) (builder : HeaderBuilder) :
    Session Runner :=
  let params := session.context.params
  let (session, id) := session.create runner
    (.immediatePeriodic period params.taskRetryPeriod params.maxTaskRetryPeriod)
    (.userPoll builder true 0)
  let session : Session Runner :=
    { session with
      context := { session.context with boundTasks := session.context.boundTasks ++ [id] } }
  if session.context.isOnline then session.addTasks runner [id] else session

/-! ## Layer events -/

def onLowerLayerUp (session : Session Runner) : Session Runner :=
  if session.context.isOnline then session
  else
    ({ session with context := { session.context with isOnline := true } }.addTasks runner
      (session.context.params.ownTasks.map (TaskId.own runner) ++ session.context.boundTasks)).log
        (.onOpen runner)

def onLowerLayerDown (session : Session Runner) (environment : Environment Runner) :
    Session Runner :=
  if !session.context.isOnline then session
  else
    { context :=
        { session.context with
          tstate := .idle
          responseTimer := false
          solSeq := ⟨0⟩
          isOnline := false
          isSending := false
          activeTask := none }
      common := (session.common.setRunnerOffline environment.now runner).log (.onClose runner) }

def onTransmitComplete (session : Session Runner) (environment : Environment Runner) :
    Session Runner × TaskState :=
  match session.context.tstate with
  | .taskReady => session.resumeActiveTask runner environment
  | tstate => (session, tstate)

def onTxReady (session : Session Runner) (environment : Environment Runner) : Session Runner :=
  if !session.context.isOnline || !session.context.isSending then session
  else
    (assignState (({ session with
      context := { session.context with isSending := false } }.log (.txReady runner)
        ).onTransmitComplete runner environment)).checkConfirmTransmit runner

/-! ## Internal indications -/

/-- Run a task of the master's own as soon as possible, if there is such a task. -/
def demandTask (session : Session Runner) (task : OwnTask) : Session Runner :=
  if session.context.params.hasTask task then
    { session with common := session.common.setMinExpiration (.own runner task) }
  else session

def evaluate (session : Session Runner) : Session Runner :=
  { session with common := session.common.postCheckForTaskRun }

def demandAndEvaluate (session : Session Runner) (demanded : Bool) (task : OwnTask) :
    Session Runner :=
  if demanded && session.context.params.hasTask task then
    (session.demandTask runner task).evaluate
  else session

def onRestartDetected (session : Session Runner) : Session Runner :=
  (((session.demandTask runner .clearRestart).demandTask runner .assignClass).demandTask runner
    .startupIntegrity).demandTask runner .enableUnsol

def processIIN (session : Session Runner) (iin : IINField) : Session Runner :=
  let params := session.context.params
  let session :=
    if iin.isSet .deviceRestart && !params.ignoreRestartIIN then
      (session.onRestartDetected runner).evaluate
    else session
  let scanned := params.eventScanOnEventsAvailableClassMask
  let session := session.demandAndEvaluate runner
    (iin.isSet .eventBufferOverflow && params.integrityOnEventOverflowIIN) .startupIntegrity
  let session := session.demandAndEvaluate runner (iin.isSet .needTime) .timeSynchronization
  let session := session.demandAndEvaluate runner
    (iin.isSet .class1Events && scanned.class1 || iin.isSet .class2Events && scanned.class2 ||
      iin.isSet .class3Events && scanned.class3) .eventScan
  session.log (.onReceiveIIN runner iin)

/-! ## Timeouts -/

def onResponseTimeoutWaitForResponse (session : Session Runner)
    (environment : Environment Runner) : Session Runner × TaskState :=
  match session.context.activeTask with
  -- there is one in this state
  | none => (session, .waitForResponse)
  | some id =>
      let session : Session Runner :=
        { context := { session.context with solSeq := session.context.solSeq.next }
          common := session.common.completeTask environment.now id .failureResponseTimeout }
      (session.completeActiveTask runner, .idle)

/-- The timer expires; it is not active any more when its action runs. -/
def onResponseTimeout (session : Session Runner) (environment : Environment Runner) :
    Session Runner :=
  let session : Session Runner :=
    { session with context := { session.context with responseTimer := false } }
  if session.context.isOnline then
    match session.context.tstate with
    | .waitForResponse =>
        assignState (session.onResponseTimeoutWaitForResponse runner environment)
    | _ => session
  else session

/-! ## Responses -/

variable [FloatOps]

def taskOnResponse (session : Session Runner) (environment : Environment Runner)
    (id : TaskId Runner) (header : APDUResponseHeader) (objects : List UInt8) :
    Session Runner × ResponseResult :=
  let (body, calls, result) := (session.common.body id).processResponse
    (environment.application id.context) header objects
  let common := (session.common.setBody id body).log (.measurements runner calls)
  let common :=
    match result.completion with
    | some completion => common.completeTask environment.now id completion
    | none => common
  ({ session with common }, result)

def confirmSolicited (session : Session Runner) (header : APDUResponseHeader) : Session Runner :=
  if header.control.con then
    session.queueConfirm runner (.solicitedConfirm header.control.seq)
  else session

/-- What follows when the active task has taken in a response. -/
def afterOnResponse (session : Session Runner) (environment : Environment Runner)
    (header : APDUResponseHeader) (result : ResponseResult) : Session Runner × TaskState :=
  let session := session.confirmSolicited runner header
  match result with
  | .okContinue => (session.startResponseTimer, .waitForResponse)
  | .okRepeat => session.startTaskTaskReady runner environment
  -- task completed or failed, either way go back to idle
  | _ => (session.completeActiveTask runner, .idle)

def onResponseWaitForResponse (session : Session Runner) (environment : Environment Runner)
    (header : APDUResponseHeader) (objects : List UInt8) : Session Runner × TaskState :=
  if header.control.seq ≠ session.context.solSeq.seq then (session, .waitForResponse)
  else
    match session.context.activeTask with
    -- there is one in this state
    | none => (session, .waitForResponse)
    | some id =>
        let (session, result) := { session with
          context :=
            { session.context with
              responseTimer := false
              solSeq := session.context.solSeq.next } }.taskOnResponse runner environment id
                header objects
        session.afterOnResponse runner environment header result

def onResponseEvent (session : Session Runner) (environment : Environment Runner)
    (header : APDUResponseHeader) (objects : List UInt8) : Session Runner × TaskState :=
  match session.context.tstate with
  | .waitForResponse => session.onResponseWaitForResponse runner environment header objects
  | tstate => (session, tstate)

def processResponse (session : Session Runner) (environment : Environment Runner)
    (header : APDUResponseHeader) (objects : List UInt8) : Session Runner :=
  (assignState (session.onResponseEvent runner environment header objects)).processIIN runner
    header.iin

def processUnsolicitedResponse (session : Session Runner) (header : APDUResponseHeader)
    (objects : List UInt8) : Session Runner :=
  if !header.control.uns then session
  else
    let result := MeasurementHandler.processMeasurements objects
    let session := session.log (.measurements runner (result.toOption.getD []))
    let session :=
      if result.isOk && header.control.con then
        session.queueConfirm runner (.unsolicitedConfirm header.control.seq)
      else session
    session.processIIN runner header.iin

def processAPDU (session : Session Runner) (environment : Environment Runner)
    (header : APDUResponseHeader) (objects : List UInt8) : Session Runner :=
  match header.function with
  | .unsolicitedResponse => session.processUnsolicitedResponse runner header objects
  | .response => session.processResponse runner environment header objects
  | _ => session

def onReceive (session : Session Runner) (environment : Environment Runner)
    (message : Message) : Session Runner :=
  if !session.context.isOnline then session
  else if message.addresses.destination ≠ session.context.addresses.source then session
  else if message.addresses.source ≠ session.context.addresses.destination then session
  else
    match APDUHeader.parseResponse message.payload with
    | none => session
    | some (header, objects) =>
        (session.log (.received runner header objects)).processAPDU runner environment header
          objects

end Session

/-! ## Channel -/

/-- An environment in which nothing is configured. -/
def Environment.atZero {Runner : Type} : Environment Runner where
  now := 0
  application _ := ⟨0, false, fun writer => (writer, true)⟩

/-- Any number of masters that share one scheduler. -/
structure Channel (Runner : Type) where
  master : Runner → MContext Runner
  common : Common Runner

inductive Input (Runner : Type) where
  | lowerLayerUp (runner : Runner)
  | lowerLayerDown (runner : Runner)
  | receive (runner : Runner) (message : Message)
  | txReady (runner : Runner)
  | responseTimeout (runner : Runner)
  | schedule (runner : Runner) (request : UserRequest)
  | addScan (runner : Runner) (period : TimeDuration) (builder : HeaderBuilder)
  | demand (task : TaskId Runner)
  /-- The executor runs what was posted first. -/
  | runPosted
  | taskTimer
  | taskStartTimeout
  | shutdown

namespace Channel

variable {Runner : Type} [DecidableEq Runner]

/-- A channel as it is created. The tasks of users are not created yet. -/
def initial (addresses : Runner → Addresses) (params : Runner → MasterParams) :
    Channel Runner where
  master runner := { addresses := addresses runner, params := params runner }
  common :=
    { task := fun
        | .own runner task => ⟨(params runner).ownBehavior task, (params runner).ownBody task⟩
        | .user _ _ => ⟨.reactsToIINOnly, .clearRestart⟩ }

/-- Let one master work. -/
def withSession (channel : Channel Runner) (runner : Runner)
    (work : Session Runner → Session Runner) : Channel Runner :=
  let session := work ⟨channel.master runner, channel.common⟩
  ⟨Function.update channel.master runner session.context, session.common⟩

def checkForTaskRun (channel : Channel Runner) (environment : Environment Runner) :
    Channel Runner :=
  let (common, chosen) := channel.common.checkForTaskRun environment
  match chosen with
  | none => { channel with common }
  | some record =>
      { channel with common }.withSession record.runner fun session =>
        session.run record.runner environment record.task

def runPosted (channel : Channel Runner) (environment : Environment Runner) : Channel Runner :=
  match channel.common.posted with
  | [] => channel
  | callback :: posted =>
      let channel := { channel with common := { channel.common with posted } }
      match callback with
      | .checkForTaskRun => channel.checkForTaskRun environment
      | .demand id =>
          { channel with common := channel.common.setMinExpiration id }.checkForTaskRun environment

variable [FloatOps]

def step (channel : Channel Runner) (environment : Environment Runner) :
    Input Runner → Channel Runner
  | .lowerLayerUp runner => channel.withSession runner fun session =>
      session.onLowerLayerUp runner
  | .lowerLayerDown runner => channel.withSession runner fun session =>
      session.onLowerLayerDown runner environment
  | .receive runner message => channel.withSession runner fun session =>
      session.onReceive runner environment message
  | .txReady runner => channel.withSession runner fun session =>
      session.onTxReady runner environment
  | .responseTimeout runner => channel.withSession runner fun session =>
      session.onResponseTimeout runner environment
  | .schedule runner request => channel.withSession runner fun session =>
      session.scheduleAdhocTask runner environment request
  | .addScan runner period builder => channel.withSession runner fun session =>
      session.addScan runner period builder
  | .demand id => { channel with common := channel.common.demand id }
  | .runPosted => channel.runPosted environment
  | .taskTimer =>
      { channel with
        common :=
          { channel.common with
            scheduler := { channel.common.scheduler with taskTimer := none } }
        }.checkForTaskRun environment
  | .taskStartTimeout =>
      { channel with
        common :=
          ({ channel.common with
            scheduler := { channel.common.scheduler with taskStartTimeout := none }
            } : Common Runner).timeoutTasks environment.now }
  | .shutdown => { channel with common := channel.common.shutdown }

/-- Every event finds an environment, and leads to what is new in the history. -/
def machine : Machine (Channel Runner) (Environment Runner × Input Runner) (List (Event Runner)) where
  step channel input :=
    let after := channel.step input.1 input.2
    some (after, after.common.history.drop channel.common.history.length)

/-- A channel after a list of events. -/
def after (channel : Channel Runner) (inputs : List (Environment Runner × Input Runner)) :
    Channel Runner :=
  inputs.foldl (fun channel input => channel.step input.1 input.2) channel

theorem reachesWhile_after {allowed : Channel Runner → Environment Runner × Input Runner → Prop}
    (start : Channel Runner) (inputs : List (Environment Runner × Input Runner))
    (always : ∀ channel, ∀ input ∈ inputs, allowed channel input) :
    machine.ReachesWhile allowed start (start.after inputs) := by
  suffices reached : ∀ channel, machine.ReachesWhile allowed start channel →
      machine.ReachesWhile allowed start (channel.after inputs) from reached start .start
  induction inputs with
  | nil => exact fun _ reached => reached
  | cons input inputs ih =>
      intro channel reached
      have others (channel : Channel Runner) := (List.forall_mem_cons.mp (always channel)).2
      exact ih others _ (.step reached (always channel input List.mem_cons_self) rfl)

theorem reaches_after (start : Channel Runner)
    (inputs : List (Environment Runner × Input Runner)) :
    machine.Reaches start (start.after inputs) :=
  reachesWhile_after start inputs fun _ _ _ => trivial

end Channel

end OpenDnp3.Master
