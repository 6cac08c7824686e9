import OpenDnp3.Master.MasterTask
import OpenDnp3.Transport.Transport

/-!
# Master scheduler

The scheduler that the masters of a channel share, and the tasks that it knows.
Tasks are shared between the scheduler and the masters, so they are known by an
identity, and what they are at present is looked up.
-/

set_option autoImplicit false

namespace OpenDnp3.Master

open OpenDnp3.App OpenDnp3.Library

/-! ## Tasks by their identity -/

/-- The tasks that every master has of its own. -/
inductive OwnTask where
  | clearRestart
  | assignClass
  | startupIntegrity
  | eventScan
  | enableUnsol
  | disableUnsol
  | timeSynchronization
deriving DecidableEq, Repr

inductive TaskId (Runner : Type) where
  | own (runner : Runner) (task : OwnTask)
  | user (runner : Runner) (number : Nat)
deriving DecidableEq, Repr

/-- The master that a task was made for. Its tasks may block each other. -/
def TaskId.context {Runner : Type} : TaskId Runner → Runner
  | .own runner _ | .user runner _ => runner

structure Task where
  behavior : TaskBehavior
  body : MasterTask

/-- A task and the master that runs it. -/
structure Record (Runner : Type) where
  task : TaskId Runner
  runner : Runner
deriving DecidableEq, Repr

/-! ## Events -/

/-- What masters are told of, and the calls that they make. -/
inductive Event (Runner : Type) where
  | onOpen (runner : Runner)
  | onClose (runner : Runner)
  | received (runner : Runner) (header : APDUResponseHeader) (objects : List UInt8)
  | txReady (runner : Runner)
  | run (runner : Runner) (task : TaskId Runner) (accepted : Bool)
  | onStart (task : TaskId Runner)
  /-- An APDU for the lower layer; confirms belong to no task. -/
  | beginTransmit (runner : Runner) (task : Option (TaskId Runner)) (apdu : List UInt8)
  | queueConfirm (runner : Runner) (confirm : APDUHeader)
  | measurements (runner : Runner) (calls : List SOECall)
  | onReceiveIIN (runner : Runner) (iin : IINField)
  | onTaskComplete (task : TaskId Runner) (result : TaskCompletion) (report : TaskReport)

/-- What the executor was asked to call later. -/
inductive Posted (Runner : Type) where
  | checkForTaskRun
  | demand (task : TaskId Runner)
deriving DecidableEq, Repr

/-! ## State -/

structure MasterSchedulerBackend (Runner : Type) where
  isShutdown : Bool := false
  taskCheckPending : Bool := false
  current : Option (Record Runner) := none
  tasks : List (Record Runner) := []
  taskTimer : Option MonotonicTimestamp := none
  taskStartTimeout : Option MonotonicTimestamp := none

/-- What the masters of a channel share. -/
structure Common (Runner : Type) where
  scheduler : MasterSchedulerBackend Runner := {}
  posted : List (Posted Runner) := []
  task : TaskId Runner → Task
  /-- How many tasks users have created. -/
  created : Nat := 0
  /-- The tasks of each master that block those with a lower priority. -/
  blockingTasks : Runner → List (TaskId Runner) := fun _ => []
  history : List (Event Runner) := []

/-- What an event finds outside of the masters. -/
structure Environment (Runner : Type) where
  now : MonotonicTimestamp
  application : Runner → IMasterApplication

namespace Common

variable {Runner : Type} [DecidableEq Runner]

def body (common : Common Runner) (id : TaskId Runner) : MasterTask := (common.task id).body

def log (common : Common Runner) (event : Event Runner) : Common Runner :=
  { common with history := common.history ++ [event] }

def setBody (common : Common Runner) (id : TaskId Runner) (body : MasterTask) : Common Runner :=
  { common with task := Function.update common.task id { common.task id with body } }

def setBehavior (common : Common Runner) (id : TaskId Runner) (behavior : TaskBehavior) :
    Common Runner :=
  { common with task := Function.update common.task id { common.task id with behavior } }

/-! ## Task base class -/

def addBlock (common : Common Runner) (id : TaskId Runner) : Common Runner :=
  { common with
    blockingTasks := Function.update common.blockingTasks id.context
      (id :: common.blockingTasks id.context) }

def removeBlock (common : Common Runner) (id : TaskId Runner) : Common Runner :=
  { common with
    blockingTasks := Function.update common.blockingTasks id.context
      ((common.blockingTasks id.context).filter (· ≠ id)) }

/-- Is there a block with better priority that's not the same task? -/
def isBlocked (common : Common Runner) (id : TaskId Runner) : Bool :=
  (common.blockingTasks id.context).any fun blocking =>
    (common.body blocking).priority < (common.body id).priority && blocking ≠ id

def addBlockIf (common : Common Runner) (id : TaskId Runner) : Common Runner :=
  if (common.body id).blocksLowerPriority then common.addBlock id else common

/-- What a completion makes of the time at which a task runs again. -/
def reschedule (common : Common Runner) (now : MonotonicTimestamp) (id : TaskId Runner) :
    TaskCompletion → Common Runner
  -- retry immediately when the comms come back online
  | .failureNoComms => common.setBehavior id (common.task id).behavior.reset
  -- back-off exponentially using the task retry
  | .failureResponseTimeout =>
      (common.setBehavior id ((common.task id).behavior.onResponseTimeout now)).addBlockIf id
  | .success =>
      (common.setBehavior id ((common.task id).behavior.onSuccess now)).removeBlock id
  | _ => (common.setBehavior id (common.task id).behavior.disable).addBlockIf id

def completeTask (common : Common Runner) (now : MonotonicTimestamp) (id : TaskId Runner)
    (result : TaskCompletion) : Common Runner :=
  (common.reschedule now id result).log
    (.onTaskComplete id result ((common.body id).onTaskComplete result))

def onStart (common : Common Runner) (id : TaskId Runner) : Common Runner :=
  (common.log (.onStart id)).setBody id (common.body id).initializeTask

def setMinExpiration (common : Common Runner) (id : TaskId Runner) : Common Runner :=
  common.setBehavior id (common.task id).behavior.reset

def expirationTime (common : Common Runner) (environment : Environment Runner)
    (id : TaskId Runner) : MonotonicTimestamp :=
  let task := common.task id
  if task.body.isEnabled (environment.application id.context) then task.behavior.expiration
  else .max

/-! ## Scheduler -/

/-- Check for a task to run, unless a check is already pending. -/
def postCheckForTaskRun (common : Common Runner) : Common Runner :=
  if common.scheduler.taskCheckPending then common
  else
    { common with
      scheduler := { common.scheduler with taskCheckPending := true }
      posted := common.posted ++ [.checkForTaskRun] }

def add (common : Common Runner) (id : TaskId Runner) (runner : Runner) : Common Runner :=
  if common.scheduler.isShutdown then common
  else
    ({ common with
      scheduler :=
        { common.scheduler with tasks := common.scheduler.tasks ++ [Record.mk id runner] } }
      ).postCheckForTaskRun

/-- Complete the tasks of records, those that recur excepted. -/
def completeRecords (now : MonotonicTimestamp) (result : TaskCompletion) :
    List (Record Runner) → Common Runner → Common Runner
  | [], common => common
  | record :: records, common =>
      completeRecords now result records
        (if (common.body record.task).isRecurring then common
        else common.completeTask now record.task result)

def clearCurrent (common : Common Runner) : Common Runner :=
  { common with scheduler := { common.scheduler with current := none } }

/-- Erase the tasks that a test selects, and complete them. -/
def eraseTasks (common : Common Runner) (now : MonotonicTimestamp) (result : TaskCompletion)
    (selects : Record Runner → Bool) : Common Runner :=
  let common := completeRecords now result (common.scheduler.tasks.filter selects) common
  { common with
    scheduler :=
      { common.scheduler with tasks := common.scheduler.tasks.filter (!selects ·) } }

/-- A master that goes offline gives up the current task, if it is its own. -/
def closeCurrent (common : Common Runner) (now : MonotonicTimestamp) (runner : Runner) :
    Common Runner :=
  match common.scheduler.current with
  | none => common
  | some current =>
      if current.runner = runner then
        (completeRecords now .failureNoComms [current] common).clearCurrent
      else common

def setRunnerOffline (common : Common Runner) (now : MonotonicTimestamp) (runner : Runner) :
    Common Runner :=
  if common.scheduler.isShutdown then common
  else
    ((common.closeCurrent now runner).eraseTasks now .failureNoComms
      (·.runner = runner)).postCheckForTaskRun

/-- The current task is done, if it is the task of this master. -/
def completeCurrentFor (common : Common Runner) (runner : Runner) : Common Runner :=
  match common.scheduler.current with
  | none => common
  | some current =>
      if current.runner ≠ runner then common
      else
        let common :=
          if (common.body current.task).isRecurring then common.add current.task current.runner
          else common
        common.clearCurrent.postCheckForTaskRun

/-- The timer of the first task that fails when it is not started. -/
def restartTimeoutTimer (common : Common Runner) : Common Runner :=
  if common.scheduler.isShutdown then common
  else
    let expirations := (common.scheduler.tasks.filter fun record =>
      !(common.body record.task).isRecurring).map fun record =>
        (common.task record.task).behavior.startExpiration
    let first := expirations.foldl min MonotonicTimestamp.max
    { common with
      scheduler :=
        { common.scheduler with
          taskStartTimeout := if first = .max then none else some first } }

def timeoutTasks (common : Common Runner) (now : MonotonicTimestamp) : Common Runner :=
  if common.scheduler.isShutdown then common
  else
    (common.eraseTasks now .failureStartTimeout fun record =>
      !((common.body record.task).isRecurring ||
        (common.task record.task).behavior.startExpiration > now)).restartTimeoutTimer

def demand (common : Common Runner) (id : TaskId Runner) : Common Runner :=
  { common with posted := common.posted ++ [.demand id] }

def shutdown (common : Common Runner) : Common Runner :=
  { common with
    scheduler :=
      { common.scheduler with
        isShutdown := true
        tasks := []
        current := none
        taskTimer := none
        taskStartTimeout := none } }

/-! ## Best task -/

inductive Comparison where
  | left
  | right
  | same
deriving DecidableEq, Repr

/-- The lower of two numbers. -/
def compareLower (left right : Int) : Comparison :=
  if left < right then .left else if right < left then .right else .same

/-- The one for which something does not hold. -/
def compareUnless (left right : Bool) : Comparison :=
  if left then (if right then .same else .right) else (if right then .left else .same)

def Comparison.orElse (first second : Comparison) : Comparison :=
  if first = .same then second else first

def getBestTaskToRun (common : Common Runner) (environment : Environment Runner)
    (left right : Record Runner) : Comparison :=
  let expirationTime := fun record : Record Runner =>
    common.expirationTime environment record.task
  -- if tasks are already expired, the effective expiration time is NOW
  let effective := fun record =>
    if environment.now ≥ expirationTime record then environment.now else expirationTime record
  (compareUnless (expirationTime left = .max) (expirationTime right = .max)).orElse <|
    (compareUnless (common.isBlocked left.task) (common.isBlocked right.task)).orElse <|
      (compareLower (effective left) (effective right)).orElse <|
        compareLower (common.body left.task).priority (common.body right.task).priority

/-- The best record, and where it is. -/
def bestFrom (replaces : Record Runner → Record Runner → Bool) (best : Record Runner × Nat) :
    Nat → List (Record Runner) → Record Runner × Nat
  | _, [] => best
  | position, record :: records =>
      bestFrom replaces (if replaces best.1 record then (record, position) else best)
        (position + 1) records

/-- Choose the task to run; it becomes the current one. -/
def chooseTask (common : Common Runner) (environment : Environment Runner) :
    Common Runner × Option (Record Runner) :=
  match common.scheduler.tasks with
  | [] => (common, none)
  | first :: records =>
      let (best, position) := bestFrom
        (fun best record => common.getBestTaskToRun environment best record == .right)
        (first, 0) 1 records
      if environment.now ≥ common.expirationTime environment best.task then
        ({ common with
          scheduler :=
            { common.scheduler with
              current := some best
              tasks := common.scheduler.tasks.eraseIdx position } }, some best)
      else
        ({ common with
          scheduler :=
            { common.scheduler with
              taskTimer := some (common.expirationTime environment best.task) } }, none)

/-- What a check leaves to do is to run the record that it returns. -/
def checkForTaskRun (common : Common Runner) (environment : Environment Runner) :
    Common Runner × Option (Record Runner) :=
  if common.scheduler.isShutdown then (common, none)
  else
    let common :=
      ({ common with scheduler := { common.scheduler with taskCheckPending := false } }
        ).restartTimeoutTimer
    if common.scheduler.current.isSome then (common, none)
    else common.chooseTask environment

end Common

end OpenDnp3.Master
