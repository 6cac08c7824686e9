import OpenDnp3.Master.CommandSetOps
import OpenDnp3.Master.MeasurementHandler
import OpenDnp3.Master.TaskBehavior

/-!
# Master tasks

The requests that each kind of task sends, and what it makes of a response.
-/

set_option autoImplicit false

namespace OpenDnp3.Master

open OpenDnp3.App OpenDnp3.Library

inductive ResponseResult where
  | errorBadResponse
  | okFinal
  /-- The task should repeat the format, transmit, and await response sequence. -/
  | okRepeat
  /-- Restart the response timer, and expect the next number. -/
  | okContinue
deriving DecidableEq, Repr

inductive TaskCompletion where
  | success
  | failureBadResponse
  | failureResponseTimeout
  | failureStartTimeout
  | failureMessageFormatError
  | failureNoComms
deriving DecidableEq, Repr

/-- The completion of a task that a response brings about. -/
def ResponseResult.completion : ResponseResult → Option TaskCompletion
  | .errorBadResponse => some .failureBadResponse
  | .okFinal => some .success
  | .okRepeat | .okContinue => none

/-- What a task asks of the application. -/
structure IMasterApplication where
  /-- Milliseconds since the epoch. -/
  now : UInt64
  assignClassDuringStartup : Bool
  configureAssignClassRequest : HeaderBuilder

/-! ## Validation -/

def validateSingleResponse (header : APDUResponseHeader) : Bool :=
  header.control.fir && header.control.fin

def validateInternalIndications (header : APDUResponseHeader) : Bool :=
  !header.iin.hasRequestError

def validateNullResponse (header : APDUResponseHeader) (objects : List UInt8) : Bool :=
  validateSingleResponse header && objects.isEmpty && validateInternalIndications header

def finalIf (accepted : Bool) : ResponseResult :=
  if accepted then .okFinal else .errorBadResponse

/-! ## Polls -/

/-- The state of a poll is the number of fragments received. -/
abbrev RxCount := UInt32

namespace PollTaskBase

variable [FloatOps]

def processMeasurements (rxCount : RxCount) (header : APDUResponseHeader) (objects : List UInt8) :
    RxCount × List SOECall × ResponseResult :=
  match MeasurementHandler.processMeasurements objects with
  | .ok calls => (rxCount + 1, calls, if header.control.fin then .okFinal else .okContinue)
  | .error _ => (rxCount + 1, [], .errorBadResponse)

def processResponse (rxCount : RxCount) (header : APDUResponseHeader) (objects : List UInt8) :
    RxCount × List SOECall × ResponseResult :=
  if header.control.fir then
    -- unexpected FIR frame
    if rxCount > 0 then (rxCount, [], .errorBadResponse)
    else processMeasurements rxCount header objects
  else
    if rxCount > 0 then processMeasurements rxCount header objects
    -- unexpected non-FIR frame
    else (rxCount, [], .errorBadResponse)

end PollTaskBase

/-! ## Commands -/

structure CommandTask where
  functionCodes : List FunctionCode
  commands : CommandSet
  mode : IndexQualifierMode

namespace CommandTask

def createDirectOperate (set : CommandSet) (mode : IndexQualifierMode) : CommandTask :=
  ⟨[.directOperate], set, mode⟩

def createSelectAndOperate (set : CommandSet) (mode : IndexQualifierMode) : CommandTask :=
  ⟨[.select, .operate], set, mode⟩

def buildRequest (task : CommandTask) (apdu : APDURequest) (seq : UInt8) :
    CommandTask × APDURequest × Bool :=
  match task.functionCodes with
  | [] => (task, apdu, false)
  | function :: functionCodes =>
      let apdu := (apdu.setFunction function).setControl (.request seq)
      let (commands, writer, success) := task.commands.write ⟨apdu.remaining, none⟩ task.mode
      ({ task with functionCodes, commands }, { apdu with remaining := writer.position }, success)

variable [FloatOps]

def processObjects (task : CommandTask) (objects : List UInt8) : CommandTask × ResponseResult :=
  if task.functionCodes.isEmpty then
    let (commands, result) := task.commands.processOperateResponse objects
    ({ task with commands }, finalIf (result == .ok))
  else
    let (commands, result) := task.commands.processSelectResponse objects
    ({ task with commands },
      match result with
      | .ok => .okRepeat -- proceed to OPERATE
      | .failSelect => .okFinal -- let the user examine each command point
      | .failParse => .errorBadResponse)

def processResponse (task : CommandTask) (header : APDUResponseHeader) (objects : List UInt8) :
    CommandTask × ResponseResult :=
  if validateSingleResponse header then task.processObjects objects
  else (task, .errorBadResponse)

end CommandTask

/-! ## Restarts -/

inductive RestartType where
  | cold
  | warm
deriving DecidableEq, Repr

structure RestartOperationTask where
  operationType : RestartType
  duration : TimeDuration := int64Min
  errors : IINField := .empty
deriving DecidableEq, Repr

namespace RestartOperationTask

def function (task : RestartOperationTask) : FunctionCode :=
  match task.operationType with
  | .cold => .coldRestart
  | .warm => .warmRestart

def isAllowed : WhiteList := fun headerCount variation _ =>
  headerCount == 0 && (variation == .group52Var1 || variation == .group52Var2)

def processHeader (task : RestartOperationTask) : Header → RestartOperationTask
  | .countOf _ _ .group52Var1 [time] => { task with duration := 1000 * time.toNat }
  | .countOf _ _ .group52Var2 [time] => { task with duration := time.toNat }
  | .countOf _ _ .group52Var1 _ | .countOf _ _ .group52Var2 _ =>
      { task with errors := task.errors.setBit .paramError }
  | _ => { task with errors := task.errors.setBit .funcNotSupported }

def processResponse [FloatOps] (task : RestartOperationTask) (header : APDUResponseHeader)
    (objects : List UInt8) : RestartOperationTask × ResponseResult :=
  if !(validateSingleResponse header && validateInternalIndications header) then
    (task, .errorBadResponse)
  else if objects.isEmpty then
    (task, .errorBadResponse)
  else
    match APDUParser.parse true isAllowed objects with
    | .error _ => (task, .errorBadResponse)
    | .ok headers => (headers.foldl processHeader task, .okFinal)

end RestartOperationTask

/-! ## Time synchronization -/

namespace TimeSyncHandler

def isAllowed : WhiteList := fun headerCount variation _ =>
  headerCount == 0 && variation == .group52Var2

/-- The delay of the one object, if there was no error. -/
def getTimeDelay : List Header → Option UInt16
  | [.countOf _ _ .group52Var2 [time]] => some time
  | _ => none

end TimeSyncHandler

inductive LANTimeSyncState where
  | recordCurrentTime
  | writeTime
deriving DecidableEq, Repr

structure LANTimeSyncTask where
  state : LANTimeSyncState := .recordCurrentTime
  start : UInt64 := 0
deriving DecidableEq, Repr

namespace LANTimeSyncTask

def buildRequest (task : LANTimeSyncTask) (application : IMasterApplication) (apdu : APDURequest)
    (seq : UInt8) : LANTimeSyncTask × APDURequest × Bool :=
  match task.state with
  | .recordCurrentTime =>
      ({ task with start := application.now }, Build.recordCurrentTime apdu seq, true)
  | .writeTime =>
      let (apdu, success) := ((apdu.setFunction .write).setControl (.request seq)).writeWith
        (.ofWrite fun writer =>
          writer.writeSingleValue .uint8 .uint8Cnt group50Var3.inst task.start.toInt64.toInt)
      (task, apdu, success)

def processResponse (task : LANTimeSyncTask) (header : APDUResponseHeader)
    (objects : List UInt8) : LANTimeSyncTask × ResponseResult :=
  match task.state with
  | .recordCurrentTime =>
      if validateNullResponse header objects then ({ task with state := .writeTime }, .okRepeat)
      else (task, .errorBadResponse)
  | .writeTime => (task, finalIf (validateNullResponse header objects))

end LANTimeSyncTask

structure SerialTimeSyncTask where
  /-- Below zero until the delay was measured. -/
  delay : Int := -1
  start : UInt64 := 0
deriving DecidableEq, Repr

namespace SerialTimeSyncTask

def buildRequest (task : SerialTimeSyncTask) (application : IMasterApplication)
    (apdu : APDURequest) (seq : UInt8) : SerialTimeSyncTask × APDURequest × Bool :=
  if task.delay < 0 then
    ({ task with start := application.now }, Build.measureDelay apdu seq, true)
  else
    let time := (application.now + UInt64.ofInt task.delay).toInt64.toInt
    (task, (((apdu.setFunction .write).setControl (.request seq)).writeWith
      (.ofWrite fun writer =>
        writer.writeSingleValue .uint8 .uint8Cnt group50Var1.inst time)).1, true)

def onResponseDelayMeas [FloatOps] (task : SerialTimeSyncTask) (application : IMasterApplication)
    (header : APDUResponseHeader) (objects : List UInt8) : SerialTimeSyncTask × ResponseResult :=
  if validateSingleResponse header then
    match APDUParser.parse true TimeSyncHandler.isAllowed objects with
    | .error _ => (task, .errorBadResponse)
    | .ok headers =>
        match TimeSyncHandler.getTimeDelay headers with
        | none => (task, .errorBadResponse)
        | some turnAround =>
            let elapsed := (application.now - task.start).toNat
            ({ task with
                delay :=
                  if elapsed ≥ turnAround.toNat then (elapsed - turnAround.toNat) / 2 else 0 },
              .okRepeat)
  else
    (task, .errorBadResponse)

def processResponse [FloatOps] (task : SerialTimeSyncTask) (application : IMasterApplication)
    (header : APDUResponseHeader) (objects : List UInt8) : SerialTimeSyncTask × ResponseResult :=
  if task.delay < 0 then task.onResponseDelayMeas application header objects
  else (task, finalIf (validateNullResponse header objects))

end SerialTimeSyncTask

/-! ## Tasks -/

/-- The classes of tasks, each with its own state. -/
inductive MasterTask where
  | command (task : CommandTask)
  | userPoll (builder : HeaderBuilder) (recurring : Bool) (rxCount : RxCount)
  | emptyResponse (function : FunctionCode) (format : HeaderBuilder)
  | restartOperation (task : RestartOperationTask)
  | clearRestart
  | assignClass
  | startupIntegrity (classes : ClassField) (rxCount : RxCount)
  | eventScan (classes : ClassField) (rxCount : RxCount)
  | disableUnsolicited
  | enableUnsolicited (enabledClasses : ClassField)
  | lanTimeSync (task : LANTimeSyncTask)
  | serialTimeSync (task : SerialTimeSyncTask)

/-- What a user is told of a task beside its completion. -/
inductive TaskReport where
  | nothing
  | commands (points : List (Nat × UInt16 × CommandPointState × CommandStatus))
  | restart (summary : TaskCompletion) (restartTime : TimeDuration)
deriving DecidableEq, Repr

namespace MasterTask

/-- Lower numbers are higher priority. -/
def priority : MasterTask → Nat
  | .command _ => 100
  | .emptyResponse _ _ | .restartOperation _ => 110
  | .clearRestart => 120
  | .disableUnsolicited => 130
  | .assignClass => 140
  | .startupIntegrity _ _ => 150
  | .lanTimeSync _ | .serialTimeSync _ => 160
  | .enableUnsolicited _ => 170
  | .eventScan _ _ => 180
  | .userPoll _ _ _ => 190

def isRecurring : MasterTask → Bool
  | .command _ | .emptyResponse _ _ | .restartOperation _ => false
  | .userPoll _ recurring _ => recurring
  | _ => true

def blocksLowerPriority : MasterTask → Bool
  | .command _ | .emptyResponse _ _ | .restartOperation _ | .userPoll _ _ _ => false
  | _ => true

def isEnabled (application : IMasterApplication) : MasterTask → Bool
  | .assignClass => application.assignClassDuringStartup
  | .startupIntegrity classes _ => classes.hasAnyClass
  | .eventScan classes _ => classes.hasEventClass
  | .enableUnsolicited enabledClasses => enabledClasses.hasEventClass
  | _ => true

/-- Called when the task starts. -/
def initializeTask : MasterTask → MasterTask
  | .userPoll builder recurring _ => .userPoll builder recurring 0
  | .startupIntegrity classes _ => .startupIntegrity classes 0
  | .eventScan classes _ => .eventScan classes 0
  | .lanTimeSync task => .lanTimeSync { task with state := .recordCurrentTime }
  | .serialTimeSync task => .serialTimeSync { task with delay := -1 }
  | task => task

def buildRequest (application : IMasterApplication) (apdu : APDURequest) (seq : UInt8) :
    MasterTask → MasterTask × APDURequest × Bool
  | .command task =>
      let (task, apdu, success) := task.buildRequest apdu seq
      (.command task, apdu, success)
  | .userPoll builder recurring _ =>
      (.userPoll builder recurring 0,
        ((apdu.setFunction .read).setControl (.request seq)).writeWith builder)
  | .emptyResponse function format =>
      (.emptyResponse function format,
        ((apdu.setControl (.request seq)).setFunction function).writeWith format)
  | .restartOperation task =>
      (.restartOperation task, (apdu.setControl (.request seq)).setFunction task.function, true)
  | .clearRestart => (.clearRestart, Build.clearRestartIIN apdu seq, true)
  | .assignClass =>
      (.assignClass, ((apdu.setControl (.request seq)).setFunction .assignClass).writeWith
        application.configureAssignClassRequest)
  | .startupIntegrity classes rxCount =>
      (.startupIntegrity classes rxCount, Build.readIntegrity apdu seq classes, true)
  | .eventScan classes rxCount =>
      (.eventScan classes rxCount, Build.classRequest apdu seq .read classes, true)
  | .disableUnsolicited => (.disableUnsolicited, Build.disableUnsolicited apdu seq, true)
  | .enableUnsolicited enabledClasses =>
      (.enableUnsolicited enabledClasses,
        Build.enableUnsolicited apdu seq enabledClasses.onlyEventClasses, true)
  | .lanTimeSync task =>
      let (task, apdu, success) := task.buildRequest application apdu seq
      (.lanTimeSync task, apdu, success)
  | .serialTimeSync task =>
      let (task, apdu, success) := task.buildRequest application apdu seq
      (.serialTimeSync task, apdu, success)

def onTaskComplete (result : TaskCompletion) : MasterTask → TaskReport
  | .command task =>
      .commands (task.commands.headers.zipIdx.flatMap fun (header, headerIndex) =>
        header.2.records.map fun record =>
          (headerIndex, record.index, record.state, record.status))
  | .restartOperation task =>
      .restart (if task.errors.any then .failureBadResponse else result) task.duration
  | _ => .nothing

variable [FloatOps]

def processResponse (application : IMasterApplication) (header : APDUResponseHeader)
    (objects : List UInt8) : MasterTask → MasterTask × List SOECall × ResponseResult
  | .command task =>
      let (task, result) := task.processResponse header objects
      (.command task, [], result)
  | .userPoll builder recurring rxCount =>
      let (rxCount, calls, result) := PollTaskBase.processResponse rxCount header objects
      (.userPoll builder recurring rxCount, calls, result)
  | .emptyResponse function format =>
      (.emptyResponse function format, [], finalIf (validateNullResponse header objects))
  | .restartOperation task =>
      let (task, result) := task.processResponse header objects
      (.restartOperation task, [], result)
  | .clearRestart =>
      -- we only care that the response to this has FIR/FIN
      (.clearRestart, [],
        finalIf (validateSingleResponse header && !header.iin.isSet .deviceRestart))
  | .assignClass => (.assignClass, [], finalIf (validateNullResponse header objects))
  | .startupIntegrity classes rxCount =>
      let (rxCount, calls, result) := PollTaskBase.processResponse rxCount header objects
      (.startupIntegrity classes rxCount, calls, result)
  | .eventScan classes rxCount =>
      let (rxCount, calls, result) := PollTaskBase.processResponse rxCount header objects
      (.eventScan classes rxCount, calls, result)
  | .disableUnsolicited => (.disableUnsolicited, [], finalIf (validateNullResponse header objects))
  | .enableUnsolicited enabledClasses =>
      (.enableUnsolicited enabledClasses, [], finalIf (validateNullResponse header objects))
  | .lanTimeSync task =>
      let (task, result) := task.processResponse header objects
      (.lanTimeSync task, [], result)
  | .serialTimeSync task =>
      let (task, result) := task.processResponse application header objects
      (.serialTimeSync task, [], result)

end MasterTask

end OpenDnp3.Master
