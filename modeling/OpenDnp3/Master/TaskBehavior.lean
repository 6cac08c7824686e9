import OpenDnp3.App.HeaderWriter
import OpenDnp3.App.APDUHeader

/-!
# Behavior of tasks and requests

When a master's task runs next, and how its requests are written.
-/

set_option autoImplicit false

namespace OpenDnp3.Master

open OpenDnp3.App OpenDnp3.Library

/-! ## Time -/

/-- Milliseconds, as the signed 64 bit value that holds them. -/
abbrev TimeDuration := Int

abbrev MonotonicTimestamp := Int

def int64Max : Int := 2 ^ 63 - 1

def int64Min : Int := -2 ^ 63

namespace MonotonicTimestamp

def max : MonotonicTimestamp := int64Max

def min : MonotonicTimestamp := int64Min

def add (time : MonotonicTimestamp) (duration : TimeDuration) : MonotonicTimestamp :=
  if duration ≥ int64Max - time then max else time + duration

end MonotonicTimestamp

/-! ## Behavior -/

/-- The parameters that control when a task runs, and what becomes of them. -/
structure TaskBehavior where
  period : TimeDuration
  minRetryDelay : TimeDuration
  maxRetryDelay : TimeDuration
  startExpiration : MonotonicTimestamp
  expiration : MonotonicTimestamp
  currentRetryDelay : TimeDuration := minRetryDelay
  disabled : Bool := false
deriving DecidableEq, Repr, Inhabited

namespace TaskBehavior

def singleExecutionNoRetry (startExpiration : MonotonicTimestamp) : TaskBehavior where
  period := int64Min -- not periodic
  expiration := .min -- run immediately
  minRetryDelay := int64Max
  maxRetryDelay := int64Max
  startExpiration := startExpiration

def immediatePeriodic (period minRetryDelay maxRetryDelay : TimeDuration) : TaskBehavior where
  period := period
  expiration := .min
  minRetryDelay := minRetryDelay
  maxRetryDelay := maxRetryDelay
  startExpiration := .max -- no start expiration

def singleImmediateExecutionWithRetry (minRetryDelay maxRetryDelay : TimeDuration) :
    TaskBehavior where
  period := int64Min
  expiration := .min
  minRetryDelay := minRetryDelay
  maxRetryDelay := maxRetryDelay
  startExpiration := .max

def reactsToIINOnly : TaskBehavior where
  period := int64Min
  expiration := .max -- only run when needed
  minRetryDelay := int64Max -- never retry
  maxRetryDelay := int64Max
  startExpiration := .max

def onSuccess (behavior : TaskBehavior) (now : MonotonicTimestamp) : TaskBehavior :=
  { behavior with
    currentRetryDelay := behavior.minRetryDelay
    expiration := if behavior.period < 0 then .max else MonotonicTimestamp.add now behavior.period }

/-- The delay is doubled, up to its maximum. -/
def calcNextRetryTimeout (behavior : TaskBehavior) : TimeDuration :=
  let doubled :=
    if behavior.currentRetryDelay ≥ int64Max / 2 then behavior.maxRetryDelay
    else 2 * behavior.currentRetryDelay
  if doubled > behavior.maxRetryDelay then behavior.maxRetryDelay else doubled

def onResponseTimeout (behavior : TaskBehavior) (now : MonotonicTimestamp) : TaskBehavior :=
  { behavior with
    expiration := MonotonicTimestamp.add now behavior.currentRetryDelay
    currentRetryDelay := behavior.calcNextRetryTimeout }

def reset (behavior : TaskBehavior) : TaskBehavior :=
  { behavior with
    disabled := false
    expiration := .min
    currentRetryDelay := behavior.minRetryDelay }

def disable (behavior : TaskBehavior) : TaskBehavior :=
  { behavior with
    disabled := true
    expiration := .max }

end TaskBehavior

/-! ## Requests -/

/-- What a user's function writes behind the header of a request. -/
abbrev HeaderBuilder := HeaderWriter → HeaderWriter × Bool

/-- Write something, or leave the writer as it is. -/
def HeaderBuilder.ofWrite (write : HeaderWriter → Option HeaderWriter) : HeaderBuilder :=
  fun writer => ((write writer).getD writer, (write writer).isSome)

/-- A request in a buffer: its two bytes of header, and what is written behind them. -/
structure APDURequest where
  control : UInt8
  function : UInt8
  remaining : Cursor
deriving DecidableEq, Repr

namespace APDURequest

def ofBuffer (buffer : List UInt8) : APDURequest :=
  ⟨buffer.getD 0 0, buffer.getD 1 0, ⟨[], buffer.drop 2⟩⟩

def setControl (request : APDURequest) (control : AppControlField) : APDURequest :=
  { request with control := control.toByte }

def setFunction (request : APDURequest) (function : FunctionCode) : APDURequest :=
  { request with function := function.toType }

/-- Let a function write behind what is written. -/
def writeWith (request : APDURequest) (write : HeaderBuilder) : APDURequest × Bool :=
  let (writer, success) := write ⟨request.remaining, none⟩
  ({ request with remaining := writer.position }, success)

def toRSlice (request : APDURequest) : List UInt8 :=
  request.control :: request.function :: request.remaining.written

def buffer (request : APDURequest) : List UInt8 :=
  request.toRSlice ++ request.remaining.rest

end APDURequest

namespace Build

def writeClassHeader (classes : Bool) (variation : UInt8) (writer : HeaderWriter) :
    Option HeaderWriter :=
  if classes then writer.writeHeader ⟨60, variation⟩ .allObjects else some writer

def writeClassHeaders (classes : ClassField) : HeaderBuilder := fun writer =>
  match writeClassHeader classes.class1 2 writer with
  | none => (writer, false)
  | some writer =>
      match writeClassHeader classes.class2 3 writer with
      | none => (writer, false)
      | some writer =>
          match writeClassHeader classes.class3 4 writer with
          | none => (writer, false)
          | some writer => HeaderBuilder.ofWrite (writeClassHeader classes.class0 1) writer

variable (apdu : APDURequest) (seq : UInt8)

def classRequest (function : FunctionCode) (classes : ClassField) : APDURequest :=
  (((apdu.setControl (.request seq)).setFunction function).writeWith
    (writeClassHeaders classes)).1

def readIntegrity (classes : ClassField) : APDURequest := classRequest apdu seq .read classes

def disableUnsolicited : APDURequest :=
  classRequest apdu seq .disableUnsolicited .allEventClasses

def enableUnsolicited (classes : ClassField) : APDURequest :=
  classRequest apdu seq .enableUnsolicited classes

/-- The restart bit is written as a bitfield of one. -/
def clearRestartIIN : APDURequest :=
  (((apdu.setFunction .write).setControl (.request seq)).writeWith fun writer =>
    let (iterator, writer) :=
      writer.iterateOverSingleBitfield .uint8 ⟨80, 1⟩ .uint8StartStop 7
    let (iterator, position) :=
      (iterator.write writer.position false).getD (iterator, writer.position)
    ({ writer with position := iterator.finish position }, true)).1

def measureDelay : APDURequest :=
  (apdu.setFunction .delayMeasure).setControl (.request seq)

def recordCurrentTime : APDURequest :=
  (apdu.setFunction .recordCurrentTime).setControl (.request seq)

end Build

end OpenDnp3.Master
