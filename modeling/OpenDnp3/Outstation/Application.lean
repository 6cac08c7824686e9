import OpenDnp3.Link.CRC
import OpenDnp3.Master.CommandSet
import OpenDnp3.Master.TaskBehavior
import OpenDnp3.Library.SequenceNum
import OpenDnp3.Outstation.Database.DatabaseBuffers

/-!
# Application

The code of the user that an outstation calls: its command handler and its
application. What they answer may depend on everything that happened before.
-/

set_option autoImplicit false

namespace OpenDnp3.Outstation

open OpenDnp3.App OpenDnp3.Library
open OpenDnp3.Master (CommandType MonotonicTimestamp TimeDuration)

abbrev AppSeqNum := SequenceNum 16

inductive OperateType where
  | selectBeforeOperate
  | directOperate
  | directOperateNoAck
deriving DecidableEq, Repr, Inhabited

inductive RestartMode where
  | unsupported
  | supportedDelayFine
  | supportedDelayCoarse
deriving DecidableEq, Repr, Inhabited

/-- The indications that the application controls. -/
structure ApplicationIIN where
  needTime : Bool := false
  localControl : Bool := false
  deviceTrouble : Bool := false
  configCorrupt : Bool := false
  eventBufferOverflow : Bool := false
deriving DecidableEq, Repr, Inhabited

def ApplicationIIN.toIIN (iin : ApplicationIIN) : IINField :=
  ((((IINField.empty.setBitToValue .needTime iin.needTime).setBitToValue .localControl
    iin.localControl).setBitToValue .configCorrupt iin.configCorrupt).setBitToValue
      .deviceTrouble iin.deviceTrouble).setBitToValue .eventBufferOverflow iin.eventBufferOverflow

/-! ## Calls -/

/-- A call to the code of the user. -/
inductive Call where
  /-- The start of an ASDU that contains commands. -/
  | start
  /-- The end of an ASDU that contains commands. -/
  | finish
  | select (type : CommandType) (command : Indexed type.Value)
  | operate (type : CommandType) (command : Indexed type.Value) (opType : OperateType)
  | supportsWriteAbsoluteTime
  | writeAbsoluteTime (time : DNPTime)
  | supportsWriteTimeAndInterval
  | writeTimeAndInterval (values : List (Indexed TimeAndInterval))
  | supportsAssignClass
  /-- The executor is asked to make this call. -/
  | recordClassAssignment (type : AssignClassType) (clazz : PointClass) (range : Range)
  | getApplicationIIN
  | coldRestartSupport
  | warmRestartSupport
  | coldRestart
  | warmRestart
deriving DecidableEq

/-- What the user's code returns. -/
def Call.Answer : Call → Type
  | .start | .finish | .recordClassAssignment _ _ _ => Unit
  | .select _ _ | .operate _ _ _ => CommandStatus
  | .supportsWriteAbsoluteTime | .writeAbsoluteTime _ | .supportsWriteTimeAndInterval
  | .writeTimeAndInterval _ | .supportsAssignClass => Bool
  | .getApplicationIIN => ApplicationIIN
  | .coldRestartSupport | .warmRestartSupport => RestartMode
  | .coldRestart | .warmRestart => UInt16

/-- What an outstation does that others can see. The serials of the events that a fragment
carries are a ghost. -/
inductive Activity where
  | call (call : Call)
  | beginTransmit (destination : UInt16) (fragment : List UInt8) (carried : List Nat)
deriving DecidableEq

/-- The clock of the executor and the code of the user, as they are during one event. -/
structure Environment where
  now : MonotonicTimestamp
  application : List Activity → (call : Call) → call.Answer

/-- A user's code that supports nothing. -/
def Environment.atZero : Environment where
  now := 0
  application _ := fun
    | .start | .finish | .recordClassAssignment _ _ _ => ()
    | .select _ _ | .operate _ _ _ => CommandStatus.notSupported
    | .supportsWriteAbsoluteTime | .writeAbsoluteTime _ | .supportsWriteTimeAndInterval
    | .writeTimeAndInterval _ | .supportsAssignClass => false
    | .getApplicationIIN => {}
    | .coldRestartSupport | .warmRestartSupport => RestartMode.unsupported
    | .coldRestart | .warmRestart => (65535 : UInt16)

/-- A user's code that only carries out commands. -/
def Environment.accepting : Environment where
  now := 0
  application log := fun
    | .select _ _ | .operate _ _ _ => CommandStatus.success
    | call => Environment.atZero.application log call

/-- Make a call, and log it. -/
def Environment.ask (environment : Environment) (log : List Activity) (call : Call) :
    call.Answer × List Activity :=
  (environment.application log call, log ++ [.call call])

end OpenDnp3.Outstation
