import OpenDnp3.Outstation.CommandResponseHandler
import OpenDnp3.Outstation.Event.EventBuffer

/-!
# Request handlers

What an outstation does with the headers of a request, function by function. A
handler gets the headers one after the other and gathers what each of them
indicates.
-/

set_option autoImplicit false

namespace OpenDnp3.Outstation

open OpenDnp3.App OpenDnp3.Library
open OpenDnp3.Master (MonotonicTimestamp TimeDuration)

/-! ## Reads -/

/-- Selects static points and events. -/
structure ReadHandler where
  database : DatabaseBuffers
  eventBuffer : EventBuffer
  errors : IINField := .empty

namespace ReadHandler

def isAllowed : WhiteList := fun _ _ _ => true

def ofDatabase (handler : ReadHandler) (selected : IINField × DatabaseBuffers) : ReadHandler :=
  { handler with database := selected.2, errors := handler.errors.or selected.1 }

def ofEvents (handler : ReadHandler) (selected : IINField × EventBuffer) : ReadHandler :=
  { handler with eventBuffer := selected.2, errors := handler.errors.or selected.1 }

def onHeader (handler : ReadHandler) : Header → ReadHandler
  | .allObjects record =>
      match record.type with
      | .static => handler.ofDatabase (handler.database.selectAll record.enumeration)
      | .event => handler.ofEvents (handler.eventBuffer.selectAll record.enumeration)
      | .other =>
          { handler with errors := handler.errors.or IINBit.funcNotSupported.field }
  | .range record range =>
      handler.ofDatabase (handler.database.selectRange record.enumeration range)
  | .count record count =>
      handler.ofEvents (handler.eventBuffer.selectCount record.enumeration count)
  | _ => { handler with errors := handler.errors.or IINBit.funcNotSupported.field }

end ReadHandler

/-! ## Writes -/

/-- The state of time synchronization. -/
structure TimeSyncState where
  valid : Bool := false
  time : MonotonicTimestamp := 0
  difference : TimeDuration := 0
  expectedSeqNum : AppSeqNum := ⟨0⟩
deriving DecidableEq, Repr

namespace TimeSyncState

def recordCurrentTime (state : TimeSyncState) (seq : AppSeqNum) (now : MonotonicTimestamp) :
    TimeSyncState :=
  { state with valid := true, time := now, expectedSeqNum := seq.next }

/-- The time since the last recorded time, which is used once. -/
def calcTimeDifference (state : TimeSyncState) (seq : AppSeqNum) (now : MonotonicTimestamp) :
    Option TimeSyncState :=
  if !state.valid then none
  else if state.expectedSeqNum ≠ seq then none
  else if now < state.time then none
  else some { state with difference := now - state.time, valid := false }

end TimeSyncState

structure WriteHandler where
  seq : AppSeqNum
  now : MonotonicTimestamp
  timeSyncState : TimeSyncState
  writeIIN : IINField
  log : List Activity
  wroteTime : Bool := false
  wroteIIN : Bool := false
  errors : IINField := .empty

namespace WriteHandler

def isAllowed : WhiteList := fun _ _ _ => true

/-- The number of an indication. -/
def deviceRestart : UInt16 := 7

variable (environment : Environment)

def acceptance (accepted : Bool) : IINField :=
  if accepted then .empty else IINBit.paramError.field

/-- The restart indication may be cleared, once. -/
def processIIN (handler : WriteHandler) : List (Indexed Bool) → IINField × WriteHandler
  | [pair] =>
      if handler.wroteIIN then (IINBit.paramError.field, handler)
      else if pair.index ≠ deviceRestart then (IINBit.paramError.field, handler)
      else if pair.value then (IINBit.paramError.field, handler)
      else
        (.empty,
          { handler with
            wroteIIN := true
            writeIIN := handler.writeIIN.clearBit .deviceRestart })
  | _ => (IINBit.paramError.field, handler)

/-- Write a time that the values of a header determine. -/
def writeTime (handler : WriteHandler) (time : DNPTime) : IINField × WriteHandler :=
  let (accepted, log) := environment.ask handler.log (.writeAbsoluteTime time)
  (acceptance accepted, { handler with wroteTime := true, log })

def processAbsoluteTime (handler : WriteHandler) (values : List DNPTime) :
    IINField × WriteHandler :=
  if handler.wroteTime then (IINBit.paramError.field, handler)
  else
    let (supported, log) := environment.ask handler.log .supportsWriteAbsoluteTime
    let handler := { handler with log }
    if !(supported : Bool) then (IINBit.funcNotSupported.field, handler)
    else
      match values with
      | [value] => handler.writeTime environment value
      | _ => (IINBit.paramError.field, handler)

/-- The time that was recorded last has moved on since. -/
def processLastRecordedTime (handler : WriteHandler) (values : List DNPTime) :
    IINField × WriteHandler :=
  if handler.wroteTime then (IINBit.paramError.field, handler)
  else
    let (supported, log) := environment.ask handler.log .supportsWriteAbsoluteTime
    let handler := { handler with log }
    if !(supported : Bool) then (IINBit.funcNotSupported.field, handler)
    else
      match values with
      | [value] =>
          match handler.timeSyncState.calcTimeDifference handler.seq handler.now with
          | none => (IINBit.paramError.field, handler)
          | some timeSyncState =>
              { handler with timeSyncState }.writeTime environment
                (value + timeSyncState.difference)
      | _ => (IINBit.paramError.field, handler)

def processTimeAndInterval (handler : WriteHandler) (values : List (Indexed TimeAndInterval)) :
    IINField × WriteHandler :=
  let (supported, log) := environment.ask handler.log .supportsWriteTimeAndInterval
  if !(supported : Bool) then (IINBit.funcNotSupported.field, { handler with log })
  else
    let (accepted, log) := environment.ask log (.writeTimeAndInterval values)
    (acceptance accepted, { handler with log })

def processHeader (handler : WriteHandler) : Header → IINField × WriteHandler
  | .rangeOf _ _ .iinValue values => handler.processIIN values
  | .countOf _ _ .group50Var1 values => handler.processAbsoluteTime environment values
  | .countOf _ _ .group50Var3 values => handler.processLastRecordedTime environment values
  | .prefixOf _ _ .timeAndInterval values => handler.processTimeAndInterval environment values
  | _ => (IINBit.funcNotSupported.field, handler)

def onHeader (handler : WriteHandler) (header : Header) : WriteHandler :=
  let (iin, handler) := handler.processHeader environment header
  { handler with errors := handler.errors.or iin }

end WriteHandler

/-! ## Assignments of classes -/

/-- The number of the last header that named a class is kept until an assignment follows it. -/
structure AssignClassHandler where
  database : DatabaseBuffers
  log : List Activity
  classHeader : Option Nat := none
  clazz : PointClass := .class0
  numTotalHeaders : Nat := 0
  errors : IINField := .empty

namespace AssignClassHandler

def isAllowed : WhiteList := fun _ _ _ => true

def assignClassType : GroupVariation → Option AssignClassType
  | .group1Var0 => some .binaryInput
  | .group3Var0 => some .doubleBinaryInput
  | .group10Var0 => some .binaryOutputStatus
  | .group20Var0 => some .counter
  | .group21Var0 => some .frozenCounter
  | .group30Var0 => some .analogInput
  | .group40Var0 => some .analogOutputStatus
  | _ => none

def pointClass : GroupVariation → Option PointClass
  | .group60Var1 => some .class0
  | .group60Var2 => some .class1
  | .group60Var3 => some .class2
  | .group60Var4 => some .class3
  | _ => none

/-- Whether the header before this one named a class; then it is used up. -/
def isExpectingAssignment (handler : AssignClassHandler) : Bool × AssignClassHandler :=
  if 0 < handler.numTotalHeaders ∧ handler.classHeader = some (handler.numTotalHeaders - 1) then
    (true, { handler with classHeader := none })
  else
    (false, handler)

def recordClass (handler : AssignClassHandler) (gv : GroupVariation) :
    IINField × AssignClassHandler :=
  match pointClass gv with
  | some clazz =>
      (.empty, { handler with classHeader := some handler.numTotalHeaders, clazz })
  | none => (IINBit.paramError.field, { handler with classHeader := none })

variable (environment : Environment)

def notifyApplicationOfAssignment (handler : AssignClassHandler) (type : AssignClassType)
    (range : Range) : AssignClassHandler :=
  if range.isValid then
    { handler with
      log := (environment.ask handler.log
        (.recordClassAssignment type handler.clazz range)).2 }
  else
    handler

def processAssignAll (handler : AssignClassHandler) (type : AssignClassType) :
    IINField × AssignClassHandler :=
  let (full, database) := handler.database.assignClassToAll type handler.clazz
  (if full.isValid then .empty else IINBit.paramError.field,
    { handler with database }.notifyApplicationOfAssignment environment type full)

/-- If the range was clipped or is invalid, that is an error. -/
def processAssignRange (handler : AssignClassHandler) (type : AssignClassType) (range : Range) :
    IINField × AssignClassHandler :=
  let (actual, database) := handler.database.assignClassToRange type handler.clazz range
  (if actual = range then .empty else IINBit.paramError.field,
    { handler with database }.notifyApplicationOfAssignment environment type actual)

def processHeader (handler : AssignClassHandler) : Header → IINField × AssignClassHandler
  | .allObjects record =>
      let (expecting, handler) := handler.isExpectingAssignment
      if expecting then
        match assignClassType record.enumeration with
        | some type => handler.processAssignAll environment type
        | none => (IINBit.funcNotSupported.field, handler)
      else
        handler.recordClass record.enumeration
  | .range record range =>
      let (expecting, handler) := handler.isExpectingAssignment
      if expecting then
        match assignClassType record.enumeration with
        | some type => handler.processAssignRange environment type range
        | none => (IINBit.funcNotSupported.field, handler)
      else
        (IINBit.paramError.field, handler)
  | _ => (IINBit.funcNotSupported.field, handler)

def onHeader (handler : AssignClassHandler) (header : Header) : AssignClassHandler :=
  let (iin, handler) := handler.processHeader environment header
  { handler with
    numTotalHeaders := handler.numTotalHeaders + 1
    errors := handler.errors.or iin }

end AssignClassHandler

/-! ## Classes -/

/-- Gathers the classes of events that a request names. -/
structure ClassBasedRequestHandler where
  classField : ClassField := .none
  errors : IINField := .empty
deriving DecidableEq, Repr

namespace ClassBasedRequestHandler

def isAllowed : WhiteList := fun _ _ _ => true

def onHeader (handler : ClassBasedRequestHandler) : Header → ClassBasedRequestHandler
  | .allObjects record =>
      match eventClassSelection record.enumeration with
      | some clazz => { handler with classField := handler.classField.set (.ofEventClass clazz) }
      | none => { handler with errors := handler.errors.or IINBit.funcNotSupported.field }
  | _ => { handler with errors := handler.errors.or IINBit.funcNotSupported.field }

end ClassBasedRequestHandler

end OpenDnp3.Outstation
