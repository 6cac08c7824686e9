import OpenDnp3.App.APDUHeader
import OpenDnp3.App.Parsing.APDUParser

/-!
# Measurement handler

How a master interprets the object headers of a response: which of them carry
measurements, and what becomes of the times of a header with relative times.
-/

set_option autoImplicit false

namespace OpenDnp3.Master

open OpenDnp3.App

inductive TimestampMode where
  | invalid
  | synchronized
  | unsynchronized
deriving DecidableEq, Repr, Inhabited

/-- Information about the header that values come from. -/
structure HeaderInfo where
  gv : GroupVariation
  qualifier : QualifierCode
  tsmode : TimestampMode
  headerIndex : Nat
deriving DecidableEq, Repr

/-- A security statistic as the interface of the handler has it. -/
structure SecurityStat where
  quality : UInt8
  assocId : UInt16
  count : UInt32
  time : DNPTime
deriving DecidableEq, Repr

/-- A call on the sequence-of-events handler. -/
inductive SOECall where
  | start
  | process (info : HeaderInfo) (type : ObjectType) (values : List (Indexed type.Value))
  | processSecurityStats (info : HeaderInfo) (values : List (Indexed SecurityStat))
  | processTimes (info : HeaderInfo) (values : List DNPTime)
  | finish

/-- Whether the objects of a group variation carry an absolute time. -/
def hasAbsoluteTime : GroupVariation → Bool
  | .group2Var2 | .group4Var2 | .group11Var2 | .group13Var2 | .group21Var5 | .group21Var6
  | .group22Var5 | .group22Var6 | .group23Var5 | .group23Var6 | .group32Var3 | .group32Var4
  | .group32Var7 | .group32Var8 | .group42Var3 | .group42Var4 | .group42Var7 | .group42Var8
  | .group43Var3 | .group43Var4 | .group43Var7 | .group43Var8 | .group50Var1 | .group50Var3
  | .group50Var4 | .group51Var1 | .group51Var2 | .group122Var2 => true
  | _ => false

structure MeasurementHandler where
  txInitiated : Bool
  ctoMode : TimestampMode
  commonTimeOccurence : DNPTime
  errors : IINField
deriving DecidableEq, Repr

namespace MeasurementHandler

def initial : MeasurementHandler := ⟨false, .invalid, 0, .empty⟩

def isAllowed : WhiteList := fun _ _ _ => true

def modeFromType (gv : GroupVariation) : TimestampMode :=
  if hasAbsoluteTime gv then .synchronized else .invalid

def infoOf (record : HeaderRecord) (tsmode : TimestampMode) : HeaderInfo :=
  ⟨record.enumeration, record.getQualifierCode, tsmode, record.headerIndex⟩

/-- What processing a header makes of the handler, and the calls it leads to. -/
abbrev Processing := MeasurementHandler × List SOECall

/-- A call; the first of them starts a transaction. -/
def emit (handler : MeasurementHandler) (call : SOECall) : Processing :=
  ({ handler with txInitiated := true },
    if handler.txInitiated then [call] else [.start, call])

def record (handler : MeasurementHandler) (bit : IINBit) : Processing :=
  ({ handler with errors := handler.errors.setBit bit }, [])

def processUnsupportedHeader (handler : MeasurementHandler) : Processing :=
  handler.record .funcNotSupported

def loadValues (handler : MeasurementHandler) (record : HeaderRecord) (tsmode : TimestampMode)
    (type : ObjectType) (values : List (Indexed type.Value)) : Processing :=
  handler.emit (.process (infoOf record tsmode) type values)

def loadSecurityStats (handler : MeasurementHandler) (record : HeaderRecord)
    (values : List (Indexed SecurityStat)) : Processing :=
  handler.emit (.processSecurityStats (infoOf record (modeFromType record.enumeration)) values)

/-- The times of the values are relative to the common time of occurrence. -/
def adjust {Value : Type} (cto : DNPTime) (input : Indexed (TypedMeasurement Value)) :
    Indexed (TypedMeasurement Value) :=
  ⟨{ input.value with time := input.value.time + cto }, input.index⟩

/-- A common time of occurrence; it counts when it is the only one of its header. -/
def processCTO (handler : MeasurementHandler) (mode : TimestampMode) :
    List DNPTime → Processing
  | [cto] => ({ handler with ctoMode := mode, commonTimeOccurence := cto }, [])
  | _ => (handler, [])

def processCount (handler : MeasurementHandler) (record : HeaderRecord) :
    (type : ObjectType) → List type.Value → Processing
  | .group50Var1, values => handler.emit (.processTimes (infoOf record .invalid) values)
  | .group51Var1, values => handler.processCTO .synchronized values
  | .group51Var2, values => handler.processCTO .unsynchronized values
  | _, _ => handler.processUnsupportedHeader

def processRange (handler : MeasurementHandler) (record : HeaderRecord) :
    (type : ObjectType) → List (Indexed type.Value) → Processing
  | .group121Var1, values =>
      handler.loadSecurityStats record
        (values.map fun value =>
          ⟨⟨value.value.1, value.value.2.1, value.value.2.2, 0⟩, value.index⟩)
  | type, values =>
      if type ∈ [.binary, .doubleBitBinary, .binaryOutputStatus, .counter, .frozenCounter,
          .analog, .analogOutputStatus, .octetString, .timeAndInterval] then
        handler.loadValues record (modeFromType record.enumeration) type values
      else
        handler.processUnsupportedHeader

/-- Without a common time of occurrence before them, relative times mean nothing. -/
def processWithCTO (handler : MeasurementHandler) (record : HeaderRecord) (type : ObjectType)
    (adjusted : List (Indexed type.Value)) : Processing :=
  if handler.ctoMode = .invalid then handler.record .paramError
  else handler.loadValues record handler.ctoMode type adjusted

def processPrefix (handler : MeasurementHandler) (record : HeaderRecord) :
    (type : ObjectType) → List (Indexed type.Value) → Processing
  | .binary, values =>
      if record.enumeration = .group2Var3 then
        handler.processWithCTO record .binary (values.map (adjust handler.commonTimeOccurence))
      else
        handler.loadValues record (modeFromType record.enumeration) .binary values
  | .doubleBitBinary, values =>
      if record.enumeration = .group4Var3 then
        handler.processWithCTO record .doubleBitBinary
          (values.map (adjust handler.commonTimeOccurence))
      else
        handler.loadValues record (modeFromType record.enumeration) .doubleBitBinary values
  | .group122Var1, values =>
      handler.loadSecurityStats record
        (values.map fun value =>
          ⟨⟨value.value.1, value.value.2.1, value.value.2.2, 0⟩, value.index⟩)
  | .group122Var2, values =>
      handler.loadSecurityStats record
        (values.map fun value =>
          ⟨⟨value.value.1, value.value.2.1, value.value.2.2.1, value.value.2.2.2⟩, value.index⟩)
  | type, values =>
      if type ∈ [.binaryOutputStatus, .counter, .frozenCounter, .analog, .analogOutputStatus,
          .octetString, .binaryCommandEvent, .analogCommandEvent] then
        handler.loadValues record (modeFromType record.enumeration) type values
      else
        handler.processUnsupportedHeader

def processHeader (handler : MeasurementHandler) : Header → Processing
  | .countOf record _ type values => handler.processCount record type values
  | .rangeOf record _ type values => handler.processRange record type values
  | .prefixOf record _ type values => handler.processPrefix record type values
  | _ => handler.processUnsupportedHeader

def processHeaders (handler : MeasurementHandler) : List Header → Processing
  | [] => (handler, [])
  | header :: headers =>
      let (handler, calls) := handler.processHeader header
      let (handler, others) := handler.processHeaders headers
      (handler, calls ++ others)

/-- Interpret the objects of a response as measurements. -/
def processMeasurements [FloatOps] (objects : List UInt8) :
    Except ParseError (List SOECall) :=
  (APDUParser.parse true isAllowed objects).map fun headers =>
    let (handler, calls) := initial.processHeaders headers
    if handler.txInitiated then calls ++ [.finish] else calls

theorem processHeaders_append (handler : MeasurementHandler) (first second : List Header) :
    handler.processHeaders (first ++ second) =
      (((handler.processHeaders first).1.processHeaders second).1,
        (handler.processHeaders first).2 ++
          ((handler.processHeaders first).1.processHeaders second).2) := by
  induction first generalizing handler with
  | nil => rfl
  | cons header first ih => simp only [List.cons_append, processHeaders, ih, List.append_assoc]

end MeasurementHandler

/-- A measurement of any type, with the index of its point. -/
structure Measurement where
  type : ObjectType
  value : type.Value
  index : UInt16
deriving DecidableEq

/-- The measurements that calls hand over. -/
def SOECall.measurements : SOECall → List Measurement
  | .process _ type values => values.map fun value => ⟨type, value.value, value.index⟩
  | _ => []

end OpenDnp3.Master
