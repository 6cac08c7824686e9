import OpenDnp3.App.HeaderWriter
import OpenDnp3.Outstation.Event.EventLists

/-!
# Event writers

A run of events of one type and variation is written under one header with
index prefixes. Events with a relative time follow a common time of occurrence,
which is the time of the first of them.
-/

set_option autoImplicit false

namespace OpenDnp3.Outstation

open OpenDnp3.App

/-- The iterator of a run, its header writer, and what it makes of a measurement before it is
serialized: `none` when the header cannot carry it. -/
structure EventWriter (Meas : Type) where
  iterator : PrefixedWriteIterator Meas
  writer : HeaderWriter
  convert : Meas → Option Meas

namespace EventWriter

variable {Meas Value : Type}

def write (writer : EventWriter Meas) (meas : Meas) (index : UInt16) :
    Option (EventWriter Meas) :=
  if writer.iterator.isValid then
    (writer.convert meas).bind fun copy =>
      (writer.iterator.write writer.writer.position copy index).map fun (iterator, position) =>
        { writer with iterator, writer := { writer.writer with position } }
  else
    none

/-- The iterator is destroyed with the event writer. -/
def finish (writer : EventWriter Meas) : HeaderWriter :=
  { writer.writer with position := writer.iterator.finish writer.writer.position }

def basic (writer : HeaderWriter) (serializer : DNP3Serializer Meas) : EventWriter Meas :=
  let (iterator, writer) :=
    writer.iterateOverCountWithPrefix .uint16 .uint16CntUint16Index serializer
  ⟨iterator, writer, some⟩

/-- The time since the common time of occurrence, if 16 bits hold it. -/
def relativeTo (cto : DNPTime) (meas : TypedMeasurement Value) :
    Option (TypedMeasurement Value) :=
  -- can't encode timestamps that go backwards
  if meas.time < cto then
    none
  else if 65535 < meas.time - cto then
    none
  else
    some { meas with time := meas.time - cto }

def withCTO (cto : DNPTime) (writer : HeaderWriter)
    (serializer : DNP3Serializer (TypedMeasurement Value)) :
    EventWriter (TypedMeasurement Value) :=
  let (iterator, writer) := writer.iterateOverCountWithPrefixAndCTO .uint16
    .uint16CntUint16Index serializer group51Var1.inst cto
  ⟨iterator, writer, relativeTo cto⟩

/-- The size of the first string is the variation of the header. -/
def octetString (firstSize : UInt8) (writer : HeaderWriter) : EventWriter OctetString :=
  let (iterator, writer) := writer.iterateOverCountWithPrefix .uint16 .uint16CntUint16Index
    (octetStringSerializer true firstSize)
  ⟨iterator, writer, fun meas => if meas.size ≠ firstSize.toNat then none else some meas⟩

end EventWriter

/-! ## The writer of each variation -/

namespace ASDUEventWriteHandler

variable [FloatOps]

def writeBinary (variation : EventBinaryVariation) (first : Binary) (writer : HeaderWriter) :
    EventWriter Binary :=
  match variation with
  | .group2Var1 => .basic writer group2Var1.inst
  | .group2Var2 => .basic writer group2Var2.inst
  | .group2Var3 => .withCTO first.time writer group2Var3.inst

def writeDoubleBitBinary (variation : EventDoubleBinaryVariation) (first : DoubleBitBinary)
    (writer : HeaderWriter) : EventWriter DoubleBitBinary :=
  match variation with
  | .group4Var1 => .basic writer group4Var1.inst
  | .group4Var2 => .basic writer group4Var2.inst
  | .group4Var3 => .withCTO first.time writer group4Var3.inst

def writeCounter (variation : EventCounterVariation) (writer : HeaderWriter) :
    EventWriter Counter :=
  match variation with
  | .group22Var1 => .basic writer group22Var1.inst
  | .group22Var2 => .basic writer group22Var2.inst
  | .group22Var5 => .basic writer group22Var5.inst
  | .group22Var6 => .basic writer group22Var6.inst

def writeFrozenCounter (variation : EventFrozenCounterVariation) (writer : HeaderWriter) :
    EventWriter FrozenCounter :=
  match variation with
  | .group23Var1 => .basic writer group23Var1.inst
  | .group23Var2 => .basic writer group23Var2.inst
  | .group23Var5 => .basic writer group23Var5.inst
  | .group23Var6 => .basic writer group23Var6.inst

def writeAnalog (variation : EventAnalogVariation) (writer : HeaderWriter) :
    EventWriter Analog :=
  match variation with
  | .group32Var1 => .basic writer group32Var1.inst
  | .group32Var2 => .basic writer group32Var2.inst
  | .group32Var3 => .basic writer group32Var3.inst
  | .group32Var4 => .basic writer group32Var4.inst
  | .group32Var5 => .basic writer group32Var5.inst
  | .group32Var6 => .basic writer group32Var6.inst
  | .group32Var7 => .basic writer group32Var7.inst
  | .group32Var8 => .basic writer group32Var8.inst

def writeBinaryOutputStatus (variation : EventBinaryOutputStatusVariation)
    (writer : HeaderWriter) : EventWriter BinaryOutputStatus :=
  match variation with
  | .group11Var1 => .basic writer group11Var1.inst
  | .group11Var2 => .basic writer group11Var2.inst

def writeAnalogOutputStatus (variation : EventAnalogOutputStatusVariation)
    (writer : HeaderWriter) : EventWriter AnalogOutputStatus :=
  match variation with
  | .group42Var1 => .basic writer group42Var1.inst
  | .group42Var2 => .basic writer group42Var2.inst
  | .group42Var3 => .basic writer group42Var3.inst
  | .group42Var4 => .basic writer group42Var4.inst
  | .group42Var5 => .basic writer group42Var5.inst
  | .group42Var6 => .basic writer group42Var6.inst
  | .group42Var7 => .basic writer group42Var7.inst
  | .group42Var8 => .basic writer group42Var8.inst

def writeOctetString (first : OctetString) (writer : HeaderWriter) : EventWriter OctetString :=
  .octetString (UInt8.ofNat first.size) writer

def start : (type : EventType) → type.Variation → type.Meas → HeaderWriter →
    EventWriter type.Meas
  | .binary, variation, first, writer => writeBinary variation first writer
  | .analog, variation, _, writer => writeAnalog variation writer
  | .counter, variation, _, writer => writeCounter variation writer
  | .frozenCounter, variation, _, writer => writeFrozenCounter variation writer
  | .doubleBitBinary, variation, first, writer => writeDoubleBitBinary variation first writer
  | .binaryOutputStatus, variation, _, writer => writeBinaryOutputStatus variation writer
  | .analogOutputStatus, variation, _, writer => writeAnalogOutputStatus variation writer
  | .octetString, _, first, writer => writeOctetString first writer

end ASDUEventWriteHandler

/-- Writes events into the objects of a response. -/
def asduEventWriteHandler [FloatOps] : EventWriteHandler HeaderWriter where
  Writer type := EventWriter type.Meas
  start := ASDUEventWriteHandler.start
  write := EventWriter.write
  finish := EventWriter.finish

end OpenDnp3.Outstation
