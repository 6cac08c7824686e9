import OpenDnp3.App.HeaderWriter
import OpenDnp3.App.Parsing.Headers
import OpenDnp3.Library.ArrayView
import OpenDnp3.Outstation.Database.Cell

/-!
# Static writers

Each variation has a function that writes the selected points at the front of a
range under one header, as long as their indices and variations go on.
-/

set_option autoImplicit false

namespace OpenDnp3.Outstation

open OpenDnp3.App OpenDnp3.Library

/-- The points of a type, and the range of them that is still to be written. -/
structure RangeView (type : StaticType) where
  view : ArrayView (Cell type)
  range : Range

namespace RangeView

variable {type : StaticType}

/-- The first point of the range. -/
def front? (points : RangeView type) : Option (Cell type) :=
  if points.range.isValid then points.view.get? points.range.start.toNat else none

/-- Just skip over a value. -/
def skip (points : RangeView type) : RangeView type :=
  { points with range := points.range.advance }

/-- Deselect the value and advance the range. -/
def take (points : RangeView type) : RangeView type :=
  ⟨points.view.modify points.range.start.toNat Cell.deselect, points.range.advance⟩

/-- The virtual indices from the first point of the range to the last. -/
def mapped (points : RangeView type) : Range :=
  let index (position : UInt16) : UInt16 :=
    ((points.view.get? position.toNat).map Cell.vIndex).getD 0
  ⟨index points.range.start, index points.range.stop⟩

end RangeView

/-- What a write function leaves. -/
structure StaticLoad (type : StaticType) where
  spaceRemaining : Bool
  writer : HeaderWriter
  points : RangeView type

/-! ## Runs of points under one header -/

/-- What a run of writes leaves. -/
structure StaticRun (type : StaticType) (Iterator : Type) where
  spaceRemaining : Bool
  numWritten : Nat
  iterator : Iterator
  position : Cursor
  points : RangeView type

section runs

variable {type : StaticType} {Iterator : Type}

/-- Write values as long as they are selected, go on and have consecutive indices. Every write
advances the range, so the number of points in it is fuel enough. -/
def writeRun (write : Iterator → Cursor → type.Meas → Option (Iterator × Cursor))
    (goesOn : Cell type → Bool) :
    Nat → UInt16 → Iterator → Cursor → RangeView type → StaticRun type Iterator
  | 0, _, iterator, position, points => ⟨true, 0, iterator, position, points⟩
  | fuel + 1, nextIndex, iterator, position, points =>
      match points.front? with
      | none => ⟨true, 0, iterator, position, points⟩
      | some cell =>
          if cell.selection.selected && goesOn cell && cell.vIndex == nextIndex then
            match write iterator position cell.selection.value with
            | none => ⟨false, 0, iterator, position, points⟩
            | some (iterator, position) =>
                let run := writeRun write goesOn fuel (nextIndex + 1) iterator position points.take
                { run with numWritten := run.numWritten + 1 }
          else
            ⟨true, 0, iterator, position, points⟩

def loadWithRangeIterator (start : Cell type) (iterator : RangeWriteIterator type.Meas)
    (position : Cursor) (points : RangeView type) :
    StaticRun type (RangeWriteIterator type.Meas) :=
  writeRun RangeWriteIterator.write
    (fun cell => cell.selection.variation == start.selection.variation)
    points.range.count start.vIndex iterator position points

/-- The bit that is written is the value of the point without its flags. -/
def loadWithBitfieldIterator (start : Cell .binary) (iterator : BitfieldRangeWriteIterator)
    (position : Cursor) (points : RangeView .binary) :
    StaticRun .binary BitfieldRangeWriteIterator :=
  writeRun (fun iterator position meas => iterator.write position meas.value)
    (fun cell => cell.selection.variation == start.selection.variation)
    points.range.count start.vIndex iterator position points

def writeSomeOctetString (start : Cell .octetString)
    (iterator : RangeWriteIterator OctetString) (position : Cursor)
    (points : RangeView .octetString) (size : UInt8) :
    StaticRun .octetString (RangeWriteIterator OctetString) :=
  writeRun RangeWriteIterator.write
    (fun cell => cell.selection.value.size == size.toNat &&
      cell.selection.variation == start.selection.variation)
    points.range.count start.vIndex iterator position points

end runs

/-! ## Write functions -/

/-- The type that the indices of a range are written in. -/
def rangeType (mapped : Range) : IndexType := if mapped.isOneByte then .uint8 else .uint16

def writeSingleBitfield (id : GroupVariationID) (start : Cell .binary) (writer : HeaderWriter)
    (points : RangeView .binary) : StaticLoad .binary :=
  let type := rangeType points.mapped
  let (iterator, writer) :=
    writer.iterateOverSingleBitfield type id type.startStop points.mapped.start.toNat
  let run := loadWithBitfieldIterator start iterator writer.position points
  ⟨run.spaceRemaining, { writer with position := run.iterator.finish run.position }, run.points⟩

def writeWithSerializer {type : StaticType} (serializer : DNP3Serializer type.Meas)
    (start : Cell type) (writer : HeaderWriter) (points : RangeView type) : StaticLoad type :=
  let indexType := rangeType points.mapped
  let (iterator, writer) :=
    writer.iterateOverRange indexType indexType.startStop serializer points.mapped.start.toNat
  let run := loadWithRangeIterator start iterator writer.position points
  ⟨run.spaceRemaining, { writer with position := run.iterator.finish run.position }, run.points⟩

/-- A write that fails counts as if nothing was written. When the indices are out of order there
is space remaining, and nothing is written. -/
def writeOctetStrings (start : Cell .octetString) (writer : HeaderWriter)
    (points : RangeView .octetString) : StaticLoad .octetString :=
  if points.mapped.isValid then
    let size := UInt8.ofNat start.selection.value.size
    let indexType := rangeType points.mapped
    let (iterator, writer) := writer.iterateOverRange indexType indexType.startStop
      (octetStringSerializer false size) points.mapped.start.toNat
    let run := writeSomeOctetString start iterator writer.position points size
    ⟨run.spaceRemaining && run.numWritten != 0,
      { writer with position := run.iterator.finish run.position }, run.points⟩
  else
    ⟨true, writer, points⟩

/-- Writes the points at the front of a range, the first of which is given. -/
abbrev StaticWrite (type : StaticType) : Type :=
  Cell type → HeaderWriter → RangeView type → StaticLoad type

namespace StaticWriters

variable [FloatOps]

def getBinary : StaticBinaryVariation → StaticWrite .binary
  | .group1Var1 => writeSingleBitfield ⟨1, 1⟩
  | .group1Var2 => writeWithSerializer group1Var2.inst

def getDoubleBitBinary : StaticDoubleBinaryVariation → StaticWrite .doubleBitBinary
  | .group3Var2 => writeWithSerializer group3Var2.inst

def getAnalog : StaticAnalogVariation → StaticWrite .analog
  | .group30Var1 => writeWithSerializer group30Var1.inst
  | .group30Var2 => writeWithSerializer group30Var2.inst
  | .group30Var3 => writeWithSerializer group30Var3.inst
  | .group30Var4 => writeWithSerializer group30Var4.inst
  | .group30Var5 => writeWithSerializer group30Var5.inst
  | .group30Var6 => writeWithSerializer group30Var6.inst

def getCounter : StaticCounterVariation → StaticWrite .counter
  | .group20Var1 => writeWithSerializer group20Var1.inst
  | .group20Var2 => writeWithSerializer group20Var2.inst
  | .group20Var5 => writeWithSerializer group20Var5.inst
  | .group20Var6 => writeWithSerializer group20Var6.inst

def getFrozenCounter : StaticFrozenCounterVariation → StaticWrite .frozenCounter
  | .group21Var1 => writeWithSerializer group21Var1.inst
  | .group21Var2 => writeWithSerializer group21Var2.inst
  | .group21Var5 => writeWithSerializer group21Var5.inst
  | .group21Var6 => writeWithSerializer group21Var6.inst
  | .group21Var9 => writeWithSerializer group21Var9.inst
  | .group21Var10 => writeWithSerializer group21Var10.inst

def getBinaryOutputStatus : StaticBinaryOutputStatusVariation → StaticWrite .binaryOutputStatus
  | .group10Var2 => writeWithSerializer group10Var2.inst

def getAnalogOutputStatus : StaticAnalogOutputStatusVariation → StaticWrite .analogOutputStatus
  | .group40Var1 => writeWithSerializer group40Var1.inst
  | .group40Var2 => writeWithSerializer group40Var2.inst
  | .group40Var3 => writeWithSerializer group40Var3.inst
  | .group40Var4 => writeWithSerializer group40Var4.inst

def getTimeAndInterval : StaticTimeAndIntervalVariation → StaticWrite .timeAndInterval
  | .group50Var4 => writeWithSerializer group50Var4.inst

/-- The variation is always the same. -/
def getOctetString : StaticOctetStringVariation → StaticWrite .octetString
  | .group110Var0 => writeOctetStrings

/-- The function for a reporting variation. -/
def get : (type : StaticType) → type.Variation → StaticWrite type
  | .binary => getBinary
  | .doubleBitBinary => getDoubleBitBinary
  | .counter => getCounter
  | .frozenCounter => getFrozenCounter
  | .analog => getAnalog
  | .binaryOutputStatus => getBinaryOutputStatus
  | .analogOutputStatus => getAnalogOutputStatus
  | .timeAndInterval => getTimeAndInterval
  | .octetString => getOctetString

end StaticWriters

end OpenDnp3.Outstation
