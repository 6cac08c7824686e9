import OpenDnp3.App.Objects
import OpenDnp3.Library.Cursor

/-!
# Header writer

Object headers are written into a buffer of fixed size. The iterators write the
objects of one header; what a header says about their number is filled in when
the iterator is destroyed.
-/

set_option autoImplicit false

namespace OpenDnp3.App

open OpenDnp3.Library

/-- The integer types that ranges, counts and index prefixes are written in. -/
inductive IndexType where
  | uint8
  | uint16
deriving DecidableEq, Repr

namespace IndexType

def size : IndexType → Nat
  | .uint8 => 1
  | .uint16 => 2

def max : IndexType → Nat
  | .uint8 => 255
  | .uint16 => 65535

/-- The qualifier of a range of indices. -/
def startStop : IndexType → QualifierCode
  | .uint8 => .uint8StartStop
  | .uint16 => .uint16StartStop

/-- The qualifier of a count, with an index before each object. -/
def countIndex : IndexType → QualifierCode
  | .uint8 => .uint8CntUint8Index
  | .uint16 => .uint16CntUint16Index

/-- A value cast to the type. -/
def bytes (type : IndexType) (value : Nat) : List UInt8 := leBytes type.size value

@[simp] theorem length_bytes (type : IndexType) (value : Nat) :
    (type.bytes value).length = type.size :=
  length_leBytes type.size value

end IndexType

/-- A position in a buffer, and the offset to roll back to. -/
structure HeaderWriter where
  position : Cursor
  mark : Option Nat
deriving DecidableEq, Repr

namespace HeaderWriter

def remaining (writer : HeaderWriter) : Nat := writer.position.size

/-- Record the current position in case we need to roll back. -/
def setMark (writer : HeaderWriter) : HeaderWriter :=
  { writer with mark := some writer.position.written.length }

/-- Roll back to the last mark. -/
def rollback (writer : HeaderWriter) : HeaderWriter :=
  match writer.mark with
  | none => writer
  | some offset => ⟨writer.position.rewind offset, none⟩

def headerBytes (id : GroupVariationID) (code : QualifierCode) : List UInt8 :=
  [id.group, id.variation, code.toType]

def writeHeader (writer : HeaderWriter) (id : GroupVariationID) (code : QualifierCode) :
    Option HeaderWriter :=
  if writer.position.size < 3 then none
  else some { writer with position := writer.position.put (headerBytes id code) }

def writeHeaderWithReserve (writer : HeaderWriter) (id : GroupVariationID)
    (code : QualifierCode) (reserve : Nat) : Option HeaderWriter :=
  if writer.position.size < 3 + reserve then none else writer.writeHeader id code

/-- A header with a count of one, and its object. -/
def writeSingleValue {α : Type} (writer : HeaderWriter) (type : IndexType)
    (code : QualifierCode) (serializer : DNP3Serializer α) (value : α) : Option HeaderWriter :=
  (writer.writeHeaderWithReserve serializer.id code (type.size + serializer.size)).map
    fun writer =>
      { writer with
        position := (writer.position.put (type.bytes 1)).put (serializer.write value) }

end HeaderWriter

/-! ## Range iterator -/

/-- Writes the objects of a range; the offset is that of the range's stop. -/
structure RangeWriteIterator (α : Type) where
  type : IndexType
  start : Nat
  serializer : DNP3Serializer α
  count : Nat
  isValid : Bool
  stopOffset : Nat

namespace RangeWriteIterator

variable {α : Type}

/-- The constructor writes the start and leaves room for the stop. -/
def create (type : IndexType) (start : Nat) (serializer : DNP3Serializer α)
    (position : Cursor) : RangeWriteIterator α × Cursor :=
  if 2 * type.size ≤ position.size then
    (⟨type, start, serializer, 0, true, position.written.length + type.size⟩,
      (position.put (type.bytes start)).advance type.size)
  else
    (⟨type, start, serializer, 0, false, 0⟩, position)

def null (type : IndexType) (serializer : DNP3Serializer α) : RangeWriteIterator α :=
  ⟨type, 0, serializer, 0, false, 0⟩

def write (iterator : RangeWriteIterator α) (position : Cursor) (value : α) :
    Option (RangeWriteIterator α × Cursor) :=
  if iterator.isValid ∧ iterator.serializer.size ≤ position.size ∧
      iterator.count ≤ iterator.type.max then
    some ({ iterator with count := iterator.count + 1 },
      position.put (iterator.serializer.write value))
  else
    none

/-- The destructor fills in the stop. -/
def finish (iterator : RangeWriteIterator α) (position : Cursor) : Cursor :=
  if iterator.isValid ∧ 0 < iterator.count then
    position.patch iterator.stopOffset
      (iterator.type.bytes (iterator.start + iterator.count - 1))
  else
    position

end RangeWriteIterator

def HeaderWriter.iterateOverRange {α : Type} (writer : HeaderWriter) (type : IndexType)
    (code : QualifierCode) (serializer : DNP3Serializer α) (start : Nat) :
    RangeWriteIterator α × HeaderWriter :=
  match writer.writeHeaderWithReserve serializer.id code (2 * type.size + serializer.size) with
  | none => (.null type serializer, writer)
  | some writer =>
      let (iterator, position) :=
        RangeWriteIterator.create type start serializer writer.position
      (iterator, { writer with position })

/-! ## Bitfield iterator -/

/-- Writes bits behind the position; the position moves in the destructor only. The count has
the width of the index type, so it wraps. -/
structure BitfieldRangeWriteIterator where
  type : IndexType
  start : Nat
  count : Nat
  maxCount : Nat
  isValid : Bool
  stopOffset : Nat
deriving DecidableEq, Repr

namespace BitfieldRangeWriteIterator

def create (type : IndexType) (start : Nat) (position : Cursor) :
    BitfieldRangeWriteIterator × Cursor :=
  if 2 * type.size ≤ position.size then
    let moved := (position.put (type.bytes start)).advance type.size
    (⟨type, start, 0, moved.size * 8, true, position.written.length + type.size⟩, moved)
  else
    (⟨type, start, 0, 0, false, 0⟩, position)

def null (type : IndexType) : BitfieldRangeWriteIterator := ⟨type, 0, 0, 0, false, 0⟩

def write (iterator : BitfieldRangeWriteIterator) (position : Cursor) (value : Bool) :
    Option (BitfieldRangeWriteIterator × Cursor) :=
  if iterator.isValid ∧ iterator.count < iterator.maxCount then
    let byte := iterator.count / 8
    let bit := iterator.count % 8
    -- the first bit of a byte initializes it
    let position := if bit = 0 then position.poke byte 0 else position
    let position :=
      if value then
        position.poke byte (position.rest.getD byte 0 ||| UInt8.ofNat (1 <<< bit))
      else
        position
    some ({ iterator with count := (iterator.count + 1) % 256 ^ iterator.type.size }, position)
  else
    none

def numBytes (iterator : BitfieldRangeWriteIterator) : Nat :=
  if 0 < iterator.count % 8 then iterator.count / 8 + 1 else iterator.count / 8

/-- The destructor fills in the stop and moves behind the bits. -/
def finish (iterator : BitfieldRangeWriteIterator) (position : Cursor) : Cursor :=
  if iterator.isValid ∧ 0 < iterator.count then
    (position.patch iterator.stopOffset
      (iterator.type.bytes (iterator.start + iterator.count - 1))).advance iterator.numBytes
  else
    position

end BitfieldRangeWriteIterator

def HeaderWriter.iterateOverSingleBitfield (writer : HeaderWriter) (type : IndexType)
    (id : GroupVariationID) (code : QualifierCode) (start : Nat) :
    BitfieldRangeWriteIterator × HeaderWriter :=
  -- need at least 1 byte
  match writer.writeHeaderWithReserve id code (2 * type.size + 1) with
  | none => (.null type, writer)
  | some writer =>
      let (iterator, position) :=
        BitfieldRangeWriteIterator.create type start writer.position
      (iterator, { writer with position })

/-! ## Prefixed iterator -/

/-- Writes objects with an index prefix each; the offset is that of the count. -/
structure PrefixedWriteIterator (α : Type) where
  type : IndexType
  serializer : DNP3Serializer α
  sizeOfTypePlusIndex : Nat
  count : Nat
  isValid : Bool
  countOffset : Nat

namespace PrefixedWriteIterator

variable {α : Type}

def create (type : IndexType) (serializer : DNP3Serializer α) (position : Cursor) :
    PrefixedWriteIterator α × Cursor :=
  if type.size ≤ position.size then
    (⟨type, serializer, serializer.size + type.size, 0, true, position.written.length⟩,
      position.advance type.size)
  else
    (⟨type, serializer, serializer.size + type.size, 0, false, 0⟩, position)

def null (type : IndexType) (serializer : DNP3Serializer α) : PrefixedWriteIterator α :=
  ⟨type, serializer, 0, 0, false, 0⟩

def write (iterator : PrefixedWriteIterator α) (position : Cursor) (value : α)
    (index : UInt16) : Option (PrefixedWriteIterator α × Cursor) :=
  if iterator.isValid ∧ iterator.sizeOfTypePlusIndex ≤ position.size then
    some ({ iterator with count := (iterator.count + 1) % 256 ^ iterator.type.size },
      (position.put (iterator.type.bytes index.toNat)).put (iterator.serializer.write value))
  else
    none

/-- The destructor fills in the count. -/
def finish (iterator : PrefixedWriteIterator α) (position : Cursor) : Cursor :=
  if iterator.isValid then
    position.patch iterator.countOffset (iterator.type.bytes iterator.count)
  else
    position

end PrefixedWriteIterator

namespace HeaderWriter

variable {α β : Type}

/-- Enough space for the count, one prefix and one object. -/
def iterateOverCountWithPrefix (writer : HeaderWriter) (type : IndexType)
    (code : QualifierCode) (serializer : DNP3Serializer α) :
    PrefixedWriteIterator α × HeaderWriter :=
  match writer.writeHeaderWithReserve serializer.id code (2 * type.size + serializer.size) with
  | none => (.null type serializer, writer)
  | some writer =>
      let (iterator, position) := PrefixedWriteIterator.create type serializer writer.position
      (iterator, { writer with position })

/-- The same behind a header with a common time of occurrence, which is removed again when
there is no space to write a value. -/
def iterateOverCountWithPrefixAndCTO (writer : HeaderWriter) (type : IndexType)
    (code : QualifierCode) (serializer : DNP3Serializer α) (ctoSerializer : DNP3Serializer β)
    (cto : β) : PrefixedWriteIterator α × HeaderWriter :=
  match writer.setMark.writeSingleValue .uint8 .uint8Cnt ctoSerializer cto with
  | none => (.null type serializer, writer.setMark)
  | some writer =>
      let (iterator, writer) := writer.iterateOverCountWithPrefix type code serializer
      if iterator.isValid then (iterator, writer) else (iterator, writer.rollback)

end HeaderWriter

end OpenDnp3.App
