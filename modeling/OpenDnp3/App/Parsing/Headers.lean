import OpenDnp3.App.Objects

/-!
# Object headers

What an APDU parser hands to its handler, and which objects each kind of header
may carry.
-/

set_option autoImplicit false

namespace OpenDnp3.App

open OpenDnp3.Library

/-- A range of indices, both ends included. -/
structure Range where
  start : UInt16
  stop : UInt16
deriving DecidableEq, Repr

namespace Range

def invalid : Range := ⟨1, 0⟩

def isValid (range : Range) : Bool := range.start ≤ range.stop

def count (range : Range) : Nat :=
  if range.isValid then range.stop.toNat - range.start.toNat + 1 else 0

/-- Drop the first index; the range of one index becomes invalid. -/
def advance (range : Range) : Range :=
  if range.isValid then
    if range.start < range.stop then ⟨range.start + 1, range.stop⟩ else invalid
  else
    range

/-- The values found in both ranges. -/
def intersection (range other : Range) : Range :=
  ⟨max range.start other.start, min range.stop other.stop⟩

/-- The least start and the greatest stop of both ranges. -/
def union (range other : Range) : Range :=
  ⟨min range.start other.start, max range.stop other.stop⟩

def isOneByte (range : Range) : Bool :=
  range.isValid && range.start ≤ 255 && range.stop ≤ 255

end Range

/-- Why a parse stops. -/
inductive ParseError where
  | notEnoughDataForHeader
  | notEnoughDataForRange
  | notEnoughDataForObjects
  | countOfZero
  | badStartStop
  | unreasonableObjectCount
  | unknownObject
  | unknownQualifier
  | invalidObjectQualifier
  | invalidObject
  | notOnWhitelist
deriving DecidableEq, Repr, Inhabited

/-- A free-format object: its fixed part, its fields with a length prefix, and the rest. -/
structure FreeFormatObject where
  fixed : List UInt8
  fields : List (List UInt8)
  remainder : List UInt8
deriving DecidableEq, Repr

/-- An object header with what it carries. -/
inductive Header where
  | allObjects (record : HeaderRecord)
  | range (record : HeaderRecord) (range : Range)
  | count (record : HeaderRecord) (count : UInt16)
  | rangeOf (record : HeaderRecord) (range : Range) (type : ObjectType)
      (values : List (Indexed type.Value))
  | countOf (record : HeaderRecord) (count : UInt16) (type : ObjectType)
      (values : List type.Value)
  | prefixOf (record : HeaderRecord) (count : UInt16) (type : ObjectType)
      (values : List (Indexed type.Value))
  | freeFormat (record : HeaderRecord) (object : FreeFormatObject)
deriving DecidableEq

def Header.record : Header → HeaderRecord
  | .allObjects record | .range record _ | .count record _ | .rangeOf record _ _ _
  | .countOf record _ _ _ | .prefixOf record _ _ _ | .freeFormat record _ => record

/-- An object of a fixed size of one of the types that headers carry. -/
structure FixedSize where
  type : ObjectType
  codec : Codec type.Value

/-- The objects that a header with a range carries. -/
inductive RangeObjects where
  | fixedSize (object : FixedSize)
  | bitfield (type : ObjectType) (ofBit : Bool → type.Value)
  | doubleBitfield (type : ObjectType) (ofBits : DoubleBit → type.Value)
  | octetData

/-- The objects that a header with a count and index prefixes carries. -/
inductive PrefixObjects where
  | fixedSize (object : FixedSize)
  | octetData

/-- The shape of a free-format object. -/
structure FreeFormat where
  fixedSize : Nat
  numFields : Nat
  hasRemainder : Bool

namespace GroupVariation

def countObjects : GroupVariation → Option FixedSize
  | .group50Var1 => some ⟨.group50Var1, App.group50Var1.codec⟩
  | .group50Var3 => some ⟨.group50Var3, App.group50Var3.codec⟩
  | .group51Var1 => some ⟨.group51Var1, App.group51Var1.codec⟩
  | .group51Var2 => some ⟨.group51Var2, App.group51Var2.codec⟩
  | .group52Var1 => some ⟨.group52Var1, App.group52Var1.codec⟩
  | .group52Var2 => some ⟨.group52Var2, App.group52Var2.codec⟩
  | .group120Var3 => some ⟨.group120Var3, App.group120Var3.codec⟩
  | .group120Var4 => some ⟨.group120Var4, App.group120Var4.codec⟩
  | _ => none

def freeFormat : GroupVariation → Option FreeFormat
  | .group120Var1 => some ⟨8, 0, true⟩
  | .group120Var2 => some ⟨6, 0, true⟩
  | .group120Var5 => some ⟨9, 1, true⟩
  | .group120Var6 => some ⟨6, 0, true⟩
  | .group120Var7 => some ⟨15, 0, true⟩
  | .group120Var8 => some ⟨2, 0, true⟩
  | .group120Var9 => some ⟨0, 0, true⟩
  | .group120Var10 => some ⟨10, 3, false⟩
  | .group120Var11 => some ⟨1, 2, false⟩
  | .group120Var12 => some ⟨6, 1, false⟩
  | .group120Var13 => some ⟨6, 1, false⟩
  | .group120Var14 => some ⟨0, 0, true⟩
  | .group120Var15 => some ⟨0, 0, true⟩
  | _ => none

variable [FloatOps]

def rangeObjects : GroupVariation → Option RangeObjects
  | .group1Var1 => some (.bitfield .binary BinaryFactory.ofBool)
  | .group1Var2 => some (.fixedSize ⟨.binary, App.group1Var2.codec⟩)
  | .group3Var1 => some (.doubleBitfield .doubleBitBinary DoubleBitBinaryFactory.ofDoubleBit)
  | .group10Var1 => some (.bitfield .binaryOutputStatus BinaryFactory.ofBool)
  | .group3Var2 => some (.fixedSize ⟨.doubleBitBinary, App.group3Var2.codec⟩)
  | .group10Var2 => some (.fixedSize ⟨.binaryOutputStatus, App.group10Var2.codec⟩)
  | .group20Var1 => some (.fixedSize ⟨.counter, App.group20Var1.codec⟩)
  | .group20Var2 => some (.fixedSize ⟨.counter, App.group20Var2.codec⟩)
  | .group20Var5 => some (.fixedSize ⟨.counter, App.group20Var5.codec⟩)
  | .group20Var6 => some (.fixedSize ⟨.counter, App.group20Var6.codec⟩)
  | .group21Var1 => some (.fixedSize ⟨.frozenCounter, App.group21Var1.codec⟩)
  | .group21Var2 => some (.fixedSize ⟨.frozenCounter, App.group21Var2.codec⟩)
  | .group21Var5 => some (.fixedSize ⟨.frozenCounter, App.group21Var5.codec⟩)
  | .group21Var6 => some (.fixedSize ⟨.frozenCounter, App.group21Var6.codec⟩)
  | .group21Var9 => some (.fixedSize ⟨.frozenCounter, App.group21Var9.codec⟩)
  | .group21Var10 => some (.fixedSize ⟨.frozenCounter, App.group21Var10.codec⟩)
  | .group30Var1 => some (.fixedSize ⟨.analog, App.group30Var1.codec⟩)
  | .group30Var2 => some (.fixedSize ⟨.analog, App.group30Var2.codec⟩)
  | .group30Var3 => some (.fixedSize ⟨.analog, App.group30Var3.codec⟩)
  | .group30Var4 => some (.fixedSize ⟨.analog, App.group30Var4.codec⟩)
  | .group30Var5 => some (.fixedSize ⟨.analog, App.group30Var5.codec⟩)
  | .group30Var6 => some (.fixedSize ⟨.analog, App.group30Var6.codec⟩)
  | .group40Var1 => some (.fixedSize ⟨.analogOutputStatus, App.group40Var1.codec⟩)
  | .group40Var2 => some (.fixedSize ⟨.analogOutputStatus, App.group40Var2.codec⟩)
  | .group40Var3 => some (.fixedSize ⟨.analogOutputStatus, App.group40Var3.codec⟩)
  | .group40Var4 => some (.fixedSize ⟨.analogOutputStatus, App.group40Var4.codec⟩)
  | .group50Var4 => some (.fixedSize ⟨.timeAndInterval, App.group50Var4.codec⟩)
  | .group80Var1 => some (.bitfield .iinValue id)
  | .group110Var0 => some .octetData
  | .group121Var1 => some (.fixedSize ⟨.group121Var1, App.group121Var1.codec⟩)
  | _ => none

def prefixObjects : GroupVariation → Option PrefixObjects
  | .group2Var1 => some (.fixedSize ⟨.binary, App.group2Var1.codec⟩)
  | .group2Var2 => some (.fixedSize ⟨.binary, App.group2Var2.codec⟩)
  | .group2Var3 => some (.fixedSize ⟨.binary, App.group2Var3.codec⟩)
  | .group4Var1 => some (.fixedSize ⟨.doubleBitBinary, App.group4Var1.codec⟩)
  | .group4Var2 => some (.fixedSize ⟨.doubleBitBinary, App.group4Var2.codec⟩)
  | .group4Var3 => some (.fixedSize ⟨.doubleBitBinary, App.group4Var3.codec⟩)
  | .group11Var1 => some (.fixedSize ⟨.binaryOutputStatus, App.group11Var1.codec⟩)
  | .group11Var2 => some (.fixedSize ⟨.binaryOutputStatus, App.group11Var2.codec⟩)
  | .group12Var1 => some (.fixedSize ⟨.controlRelayOutputBlock, App.group12Var1.codec⟩)
  | .group13Var1 => some (.fixedSize ⟨.binaryCommandEvent, App.group13Var1.codec⟩)
  | .group13Var2 => some (.fixedSize ⟨.binaryCommandEvent, App.group13Var2.codec⟩)
  | .group22Var1 => some (.fixedSize ⟨.counter, App.group22Var1.codec⟩)
  | .group22Var2 => some (.fixedSize ⟨.counter, App.group22Var2.codec⟩)
  | .group22Var5 => some (.fixedSize ⟨.counter, App.group22Var5.codec⟩)
  | .group22Var6 => some (.fixedSize ⟨.counter, App.group22Var6.codec⟩)
  | .group23Var1 => some (.fixedSize ⟨.frozenCounter, App.group23Var1.codec⟩)
  | .group23Var2 => some (.fixedSize ⟨.frozenCounter, App.group23Var2.codec⟩)
  | .group23Var5 => some (.fixedSize ⟨.frozenCounter, App.group23Var5.codec⟩)
  | .group23Var6 => some (.fixedSize ⟨.frozenCounter, App.group23Var6.codec⟩)
  | .group32Var1 => some (.fixedSize ⟨.analog, App.group32Var1.codec⟩)
  | .group32Var2 => some (.fixedSize ⟨.analog, App.group32Var2.codec⟩)
  | .group32Var3 => some (.fixedSize ⟨.analog, App.group32Var3.codec⟩)
  | .group32Var4 => some (.fixedSize ⟨.analog, App.group32Var4.codec⟩)
  | .group32Var5 => some (.fixedSize ⟨.analog, App.group32Var5.codec⟩)
  | .group32Var6 => some (.fixedSize ⟨.analog, App.group32Var6.codec⟩)
  | .group32Var7 => some (.fixedSize ⟨.analog, App.group32Var7.codec⟩)
  | .group32Var8 => some (.fixedSize ⟨.analog, App.group32Var8.codec⟩)
  | .group41Var1 => some (.fixedSize ⟨.analogOutputInt32, App.group41Var1.codec⟩)
  | .group41Var2 => some (.fixedSize ⟨.analogOutputInt16, App.group41Var2.codec⟩)
  | .group41Var3 => some (.fixedSize ⟨.analogOutputFloat32, App.group41Var3.codec⟩)
  | .group41Var4 => some (.fixedSize ⟨.analogOutputDouble64, App.group41Var4.codec⟩)
  | .group42Var1 => some (.fixedSize ⟨.analogOutputStatus, App.group42Var1.codec⟩)
  | .group42Var2 => some (.fixedSize ⟨.analogOutputStatus, App.group42Var2.codec⟩)
  | .group42Var3 => some (.fixedSize ⟨.analogOutputStatus, App.group42Var3.codec⟩)
  | .group42Var4 => some (.fixedSize ⟨.analogOutputStatus, App.group42Var4.codec⟩)
  | .group42Var5 => some (.fixedSize ⟨.analogOutputStatus, App.group42Var5.codec⟩)
  | .group42Var6 => some (.fixedSize ⟨.analogOutputStatus, App.group42Var6.codec⟩)
  | .group42Var7 => some (.fixedSize ⟨.analogOutputStatus, App.group42Var7.codec⟩)
  | .group42Var8 => some (.fixedSize ⟨.analogOutputStatus, App.group42Var8.codec⟩)
  | .group43Var1 => some (.fixedSize ⟨.analogCommandEvent, App.group43Var1.codec⟩)
  | .group43Var2 => some (.fixedSize ⟨.analogCommandEvent, App.group43Var2.codec⟩)
  | .group43Var3 => some (.fixedSize ⟨.analogCommandEvent, App.group43Var3.codec⟩)
  | .group43Var4 => some (.fixedSize ⟨.analogCommandEvent, App.group43Var4.codec⟩)
  | .group43Var5 => some (.fixedSize ⟨.analogCommandEvent, App.group43Var5.codec⟩)
  | .group43Var6 => some (.fixedSize ⟨.analogCommandEvent, App.group43Var6.codec⟩)
  | .group43Var7 => some (.fixedSize ⟨.analogCommandEvent, App.group43Var7.codec⟩)
  | .group43Var8 => some (.fixedSize ⟨.analogCommandEvent, App.group43Var8.codec⟩)
  | .group50Var4 => some (.fixedSize ⟨.timeAndInterval, App.group50Var4.codec⟩)
  | .group111Var0 => some .octetData
  | .group122Var1 => some (.fixedSize ⟨.group122Var1, App.group122Var1.codec⟩)
  | .group122Var2 => some (.fixedSize ⟨.group122Var2, App.group122Var2.codec⟩)
  | _ => none

end GroupVariation

end OpenDnp3.App
