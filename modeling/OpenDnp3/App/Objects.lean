import OpenDnp3.App.GroupVariation
import OpenDnp3.App.Measurements
import OpenDnp3.Library.Codec

/-!
# Objects

The wire format of each object: its fields in the order they are written, the
conversion that fills them from a value, and the factory that makes a value from
them again.
-/

set_option autoImplicit false

namespace OpenDnp3.App

open OpenDnp3.Library

/-- Floating point conversions. Nothing is assumed of them. -/
class FloatOps where
  /-- Down sampling: whether the value is out of range, and the nearest one in range. -/
  downSampleInt32 : Double → Bool × Int32
  downSampleInt16 : Double → Bool × Int16
  downSampleSingle : Double → Bool × Single
  ofInt32 : Int32 → Double
  ofInt16 : Int16 → Double
  ofSingle : Single → Double
  /-- Whether two values differ by more than a deadband. -/
  exceedsDeadband : Double → Double → Double → Bool

/-- Conversions as they are for the value zero. -/
@[reducible] def FloatOps.atZero : FloatOps where
  downSampleInt32 _ := (false, 0)
  downSampleInt16 _ := (false, 0)
  downSampleSingle _ := (false, ⟨0⟩)
  ofInt32 _ := ⟨0⟩
  ofInt16 _ := ⟨0⟩
  ofSingle _ := ⟨0⟩
  exceedsDeadband _ _ _ := false

/-- How values of a type are serialized under an object id. -/
structure DNP3Serializer (α : Type) where
  id : GroupVariationID
  size : Nat
  write : α → List UInt8

/-- An object of a fixed size, that is written and read. -/
structure Descriptor (α : Type) where
  id : GroupVariationID
  codec : Codec α

def Descriptor.inst {α : Type} (descriptor : Descriptor α) : DNP3Serializer α :=
  ⟨descriptor.id, descriptor.codec.size, descriptor.codec.write⟩

/-! ## Fields -/

namespace Codec

def single : Codec Single := Codec.u32.map Single.bits Single.mk

def double : Codec Double := Codec.u64.map Double.bits Double.mk

@[simp] theorem kept_single (value : Single) : single.kept value = value := by
  change Single.mk (Codec.u32.kept value.bits) = value
  rw [Codec.kept_u32]

@[simp] theorem kept_double (value : Double) : double.kept value = value := by
  change Double.mk (Codec.u64.kept value.bits) = value
  rw [Codec.kept_u64]

end Codec

/-! ## Conversions of a measurement to the fields of an object -/

section conversions

variable {Value Target : Type}

def convertQ (source : TypedMeasurement Value) : UInt8 := source.flags

def convertQT (source : TypedMeasurement Value) : UInt8 × DNPTime := (source.flags, source.time)

/-- The time is cut to its low 16 bits. -/
def convertQTDowncast (source : TypedMeasurement Value) : UInt8 × UInt16 :=
  (source.flags, UInt16.ofNat (source.time % 2 ^ 16).toNat)

def convertV (cast : Value → Target) (source : TypedMeasurement Value) : Target :=
  cast source.value

def convertQV (cast : Value → Target) (source : TypedMeasurement Value) : UInt8 × Target :=
  (source.flags, cast source.value)

def convertQVT (cast : Value → Target) (source : TypedMeasurement Value) :
    UInt8 × Target × DNPTime :=
  (source.flags, cast source.value, source.time)

/-- The flag that reports a value out of range. -/
def overrange : UInt8 := 0x20

def convertVRangeCheck (downSample : Value → Bool × Target)
    (source : TypedMeasurement Value) : Target :=
  (downSample source.value).2

def convertQVRangeCheck (downSample : Value → Bool × Target)
    (source : TypedMeasurement Value) : UInt8 × Target :=
  ((if (downSample source.value).1 then overrange else 0) ||| source.flags,
    (downSample source.value).2)

def convertQVTRangeCheck (downSample : Value → Bool × Target)
    (source : TypedMeasurement Value) : UInt8 × Target × DNPTime :=
  ((if (downSample source.value).1 then overrange else 0) ||| source.flags,
    (downSample source.value).2, source.time)

end conversions

/-! ## Factories -/

/-- The quality bit that a value without flags is read with. -/
def online : UInt8 := 0x01

namespace BinaryFactory

/-- The value is the state bit of the flags. -/
def getBinaryValue (flags : UInt8) : Bool := flags &&& 0x80 != 0

def ofFlags (flags : UInt8) : TypedMeasurement Bool := ⟨getBinaryValue flags, flags, 0⟩

def ofFlagsAndTime (fields : UInt8 × DNPTime) : TypedMeasurement Bool :=
  ⟨getBinaryValue fields.1, fields.1, fields.2⟩

def ofFlagsAndTime16 (fields : UInt8 × UInt16) : TypedMeasurement Bool :=
  ofFlagsAndTime (fields.1, fields.2.toNat)

/-- The flags of a value without quality: online, with the state bit. -/
def ofBool (value : Bool) : TypedMeasurement Bool :=
  ⟨value, if value then online ||| 0x80 else online &&& 0x7F, 0⟩

end BinaryFactory

namespace DoubleBitBinaryFactory

/-- The value is the top two bits of the flags. -/
def getValue (flags : UInt8) : DoubleBit := .fromType (flags >>> 6)

def ofFlags (flags : UInt8) : DoubleBitBinary := ⟨getValue flags, flags, 0⟩

def ofFlagsAndTime (fields : UInt8 × DNPTime) : DoubleBitBinary :=
  ⟨getValue fields.1, fields.1, fields.2⟩

def ofFlagsAndTime16 (fields : UInt8 × UInt16) : DoubleBitBinary :=
  ofFlagsAndTime (fields.1, fields.2.toNat)

def ofDoubleBit (value : DoubleBit) : DoubleBitBinary :=
  ⟨value, ((0x3F : UInt8) &&& online) ||| (value.toType <<< 6), 0⟩

end DoubleBitBinaryFactory

namespace TypedFactory

variable {Value Target : Type}

-- the value of an analog or a counter is a field of its own

def ofValue (cast : Target → Value) (value : Target) : TypedMeasurement Value :=
  ⟨cast value, online, 0⟩

def ofFlagsAndValue (cast : Target → Value) (fields : UInt8 × Target) :
    TypedMeasurement Value :=
  ⟨cast fields.2, fields.1, 0⟩

def ofFlagsValueAndTime (cast : Target → Value) (fields : UInt8 × Target × DNPTime) :
    TypedMeasurement Value :=
  ⟨cast fields.2.1, fields.1, fields.2.2⟩

end TypedFactory

/-! ## Families of objects -/

section families

variable {Value Target : Type}

def objectQ (id : GroupVariationID) (factory : UInt8 → TypedMeasurement Value) :
    Descriptor (TypedMeasurement Value) :=
  ⟨id, Codec.u8.map convertQ factory⟩

def objectQT (id : GroupVariationID) (factory : UInt8 × DNPTime → TypedMeasurement Value) :
    Descriptor (TypedMeasurement Value) :=
  ⟨id, (Codec.u8.both Codec.u48).map convertQT factory⟩

def objectQT16 (id : GroupVariationID) (factory : UInt8 × UInt16 → TypedMeasurement Value) :
    Descriptor (TypedMeasurement Value) :=
  ⟨id, (Codec.u8.both Codec.u16).map convertQTDowncast factory⟩

def objectV (id : GroupVariationID) (codec : Codec Target) (encode : Value → Target)
    (decode : Target → Value) : Descriptor (TypedMeasurement Value) :=
  ⟨id, codec.map (convertV encode) (TypedFactory.ofValue decode)⟩

def objectQV (id : GroupVariationID) (codec : Codec Target) (encode : Value → Target)
    (decode : Target → Value) : Descriptor (TypedMeasurement Value) :=
  ⟨id, (Codec.u8.both codec).map (convertQV encode) (TypedFactory.ofFlagsAndValue decode)⟩

def objectQVT (id : GroupVariationID) (codec : Codec Target) (encode : Value → Target)
    (decode : Target → Value) : Descriptor (TypedMeasurement Value) :=
  ⟨id, (Codec.u8.both (codec.both Codec.u48)).map (convertQVT encode)
    (TypedFactory.ofFlagsValueAndTime decode)⟩

def objectVRangeCheck (id : GroupVariationID) (codec : Codec Target)
    (downSample : Value → Bool × Target) (decode : Target → Value) :
    Descriptor (TypedMeasurement Value) :=
  ⟨id, codec.map (convertVRangeCheck downSample) (TypedFactory.ofValue decode)⟩

def objectQVRangeCheck (id : GroupVariationID) (codec : Codec Target)
    (downSample : Value → Bool × Target) (decode : Target → Value) :
    Descriptor (TypedMeasurement Value) :=
  ⟨id, (Codec.u8.both codec).map (convertQVRangeCheck downSample)
    (TypedFactory.ofFlagsAndValue decode)⟩

def objectQVTRangeCheck (id : GroupVariationID) (codec : Codec Target)
    (downSample : Value → Bool × Target) (decode : Target → Value) :
    Descriptor (TypedMeasurement Value) :=
  ⟨id, (Codec.u8.both (codec.both Codec.u48)).map (convertQVTRangeCheck downSample)
    (TypedFactory.ofFlagsValueAndTime decode)⟩

end families

/-! ## What is left of a value -/

section kept

variable {Value Target : Type} (id : GroupVariationID) (codec : Codec Target)

@[simp] theorem kept_objectQ (factory : UInt8 → TypedMeasurement Value)
    (meas : TypedMeasurement Value) :
    (objectQ id factory).codec.kept meas = factory meas.flags :=
  congrArg factory (Codec.kept_u8 meas.flags)

theorem kept_objectQT (factory : UInt8 × DNPTime → TypedMeasurement Value)
    {meas : TypedMeasurement Value} (nonneg : 0 ≤ meas.time) (below : meas.time < 2 ^ 48) :
    (objectQT id factory).codec.kept meas = factory (meas.flags, meas.time) := by
  change factory (Codec.u8.kept meas.flags, Codec.u48.kept meas.time) = _
  rw [Codec.kept_u8, Codec.kept_u48 nonneg below]

/-- A time of 16 bits is kept. -/
theorem kept_objectQT16 (factory : UInt8 × UInt16 → TypedMeasurement Value)
    {meas : TypedMeasurement Value} (nonneg : 0 ≤ meas.time) (below : meas.time ≤ 65535) :
    (objectQT16 id factory).codec.kept meas =
      factory (meas.flags, UInt16.ofNat meas.time.toNat) := by
  have small : meas.time < 2 ^ 16 := Int.lt_of_le_of_lt below (by decide)
  change factory (Codec.u8.kept meas.flags, Codec.u16.kept _) = _
  rw [Codec.kept_u8, Codec.kept_u16, convertQTDowncast, Int.emod_eq_of_lt nonneg small]

@[simp] theorem kept_objectV (encode : Value → Target) (decode : Target → Value)
    (meas : TypedMeasurement Value) :
    (objectV id codec encode decode).codec.kept meas =
      ⟨decode (codec.kept (encode meas.value)), online, 0⟩ := rfl

@[simp] theorem kept_objectQV (encode : Value → Target) (decode : Target → Value)
    (meas : TypedMeasurement Value) :
    (objectQV id codec encode decode).codec.kept meas =
      ⟨decode (codec.kept (encode meas.value)), meas.flags, 0⟩ := by
  change TypedMeasurement.mk _ (Codec.u8.kept meas.flags) 0 = _
  rw [Codec.kept_u8]
  rfl

theorem kept_objectQVT (encode : Value → Target) (decode : Target → Value)
    {meas : TypedMeasurement Value} (nonneg : 0 ≤ meas.time) (below : meas.time < 2 ^ 48) :
    (objectQVT id codec encode decode).codec.kept meas =
      ⟨decode (codec.kept (encode meas.value)), meas.flags, meas.time⟩ := by
  change TypedMeasurement.mk _ (Codec.u8.kept meas.flags) (Codec.u48.kept meas.time) = _
  rw [Codec.kept_u8, Codec.kept_u48 nonneg below]
  rfl

/-- The value in range and the flags that say whether it was. -/
def rangeChecked (downSample : Value → Bool × Target) (decode : Target → Value)
    (meas : TypedMeasurement Value) (time : DNPTime) : TypedMeasurement Value :=
  ⟨decode (downSample meas.value).2,
    (if (downSample meas.value).1 then overrange else 0) ||| meas.flags, time⟩

theorem kept_objectVRangeCheck (faithful : ∀ value, codec.kept value = value)
    (downSample : Value → Bool × Target) (decode : Target → Value)
    (meas : TypedMeasurement Value) :
    (objectVRangeCheck id codec downSample decode).codec.kept meas =
      ⟨decode (downSample meas.value).2, online, 0⟩ := by
  change TypedMeasurement.mk (decode (codec.kept _)) _ 0 = _
  rw [faithful]
  rfl

theorem kept_objectQVRangeCheck (faithful : ∀ value, codec.kept value = value)
    (downSample : Value → Bool × Target) (decode : Target → Value)
    (meas : TypedMeasurement Value) :
    (objectQVRangeCheck id codec downSample decode).codec.kept meas =
      rangeChecked downSample decode meas 0 := by
  change TypedMeasurement.mk (decode (codec.kept _)) (Codec.u8.kept _) 0 = _
  rw [faithful, Codec.kept_u8]
  rfl

theorem kept_objectQVTRangeCheck (faithful : ∀ value, codec.kept value = value)
    (downSample : Value → Bool × Target) (decode : Target → Value)
    {meas : TypedMeasurement Value} (nonneg : 0 ≤ meas.time) (below : meas.time < 2 ^ 48) :
    (objectQVTRangeCheck id codec downSample decode).codec.kept meas =
      rangeChecked downSample decode meas meas.time := by
  change TypedMeasurement.mk (decode (codec.kept _)) (Codec.u8.kept _)
    (Codec.u48.kept meas.time) = _
  rw [faithful, Codec.kept_u8, Codec.kept_u48 nonneg below]
  rfl

/-- A value that is written as it is. -/
theorem kept_objectQV_faithful (codec : Codec Value) (faithful : ∀ value, codec.kept value = value)
    (meas : TypedMeasurement Value) :
    (objectQV id codec (fun value => value) (fun value => value)).codec.kept meas =
      { meas with time := 0 } := by
  rw [kept_objectQV, faithful]

theorem kept_objectQVT_faithful (codec : Codec Value)
    (faithful : ∀ value, codec.kept value = value) {meas : TypedMeasurement Value}
    (nonneg : 0 ≤ meas.time) (below : meas.time < 2 ^ 48) :
    (objectQVT id codec (fun value => value) (fun value => value)).codec.kept meas = meas := by
  rw [kept_objectQVT _ _ _ _ nonneg below, faithful]

/-- The low 16 bits of a counter. -/
def lowHalf (value : UInt32) : UInt32 := value.toUInt16.toUInt32

theorem kept_objectQV_half (meas : TypedMeasurement UInt32) :
    (objectQV id Codec.u16 UInt32.toUInt16 UInt16.toUInt32).codec.kept meas =
      ⟨lowHalf meas.value, meas.flags, 0⟩ := by
  rw [kept_objectQV, Codec.kept_u16, lowHalf]

theorem kept_objectQVT_half {meas : TypedMeasurement UInt32} (nonneg : 0 ≤ meas.time)
    (below : meas.time < 2 ^ 48) :
    (objectQVT id Codec.u16 UInt32.toUInt16 UInt16.toUInt32).codec.kept meas =
      ⟨lowHalf meas.value, meas.flags, meas.time⟩ := by
  rw [kept_objectQVT _ _ _ _ nonneg below, Codec.kept_u16, lowHalf]

end kept

/-! ## Binaries -/

def group1Var2 : Descriptor Binary := objectQ ⟨1, 2⟩ BinaryFactory.ofFlags

def group2Var1 : Descriptor Binary := objectQ ⟨2, 1⟩ BinaryFactory.ofFlags

def group2Var2 : Descriptor Binary := objectQT ⟨2, 2⟩ BinaryFactory.ofFlagsAndTime

def group2Var3 : Descriptor Binary := objectQT16 ⟨2, 3⟩ BinaryFactory.ofFlagsAndTime16

def group3Var2 : Descriptor DoubleBitBinary := objectQ ⟨3, 2⟩ DoubleBitBinaryFactory.ofFlags

def group4Var1 : Descriptor DoubleBitBinary := objectQ ⟨4, 1⟩ DoubleBitBinaryFactory.ofFlags

def group4Var2 : Descriptor DoubleBitBinary :=
  objectQT ⟨4, 2⟩ DoubleBitBinaryFactory.ofFlagsAndTime

def group4Var3 : Descriptor DoubleBitBinary :=
  objectQT16 ⟨4, 3⟩ DoubleBitBinaryFactory.ofFlagsAndTime16

def group10Var2 : Descriptor BinaryOutputStatus := objectQ ⟨10, 2⟩ BinaryFactory.ofFlags

def group11Var1 : Descriptor BinaryOutputStatus := objectQ ⟨11, 1⟩ BinaryFactory.ofFlags

def group11Var2 : Descriptor BinaryOutputStatus := objectQT ⟨11, 2⟩ BinaryFactory.ofFlagsAndTime

/-! ## Counters -/

def group20Var1 : Descriptor Counter := objectQV ⟨20, 1⟩ Codec.u32 id id

def group20Var2 : Descriptor Counter := objectQV ⟨20, 2⟩ Codec.u16 UInt32.toUInt16 UInt16.toUInt32

def group20Var5 : Descriptor Counter := objectV ⟨20, 5⟩ Codec.u32 id id

def group20Var6 : Descriptor Counter := objectV ⟨20, 6⟩ Codec.u16 UInt32.toUInt16 UInt16.toUInt32

def group21Var1 : Descriptor FrozenCounter := objectQV ⟨21, 1⟩ Codec.u32 id id

def group21Var2 : Descriptor FrozenCounter :=
  objectQV ⟨21, 2⟩ Codec.u16 UInt32.toUInt16 UInt16.toUInt32

def group21Var5 : Descriptor FrozenCounter := objectQVT ⟨21, 5⟩ Codec.u32 id id

def group21Var6 : Descriptor FrozenCounter :=
  objectQVT ⟨21, 6⟩ Codec.u16 UInt32.toUInt16 UInt16.toUInt32

def group21Var9 : Descriptor FrozenCounter := objectV ⟨21, 9⟩ Codec.u32 id id

def group21Var10 : Descriptor FrozenCounter :=
  objectV ⟨21, 10⟩ Codec.u16 UInt32.toUInt16 UInt16.toUInt32

def group22Var1 : Descriptor Counter := objectQV ⟨22, 1⟩ Codec.u32 id id

def group22Var2 : Descriptor Counter := objectQV ⟨22, 2⟩ Codec.u16 UInt32.toUInt16 UInt16.toUInt32

def group22Var5 : Descriptor Counter := objectQVT ⟨22, 5⟩ Codec.u32 id id

def group22Var6 : Descriptor Counter := objectQVT ⟨22, 6⟩ Codec.u16 UInt32.toUInt16 UInt16.toUInt32

def group23Var1 : Descriptor FrozenCounter := objectQV ⟨23, 1⟩ Codec.u32 id id

def group23Var2 : Descriptor FrozenCounter :=
  objectQV ⟨23, 2⟩ Codec.u16 UInt32.toUInt16 UInt16.toUInt32

def group23Var5 : Descriptor FrozenCounter := objectQVT ⟨23, 5⟩ Codec.u32 id id

def group23Var6 : Descriptor FrozenCounter :=
  objectQVT ⟨23, 6⟩ Codec.u16 UInt32.toUInt16 UInt16.toUInt32

/-! ## Analogs -/

section analogs

variable [FloatOps]

def group30Var1 : Descriptor Analog :=
  objectQVRangeCheck ⟨30, 1⟩ Codec.i32 FloatOps.downSampleInt32 FloatOps.ofInt32

def group30Var2 : Descriptor Analog :=
  objectQVRangeCheck ⟨30, 2⟩ Codec.i16 FloatOps.downSampleInt16 FloatOps.ofInt16

def group30Var3 : Descriptor Analog :=
  objectVRangeCheck ⟨30, 3⟩ Codec.i32 FloatOps.downSampleInt32 FloatOps.ofInt32

def group30Var4 : Descriptor Analog :=
  objectVRangeCheck ⟨30, 4⟩ Codec.i16 FloatOps.downSampleInt16 FloatOps.ofInt16

def group30Var5 : Descriptor Analog :=
  objectQVRangeCheck ⟨30, 5⟩ Codec.single FloatOps.downSampleSingle FloatOps.ofSingle

def group30Var6 : Descriptor Analog := objectQV ⟨30, 6⟩ Codec.double id id

def group32Var1 : Descriptor Analog :=
  objectQVRangeCheck ⟨32, 1⟩ Codec.i32 FloatOps.downSampleInt32 FloatOps.ofInt32

def group32Var2 : Descriptor Analog :=
  objectQVRangeCheck ⟨32, 2⟩ Codec.i16 FloatOps.downSampleInt16 FloatOps.ofInt16

def group32Var3 : Descriptor Analog :=
  objectQVTRangeCheck ⟨32, 3⟩ Codec.i32 FloatOps.downSampleInt32 FloatOps.ofInt32

def group32Var4 : Descriptor Analog :=
  objectQVTRangeCheck ⟨32, 4⟩ Codec.i16 FloatOps.downSampleInt16 FloatOps.ofInt16

def group32Var5 : Descriptor Analog :=
  objectQVRangeCheck ⟨32, 5⟩ Codec.single FloatOps.downSampleSingle FloatOps.ofSingle

def group32Var6 : Descriptor Analog := objectQV ⟨32, 6⟩ Codec.double id id

def group32Var7 : Descriptor Analog :=
  objectQVTRangeCheck ⟨32, 7⟩ Codec.single FloatOps.downSampleSingle FloatOps.ofSingle

def group32Var8 : Descriptor Analog := objectQVT ⟨32, 8⟩ Codec.double id id

def group40Var1 : Descriptor AnalogOutputStatus :=
  objectQVRangeCheck ⟨40, 1⟩ Codec.i32 FloatOps.downSampleInt32 FloatOps.ofInt32

def group40Var2 : Descriptor AnalogOutputStatus :=
  objectQVRangeCheck ⟨40, 2⟩ Codec.i16 FloatOps.downSampleInt16 FloatOps.ofInt16

def group40Var3 : Descriptor AnalogOutputStatus :=
  objectQVRangeCheck ⟨40, 3⟩ Codec.single FloatOps.downSampleSingle FloatOps.ofSingle

def group40Var4 : Descriptor AnalogOutputStatus := objectQV ⟨40, 4⟩ Codec.double id id

def group42Var1 : Descriptor AnalogOutputStatus :=
  objectQVRangeCheck ⟨42, 1⟩ Codec.i32 FloatOps.downSampleInt32 FloatOps.ofInt32

def group42Var2 : Descriptor AnalogOutputStatus :=
  objectQVRangeCheck ⟨42, 2⟩ Codec.i16 FloatOps.downSampleInt16 FloatOps.ofInt16

def group42Var3 : Descriptor AnalogOutputStatus :=
  objectQVTRangeCheck ⟨42, 3⟩ Codec.i32 FloatOps.downSampleInt32 FloatOps.ofInt32

def group42Var4 : Descriptor AnalogOutputStatus :=
  objectQVTRangeCheck ⟨42, 4⟩ Codec.i16 FloatOps.downSampleInt16 FloatOps.ofInt16

def group42Var5 : Descriptor AnalogOutputStatus :=
  objectQVRangeCheck ⟨42, 5⟩ Codec.single FloatOps.downSampleSingle FloatOps.ofSingle

def group42Var6 : Descriptor AnalogOutputStatus := objectQV ⟨42, 6⟩ Codec.double id id

def group42Var7 : Descriptor AnalogOutputStatus :=
  objectQVTRangeCheck ⟨42, 7⟩ Codec.single FloatOps.downSampleSingle FloatOps.ofSingle

def group42Var8 : Descriptor AnalogOutputStatus := objectQVT ⟨42, 8⟩ Codec.double id id

end analogs

/-! ## Commands and command events -/

def group12Var1 : Descriptor ControlRelayOutputBlock :=
  ⟨⟨12, 1⟩, (Codec.u8.both (Codec.u8.both (Codec.u32.both (Codec.u32.both Codec.u8)))).map
    (fun crob => (crob.rawCode, crob.count, crob.onTimeMS, crob.offTimeMS, crob.status.toType))
    (fun (code, count, onTime, offTime, status) =>
      ⟨code, count, onTime, offTime, .fromType status⟩)⟩

def getFlags (event : BinaryCommandEvent) : UInt8 :=
  ((if event.value then (1 : UInt8) else 0) <<< 7) ||| event.status.toType

def binaryCommandEvent (flags : UInt8) (time : DNPTime) : BinaryCommandEvent :=
  ⟨flags &&& 0x80 == 0x80, .fromType (flags &&& 0x7F), time⟩

def group13Var1 : Descriptor BinaryCommandEvent :=
  ⟨⟨13, 1⟩, Codec.u8.map getFlags (binaryCommandEvent · 0)⟩

def group13Var2 : Descriptor BinaryCommandEvent :=
  ⟨⟨13, 2⟩, (Codec.u8.both Codec.u48).map (fun event => (getFlags event, event.time))
    (fun (flags, time) => binaryCommandEvent flags time)⟩

/-- An analog command: the value, then the status. -/
def objectAnalogOutput {Value : Type} (id : GroupVariationID) (codec : Codec Value) :
    Descriptor (AnalogOutput Value) :=
  ⟨id, (codec.both Codec.u8).map (fun command => (command.value, command.status.toType))
    (fun (value, status) => ⟨value, .fromType status⟩)⟩

def group41Var1 : Descriptor AnalogOutputInt32 := objectAnalogOutput ⟨41, 1⟩ Codec.i32

def group41Var2 : Descriptor AnalogOutputInt16 := objectAnalogOutput ⟨41, 2⟩ Codec.i16

def group41Var3 : Descriptor AnalogOutputFloat32 := objectAnalogOutput ⟨41, 3⟩ Codec.single

def group41Var4 : Descriptor AnalogOutputDouble64 := objectAnalogOutput ⟨41, 4⟩ Codec.double

/-- An analog command event: the status, then the value. -/
def objectAnalogCommandEvent {Target : Type} (id : GroupVariationID) (codec : Codec Target)
    (downSample : Double → Bool × Target) (decode : Target → Double) :
    Descriptor AnalogCommandEvent :=
  ⟨id, (Codec.u8.both codec).map
    (fun event => (event.status.toType, (downSample event.value).2))
    (fun (status, value) => ⟨decode value, .fromType status, 0⟩)⟩

def objectAnalogCommandEventWithTime {Target : Type} (id : GroupVariationID)
    (codec : Codec Target) (downSample : Double → Bool × Target) (decode : Target → Double) :
    Descriptor AnalogCommandEvent :=
  ⟨id, (Codec.u8.both (codec.both Codec.u48)).map
    (fun event => (event.status.toType, (downSample event.value).2, event.time))
    (fun (status, value, time) => ⟨decode value, .fromType status, time⟩)⟩

/-- A double is stored in a double as it is. -/
def unsampled (value : Double) : Bool × Double := (false, value)

section analogCommandEvents

variable [FloatOps]

def group43Var1 : Descriptor AnalogCommandEvent :=
  objectAnalogCommandEvent ⟨43, 1⟩ Codec.i32 FloatOps.downSampleInt32 FloatOps.ofInt32

def group43Var2 : Descriptor AnalogCommandEvent :=
  objectAnalogCommandEvent ⟨43, 2⟩ Codec.i16 FloatOps.downSampleInt16 FloatOps.ofInt16

def group43Var3 : Descriptor AnalogCommandEvent :=
  objectAnalogCommandEventWithTime ⟨43, 3⟩ Codec.i32 FloatOps.downSampleInt32 FloatOps.ofInt32

def group43Var4 : Descriptor AnalogCommandEvent :=
  objectAnalogCommandEventWithTime ⟨43, 4⟩ Codec.i16 FloatOps.downSampleInt16 FloatOps.ofInt16

def group43Var5 : Descriptor AnalogCommandEvent :=
  objectAnalogCommandEvent ⟨43, 5⟩ Codec.single FloatOps.downSampleSingle FloatOps.ofSingle

def group43Var6 : Descriptor AnalogCommandEvent :=
  objectAnalogCommandEvent ⟨43, 6⟩ Codec.double unsampled id

def group43Var7 : Descriptor AnalogCommandEvent :=
  objectAnalogCommandEventWithTime ⟨43, 7⟩ Codec.single FloatOps.downSampleSingle FloatOps.ofSingle

def group43Var8 : Descriptor AnalogCommandEvent :=
  objectAnalogCommandEventWithTime ⟨43, 8⟩ Codec.double unsampled id

end analogCommandEvents

/-! ## Time, security and octet objects -/

def group50Var1 : Descriptor DNPTime := ⟨⟨50, 1⟩, Codec.u48⟩

def group50Var3 : Descriptor DNPTime := ⟨⟨50, 3⟩, Codec.u48⟩

def group50Var4 : Descriptor TimeAndInterval :=
  ⟨⟨50, 4⟩, (Codec.u48.both (Codec.u32.both Codec.u8)).map
    (fun value => (value.time, value.interval, value.units))
    (fun (time, interval, units) => ⟨time, interval, units⟩)⟩

def group51Var1 : Descriptor DNPTime := ⟨⟨51, 1⟩, Codec.u48⟩

def group51Var2 : Descriptor DNPTime := ⟨⟨51, 2⟩, Codec.u48⟩

def group52Var1 : Descriptor UInt16 := ⟨⟨52, 1⟩, Codec.u16⟩

def group52Var2 : Descriptor UInt16 := ⟨⟨52, 2⟩, Codec.u16⟩

def group120Var3 : Descriptor (UInt32 × UInt16) := ⟨⟨120, 3⟩, Codec.u32.both Codec.u16⟩

def group120Var4 : Descriptor UInt16 := ⟨⟨120, 4⟩, Codec.u16⟩

def group121Var1 : Descriptor (UInt8 × UInt16 × UInt32) :=
  ⟨⟨121, 1⟩, Codec.u8.both (Codec.u16.both Codec.u32)⟩

def group122Var1 : Descriptor (UInt8 × UInt16 × UInt32) :=
  ⟨⟨122, 1⟩, Codec.u8.both (Codec.u16.both Codec.u32)⟩

def group122Var2 : Descriptor (UInt8 × UInt16 × UInt32 × DNPTime) :=
  ⟨⟨122, 2⟩, Codec.u8.both (Codec.u16.both (Codec.u32.both Codec.u48))⟩

/-- Octet strings are written under their size as the variation. -/
def octetStringSerializer (isEvent : Bool) (size : UInt8) : DNP3Serializer OctetString :=
  ⟨⟨if isEvent then 111 else 110, size⟩, size.toNat, OctetString.bytes⟩

end OpenDnp3.App
