import OpenDnp3.App.RangeRoundTrip
import OpenDnp3.Outstation.Database.RangeViewProperties

/-!
# Formats of static values

What each variation encodes of a value, and that the header of a run of points
is read back as just that.
-/

set_option autoImplicit false

namespace OpenDnp3.Outstation

open OpenDnp3.App OpenDnp3.Library

/-- What a header says about a point. -/
structure Reading where
  gv : GroupVariation
  type : ObjectType
  value : type.Value
  index : UInt16
deriving DecidableEq

end OpenDnp3.Outstation

namespace OpenDnp3.App.Header

open OpenDnp3.App OpenDnp3.Outstation

/-- The points that a header with a range carries. -/
def readings : Header → List Reading
  | .rangeOf record _ type values =>
      values.map fun value => ⟨record.enumeration, type, value.value, value.index⟩
  | _ => []

end OpenDnp3.App.Header

namespace OpenDnp3.Outstation

open OpenDnp3.App OpenDnp3.Library

namespace StaticType

/-- The object that a variation stands for. -/
def reportedAs : (type : StaticType) → type.Variation → GroupVariation
  | .binary, .group1Var1 => .group1Var1
  | .binary, .group1Var2 => .group1Var2
  | .doubleBitBinary, .group3Var2 => .group3Var2
  | .counter, .group20Var1 => .group20Var1
  | .counter, .group20Var2 => .group20Var2
  | .counter, .group20Var5 => .group20Var5
  | .counter, .group20Var6 => .group20Var6
  | .frozenCounter, .group21Var1 => .group21Var1
  | .frozenCounter, .group21Var2 => .group21Var2
  | .frozenCounter, .group21Var5 => .group21Var5
  | .frozenCounter, .group21Var6 => .group21Var6
  | .frozenCounter, .group21Var9 => .group21Var9
  | .frozenCounter, .group21Var10 => .group21Var10
  | .analog, .group30Var1 => .group30Var1
  | .analog, .group30Var2 => .group30Var2
  | .analog, .group30Var3 => .group30Var3
  | .analog, .group30Var4 => .group30Var4
  | .analog, .group30Var5 => .group30Var5
  | .analog, .group30Var6 => .group30Var6
  | .binaryOutputStatus, .group10Var2 => .group10Var2
  | .analogOutputStatus, .group40Var1 => .group40Var1
  | .analogOutputStatus, .group40Var2 => .group40Var2
  | .analogOutputStatus, .group40Var3 => .group40Var3
  | .analogOutputStatus, .group40Var4 => .group40Var4
  | .timeAndInterval, .group50Var4 => .group50Var4
  | .octetString, .group110Var0 => .group110Var0

/-- The bytes that an object takes; an octet string takes its own size. -/
def objectSize : (type : StaticType) → type.Variation → type.Meas → Nat
  | .binary, .group1Var1, _ => 1
  | .binary, .group1Var2, _ => 1
  | .doubleBitBinary, .group3Var2, _ => 1
  | .counter, .group20Var1, _ => 5
  | .counter, .group20Var2, _ => 3
  | .counter, .group20Var5, _ => 4
  | .counter, .group20Var6, _ => 2
  | .frozenCounter, .group21Var1, _ => 5
  | .frozenCounter, .group21Var2, _ => 3
  | .frozenCounter, .group21Var5, _ => 11
  | .frozenCounter, .group21Var6, _ => 9
  | .frozenCounter, .group21Var9, _ => 4
  | .frozenCounter, .group21Var10, _ => 2
  | .analog, .group30Var1, _ => 5
  | .analog, .group30Var2, _ => 3
  | .analog, .group30Var3, _ => 4
  | .analog, .group30Var4, _ => 2
  | .analog, .group30Var5, _ => 5
  | .analog, .group30Var6, _ => 9
  | .binaryOutputStatus, .group10Var2, _ => 1
  | .analogOutputStatus, .group40Var1, _ => 5
  | .analogOutputStatus, .group40Var2, _ => 3
  | .analogOutputStatus, .group40Var3, _ => 5
  | .analogOutputStatus, .group40Var4, _ => 9
  | .timeAndInterval, .group50Var4, _ => 11
  | .octetString, .group110Var0, data => data.size

/-- Whether there is anything to write of a value: an octet string may be empty. -/
def hasContents : (type : StaticType) → type.Meas → Bool
  | .octetString, data => 0 < data.size
  | _, _ => true

/-- What is left of a time in six bytes. -/
def keptTime (time : DNPTime) : DNPTime := Codec.u48.kept time

variable [FloatOps]

/-- What a variation encodes of a value. -/
def encoded : (type : StaticType) → type.Variation → type.Meas → type.Meas
  | .binary, .group1Var1, meas => BinaryFactory.ofBool meas.value
  | .binary, .group1Var2, meas => BinaryFactory.ofFlags meas.flags
  | .doubleBitBinary, .group3Var2, meas => DoubleBitBinaryFactory.ofFlags meas.flags
  | .counter, .group20Var1, meas => { meas with time := 0 }
  | .counter, .group20Var2, meas => ⟨lowHalf meas.value, meas.flags, 0⟩
  | .counter, .group20Var5, meas => ⟨meas.value, online, 0⟩
  | .counter, .group20Var6, meas => ⟨lowHalf meas.value, online, 0⟩
  | .frozenCounter, .group21Var1, meas => { meas with time := 0 }
  | .frozenCounter, .group21Var2, meas => ⟨lowHalf meas.value, meas.flags, 0⟩
  | .frozenCounter, .group21Var5, meas => { meas with time := keptTime meas.time }
  | .frozenCounter, .group21Var6, meas => ⟨lowHalf meas.value, meas.flags, keptTime meas.time⟩
  | .frozenCounter, .group21Var9, meas => ⟨meas.value, online, 0⟩
  | .frozenCounter, .group21Var10, meas => ⟨lowHalf meas.value, online, 0⟩
  | .analog, .group30Var1, meas =>
      rangeChecked FloatOps.downSampleInt32 FloatOps.ofInt32 meas 0
  | .analog, .group30Var2, meas =>
      rangeChecked FloatOps.downSampleInt16 FloatOps.ofInt16 meas 0
  | .analog, .group30Var3, meas =>
      ⟨FloatOps.ofInt32 (FloatOps.downSampleInt32 meas.value).2, online, 0⟩
  | .analog, .group30Var4, meas =>
      ⟨FloatOps.ofInt16 (FloatOps.downSampleInt16 meas.value).2, online, 0⟩
  | .analog, .group30Var5, meas =>
      rangeChecked FloatOps.downSampleSingle FloatOps.ofSingle meas 0
  | .analog, .group30Var6, meas => { meas with time := 0 }
  | .binaryOutputStatus, .group10Var2, meas => BinaryFactory.ofFlags meas.flags
  | .analogOutputStatus, .group40Var1, meas =>
      rangeChecked FloatOps.downSampleInt32 FloatOps.ofInt32 meas 0
  | .analogOutputStatus, .group40Var2, meas =>
      rangeChecked FloatOps.downSampleInt16 FloatOps.ofInt16 meas 0
  | .analogOutputStatus, .group40Var3, meas =>
      rangeChecked FloatOps.downSampleSingle FloatOps.ofSingle meas 0
  | .analogOutputStatus, .group40Var4, meas => { meas with time := 0 }
  | .timeAndInterval, .group50Var4, meas => { meas with time := keptTime meas.time }
  | .octetString, .group110Var0, data => data

end StaticType

/-- What a response has to say about a selected point: the value it had when it was selected, in
the variation that was chosen then. -/
def Cell.reading [FloatOps] {type : StaticType} (cell : Cell type) : Reading :=
  ⟨type.reportedAs cell.selection.variation, type.objectType,
    type.encoded cell.selection.variation cell.selection.value, cell.vIndex⟩

/-- Whether there is anything to write of a selected value. -/
def Cell.hasContents {type : StaticType} (cell : Cell type) : Bool :=
  type.hasContents cell.selection.value

/-- A variation whose objects have a fixed size and stand for themselves. -/
structure IsFixedSize [FloatOps] (type : StaticType) (variation : type.Variation)
    (descriptor : Descriptor type.Meas) : Prop where
  write : StaticWriters.get type variation = writeWithSerializer descriptor.inst
  enumeration : descriptor.id.enumeration = type.reportedAs variation
  objects : (type.reportedAs variation).rangeObjects =
    some (.fixedSize ⟨type.objectType, descriptor.codec⟩)
  size : ∀ meas, type.objectSize variation meas = descriptor.codec.size
  kept : ∀ meas, descriptor.codec.kept meas = type.encoded variation meas

/-- Whether points are written as single bits. -/
def isPacked : (type : StaticType) → type.Variation → Bool
  | .binary, .group1Var1 => true
  | _, _ => false

/-- The id of an object with a conversion has to be unfolded to be looked up. -/
private theorem of_id {id other : GroupVariationID} {gv : GroupVariation} (same : id = other)
    (known : other.enumeration = gv) : id.enumeration = gv :=
  same ▸ known

private theorem kept_objectQVT_any {Target Value : Type} (id : GroupVariationID)
    (codec : Codec Target) (encode : Value → Target) (decode : Target → Value)
    (meas : TypedMeasurement Value) :
    (objectQVT id codec encode decode).codec.kept meas =
      ⟨decode (codec.kept (encode meas.value)), meas.flags, StaticType.keptTime meas.time⟩ := by
  change TypedMeasurement.mk _ (Codec.u8.kept meas.flags) _ = _
  rw [Codec.kept_u8]
  rfl

section formats

variable [FloatOps]

private theorem isFixedSize_analog (variation : StaticAnalogVariation) :
    ∃ descriptor, IsFixedSize .analog variation descriptor := by
  cases variation with
  | group30Var1 =>
      exact ⟨group30Var1, rfl, of_id (show _ = (⟨30, 1⟩ : GroupVariationID) from rfl) rfl, rfl,
        fun _ => rfl, kept_objectQVRangeCheck _ _ Codec.kept_i32 _ _⟩
  | group30Var2 =>
      exact ⟨group30Var2, rfl, of_id (show _ = (⟨30, 2⟩ : GroupVariationID) from rfl) rfl, rfl,
        fun _ => rfl, kept_objectQVRangeCheck _ _ Codec.kept_i16 _ _⟩
  | group30Var3 =>
      exact ⟨group30Var3, rfl, of_id (show _ = (⟨30, 3⟩ : GroupVariationID) from rfl) rfl, rfl,
        fun _ => rfl, kept_objectVRangeCheck _ _ Codec.kept_i32 _ _⟩
  | group30Var4 =>
      exact ⟨group30Var4, rfl, of_id (show _ = (⟨30, 4⟩ : GroupVariationID) from rfl) rfl, rfl,
        fun _ => rfl, kept_objectVRangeCheck _ _ Codec.kept_i16 _ _⟩
  | group30Var5 =>
      exact ⟨group30Var5, rfl, of_id (show _ = (⟨30, 5⟩ : GroupVariationID) from rfl) rfl, rfl,
        fun _ => rfl, kept_objectQVRangeCheck _ _ Codec.kept_single _ _⟩
  | group30Var6 =>
      exact ⟨group30Var6, rfl, of_id (show _ = (⟨30, 6⟩ : GroupVariationID) from rfl) rfl, rfl,
        fun _ => rfl, kept_objectQV_faithful _ _ Codec.kept_double⟩

private theorem isFixedSize_analogOutputStatus (variation : StaticAnalogOutputStatusVariation) :
    ∃ descriptor, IsFixedSize .analogOutputStatus variation descriptor := by
  cases variation with
  | group40Var1 =>
      exact ⟨group40Var1, rfl, of_id (show _ = (⟨40, 1⟩ : GroupVariationID) from rfl) rfl, rfl,
        fun _ => rfl, kept_objectQVRangeCheck _ _ Codec.kept_i32 _ _⟩
  | group40Var2 =>
      exact ⟨group40Var2, rfl, of_id (show _ = (⟨40, 2⟩ : GroupVariationID) from rfl) rfl, rfl,
        fun _ => rfl, kept_objectQVRangeCheck _ _ Codec.kept_i16 _ _⟩
  | group40Var3 =>
      exact ⟨group40Var3, rfl, of_id (show _ = (⟨40, 3⟩ : GroupVariationID) from rfl) rfl, rfl,
        fun _ => rfl, kept_objectQVRangeCheck _ _ Codec.kept_single _ _⟩
  | group40Var4 =>
      exact ⟨group40Var4, rfl, of_id (show _ = (⟨40, 4⟩ : GroupVariationID) from rfl) rfl, rfl,
        fun _ => rfl, kept_objectQV_faithful _ _ Codec.kept_double⟩

private theorem isFixedSize_counter (variation : StaticCounterVariation) :
    ∃ descriptor, IsFixedSize .counter variation descriptor := by
  cases variation with
  | group20Var1 =>
      exact ⟨group20Var1, rfl, rfl, rfl, fun _ => rfl, kept_objectQV_faithful _ _ Codec.kept_u32⟩
  | group20Var2 => exact ⟨group20Var2, rfl, rfl, rfl, fun _ => rfl, kept_objectQV_half _⟩
  | group20Var5 =>
      refine ⟨group20Var5, rfl, rfl, rfl, fun _ => rfl, fun meas => ?_⟩
      rw [group20Var5, kept_objectV, Codec.kept_u32]
      rfl
  | group20Var6 =>
      refine ⟨group20Var6, rfl, rfl, rfl, fun _ => rfl, fun meas => ?_⟩
      rw [group20Var6, kept_objectV, Codec.kept_u16]
      rfl

private theorem isFixedSize_frozenCounter (variation : StaticFrozenCounterVariation) :
    ∃ descriptor, IsFixedSize .frozenCounter variation descriptor := by
  cases variation with
  | group21Var1 =>
      exact ⟨group21Var1, rfl, rfl, rfl, fun _ => rfl, kept_objectQV_faithful _ _ Codec.kept_u32⟩
  | group21Var2 => exact ⟨group21Var2, rfl, rfl, rfl, fun _ => rfl, kept_objectQV_half _⟩
  | group21Var5 =>
      refine ⟨group21Var5, rfl, rfl, rfl, fun _ => rfl, fun meas => ?_⟩
      rw [group21Var5, kept_objectQVT_any, Codec.kept_u32]
      rfl
  | group21Var6 =>
      refine ⟨group21Var6, rfl, rfl, rfl, fun _ => rfl, fun meas => ?_⟩
      rw [group21Var6, kept_objectQVT_any, Codec.kept_u16]
      rfl
  | group21Var9 =>
      refine ⟨group21Var9, rfl, rfl, rfl, fun _ => rfl, fun meas => ?_⟩
      rw [group21Var9, kept_objectV, Codec.kept_u32]
      rfl
  | group21Var10 =>
      refine ⟨group21Var10, rfl, rfl, rfl, fun _ => rfl, fun meas => ?_⟩
      rw [group21Var10, kept_objectV, Codec.kept_u16]
      rfl

/-- Every variation but single bits and octet strings has a fixed size. -/
theorem exists_isFixedSize (type : StaticType) (variation : type.Variation)
    (notOctets : type ≠ .octetString) (notPacked : isPacked type variation = false) :
    ∃ descriptor, IsFixedSize type variation descriptor := by
  cases type with
  | binary =>
      cases variation with
      | group1Var1 => cases notPacked
      | group1Var2 => exact ⟨group1Var2, rfl, rfl, rfl, fun _ => rfl, kept_objectQ _ _⟩
  | doubleBitBinary =>
      cases variation with
      | group3Var2 => exact ⟨group3Var2, rfl, rfl, rfl, fun _ => rfl, kept_objectQ _ _⟩
  | counter => exact isFixedSize_counter variation
  | frozenCounter => exact isFixedSize_frozenCounter variation
  | analog => exact isFixedSize_analog variation
  | binaryOutputStatus =>
      cases variation with
      | group10Var2 => exact ⟨group10Var2, rfl, rfl, rfl, fun _ => rfl, kept_objectQ _ _⟩
  | analogOutputStatus => exact isFixedSize_analogOutputStatus variation
  | timeAndInterval =>
      cases variation with
      | group50Var4 =>
          refine ⟨group50Var4, rfl, rfl, rfl, fun _ => rfl, fun meas => ?_⟩
          change TimeAndInterval.mk _ (Codec.u32.kept meas.interval) (Codec.u8.kept meas.units) = _
          rw [Codec.kept_u32, Codec.kept_u8]
          rfl
  | octetString => exact absurd rfl notOctets

end formats

end OpenDnp3.Outstation
