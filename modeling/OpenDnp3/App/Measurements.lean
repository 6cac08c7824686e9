/-!
# Value types

The values that object headers carry: the measurements an outstation reports,
the commands a master sends, and the objects of the service groups. Eight of
the measurement types produce events.
-/

set_option autoImplicit false

namespace OpenDnp3.App

/-- An IEEE 754 double, by its bits. -/
structure Double where
  bits : UInt64
deriving DecidableEq, Repr, Inhabited

/-- An IEEE 754 single, by its bits. -/
structure Single where
  bits : UInt32
deriving DecidableEq, Repr, Inhabited

/-- Milliseconds since the epoch, as the signed value that `UInt48Type` wraps. -/
abbrev DNPTime := Int

inductive DoubleBit where
  | intermediate
  | determinedOff
  | determinedOn
  | indeterminate
deriving DecidableEq, Repr, Inhabited

def DoubleBit.toType : DoubleBit → UInt8
  | .intermediate => 0
  | .determinedOff => 1
  | .determinedOn => 2
  | .indeterminate => 3

def DoubleBit.fromType : UInt8 → DoubleBit
  | 0 => .intermediate
  | 1 => .determinedOff
  | 2 => .determinedOn
  | _ => .indeterminate

/-- A value with its quality flags and its timestamp. -/
structure TypedMeasurement (Value : Type) where
  value : Value
  flags : UInt8
  time : DNPTime
deriving DecidableEq, Repr, Inhabited

abbrev Binary := TypedMeasurement Bool
abbrev DoubleBitBinary := TypedMeasurement DoubleBit
abbrev BinaryOutputStatus := TypedMeasurement Bool
abbrev Analog := TypedMeasurement Double
abbrev Counter := TypedMeasurement UInt32
abbrev FrozenCounter := TypedMeasurement UInt32
abbrev AnalogOutputStatus := TypedMeasurement Double

def OctetString.maxSize : Nat := 255

/-- At most 255 bytes. -/
structure OctetString where
  bytes : List UInt8
  fits : bytes.length ≤ OctetString.maxSize
deriving DecidableEq, Repr

namespace OctetString

def size (data : OctetString) : Nat := data.bytes.length

/-- The documented default value, a single zero byte. -/
def zero : OctetString := ⟨[0], by decide⟩

instance : Inhabited OctetString := ⟨zero⟩

/-- Construct from a slice: an empty slice gives the default, a long one is cut. -/
def ofSlice (input : List UInt8) : OctetString :=
  if input.isEmpty then zero
  else ⟨input.take maxSize, by simp only [List.length_take]; omega⟩

/-- A slice of an admissible length is kept as it is. -/
theorem ofSlice_bytes {input : List UInt8} (nonempty : input ≠ [])
    (fits : input.length ≤ maxSize) : (ofSlice input).bytes = input := by
  have : input.isEmpty = false := by simpa using nonempty
  simp [ofSlice, this, List.take_of_length_le fits]

theorem ofSlice_of_size_pos (data : OctetString) (nonempty : 0 < data.size) :
    ofSlice data.bytes = data := by
  obtain ⟨bytes, fits⟩ := data
  have present : bytes ≠ [] := by
    rintro rfl
    simp [size] at nonempty
  have same := ofSlice_bytes present fits
  cases built : ofSlice bytes with
  | mk built _ =>
      rw [built] at same
      simp only at same
      subst same
      rfl

end OctetString

structure TimeAndInterval where
  time : DNPTime
  interval : UInt32
  units : UInt8
deriving DecidableEq, Repr, Inhabited

/-- Results of a command. -/
inductive CommandStatus where
  | success
  | timeout
  | noSelect
  | formatError
  | notSupported
  | alreadyActive
  | hardwareError
  | local
  | tooManyOps
  | notAuthorized
  | automationInhibit
  | processingLimited
  | outOfRange
  | downstreamLocal
  | alreadyComplete
  | blocked
  | cancelled
  | blockedOtherMaster
  | downstreamFail
  | nonParticipating
  | undefined
deriving DecidableEq, Repr, Inhabited

namespace CommandStatus

def toType : CommandStatus → UInt8
  | .success => 0
  | .timeout => 1
  | .noSelect => 2
  | .formatError => 3
  | .notSupported => 4
  | .alreadyActive => 5
  | .hardwareError => 6
  | .local => 7
  | .tooManyOps => 8
  | .notAuthorized => 9
  | .automationInhibit => 10
  | .processingLimited => 11
  | .outOfRange => 12
  | .downstreamLocal => 13
  | .alreadyComplete => 14
  | .blocked => 15
  | .cancelled => 16
  | .blockedOtherMaster => 17
  | .downstreamFail => 18
  | .nonParticipating => 126
  | .undefined => 127

def fromType : UInt8 → CommandStatus
  | 0 => .success
  | 1 => .timeout
  | 2 => .noSelect
  | 3 => .formatError
  | 4 => .notSupported
  | 5 => .alreadyActive
  | 6 => .hardwareError
  | 7 => .local
  | 8 => .tooManyOps
  | 9 => .notAuthorized
  | 10 => .automationInhibit
  | 11 => .processingLimited
  | 12 => .outOfRange
  | 13 => .downstreamLocal
  | 14 => .alreadyComplete
  | 15 => .blocked
  | 16 => .cancelled
  | 17 => .blockedOtherMaster
  | 18 => .downstreamFail
  | 126 => .nonParticipating
  | _ => .undefined

@[simp] theorem fromType_toType (status : CommandStatus) : fromType status.toType = status := by
  cases status <;> rfl

end CommandStatus

inductive ControlCode where
  | nul
  | nulCancel
  | pulseOn
  | pulseOnCancel
  | pulseOff
  | pulseOffCancel
  | latchOn
  | latchOnCancel
  | latchOff
  | latchOffCancel
  | closePulseOn
  | closePulseOnCancel
  | tripPulseOn
  | tripPulseOnCancel
  | undefined
deriving DecidableEq, Repr, Inhabited

def ControlCode.fromType : UInt8 → ControlCode
  | 0x0 => .nul
  | 0x20 => .nulCancel
  | 0x1 => .pulseOn
  | 0x21 => .pulseOnCancel
  | 0x2 => .pulseOff
  | 0x22 => .pulseOffCancel
  | 0x3 => .latchOn
  | 0x23 => .latchOnCancel
  | 0x4 => .latchOff
  | 0x24 => .latchOffCancel
  | 0x41 => .closePulseOn
  | 0x61 => .closePulseOnCancel
  | 0x81 => .tripPulseOn
  | 0xA1 => .tripPulseOnCancel
  | _ => .undefined

/-- A binary command; its function code is what the raw code is known as. -/
structure ControlRelayOutputBlock where
  rawCode : UInt8
  count : UInt8
  onTimeMS : UInt32
  offTimeMS : UInt32
  status : CommandStatus
deriving DecidableEq, Repr, Inhabited

def ControlRelayOutputBlock.functionCode (crob : ControlRelayOutputBlock) : ControlCode :=
  .fromType crob.rawCode

/-- An analog command. -/
structure AnalogOutput (Value : Type) where
  value : Value
  status : CommandStatus
deriving DecidableEq, Repr, Inhabited

abbrev AnalogOutputInt16 := AnalogOutput Int16
abbrev AnalogOutputInt32 := AnalogOutput Int32
abbrev AnalogOutputFloat32 := AnalogOutput Single
abbrev AnalogOutputDouble64 := AnalogOutput Double

structure BinaryCommandEvent where
  value : Bool
  status : CommandStatus
  time : DNPTime
deriving DecidableEq, Repr, Inhabited

structure AnalogCommandEvent where
  value : Double
  status : CommandStatus
  time : DNPTime
deriving DecidableEq, Repr, Inhabited

/-- The value types that an object header may carry. -/
inductive ObjectType where
  | binary
  | doubleBitBinary
  | binaryOutputStatus
  | counter
  | frozenCounter
  | analog
  | analogOutputStatus
  | octetString
  | timeAndInterval
  | binaryCommandEvent
  | analogCommandEvent
  | controlRelayOutputBlock
  | analogOutputInt16
  | analogOutputInt32
  | analogOutputFloat32
  | analogOutputDouble64
  | iinValue
  | group121Var1
  | group122Var1
  | group122Var2
  | group50Var1
  | group50Var3
  | group51Var1
  | group51Var2
  | group52Var1
  | group52Var2
  | group120Var3
  | group120Var4
deriving DecidableEq, Repr, Inhabited

namespace ObjectType

abbrev Value : ObjectType → Type
  | .binary => Binary
  | .doubleBitBinary => DoubleBitBinary
  | .binaryOutputStatus => BinaryOutputStatus
  | .counter => Counter
  | .frozenCounter => FrozenCounter
  | .analog => Analog
  | .analogOutputStatus => AnalogOutputStatus
  | .octetString => OctetString
  | .timeAndInterval => TimeAndInterval
  | .binaryCommandEvent => BinaryCommandEvent
  | .analogCommandEvent => AnalogCommandEvent
  | .controlRelayOutputBlock => ControlRelayOutputBlock
  | .analogOutputInt16 => AnalogOutputInt16
  | .analogOutputInt32 => AnalogOutputInt32
  | .analogOutputFloat32 => AnalogOutputFloat32
  | .analogOutputDouble64 => AnalogOutputDouble64
  | .iinValue => Bool
  | .group121Var1 => UInt8 × UInt16 × UInt32
  | .group122Var1 => UInt8 × UInt16 × UInt32
  | .group122Var2 => UInt8 × UInt16 × UInt32 × DNPTime
  | .group50Var1 => DNPTime
  | .group50Var3 => DNPTime
  | .group51Var1 => DNPTime
  | .group51Var2 => DNPTime
  | .group52Var1 => UInt16
  | .group52Var2 => UInt16
  | .group120Var3 => UInt32 × UInt16
  | .group120Var4 => UInt16

instance : (type : ObjectType) → DecidableEq type.Value
  | .binary => inferInstanceAs (DecidableEq Binary)
  | .doubleBitBinary => inferInstanceAs (DecidableEq DoubleBitBinary)
  | .binaryOutputStatus => inferInstanceAs (DecidableEq BinaryOutputStatus)
  | .counter => inferInstanceAs (DecidableEq Counter)
  | .frozenCounter => inferInstanceAs (DecidableEq FrozenCounter)
  | .analog => inferInstanceAs (DecidableEq Analog)
  | .analogOutputStatus => inferInstanceAs (DecidableEq AnalogOutputStatus)
  | .octetString => inferInstanceAs (DecidableEq OctetString)
  | .timeAndInterval => inferInstanceAs (DecidableEq TimeAndInterval)
  | .binaryCommandEvent => inferInstanceAs (DecidableEq BinaryCommandEvent)
  | .analogCommandEvent => inferInstanceAs (DecidableEq AnalogCommandEvent)
  | .controlRelayOutputBlock => inferInstanceAs (DecidableEq ControlRelayOutputBlock)
  | .analogOutputInt16 => inferInstanceAs (DecidableEq AnalogOutputInt16)
  | .analogOutputInt32 => inferInstanceAs (DecidableEq AnalogOutputInt32)
  | .analogOutputFloat32 => inferInstanceAs (DecidableEq AnalogOutputFloat32)
  | .analogOutputDouble64 => inferInstanceAs (DecidableEq AnalogOutputDouble64)
  | .iinValue => inferInstanceAs (DecidableEq Bool)
  | .group121Var1 => inferInstanceAs (DecidableEq (UInt8 × UInt16 × UInt32))
  | .group122Var1 => inferInstanceAs (DecidableEq (UInt8 × UInt16 × UInt32))
  | .group122Var2 => inferInstanceAs (DecidableEq (UInt8 × UInt16 × UInt32 × DNPTime))
  | .group50Var1 => inferInstanceAs (DecidableEq DNPTime)
  | .group50Var3 => inferInstanceAs (DecidableEq DNPTime)
  | .group51Var1 => inferInstanceAs (DecidableEq DNPTime)
  | .group51Var2 => inferInstanceAs (DecidableEq DNPTime)
  | .group52Var1 => inferInstanceAs (DecidableEq UInt16)
  | .group52Var2 => inferInstanceAs (DecidableEq UInt16)
  | .group120Var3 => inferInstanceAs (DecidableEq (UInt32 × UInt16))
  | .group120Var4 => inferInstanceAs (DecidableEq UInt16)

instance : (type : ObjectType) → Inhabited type.Value
  | .binary => inferInstanceAs (Inhabited Binary)
  | .doubleBitBinary => inferInstanceAs (Inhabited DoubleBitBinary)
  | .binaryOutputStatus => inferInstanceAs (Inhabited BinaryOutputStatus)
  | .counter => inferInstanceAs (Inhabited Counter)
  | .frozenCounter => inferInstanceAs (Inhabited FrozenCounter)
  | .analog => inferInstanceAs (Inhabited Analog)
  | .analogOutputStatus => inferInstanceAs (Inhabited AnalogOutputStatus)
  | .octetString => inferInstanceAs (Inhabited OctetString)
  | .timeAndInterval => inferInstanceAs (Inhabited TimeAndInterval)
  | .binaryCommandEvent => inferInstanceAs (Inhabited BinaryCommandEvent)
  | .analogCommandEvent => inferInstanceAs (Inhabited AnalogCommandEvent)
  | .controlRelayOutputBlock => inferInstanceAs (Inhabited ControlRelayOutputBlock)
  | .analogOutputInt16 => inferInstanceAs (Inhabited AnalogOutputInt16)
  | .analogOutputInt32 => inferInstanceAs (Inhabited AnalogOutputInt32)
  | .analogOutputFloat32 => inferInstanceAs (Inhabited AnalogOutputFloat32)
  | .analogOutputDouble64 => inferInstanceAs (Inhabited AnalogOutputDouble64)
  | .iinValue => inferInstanceAs (Inhabited Bool)
  | .group121Var1 => inferInstanceAs (Inhabited (UInt8 × UInt16 × UInt32))
  | .group122Var1 => inferInstanceAs (Inhabited (UInt8 × UInt16 × UInt32))
  | .group122Var2 => inferInstanceAs (Inhabited (UInt8 × UInt16 × UInt32 × DNPTime))
  | .group50Var1 => inferInstanceAs (Inhabited DNPTime)
  | .group50Var3 => inferInstanceAs (Inhabited DNPTime)
  | .group51Var1 => inferInstanceAs (Inhabited DNPTime)
  | .group51Var2 => inferInstanceAs (Inhabited DNPTime)
  | .group52Var1 => inferInstanceAs (Inhabited UInt16)
  | .group52Var2 => inferInstanceAs (Inhabited UInt16)
  | .group120Var3 => inferInstanceAs (Inhabited (UInt32 × UInt16))
  | .group120Var4 => inferInstanceAs (Inhabited UInt16)

end ObjectType

/-- A value with the index of the point it belongs to. -/
structure Indexed (Value : Type) where
  value : Value
  index : UInt16
deriving DecidableEq, Repr

/-- The measurement types that produce events. -/
inductive EventType where
  | binary
  | analog
  | counter
  | frozenCounter
  | doubleBitBinary
  | binaryOutputStatus
  | analogOutputStatus
  | octetString
deriving DecidableEq, Repr, Inhabited

def EventType.all : List EventType :=
  [.binary, .analog, .counter, .frozenCounter, .doubleBitBinary, .binaryOutputStatus,
    .analogOutputStatus, .octetString]

theorem EventType.mem_all (type : EventType) : type ∈ EventType.all := by
  cases type <;> decide

inductive EventClass where
  | ec1
  | ec2
  | ec3
deriving DecidableEq, Repr, Inhabited

/-- A set of point classes, one bit for each. -/
structure ClassField where
  class0 : Bool
  class1 : Bool
  class2 : Bool
  class3 : Bool
deriving DecidableEq, Repr, Inhabited

namespace ClassField

def none : ClassField := ⟨false, false, false, false⟩

def allClasses : ClassField := ⟨true, true, true, true⟩

def allEventClasses : ClassField := ⟨false, true, true, true⟩

def ofEventClass (clazz : EventClass) : ClassField :=
  ⟨false, clazz == .ec1, clazz == .ec2, clazz == .ec3⟩

def isEmpty (field : ClassField) : Bool := field == none

def intersects (field other : ClassField) : Bool :=
  (field.class0 && other.class0) || (field.class1 && other.class1) ||
    (field.class2 && other.class2) || (field.class3 && other.class3)

def onlyEventClasses (field : ClassField) : ClassField := { field with class0 := false }

def clear (field other : ClassField) : ClassField :=
  ⟨field.class0 && !other.class0, field.class1 && !other.class1, field.class2 && !other.class2,
    field.class3 && !other.class3⟩

def set (field other : ClassField) : ClassField :=
  ⟨field.class0 || other.class0, field.class1 || other.class1, field.class2 || other.class2,
    field.class3 || other.class3⟩

def hasEventType (field : ClassField) : EventClass → Bool
  | .ec1 => field.class1
  | .ec2 => field.class2
  | .ec3 => field.class3

def hasEventClass (field : ClassField) : Bool := field.class1 || field.class2 || field.class3

def hasAnyClass (field : ClassField) : Bool := !field.isEmpty

end ClassField

inductive EventBinaryVariation where
  | group2Var1
  | group2Var2
  | group2Var3
deriving DecidableEq, Repr, Inhabited

inductive EventDoubleBinaryVariation where
  | group4Var1
  | group4Var2
  | group4Var3
deriving DecidableEq, Repr, Inhabited

inductive EventBinaryOutputStatusVariation where
  | group11Var1
  | group11Var2
deriving DecidableEq, Repr, Inhabited

inductive EventCounterVariation where
  | group22Var1
  | group22Var2
  | group22Var5
  | group22Var6
deriving DecidableEq, Repr, Inhabited

inductive EventFrozenCounterVariation where
  | group23Var1
  | group23Var2
  | group23Var5
  | group23Var6
deriving DecidableEq, Repr, Inhabited

inductive EventAnalogVariation where
  | group32Var1
  | group32Var2
  | group32Var3
  | group32Var4
  | group32Var5
  | group32Var6
  | group32Var7
  | group32Var8
deriving DecidableEq, Repr, Inhabited

inductive EventAnalogOutputStatusVariation where
  | group42Var1
  | group42Var2
  | group42Var3
  | group42Var4
  | group42Var5
  | group42Var6
  | group42Var7
  | group42Var8
deriving DecidableEq, Repr, Inhabited

inductive EventOctetStringVariation where
  | group111Var0
deriving DecidableEq, Repr, Inhabited

namespace EventType

abbrev objectType : EventType → ObjectType
  | .binary => .binary
  | .analog => .analog
  | .counter => .counter
  | .frozenCounter => .frozenCounter
  | .doubleBitBinary => .doubleBitBinary
  | .binaryOutputStatus => .binaryOutputStatus
  | .analogOutputStatus => .analogOutputStatus
  | .octetString => .octetString

/-- The value that an event of the type records. -/
abbrev Meas (type : EventType) : Type := type.objectType.Value

/-- The variations in which an event of the type is reported. -/
abbrev Variation : EventType → Type
  | .binary => EventBinaryVariation
  | .analog => EventAnalogVariation
  | .counter => EventCounterVariation
  | .frozenCounter => EventFrozenCounterVariation
  | .doubleBitBinary => EventDoubleBinaryVariation
  | .binaryOutputStatus => EventBinaryOutputStatusVariation
  | .analogOutputStatus => EventAnalogOutputStatusVariation
  | .octetString => EventOctetStringVariation

instance : (type : EventType) → DecidableEq type.Variation
  | .binary => inferInstanceAs (DecidableEq EventBinaryVariation)
  | .analog => inferInstanceAs (DecidableEq EventAnalogVariation)
  | .counter => inferInstanceAs (DecidableEq EventCounterVariation)
  | .frozenCounter => inferInstanceAs (DecidableEq EventFrozenCounterVariation)
  | .doubleBitBinary => inferInstanceAs (DecidableEq EventDoubleBinaryVariation)
  | .binaryOutputStatus => inferInstanceAs (DecidableEq EventBinaryOutputStatusVariation)
  | .analogOutputStatus => inferInstanceAs (DecidableEq EventAnalogOutputStatusVariation)
  | .octetString => inferInstanceAs (DecidableEq EventOctetStringVariation)

end EventType

end OpenDnp3.App
