import OpenDnp3.App.Measurements

/-!
# Cells

The points of an outstation: their current values, their configuration, and
what of them is selected for a response.
-/

set_option autoImplicit false

namespace OpenDnp3.Outstation

open OpenDnp3.App

inductive StaticBinaryVariation where
  | group1Var1
  | group1Var2
deriving DecidableEq, Repr, Inhabited

inductive StaticDoubleBinaryVariation where
  | group3Var2
deriving DecidableEq, Repr, Inhabited

inductive StaticCounterVariation where
  | group20Var1
  | group20Var2
  | group20Var5
  | group20Var6
deriving DecidableEq, Repr, Inhabited

inductive StaticFrozenCounterVariation where
  | group21Var1
  | group21Var2
  | group21Var5
  | group21Var6
  | group21Var9
  | group21Var10
deriving DecidableEq, Repr, Inhabited

inductive StaticAnalogVariation where
  | group30Var1
  | group30Var2
  | group30Var3
  | group30Var4
  | group30Var5
  | group30Var6
deriving DecidableEq, Repr, Inhabited

inductive StaticBinaryOutputStatusVariation where
  | group10Var2
deriving DecidableEq, Repr, Inhabited

inductive StaticAnalogOutputStatusVariation where
  | group40Var1
  | group40Var2
  | group40Var3
  | group40Var4
deriving DecidableEq, Repr, Inhabited

inductive StaticTimeAndIntervalVariation where
  | group50Var4
deriving DecidableEq, Repr, Inhabited

inductive StaticOctetStringVariation where
  | group110Var0
deriving DecidableEq, Repr, Inhabited

/-- The types of points, in the order they are loaded. -/
inductive StaticType where
  | binary
  | doubleBitBinary
  | counter
  | frozenCounter
  | analog
  | binaryOutputStatus
  | analogOutputStatus
  | timeAndInterval
  | octetString
deriving DecidableEq, Repr, Inhabited

inductive PointClass where
  | class0
  | class1
  | class2
  | class3
deriving DecidableEq, Repr, Inhabited

namespace StaticType

abbrev objectType : StaticType → ObjectType
  | .binary => .binary
  | .doubleBitBinary => .doubleBitBinary
  | .counter => .counter
  | .frozenCounter => .frozenCounter
  | .analog => .analog
  | .binaryOutputStatus => .binaryOutputStatus
  | .analogOutputStatus => .analogOutputStatus
  | .timeAndInterval => .timeAndInterval
  | .octetString => .octetString

abbrev Meas (type : StaticType) : Type := type.objectType.Value

abbrev Variation : StaticType → Type
  | .binary => StaticBinaryVariation
  | .doubleBitBinary => StaticDoubleBinaryVariation
  | .counter => StaticCounterVariation
  | .frozenCounter => StaticFrozenCounterVariation
  | .analog => StaticAnalogVariation
  | .binaryOutputStatus => StaticBinaryOutputStatusVariation
  | .analogOutputStatus => StaticAnalogOutputStatusVariation
  | .timeAndInterval => StaticTimeAndIntervalVariation
  | .octetString => StaticOctetStringVariation

instance : (type : StaticType) → DecidableEq type.Variation
  | .binary => inferInstanceAs (DecidableEq StaticBinaryVariation)
  | .doubleBitBinary => inferInstanceAs (DecidableEq StaticDoubleBinaryVariation)
  | .counter => inferInstanceAs (DecidableEq StaticCounterVariation)
  | .frozenCounter => inferInstanceAs (DecidableEq StaticFrozenCounterVariation)
  | .analog => inferInstanceAs (DecidableEq StaticAnalogVariation)
  | .binaryOutputStatus => inferInstanceAs (DecidableEq StaticBinaryOutputStatusVariation)
  | .analogOutputStatus => inferInstanceAs (DecidableEq StaticAnalogOutputStatusVariation)
  | .timeAndInterval => inferInstanceAs (DecidableEq StaticTimeAndIntervalVariation)
  | .octetString => inferInstanceAs (DecidableEq StaticOctetStringVariation)

def defaultStaticVariation : (type : StaticType) → type.Variation
  | .binary => .group1Var2
  | .doubleBitBinary => .group3Var2
  | .counter => .group20Var1
  | .frozenCounter => .group21Var1
  | .analog => .group30Var1
  | .binaryOutputStatus => .group10Var2
  | .analogOutputStatus => .group40Var1
  | .timeAndInterval => .group50Var4
  | .octetString => .group110Var0

/-- The variations of the events of a type. Points without events have none. -/
abbrev EventVariation : StaticType → Type
  | .binary => EventBinaryVariation
  | .doubleBitBinary => EventDoubleBinaryVariation
  | .counter => EventCounterVariation
  | .frozenCounter => EventFrozenCounterVariation
  | .analog => EventAnalogVariation
  | .binaryOutputStatus => EventBinaryOutputStatusVariation
  | .analogOutputStatus => EventAnalogOutputStatusVariation
  | .timeAndInterval => Empty
  | .octetString => EventOctetStringVariation

/-- How far a value may move before it is an event, for the types that have a deadband. -/
abbrev Deadband : StaticType → Type
  | .counter => UInt32
  | .frozenCounter => UInt32
  | .analog => Double
  | .analogOutputStatus => Double
  | _ => Unit

end StaticType

/-- What is configured of the events of a point, and the value of the last one. -/
structure EventCell (type : StaticType) where
  clazz : PointClass
  evariation : type.EventVariation
  deadband : type.Deadband
  lastEvent : type.Meas

/-- Whether a value is requested in a response, as it was then. -/
structure SelectedValue (type : StaticType) where
  selected : Bool
  value : type.Meas
  variation : type.Variation

structure Cell (type : StaticType) where
  value : type.Meas
  vIndex : UInt16
  svariation : type.Variation
  event : Option (EventCell type)
  selection : SelectedValue type

namespace SelectedValue

def none (type : StaticType) : SelectedValue type := ⟨false, default, type.defaultStaticVariation⟩

end SelectedValue

namespace Cell

variable {type : StaticType}

def deselect (cell : Cell type) : Cell type :=
  { cell with selection := { cell.selection with selected := false } }

@[simp] theorem selected_deselect (cell : Cell type) :
    cell.deselect.selection.selected = false := rfl

end Cell

end OpenDnp3.Outstation
