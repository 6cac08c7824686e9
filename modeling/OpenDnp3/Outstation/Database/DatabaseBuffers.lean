import OpenDnp3.App.APDUHeader
import OpenDnp3.Outstation.Database.IndexSearch
import OpenDnp3.Outstation.Database.StaticWriters
import Mathlib.Logic.Function.Basic

/-!
# Database buffers

The points of an outstation, and which of them a response still has to report.
Points are selected with the value they have then; every load writes some of the
selected points and deselects them.
-/

set_option autoImplicit false

namespace OpenDnp3.Outstation

open OpenDnp3.App OpenDnp3.Library

inductive IndexMode where
  | contiguous
  | discontiguous
deriving DecidableEq, Repr, Inhabited

inductive AssignClassType where
  | binaryInput
  | doubleBinaryInput
  | counter
  | frozenCounter
  | analogInput
  | binaryOutputStatus
  | analogOutputStatus
deriving DecidableEq, Repr, Inhabited

def AssignClassType.staticType : AssignClassType → StaticType
  | .binaryInput => .binary
  | .doubleBinaryInput => .doubleBitBinary
  | .counter => .counter
  | .frozenCounter => .frozenCounter
  | .analogInput => .analog
  | .binaryOutputStatus => .binaryOutputStatus
  | .analogOutputStatus => .analogOutputStatus

namespace BinarySpec

def isQualityOnlineOnly (binary : Binary) : Bool := binary.flags &&& 0x7F == 0x01

end BinarySpec

def checkForPromotion : (type : StaticType) → type.Meas → type.Variation → type.Variation
  | .binary, value, variation =>
      if variation = .group1Var1 then
        if BinarySpec.isQualityOnlineOnly value then variation else .group1Var2
      else
        variation
  | .doubleBitBinary, _, variation => variation
  | .counter, _, variation => variation
  | .frozenCounter, _, variation => variation
  | .analog, _, variation => variation
  | .binaryOutputStatus, _, variation => variation
  | .analogOutputStatus, _, variation => variation
  | .timeAndInterval, _, variation => variation
  | .octetString, _, variation => variation

def rangeOf (size : Nat) : Range :=
  if 0 < size then ⟨0, UInt16.ofNat (size - 1)⟩ else .invalid

/-! ## Points of one type -/

/-- Remember the value a point has now, and the variation to report it in: the given one, or
else the one that is configured. -/
def Cell.select {type : StaticType} (variation : Option type.Variation) (cell : Cell type) :
    Cell type :=
  if cell.selection.selected then
    cell
  else
    { cell with
      selection :=
        ⟨true, cell.value, checkForPromotion type cell.value (variation.getD cell.svariation)⟩ }

/-- A point is put into a class, if it has events. -/
def Cell.assignClass {type : StaticType} (clazz : PointClass) (cell : Cell type) : Cell type :=
  { cell with event := cell.event.map fun event => { event with clazz } }

namespace RangeView

variable {type : StaticType}

/-- Change the points of a range. -/
def modifyRange (points : RangeView type) (range : Range) (change : Cell type → Cell type) :
    ArrayView (Cell type) :=
  points.view.modifyRange range.start.toNat range.stop.toNat change

/-- Whether there is a selected point in a range. -/
def anySelected (points : RangeView type) (range : Range) : Bool :=
  ((points.view.elements.take (range.stop.toNat + 1)).drop range.start.toNat).any
    fun cell => cell.selection.selected

def genericSelect (points : RangeView type) (range : Range)
    (variation : Option type.Variation) : IINField × RangeView type :=
  if range.isValid then
    let allowed := range.intersection (rangeOf points.view.size)
    if allowed.isValid then
      -- the code depends on whether the range was truncated to match the database
      let truncated := if allowed = range then IINField.empty else IINBit.paramError.field
      (if points.anySelected allowed then truncated.setBit .paramError else truncated,
        ⟨points.modifyRange allowed (Cell.select variation), points.range.union allowed⟩)
    else
      (IINBit.paramError.field, points)
  else
    (.empty, points)

def selectAll (points : RangeView type) (variation : Option type.Variation) :
    IINField × RangeView type :=
  points.genericSelect (rangeOf points.view.size) variation

def selectVirtualRange (points : RangeView type) (indexMode : IndexMode) (range : Range)
    (variation : Option type.Variation) : IINField × RangeView type :=
  match indexMode with
  | .contiguous => points.genericSelect range variation
  | .discontiguous =>
      let mapped := IndexSearch.findRawRange points.view range
      if mapped.isValid then
        -- detect if any values were requested that aren't actually there
        let clipped :=
          if range.count = mapped.count then IINField.empty else IINBit.paramError.field
        let (iin, points) := points.genericSelect mapped variation
        (clipped.or iin, points)
      else
        (IINBit.paramError.field, points)

def deselect (points : RangeView type) : RangeView type :=
  if points.range.isValid then
    ⟨points.modifyRange points.range Cell.deselect, .invalid⟩
  else
    points

def assignClassTo (points : RangeView type) (clazz : PointClass) (range : Range) :
    Range × RangeView type :=
  let clipped := range.intersection (rangeOf points.view.size)
  (clipped, { points with view := points.modifyRange clipped (Cell.assignClass clazz) })

/-- Load values and manipulate the range. A write without progress that leaves space is made
again and again: then the fuel, one more than there are points, runs out, and there is no
result. -/
def loadType [FloatOps] : Nat → HeaderWriter → RangeView type → Option (StaticLoad type)
  | 0, _, _ => none
  | fuel + 1, writer, points =>
      match points.front? with
      | none => some ⟨true, writer, points⟩
      | some cell =>
          if cell.selection.selected then
            let load := StaticWriters.get type cell.selection.variation cell writer points
            if load.spaceRemaining then loadType fuel load.writer load.points else some load
          else
            loadType fuel writer points.skip

end RangeView

/-! ## Points of all types -/

/-- The points of each type with their selected range, the types that belong to class zero, and
whether positions are indices. -/
structure DatabaseBuffers where
  points : (type : StaticType) → RangeView type
  class0 : StaticType → Bool
  indexMode : IndexMode

/-- The points, and the variation to report them in, that a group variation asks for. -/
def staticSelection : GroupVariation → Option ((type : StaticType) × Option type.Variation)
  | .group1Var0 => some ⟨.binary, none⟩
  | .group1Var1 => some ⟨.binary, some .group1Var1⟩
  | .group1Var2 => some ⟨.binary, some .group1Var2⟩
  | .group3Var0 => some ⟨.doubleBitBinary, none⟩
  | .group3Var2 => some ⟨.doubleBitBinary, some .group3Var2⟩
  | .group10Var0 => some ⟨.binaryOutputStatus, none⟩
  | .group10Var2 => some ⟨.binaryOutputStatus, some .group10Var2⟩
  | .group20Var0 => some ⟨.counter, none⟩
  | .group20Var1 => some ⟨.counter, some .group20Var1⟩
  | .group20Var2 => some ⟨.counter, some .group20Var2⟩
  | .group20Var5 => some ⟨.counter, some .group20Var5⟩
  | .group20Var6 => some ⟨.counter, some .group20Var6⟩
  | .group21Var0 => some ⟨.frozenCounter, none⟩
  | .group21Var1 => some ⟨.frozenCounter, some .group21Var1⟩
  | .group21Var2 => some ⟨.frozenCounter, some .group21Var2⟩
  | .group21Var5 => some ⟨.frozenCounter, some .group21Var5⟩
  | .group21Var6 => some ⟨.frozenCounter, some .group21Var6⟩
  | .group21Var9 => some ⟨.frozenCounter, some .group21Var9⟩
  | .group21Var10 => some ⟨.frozenCounter, some .group21Var10⟩
  | .group30Var0 => some ⟨.analog, none⟩
  | .group30Var1 => some ⟨.analog, some .group30Var1⟩
  | .group30Var2 => some ⟨.analog, some .group30Var2⟩
  | .group30Var3 => some ⟨.analog, some .group30Var3⟩
  | .group30Var4 => some ⟨.analog, some .group30Var4⟩
  | .group30Var5 => some ⟨.analog, some .group30Var5⟩
  | .group30Var6 => some ⟨.analog, some .group30Var6⟩
  | .group40Var0 => some ⟨.analogOutputStatus, none⟩
  | .group40Var1 => some ⟨.analogOutputStatus, some .group40Var1⟩
  | .group40Var2 => some ⟨.analogOutputStatus, some .group40Var2⟩
  | .group40Var3 => some ⟨.analogOutputStatus, some .group40Var3⟩
  | .group40Var4 => some ⟨.analogOutputStatus, some .group40Var4⟩
  | .group50Var4 => some ⟨.timeAndInterval, some .group50Var4⟩
  | .group110Var0 => some ⟨.octetString, none⟩
  | _ => none

namespace DatabaseBuffers

def setPoints (db : DatabaseBuffers) (type : StaticType) (points : RangeView type) :
    DatabaseBuffers :=
  { db with points := Function.update db.points type points }

/-- The types of class zero, in the order they are selected. -/
def class0Order : List StaticType :=
  [.binary, .doubleBitBinary, .counter, .frozenCounter, .analog, .binaryOutputStatus,
    .analogOutputStatus, .octetString, .timeAndInterval]

def selectAllClass0 (db : DatabaseBuffers) (type : StaticType) : DatabaseBuffers :=
  if db.class0 type then db.setPoints type ((db.points type).selectAll none).2 else db

def selectAll (db : DatabaseBuffers) (gv : GroupVariation) : IINField × DatabaseBuffers :=
  if gv = .group60Var1 then
    (.empty, class0Order.foldl selectAllClass0 db)
  else
    match staticSelection gv with
    | some ⟨type, variation⟩ =>
        let (iin, points) := (db.points type).selectAll variation
        (iin, db.setPoints type points)
    | none => (IINBit.funcNotSupported.field, db)

def selectRange (db : DatabaseBuffers) (gv : GroupVariation) (range : Range) :
    IINField × DatabaseBuffers :=
  -- octet strings of a range are selected in a given variation
  let selection :=
    if gv = .group110Var0 then some ⟨.octetString, some .group110Var0⟩ else staticSelection gv
  match selection with
  | some ⟨type, variation⟩ =>
      let (iin, points) := (db.points type).selectVirtualRange db.indexMode range variation
      (iin, db.setPoints type points)
  | none => (IINBit.funcNotSupported.field, db)

/-- The types that are deselected. -/
def unselectOrder : List StaticType :=
  [.binary, .doubleBitBinary, .counter, .frozenCounter, .analog, .binaryOutputStatus,
    .analogOutputStatus, .timeAndInterval]

/-- Unselect selected points. -/
def unselect (db : DatabaseBuffers) : DatabaseBuffers :=
  unselectOrder.foldl (fun db type => db.setPoints type (db.points type).deselect) db

/-- The types in the order they are loaded. -/
def loadOrder : List StaticType :=
  [.binary, .doubleBitBinary, .counter, .frozenCounter, .analog, .binaryOutputStatus,
    .analogOutputStatus, .timeAndInterval, .octetString]

def hasAnySelection (db : DatabaseBuffers) : Bool :=
  loadOrder.any fun type => (db.points type).range.isValid

/-- What a load leaves. -/
structure Load where
  complete : Bool
  writer : HeaderWriter
  buffers : DatabaseBuffers

def assignClassToRange (db : DatabaseBuffers) (type : AssignClassType) (clazz : PointClass)
    (range : Range) : Range × DatabaseBuffers :=
  let (clipped, points) := (db.points type.staticType).assignClassTo clazz range
  (clipped, db.setPoints type.staticType points)

def assignClassToAll (db : DatabaseBuffers) (type : AssignClassType) (clazz : PointClass) :
    Range × DatabaseBuffers :=
  db.assignClassToRange type clazz (rangeOf (db.points type.staticType).view.size)

variable [FloatOps]

/-- Load the points of one type. -/
def loadPoints (db : DatabaseBuffers) (type : StaticType) (writer : HeaderWriter) :
    Option Load :=
  ((db.points type).loadType ((db.points type).range.count + 1) writer).map fun load =>
    ⟨load.spaceRemaining, load.writer, db.setPoints type load.points⟩

/-- Load type after type; return early when the APDU is full. -/
def loadTypes : List StaticType → HeaderWriter → DatabaseBuffers → Option Load
  | [], writer, db => some ⟨true, writer, db⟩
  | type :: types, writer, db =>
      (db.loadPoints type writer).bind fun load =>
        if load.complete then loadTypes types load.writer load.buffers else some load

def load (db : DatabaseBuffers) (writer : HeaderWriter) : Option Load :=
  loadTypes loadOrder writer db

end DatabaseBuffers

end OpenDnp3.Outstation
