import OpenDnp3.Outstation.Database.DatabaseBuffers
import OpenDnp3.Outstation.Event.EventLists

/-!
# Database

Updates of points: which of them are events, and how they change the values that
later responses report.
-/

set_option autoImplicit false

namespace OpenDnp3.Outstation

open OpenDnp3.App OpenDnp3.Library

inductive EventMode where
  | detect
  | force
  | suppress
  | eventOnly
deriving DecidableEq, Repr, Inhabited

inductive FlagsType where
  | binaryInput
  | doubleBinaryInput
  | counter
  | frozenCounter
  | analogInput
  | binaryOutputStatus
  | analogOutputStatus
deriving DecidableEq, Repr, Inhabited

def FlagsType.staticType : FlagsType → StaticType
  | .binaryInput => .binary
  | .doubleBinaryInput => .doubleBitBinary
  | .counter => .counter
  | .frozenCounter => .frozenCounter
  | .analogInput => .analog
  | .binaryOutputStatus => .binaryOutputStatus
  | .analogOutputStatus => .analogOutputStatus

/-- An event of any type. -/
abbrev AnyEvent := (type : EventType) × Event type

def convertToEventClass : PointClass → Option EventClass
  | .class0 => none
  | .class1 => some .ec1
  | .class2 => some .ec2
  | .class3 => some .ec3

/-- The event that a point of a type leads to. -/
def eventOf : (type : StaticType) → type.Meas → UInt16 → EventClass → type.EventVariation →
    AnyEvent
  | .binary, value, index, clazz, variation => ⟨.binary, value, index, clazz, variation⟩
  | .doubleBitBinary, value, index, clazz, variation =>
      ⟨.doubleBitBinary, value, index, clazz, variation⟩
  | .counter, value, index, clazz, variation => ⟨.counter, value, index, clazz, variation⟩
  | .frozenCounter, value, index, clazz, variation =>
      ⟨.frozenCounter, value, index, clazz, variation⟩
  | .analog, value, index, clazz, variation => ⟨.analog, value, index, clazz, variation⟩
  | .binaryOutputStatus, value, index, clazz, variation =>
      ⟨.binaryOutputStatus, value, index, clazz, variation⟩
  | .analogOutputStatus, value, index, clazz, variation =>
      ⟨.analogOutputStatus, value, index, clazz, variation⟩
  | .octetString, value, index, clazz, variation => ⟨.octetString, value, index, clazz, variation⟩
  | .timeAndInterval, _, _, _, variation => variation.elim

/-- Whether two counters differ by more than a deadband. The difference is taken in 64 bits. -/
def exceeds (value other deadband : UInt32) : Bool :=
  let diff : UInt64 :=
    if value < other then other.toUInt64 - value.toUInt64 else value.toUInt64 - other.toUInt64
  deadband.toUInt64 < diff

/-- The flags that are overwritten. The other types have none. -/
def setFlags : (type : StaticType) → UInt8 → type.Meas → type.Meas
  | .binary, flags, value => { value with flags }
  | .doubleBitBinary, flags, value => { value with flags }
  | .counter, flags, value => { value with flags }
  | .frozenCounter, flags, value => { value with flags }
  | .analog, flags, value => { value with flags }
  | .binaryOutputStatus, flags, value => { value with flags }
  | .analogOutputStatus, flags, value => { value with flags }
  | .timeAndInterval, _, value => value
  | .octetString, _, value => value

variable [FloatOps]

/-- Whether a new value is an event, by the specific mechanism of its type. -/
def EventCell.isEvent : (type : StaticType) → EventCell type → type.Meas → Bool
  | .binary, cell, value => cell.lastEvent.flags != value.flags
  | .doubleBitBinary, cell, value => cell.lastEvent.flags != value.flags
  | .binaryOutputStatus, cell, value => cell.lastEvent.flags != value.flags
  | .counter, cell, value =>
      cell.lastEvent.flags != value.flags ||
        exceeds cell.lastEvent.value value.value cell.deadband
  | .frozenCounter, cell, value =>
      cell.lastEvent.flags != value.flags ||
        exceeds cell.lastEvent.value value.value cell.deadband
  | .analog, cell, value =>
      cell.lastEvent.flags != value.flags ||
        FloatOps.exceedsDeadband value.value cell.lastEvent.value cell.deadband
  | .analogOutputStatus, cell, value =>
      cell.lastEvent.flags != value.flags ||
        FloatOps.exceedsDeadband value.value cell.lastEvent.value cell.deadband
  | .octetString, cell, value => cell.lastEvent.bytes != value.bytes
  | .timeAndInterval, cell, _ => cell.evariation.elim

namespace Cell

variable {type : StaticType}

/-- There is no event for a point that is assigned to class zero. -/
def tryCreateEvent (cell : Cell type) (value : type.Meas) : Cell type × Option AnyEvent :=
  match cell.event with
  | none => (cell, none)
  | some event =>
      match convertToEventClass event.clazz with
      | none => (cell, none)
      | some clazz =>
          ({ cell with event := some { event with lastEvent := value } },
            some (eventOf type value cell.vIndex clazz event.evariation))

/-- The static value is always updated unless the mode is `eventOnly`. -/
def updateAny (cell : Cell type) (value : type.Meas) (mode : EventMode) :
    Cell type × Option AnyEvent :=
  match mode with
  | .force =>
      let (cell, event) := cell.tryCreateEvent value
      ({ cell with value }, event)
  | .eventOnly => cell.tryCreateEvent value
  | .detect =>
      let (cell, event) :=
        if cell.event.any fun event => event.isEvent type value then cell.tryCreateEvent value
        else (cell, none)
      ({ cell with value }, event)
  | .suppress => ({ cell with value }, none)

end Cell

/-- Update the flags of points, in the order of their positions. -/
def modifyFlags {type : StaticType} (flags : UInt8) :
    List Nat → ArrayView (Cell type) → ArrayView (Cell type) × List AnyEvent
  | [], view => (view, [])
  | position :: positions, view =>
      match view.get? position with
      | none => modifyFlags flags positions view
      | some cell =>
          let (updated, event) := cell.updateAny (setFlags type flags cell.value) .detect
          let (view, events) :=
            modifyFlags flags positions (view.modify position fun _ => updated)
          (view, event.toList ++ events)

namespace DatabaseBuffers

def getRawIndex (db : DatabaseBuffers) (type : StaticType) (index : UInt16) : Nat :=
  match db.indexMode with
  | .contiguous => index.toNat
  | .discontiguous =>
      let result := IndexSearch.findClosestRawIndex (db.points type).view index
      if result.isMatch then result.index else 65535

/-- What an update leaves: whether there is such a point, and the events. -/
structure Updated where
  found : Bool
  buffers : DatabaseBuffers
  events : List AnyEvent

def setView (db : DatabaseBuffers) (type : StaticType) (view : ArrayView (Cell type)) :
    DatabaseBuffers :=
  db.setPoints type { db.points type with view }

def updateEvent (db : DatabaseBuffers) (type : StaticType) (value : type.Meas) (index : UInt16)
    (mode : EventMode) : Updated :=
  let position := db.getRawIndex type index
  match (db.points type).view.get? position with
  | none => ⟨false, db, []⟩
  | some cell =>
      let (updated, event) := cell.updateAny value mode
      ⟨true, db.setView type ((db.points type).view.modify position fun _ => updated),
        event.toList⟩

/-- A time and interval has no event. -/
def updateTimeAndInterval (db : DatabaseBuffers) (value : TimeAndInterval) (index : UInt16) :
    Updated :=
  db.updateEvent .timeAndInterval value index .suppress

def modify (db : DatabaseBuffers) (flagsType : FlagsType) (start stop : UInt16)
    (flags : UInt8) : Updated :=
  let type := flagsType.staticType
  let view := (db.points type).view
  let first := db.getRawIndex type start
  let last := db.getRawIndex type stop
  if view.contains first && view.contains last && first ≤ last then
    let (view, events) := modifyFlags flags (List.range' first (last - first + 1)) view
    ⟨true, db.setView type view, events⟩
  else
    ⟨false, db, []⟩

end DatabaseBuffers

end OpenDnp3.Outstation
