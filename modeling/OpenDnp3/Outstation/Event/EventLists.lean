import OpenDnp3.App.Measurements
import OpenDnp3.Library.NodeList

/-!
# Event lists

Events are stored twice: a generic record in a list that keeps the sequence of
events over all types, and a typed record in a list of its own type. Each of
the two points to the node of the other. The operations follow the pointers as
the source does; an operation on a pointer that leads nowhere does nothing, and
`EventLists.Valid` is what rules such pointers out.
-/

set_option autoImplicit false

namespace OpenDnp3.Outstation

open OpenDnp3.App OpenDnp3.Library

inductive EventState where
  | unselected
  | selected
  | written
deriving DecidableEq, Repr, Inhabited

/-- Generic event information. `serial` is not in the source: it is a ghost number that
tells a record apart from every other record stored before or after it. -/
structure EventRecord where
  index : UInt16
  clazz : EventClass
  state : EventState
  type : EventType
  storageNode : Nat
  serial : Nat
deriving DecidableEq, Repr

/-- Event details that vary by type. -/
structure TypedEventRecord (type : EventType) where
  value : type.Meas
  defaultVariation : type.Variation
  selectedVariation : type.Variation
  record : Nat

structure ClazzCount where
  numClass1 : UInt32
  numClass2 : UInt32
  numClass3 : UInt32
deriving DecidableEq, Repr

namespace ClazzCount

def zero : ClazzCount := ⟨0, 0, 0⟩

def get (count : ClazzCount) : EventClass → UInt32
  | .ec1 => count.numClass1
  | .ec2 => count.numClass2
  | .ec3 => count.numClass3

def increment (count : ClazzCount) : EventClass → ClazzCount
  | .ec1 => { count with numClass1 := count.numClass1 + 1 }
  | .ec2 => { count with numClass2 := count.numClass2 + 1 }
  | .ec3 => { count with numClass3 := count.numClass3 + 1 }

def decrement (count : ClazzCount) : EventClass → ClazzCount
  | .ec1 => { count with numClass1 := count.numClass1 - 1 }
  | .ec2 => { count with numClass2 := count.numClass2 - 1 }
  | .ec3 => { count with numClass3 := count.numClass3 - 1 }

end ClazzCount

structure EventClassCounters where
  total : ClazzCount
  written : ClazzCount
  selected : UInt32
deriving DecidableEq, Repr

namespace EventClassCounters

def zero : EventClassCounters := ⟨.zero, .zero, 0⟩

def onAdd (counters : EventClassCounters) (clazz : EventClass) : EventClassCounters :=
  { counters with total := counters.total.increment clazz }

def onSelect (counters : EventClassCounters) : EventClassCounters :=
  { counters with selected := counters.selected + 1 }

def onWrite (counters : EventClassCounters) (clazz : EventClass) : EventClassCounters :=
  { counters with
    selected := counters.selected - 1
    written := counters.written.increment clazz }

/-- Keep the total, but clear the selected and the written count. -/
def resetOnFail (counters : EventClassCounters) : EventClassCounters :=
  { counters with selected := 0, written := .zero }

def onRemove (counters : EventClassCounters) (clazz : EventClass) (state : EventState) :
    EventClassCounters :=
  let counters :=
    match state with
    | .selected => { counters with selected := counters.selected - 1 }
    | .written => { counters with written := counters.written.decrement clazz }
    | .unselected => counters
  { counters with total := counters.total.decrement clazz }

end EventClassCounters

/-- The number of events of each type that the buffer holds at most. -/
structure EventBufferConfig where
  maxBinaryEvents : UInt16
  maxDoubleBinaryEvents : UInt16
  maxAnalogEvents : UInt16
  maxCounterEvents : UInt16
  maxFrozenCounterEvents : UInt16
  maxBinaryOutputStatusEvents : UInt16
  maxAnalogOutputStatusEvents : UInt16
  maxOctetStringEvents : UInt16
deriving DecidableEq, Repr, Inhabited

namespace EventBufferConfig

def allTypes (sizes : UInt16) : EventBufferConfig :=
  ⟨sizes, sizes, sizes, sizes, sizes, sizes, sizes, sizes⟩

def maxEvents (config : EventBufferConfig) : EventType → UInt16
  | .binary => config.maxBinaryEvents
  | .analog => config.maxAnalogEvents
  | .counter => config.maxCounterEvents
  | .frozenCounter => config.maxFrozenCounterEvents
  | .doubleBitBinary => config.maxDoubleBinaryEvents
  | .binaryOutputStatus => config.maxBinaryOutputStatusEvents
  | .analogOutputStatus => config.maxAnalogOutputStatusEvents
  | .octetString => config.maxOctetStringEvents

def totalEvents (config : EventBufferConfig) : UInt32 :=
  config.maxBinaryEvents.toUInt32 + config.maxDoubleBinaryEvents.toUInt32 +
    config.maxAnalogEvents.toUInt32 + config.maxCounterEvents.toUInt32 +
    config.maxFrozenCounterEvents.toUInt32 + config.maxBinaryOutputStatusEvents.toUInt32 +
    config.maxAnalogOutputStatusEvents.toUInt32 + config.maxOctetStringEvents.toUInt32

end EventBufferConfig

structure EventLists where
  /-- The master list keeps the aggregate order and the generic data. -/
  events : NodeList EventRecord
  typed : (type : EventType) → NodeList (TypedEventRecord type)
  counters : EventClassCounters
  nextSerial : Nat

/-- A value to store as an event. -/
structure Event (type : EventType) where
  value : type.Meas
  index : UInt16
  clazz : EventClass
  variation : type.Variation

/-- What takes the events that are written out: a writer for each run of events of one
type and variation, made from the first of them, asked to encode one after the other. -/
structure EventWriteHandler (State : Type) where
  Writer : EventType → Type
  start : (type : EventType) → type.Variation → type.Meas → State → Writer type
  write : {type : EventType} → Writer type → type.Meas → UInt16 → Option (Writer type)
  finish : {type : EventType} → Writer type → State

namespace EventLists

def empty (config : EventBufferConfig) : EventLists where
  events := .empty config.totalEvents.toNat
  typed type := .empty (config.maxEvents type).toNat
  counters := .zero
  nextSerial := 0

def getList (lists : EventLists) (type : EventType) : NodeList (TypedEventRecord type) :=
  lists.typed type

def setList (lists : EventLists) (type : EventType) (list : NodeList (TypedEventRecord type)) :
    EventLists :=
  { lists with
    typed := fun other => if same : type = other then same ▸ list else lists.typed other }

def isFullAndCapacityNotZero (lists : EventLists) (type : EventType) : Bool :=
  (lists.getList type).isFull && decide (0 < (lists.getList type).capacity)

def isAnyTypeFull (lists : EventLists) : Bool :=
  EventType.all.any lists.isFullAndCapacityNotZero

/-- Remove a generic record and its typed record. -/
def release (lists : EventLists) (type : EventType) (typedNode recordNode : Nat)
    (record : EventRecord) : EventLists :=
  { lists.setList type ((lists.getList type).remove typedNode) with
    counters := lists.counters.onRemove record.clazz record.state
    events := lists.events.remove recordNode }

/-- Discard the oldest event of a type. -/
def makeSpace (lists : EventLists) (type : EventType) : EventLists :=
  match (lists.getList type).head? with
  | none => lists
  | some (typedNode, first) =>
      match lists.events.get? first.record with
      | none => lists
      | some record => lists.release type typedNode first.record record

/-- Create the generic record and the typed record of an event. `none` is a null node. -/
def append (lists : EventLists) {type : EventType} (event : Event type) : Option EventLists :=
  match lists.events.add
      ⟨event.index, event.clazz, .unselected, type, 0, lists.nextSerial⟩ with
  | none => none
  | some (recordNode, events) =>
      match (lists.getList type).add
          ⟨event.value, event.variation, event.variation, recordNode⟩ with
      | none => none
      | some (typedNode, list) =>
          some { lists.setList type list with
            events := events.modify recordNode
              (fun record => { record with storageNode := typedNode })
            counters := lists.counters.onAdd event.clazz
            nextSerial := lists.nextSerial + 1 }

/-- Store an event, and tell whether another one was discarded to make space. -/
def update (lists : EventLists) {type : EventType} (event : Event type) :
    Option (Bool × EventLists) :=
  if (lists.getList type).capacity = 0 then
    some (false, lists)
  else if lists.isFullAndCapacityNotZero type then
    ((lists.makeSpace type).append event).map (true, ·)
  else
    (lists.append event).map (false, ·)

/-- Select the event that a typed record belongs to. -/
def selectTyped (lists : EventLists) (type : EventType) (typedNode recordNode : Nat)
    (variation : type.Variation) : EventLists :=
  { lists.setList type ((lists.getList type).modify typedNode
      (fun typed => { typed with selectedVariation := variation })) with
    events := lists.events.modify recordNode (fun record => { record with state := .selected })
    counters := lists.counters.onSelect }

/-- Visit typed nodes and select what is not selected yet, at most `max` of them. -/
def selectNodes (type : EventType) (chosen : Option type.Variation) (max : Nat) :
    List Nat → Nat → EventLists → Nat × EventLists
  | [], numSelected, lists => (numSelected, lists)
  | typedNode :: rest, numSelected, lists =>
      if numSelected = max then
        (numSelected, lists)
      else
        match (lists.getList type).get? typedNode with
        | none => selectNodes type chosen max rest numSelected lists
        | some typed =>
            match lists.events.get? typed.record with
            | none => selectNodes type chosen max rest numSelected lists
            | some record =>
                if record.state = .unselected then
                  selectNodes type chosen max rest (numSelected + 1)
                    (lists.selectTyped type typedNode typed.record
                      (chosen.getD typed.defaultVariation))
                else
                  selectNodes type chosen max rest numSelected lists

/-- Select by type, in the given variation or else in each record's default variation. -/
def selectByType (lists : EventLists) (type : EventType) (chosen : Option type.Variation)
    (max : Nat) : Nat × EventLists :=
  selectNodes type chosen max (lists.getList type).slots 0 lists

/-- Select a record and leave the variation of its typed record as it is. -/
def selectRecord (lists : EventLists) (recordNode : Nat) : EventLists :=
  { lists with
    events := lists.events.modify recordNode (fun record => { record with state := .selected })
    counters := lists.counters.onSelect }

def selectClassNodes (clazz : ClassField) (max : Nat) :
    List Nat → Nat → EventLists → Nat × EventLists
  | [], numSelected, lists => (numSelected, lists)
  | node :: rest, numSelected, lists =>
      if numSelected < max then
        match lists.events.get? node with
        | none => selectClassNodes clazz max rest numSelected lists
        | some record =>
            if record.state = .unselected ∧ clazz.hasEventType record.clazz = true then
              selectClassNodes clazz max rest (numSelected + 1) (lists.selectRecord node)
            else
              selectClassNodes clazz max rest numSelected lists
      else
        (numSelected, lists)

def selectByClass (lists : EventLists) (clazz : ClassField) (max : Nat) : Nat × EventLists :=
  selectClassNodes clazz max lists.events.slots 0 lists

/-- Advance an iterator, the nodes still ahead of it, to the next selected record. -/
def findSelected (lists : EventLists) : List Nat → List Nat
  | [] => []
  | node :: rest =>
      if (lists.events.get? node).any (fun record => record.state == .selected) then
        node :: rest
      else
        findSelected lists rest

def markWritten (lists : EventLists) (recordNode : Nat) (clazz : EventClass) : EventLists :=
  { lists with
    counters := lists.counters.onWrite clazz
    events := lists.events.modify recordNode (fun record => { record with state := .written }) }

/-- The iterator over the master list, the lists and the writer of the current run. The serials
of the events that the writer took are a ghost. -/
structure Writing (Writer : Type) where
  iterator : List Nat
  lists : EventLists
  writer : Writer
  carried : List Nat

/-- Write the next selected event when it has the type and the variation of the run. -/
def writeOne {State : Type} (handler : EventWriteHandler State) (type : EventType)
    (variation : type.Variation) (writing : Writing (handler.Writer type)) :
    Bool × Writing (handler.Writer type) :=
  -- don't bother searching
  if writing.lists.counters.selected = 0 then
    (false, writing)
  else
    let iterator := writing.lists.findSelected writing.iterator
    let stopped := (false, { writing with iterator })
    match iterator with
    | [] => stopped
    | node :: rest =>
        match writing.lists.events.get? node with
        | none => stopped
        | some record =>
            if record.type ≠ type then
              stopped
            else
              match (writing.lists.getList type).get? record.storageNode with
              | none => stopped
              | some data =>
                  if data.selectedVariation ≠ variation then
                    stopped
                  else
                    match handler.write writing.writer data.value record.index with
                    | none => stopped
                    | some writer =>
                        (true, ⟨rest, writing.lists.markWritten node record.clazz, writer,
                          writing.carried ++ [record.serial]⟩)

/-- Write events of one run until one does not fit. Every success advances the iterator, so
its length is fuel enough. -/
def writeRun {State : Type} (handler : EventWriteHandler State) (type : EventType)
    (variation : type.Variation) :
    Nat → Writing (handler.Writer type) → UInt16 × Writing (handler.Writer type)
  | 0, writing => (0, writing)
  | fuel + 1, writing =>
      match writeOne handler type variation writing with
      | (false, writing) => (0, writing)
      | (true, writing) =>
          let (numWritten, last) := writeRun handler type variation fuel writing
          (numWritten + 1, last)

/-- Find the next selected event and write the run that it starts. -/
def writeSome {State : Type} (handler : EventWriteHandler State) (writing : Writing State) :
    UInt16 × Writing State :=
  -- don't bother searching
  if writing.lists.counters.selected = 0 then
    (0, writing)
  else
    let iterator := writing.lists.findSelected writing.iterator
    let stopped := (0, { writing with iterator })
    match iterator with
    | [] => stopped
    | node :: _ =>
        match writing.lists.events.get? node with
        | none => stopped
        | some record =>
            match (writing.lists.getList record.type).get? record.storageNode with
            | none => stopped
            | some data =>
                let writer := handler.start record.type data.selectedVariation data.value
                  writing.writer
                let (numWritten, last) := writeRun handler record.type data.selectedVariation
                  iterator.length ⟨iterator, writing.lists, writer, writing.carried⟩
                (numWritten, { last with writer := handler.finish last.writer })

/-- Write runs until one makes no progress. -/
def writeRuns {State : Type} (handler : EventWriteHandler State) :
    Nat → Writing State → UInt32 × Writing State
  | 0, writing => (0, writing)
  | fuel + 1, writing =>
      match writeSome handler writing with
      | (0, writing) => (0, writing)
      | (numWritten, writing) =>
          let (total, last) := writeRuns handler fuel writing
          (numWritten.toUInt32 + total, last)

/-- Write the selected events. Every run that makes progress advances the iterator. -/
def write {State : Type} (handler : EventWriteHandler State) (state : State)
    (lists : EventLists) : UInt32 × Writing State :=
  writeRuns handler (lists.events.size + 1) ⟨lists.events.slots, lists, state, []⟩

def clearNodes : List Nat → Nat → EventLists → Nat × EventLists
  | [], count, lists => (count, lists)
  | node :: rest, count, lists =>
      match lists.events.get? node with
      | none => clearNodes rest count lists
      | some record =>
          if record.state = .written then
            clearNodes rest (count + 1)
              (lists.release record.type record.storageNode node record)
          else
            clearNodes rest count lists

/-- Remove every written event. -/
def clearWritten (lists : EventLists) : Nat × EventLists :=
  clearNodes lists.events.slots 0 lists

def unselect (lists : EventLists) : EventLists :=
  { lists with
    events := lists.events.mapValues (fun record => { record with state := .unselected })
    counters := lists.counters.resetOnFail }

def numSelected (lists : EventLists) : UInt32 := lists.counters.selected

def numUnwritten (lists : EventLists) (clazz : EventClass) : UInt32 :=
  lists.counters.total.get clazz - lists.counters.written.get clazz

/-- The classes that have an event which is not written. -/
def unwrittenClassField (lists : EventLists) : ClassField :=
  ⟨false, 0 < lists.numUnwritten .ec1, 0 < lists.numUnwritten .ec2,
    0 < lists.numUnwritten .ec3⟩

end EventLists

end OpenDnp3.Outstation
