import OpenDnp3.Master.CommandSet

/-!
# Command responses

What the echoes of a select or an operate make of the commands of a set.
-/

set_option autoImplicit false

namespace OpenDnp3.App

/-! ## Equal values -/

/-- The control codes are compared by their meaning. -/
def ControlRelayOutputBlock.valuesEqual (crob other : ControlRelayOutputBlock) : Bool :=
  crob.functionCode == other.functionCode && crob.count == other.count &&
    crob.onTimeMS == other.onTimeMS && crob.offTimeMS == other.offTimeMS

def Single.isNaN (value : Single) : Bool := value.bits &&& 0x7FFFFFFF > 0x7F800000

/-- Equality of singles; both zeros are equal, and no NaN is equal to anything. -/
def Single.equals (value other : Single) : Bool :=
  !value.isNaN && !other.isNaN &&
    (value.bits == other.bits || (value.bits ||| other.bits) &&& 0x7FFFFFFF == 0)

def Double.isNaN (value : Double) : Bool := value.bits &&& 0x7FFFFFFFFFFFFFFF > 0x7FF0000000000000

def Double.equals (value other : Double) : Bool :=
  !value.isNaN && !other.isNaN &&
    (value.bits == other.bits || (value.bits ||| other.bits) &&& 0x7FFFFFFFFFFFFFFF == 0)

end OpenDnp3.App

namespace OpenDnp3.Master

open OpenDnp3.App OpenDnp3.Library

namespace CommandType

def valuesEqual : (type : CommandType) → type.Value → type.Value → Bool
  | .controlRelayOutputBlock, one, two => ControlRelayOutputBlock.valuesEqual one two
  | .analogOutputInt32, one, two => AnalogOutput.value one == AnalogOutput.value two
  | .analogOutputInt16, one, two => AnalogOutput.value one == AnalogOutput.value two
  | .analogOutputFloat32, one, two => Single.equals (AnalogOutput.value one) (AnalogOutput.value two)
  | .analogOutputDouble64, one, two => Double.equals (AnalogOutput.value one) (AnalogOutput.value two)

def status : (type : CommandType) → type.Value → CommandStatus
  | .controlRelayOutputBlock, value => ControlRelayOutputBlock.status value
  | .analogOutputInt32, value | .analogOutputInt16, value | .analogOutputFloat32, value
  | .analogOutputDouble64, value => AnalogOutput.status value

end CommandType

/-! ## Headers -/

namespace CommandRecord

variable {type : CommandType}

/-- An echo of a select. -/
def onSelect (record : CommandRecord type.Value) (item : Indexed type.Value) :
    CommandRecord type.Value :=
  if item.index ≠ record.index then record
  else if !type.valuesEqual item.value record.command then
    { record with state := .selectMismatch }
  else if type.status item.value ≠ .success then
    { record with state := .selectFail, status := type.status item.value }
  else if record.state = .init then { record with state := .selectSuccess }
  else record

/-- An echo of an operate. -/
def onOperate (record : CommandRecord type.Value) (item : Indexed type.Value) :
    CommandRecord type.Value :=
  if item.index ≠ record.index then record
  else if !type.valuesEqual item.value record.command then
    { record with state := .operateFail }
  else { record with state := .success, status := type.status item.value }

theorem entry_onSelect (record : CommandRecord type.Value) (item : Indexed type.Value) :
    (record.onSelect item).entry = record.entry := by
  rw [onSelect]
  split_ifs <;> rfl

theorem entry_onOperate (record : CommandRecord type.Value) (item : Indexed type.Value) :
    (record.onOperate item).entry = record.entry := by
  rw [onOperate]
  split_ifs <;> rfl

end CommandRecord

namespace TypedCommandHeader

variable {type : CommandType}

/-- Visit records and items side by side. -/
def visitRecords (visit : CommandRecord type.Value → Indexed type.Value → CommandRecord type.Value) :
    List (CommandRecord type.Value) → List (Indexed type.Value) → List (CommandRecord type.Value)
  | record :: records, item :: items => visit record item :: visitRecords visit records items
  | records, _ => records

theorem entry_visitRecords
    {visit : CommandRecord type.Value → Indexed type.Value → CommandRecord type.Value}
    (same : ∀ record item, (visit record item).entry = record.entry)
    (records : List (CommandRecord type.Value)) (items : List (Indexed type.Value)) :
    (visitRecords visit records items).map CommandRecord.entry =
      records.map CommandRecord.entry := by
  induction records generalizing items with
  | nil => rfl
  | cons record records ih =>
      cases items with
      | nil => rfl
      | cons item items => rw [visitRecords, List.map_cons, List.map_cons, same, ih]

/-- The same commands in other states. -/
def withRecords (header : TypedCommandHeader type) (records : List (CommandRecord type.Value))
    (same : records.map CommandRecord.entry = header.entries) : TypedCommandHeader type where
  useSingleByteIndex := header.useSingleByteIndex
  records := records
  fits single record member := by
    have kept := List.mem_map_of_mem (f := CommandRecord.entry) member
    rw [same] at kept
    obtain ⟨before, present, equal⟩ := List.mem_map.mp kept
    have index : before.index = record.index := congrArg Indexed.index equal
    rw [← index]
    exact header.fits single before present

def expectedQualifier (header : TypedCommandHeader type) : QualifierCode :=
  header.indexType.countIndex

def areAllSelected (header : TypedCommandHeader type) : Bool :=
  header.records.all fun record => record.state == .selectSuccess

/-- Echoes with another qualifier, and more of them than commands, count for nothing. -/
def applyResponse (visit : CommandRecord type.Value → Indexed type.Value → CommandRecord type.Value)
    (same : ∀ record item, (visit record item).entry = record.entry)
    (header : TypedCommandHeader type) (code : QualifierCode) (items : List (Indexed type.Value)) :
    TypedCommandHeader type :=
  if code ≠ header.expectedQualifier then header
  else if items.length > header.records.length then header
  else header.withRecords _ (entry_visitRecords same header.records items)

def applySelectResponse (header : TypedCommandHeader type) (code : QualifierCode)
    (items : List (Indexed type.Value)) : TypedCommandHeader type :=
  header.applyResponse CommandRecord.onSelect CommandRecord.entry_onSelect code items

def applyOperateResponse (header : TypedCommandHeader type) (code : QualifierCode)
    (items : List (Indexed type.Value)) : TypedCommandHeader type :=
  header.applyResponse CommandRecord.onOperate CommandRecord.entry_onOperate code items

end TypedCommandHeader

/-! ## Sets -/

inductive CommandMode where
  | select
  | operate
deriving DecidableEq, Repr

/-- A header is only told of objects of its own type. -/
def CommandHeader.applyResponse (mode : CommandMode) (code : QualifierCode) (type : ObjectType)
    (items : List (Indexed type.Value)) (header : CommandHeader) : CommandHeader :=
  if same : type = header.1.objectType then
    let items : List (Indexed header.1.Value) := cast (by rw [same]) items
    match mode with
    | .select => ⟨header.1, header.2.applySelectResponse code items⟩
    | .operate => ⟨header.1, header.2.applyOperateResponse code items⟩
  else header

inductive SelectResult where
  | ok
  | failParse
  | failSelect
deriving DecidableEq, Repr

inductive OperateResult where
  | ok
  | failParse
deriving DecidableEq, Repr

namespace CommandSet

/-- A set of commands as a user builds it, one header after the other. -/
def ofItems (items : List ((type : CommandType) × List (Indexed type.Value))) : CommandSet :=
  ⟨items.map fun ⟨type, commands⟩ =>
    ⟨type, commands.foldl (fun header item => header.add item.value item.index) (.empty type)⟩⟩

/-- A header of a response goes to the header of the set at its position, if there is one. -/
def processHeader (mode : CommandMode) (set : CommandSet) : Header → CommandSet
  | .prefixOf record _ type items =>
      ⟨set.headers.modify record.headerIndex
        (CommandHeader.applyResponse mode record.getQualifierCode type items)⟩
  | _ => set

def areAllSelected (set : CommandSet) : Bool :=
  set.headers.all fun header => header.2.areAllSelected

variable [FloatOps]

def processSelectResponse (set : CommandSet) (objects : List UInt8) : CommandSet × SelectResult :=
  match APDUParser.parse true commandWhiteList objects with
  | .error _ => (set, .failParse)
  | .ok headers =>
      let set := headers.foldl (processHeader .select) set
      (set, if set.areAllSelected then .ok else .failSelect)

def processOperateResponse (set : CommandSet) (objects : List UInt8) :
    CommandSet × OperateResult :=
  match APDUParser.parse true commandWhiteList objects with
  | .error _ => (set, .failParse)
  | .ok headers => (headers.foldl (processHeader .operate) set, .ok)

end CommandSet

end OpenDnp3.Master
