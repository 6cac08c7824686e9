import OpenDnp3.App.HeaderWriter
import OpenDnp3.App.Parsing.APDUParser

/-!
# Command sets

The headers of commands that a master sends, and how they are written.
-/

set_option autoImplicit false

namespace OpenDnp3.App

open OpenDnp3.Library

/-- Only commands with an index before each of them. -/
def commandWhiteList : WhiteList := fun _ variation code =>
  (code == .uint8CntUint8Index || code == .uint16CntUint16Index) &&
    [.group12Var1, .group41Var1, .group41Var2, .group41Var3, .group41Var4].contains variation

end OpenDnp3.App

namespace OpenDnp3.Outstation

open OpenDnp3.App

def CommandResponseHandler.isAllowed : WhiteList := commandWhiteList

end OpenDnp3.Outstation

namespace OpenDnp3.Master

open OpenDnp3.App OpenDnp3.Library

inductive CommandPointState where
  | init
  | selectSuccess
  | selectMismatch
  | selectFail
  | operateFail
  | success
deriving DecidableEq, Repr, Inhabited

inductive IndexQualifierMode where
  | allowOneByte
  | alwaysTwoBytes
deriving DecidableEq, Repr, Inhabited

/-! ## Types of commands -/

/-- The objects that a command header may carry. -/
inductive CommandType where
  | controlRelayOutputBlock
  | analogOutputInt32
  | analogOutputInt16
  | analogOutputFloat32
  | analogOutputDouble64
deriving DecidableEq, Repr, Inhabited

namespace CommandType

def objectType : CommandType → ObjectType
  | .controlRelayOutputBlock => .controlRelayOutputBlock
  | .analogOutputInt32 => .analogOutputInt32
  | .analogOutputInt16 => .analogOutputInt16
  | .analogOutputFloat32 => .analogOutputFloat32
  | .analogOutputDouble64 => .analogOutputDouble64

abbrev Value (type : CommandType) : Type := type.objectType.Value

def descriptor : (type : CommandType) → Descriptor type.Value
  | .controlRelayOutputBlock => group12Var1
  | .analogOutputInt32 => group41Var1
  | .analogOutputInt16 => group41Var2
  | .analogOutputFloat32 => group41Var3
  | .analogOutputDouble64 => group41Var4

def serializer (type : CommandType) : DNP3Serializer type.Value := type.descriptor.inst

end CommandType

/-! ## Headers -/

/-- A command, and what is known of it. -/
structure CommandRecord (Value : Type) where
  state : CommandPointState := .init
  status : CommandStatus := .undefined
  index : UInt16
  command : Value

def CommandRecord.entry {Value : Type} (record : CommandRecord Value) : Indexed Value :=
  ⟨record.command, record.index⟩

/-- A header of commands. It is written with indices of one byte only if they all fit. -/
structure TypedCommandHeader (type : CommandType) where
  useSingleByteIndex : Bool
  records : List (CommandRecord type.Value)
  fits : useSingleByteIndex = true → ∀ record ∈ records, record.index.toNat ≤ 255

namespace TypedCommandHeader

variable {type : CommandType}

def empty (type : CommandType) : TypedCommandHeader type := ⟨true, [], by simp⟩

def entries (header : TypedCommandHeader type) : List (Indexed type.Value) :=
  header.records.map CommandRecord.entry

def add (header : TypedCommandHeader type) (command : type.Value) (index : UInt16) :
    TypedCommandHeader type where
  useSingleByteIndex := if index.toNat > 255 then false else header.useSingleByteIndex
  records := header.records ++ [{ index, command }]
  fits single record member := by
    by_cases large : index.toNat > 255
    · rw [if_pos large] at single
      cases single
    · rw [if_neg large] at single
      rcases List.mem_append.mp member with old | new
      · exact header.fits single record old
      · rw [List.mem_singleton.mp new]
        exact Nat.not_lt.mp large

/-- Indices of one byte are used if they all fit and the mode allows it. -/
def restrict (header : TypedCommandHeader type) (mode : IndexQualifierMode) :
    TypedCommandHeader type where
  useSingleByteIndex := header.useSingleByteIndex && mode == .allowOneByte
  records := header.records
  fits single := header.fits (Bool.and_eq_true_iff.mp single).1

def indexType (header : TypedCommandHeader type) : IndexType :=
  if header.useSingleByteIndex then .uint8 else .uint16

/-- Write one command after the other, until there is no room. -/
def writeRecords (iterator : PrefixedWriteIterator type.Value) (position : Cursor) :
    List (CommandRecord type.Value) → PrefixedWriteIterator type.Value × Cursor × Bool
  | [] => (iterator, position, iterator.isValid)
  | record :: records =>
      match iterator.write position record.command record.index with
      | none => (iterator, position, false)
      | some (iterator, position) => writeRecords iterator position records

/-- Write the header, and tell whether there was room for all of it. -/
def write (header : TypedCommandHeader type) (writer : HeaderWriter)
    (mode : IndexQualifierMode) : TypedCommandHeader type × HeaderWriter × Bool :=
  if header.records.isEmpty then
    (header, writer, false)
  else
    let header := header.restrict mode
    let (iterator, writer) := writer.iterateOverCountWithPrefix header.indexType
      header.indexType.countIndex type.serializer
    let (iterator, position, success) := writeRecords iterator writer.position header.records
    (header, { writer with position := iterator.finish position }, success)

end TypedCommandHeader

/-- A header of commands of some type. -/
abbrev CommandHeader := (type : CommandType) × TypedCommandHeader type

/-! ## Sets -/

structure CommandSet where
  headers : List CommandHeader := []

namespace CommandSet

def writeHeaders (mode : IndexQualifierMode) :
    HeaderWriter → List CommandHeader → List CommandHeader × HeaderWriter × Bool
  | writer, [] => ([], writer, true)
  | writer, ⟨type, header⟩ :: headers =>
      match header.write writer mode with
      | (header, writer, false) => (⟨type, header⟩ :: headers, writer, false)
      | (header, writer, true) =>
          let (others, writer, success) := writeHeaders mode writer headers
          (⟨type, header⟩ :: others, writer, success)

/-- Write the headers, until one of them is not written. -/
def write (set : CommandSet) (writer : HeaderWriter) (mode : IndexQualifierMode) :
    CommandSet × HeaderWriter × Bool :=
  let (headers, writer, success) := writeHeaders mode writer set.headers
  (⟨headers⟩, writer, success)

end CommandSet

end OpenDnp3.Master
