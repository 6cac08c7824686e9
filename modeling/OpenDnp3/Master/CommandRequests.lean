import OpenDnp3.App.HeaderWriterProperties
import OpenDnp3.App.Parsing.APDUParserProperties
import OpenDnp3.Master.CommandSet

/-!
# Command requests

A set of commands that was written is parsed as the same headers, as long as the
count of each header fits in the field that it is written to.
-/

set_option autoImplicit false

namespace OpenDnp3.Master

open OpenDnp3.App OpenDnp3.Library

theorem kept_objectAnalogOutput {Value : Type} (id : GroupVariationID) {codec : Codec Value}
    (faithful : ∀ value, codec.kept value = value) (command : AnalogOutput Value) :
    (objectAnalogOutput id codec).codec.kept command = command := by
  simp [objectAnalogOutput, Codec.map, faithful]

namespace CommandType

/-- A command keeps every field when it is written. -/
theorem kept_command (type : CommandType) (value : type.Value) :
    type.descriptor.codec.kept value = value := by
  cases type with
  | controlRelayOutputBlock =>
      change group12Var1.codec.kept value = value
      simp only [group12Var1, Codec.map, Codec.kept_both, Codec.kept_u8, Codec.kept_u32,
        CommandStatus.fromType_toType]
      rfl
  | analogOutputInt32 => exact kept_objectAnalogOutput _ Codec.kept_i32 value
  | analogOutputInt16 => exact kept_objectAnalogOutput _ Codec.kept_i16 value
  | analogOutputFloat32 => exact kept_objectAnalogOutput _ Codec.kept_single value
  | analogOutputDouble64 => exact kept_objectAnalogOutput _ Codec.kept_double value

theorem prefixObjects [FloatOps] (type : CommandType) :
    type.serializer.id.enumeration.prefixObjects =
      some (.fixedSize ⟨type.objectType, type.descriptor.codec⟩) := by
  cases type <;> rfl

/-- The outstation accepts every type of command. -/
theorem isAllowed (type : CommandType) (index : IndexType) (position headerIndex : Nat) :
    Outstation.CommandResponseHandler.isAllowed headerIndex
      (recordOf type.serializer.id index.countIndex position).enumeration
      (recordOf type.serializer.id index.countIndex position).getQualifierCode = true := by
  cases type <;> cases index <;> rfl

end CommandType

/-! ## Headers -/

namespace TypedCommandHeader

variable {type : CommandType}

/-- The header that the outstation is meant to read. -/
def requested (header : TypedCommandHeader type) (mode : IndexQualifierMode) (position : Nat) :
    Header :=
  .prefixOf (recordOf type.serializer.id (header.restrict mode).indexType.countIndex position)
    (UInt16.ofNat header.records.length) type.objectType header.entries

/-- The count of the header fits in the field that it is written to. -/
def Countable (mode : IndexQualifierMode) (header : TypedCommandHeader type) : Prop :=
  header.records.length ≤ (header.restrict mode).indexType.max

theorem index_le_max (header : TypedCommandHeader type) :
    ∀ entry ∈ header.entries, entry.index.toNat ≤ header.indexType.max := by
  intro entry member
  obtain ⟨record, present, rfl⟩ := List.mem_map.mp member
  rw [indexType]
  cases single : header.useSingleByteIndex with
  | true => exact header.fits single record present
  | false => exact Nat.le_of_lt_succ record.index.toNat_lt

/-- Every record is behind the header once they are all written. -/
theorem writeRecords_holds {iterator : PrefixedWriteIterator type.Value} {position : Cursor}
    {index : IndexType} {origin : List UInt8} {entries : List (Indexed type.Value)}
    (holds : iterator.Holds position index origin type.serializer entries)
    (records : List (CommandRecord type.Value))
    (success : (writeRecords iterator position records).2.2 = true) :
    (writeRecords iterator position records).1.Holds (writeRecords iterator position records).2.1
      index origin type.serializer (entries ++ records.map CommandRecord.entry) := by
  induction records generalizing iterator position entries with
  | nil => simpa [writeRecords] using holds
  | cons record records ih =>
      rw [writeRecords] at success ⊢
      cases written : iterator.write position record.command record.index with
      | none =>
          rw [written] at success
          cases success
      | some next =>
          rw [written] at success
          have more := ih (holds.write written) success
          rw [List.append_assoc] at more
          exact more

theorem writeRecords_of_invalid {iterator : PrefixedWriteIterator type.Value}
    (invalid : iterator.isValid = false) (position : Cursor)
    (records : List (CommandRecord type.Value)) :
    (writeRecords iterator position records).2.2 = false := by
  cases records with
  | nil => exact invalid
  | cons record records => simp [writeRecords, PrefixedWriteIterator.write, invalid]

/-- A header that was written has commands, and all of them stand behind it. -/
theorem write_written (header : TypedCommandHeader type) (writer : HeaderWriter)
    (mode : IndexQualifierMode) (success : (header.write writer mode).2.2 = true) :
    header.entries ≠ [] ∧
      (header.write writer mode).2.1.position.written =
        writer.position.written ++
          prefixedBytes (header.restrict mode).indexType type.serializer header.entries := by
  rw [write] at success ⊢
  by_cases empty : header.records.isEmpty = true
  · rw [if_pos empty] at success
    cases success
  · rw [if_neg empty] at success ⊢
    have present : header.entries ≠ [] := by
      simpa [entries] using empty
    refine ⟨present, ?_⟩
    rcases made : writer.iterateOverCountWithPrefix (header.restrict mode).indexType
      (header.restrict mode).indexType.countIndex type.serializer with ⟨iterator, started⟩
    simp only [made] at success ⊢
    rcases writer.iterateOverCountWithPrefix_cases _ _ made with ⟨invalid, _⟩ | start
    · rw [writeRecords_of_invalid invalid] at success
      cases success
    · have holds := writeRecords_holds start.holds (header.restrict mode).records success
      rw [List.nil_append] at holds
      exact holds.finish

/-- Records are written as long as there is room. -/
theorem writeRecords_of_room {iterator : PrefixedWriteIterator type.Value} {position : Cursor}
    {index : IndexType} {origin : List UInt8} {entries : List (Indexed type.Value)}
    (holds : iterator.Holds position index origin type.serializer entries)
    (records : List (CommandRecord type.Value))
    (room : records.length * (type.serializer.size + index.size) ≤ position.size) :
    (writeRecords iterator position records).2.2 = true := by
  induction records generalizing iterator position entries with
  | nil => exact holds.isValid
  | cons record records ih =>
      rw [List.length_cons, Nat.succ_mul] at room
      have sized : (type.serializer.write record.command).length = type.serializer.size :=
        type.descriptor.codec.length_write record.command
      obtain ⟨next, written, held, size⟩ :=
        holds.write_of_room record.command record.index sized (by omega)
      rw [writeRecords, written]
      refine ih held ?_
      rw [size]
      omega

/-- A header with commands is written when there is room for all of them. -/
theorem write_of_room (header : TypedCommandHeader type) (writer : HeaderWriter)
    (mode : IndexQualifierMode) (present : header.records ≠ [])
    (room : 3 + (header.restrict mode).indexType.size + header.records.length *
      (type.serializer.size + (header.restrict mode).indexType.size) ≤ writer.position.size) :
    (header.write writer mode).2.2 = true := by
  have positive := List.length_pos_iff.mpr present
  have first := Nat.le_mul_of_pos_left
    (type.serializer.size + (header.restrict mode).indexType.size) positive
  have nonempty : ¬header.records.isEmpty = true := by simpa using present
  rw [write, if_neg nonempty]
  obtain ⟨valid, size⟩ := writer.iterateOverCountWithPrefix_of_room
    (header.restrict mode).indexType type.serializer (by omega)
  rcases made : writer.iterateOverCountWithPrefix (header.restrict mode).indexType
    (header.restrict mode).indexType.countIndex type.serializer with ⟨iterator, started⟩
  rw [made] at valid size
  rcases writer.iterateOverCountWithPrefix_cases _ _ made with ⟨invalid, _⟩ | start
  · rw [invalid] at valid
    cases valid
  · have left : started.position.size = writer.position.size -
        (3 + (header.restrict mode).indexType.size) := size
    simp only [made]
    refine writeRecords_of_room start.holds header.records ?_
    change header.records.length * _ ≤ started.position.size
    omega

/-- The bytes of a header that can be counted are read as the header that is meant. -/
theorem parseHeader_requested [FloatOps] {header : TypedCommandHeader type}
    {mode : IndexQualifierMode} (present : header.entries ≠ [])
    (countable : header.Countable mode) (position : Nat) (after : List UInt8) :
    APDUParser.parseHeader true none position
      (prefixedBytes (header.restrict mode).indexType type.serializer header.entries ++ after) =
      .ok (header.requested mode position, after) := by
  have parsed := parseHeader_prefixedObjects (header.restrict mode).indexType
    ⟨type.objectType, type.descriptor.codec⟩ type.prefixObjects present
    (by rw [entries, List.length_map]; exact countable) (header.restrict mode).index_le_max
    position after
  have same : header.entries.map (fun entry =>
      (⟨type.descriptor.codec.kept entry.value, entry.index⟩ : Indexed type.Value)) =
        header.entries := by
    simp only [type.kept_command, List.map_id']
  rw [same, entries, List.length_map] at parsed
  exact parsed

/-- A header that is read as it was meant can be counted. -/
theorem countable_of_counted {header : TypedCommandHeader type} {mode : IndexQualifierMode}
    {position : Nat} (counted : (header.requested mode position).Counted)
    (narrow : (header.requested mode position).Narrow) : header.Countable mode := by
  have length : header.records.length = (UInt16.ofNat header.records.length).toNat := by
    simpa [requested, Header.Counted, entries] using counted
  rw [Countable]
  cases index : (header.restrict mode).indexType with
  | uint8 =>
      have small := narrow (by rw [index, getQualifierCode_recordOf]; rfl)
      rw [← length] at small
      exact Nat.le_of_lt_succ small
  | uint16 =>
      rw [length]
      exact Nat.le_of_lt_succ (UInt16.toNat_lt _)

end TypedCommandHeader

/-! ## Sets -/

namespace CommandSet

/-- The headers that the outstation is meant to read. -/
def requestedFrom (mode : IndexQualifierMode) : Nat → List CommandHeader → List Header
  | _, [] => []
  | position, ⟨_, header⟩ :: headers =>
      header.requested mode position :: requestedFrom mode (position + 1) headers

def requested (set : CommandSet) (mode : IndexQualifierMode) : List Header :=
  requestedFrom mode 0 set.headers

theorem writeHeaders_parses [FloatOps] (mode : IndexQualifierMode) (headers : List CommandHeader)
    (writer : HeaderWriter) (position : Nat)
    (success : (writeHeaders mode writer headers).2.2 = true)
    (countable : ∀ header ∈ headers, header.2.Countable mode) :
    ∃ bytes, (writeHeaders mode writer headers).2.1.position.written =
        writer.position.written ++ bytes ∧
      Parses true position bytes (requestedFrom mode position headers) := by
  induction headers generalizing writer position with
  | nil => exact ⟨[], by simp [writeHeaders], .nil⟩
  | cons header headers ih =>
      obtain ⟨type, header⟩ := header
      obtain ⟨here, others⟩ := List.forall_mem_cons.mp countable
      have one := header.write_written writer mode
      rw [writeHeaders] at success ⊢
      rcases result : header.write writer mode with ⟨after, next, done⟩
      rw [result] at one success
      cases done with
      | false => cases success
      | true =>
          obtain ⟨present, complete⟩ := one rfl
          obtain ⟨bytes, written, parses⟩ := ih next (position + 1) success others
          refine ⟨prefixedBytes (header.restrict mode).indexType type.serializer header.entries ++
            bytes, ?_, .cons (fun after =>
              TypedCommandHeader.parseHeader_requested present here position after) parses⟩
          rw [← List.append_assoc, ← complete]
          exact written

theorem countable_of_parsed {mode : IndexQualifierMode} {headers : List CommandHeader}
    {position : Nat}
    (counted : ∀ header ∈ requestedFrom mode position headers, header.Counted ∧ header.Narrow) :
    ∀ header ∈ headers, header.2.Countable mode := by
  induction headers generalizing position with
  | nil => simp
  | cons header headers ih =>
      obtain ⟨type, header⟩ := header
      obtain ⟨⟨full, narrow⟩, others⟩ := List.forall_mem_cons.mp counted
      exact List.forall_mem_cons.mpr
        ⟨TypedCommandHeader.countable_of_counted full narrow, ih others⟩

theorem isAllowed_requestedFrom (mode : IndexQualifierMode) (headers : List CommandHeader)
    (position : Nat) :
    ∀ header ∈ requestedFrom mode position headers,
      Outstation.CommandResponseHandler.isAllowed header.record.headerIndex
        header.record.enumeration header.record.getQualifierCode = true := by
  induction headers generalizing position with
  | nil => simp [requestedFrom]
  | cons header headers ih =>
      obtain ⟨type, header⟩ := header
      exact List.forall_mem_cons.mpr ⟨type.isAllowed _ position _, ih (position + 1)⟩

/-- A set of commands that is written into a buffer is read as the same headers exactly when the
count of each header fits in the field that it is written to. -/
theorem write_parses_iff [FloatOps] (set : CommandSet) (mode : IndexQualifierMode)
    (buffer : List UInt8)
    (success : (set.write ⟨⟨[], buffer⟩, none⟩ mode).2.2 = true) :
    APDUParser.parse true Outstation.CommandResponseHandler.isAllowed
        (set.write ⟨⟨[], buffer⟩, none⟩ mode).2.1.position.written = .ok (set.requested mode) ↔
      ∀ header ∈ set.headers, header.2.Countable mode := by
  constructor
  · intro parsed
    exact countable_of_parsed (APDUParser.parses_of_parse parsed).2
  · intro countable
    obtain ⟨bytes, written, parses⟩ := writeHeaders_parses mode set.headers _ 0 success countable
    rw [List.nil_append] at written
    rw [show (set.write ⟨⟨[], buffer⟩, none⟩ mode).2.1.position.written = bytes from written]
    exact APDUParser.parse_of_allowed parses (isAllowed_requestedFrom mode set.headers 0)

theorem writeHeaders_singleton (mode : IndexQualifierMode) (writer : HeaderWriter)
    {type : CommandType} (header : TypedCommandHeader type) :
    (writeHeaders mode writer [⟨type, header⟩]).2.2 = (header.write writer mode).2.2 := by
  rw [writeHeaders]
  rcases header.write writer mode with ⟨after, next, done⟩
  cases done <;> rfl

/-- One analog output to the point 0, again and again. -/
def repeatedHeader (count : Nat) : TypedCommandHeader .analogOutputInt16 where
  useSingleByteIndex := true
  records := List.replicate count { index := 0, command := ⟨0, .success⟩ }
  fits _ record member := by
    rw [List.eq_of_mem_replicate member]
    decide

def repeated (count : Nat) : CommandSet := ⟨[⟨.analogOutputInt16, repeatedHeader count⟩]⟩

theorem repeated_written {count : Nat} (positive : 0 < count) {buffer : List UInt8}
    (room : 4 + count * 4 ≤ buffer.length) :
    ((repeated count).write ⟨⟨[], buffer⟩, none⟩ .allowOneByte).2.2 = true := by
  have length : (repeatedHeader count).records.length = count := List.length_replicate
  refine (writeHeaders_singleton _ _ (repeatedHeader count)).trans
    (TypedCommandHeader.write_of_room _ _ _ ?_ ?_)
  · rw [← List.length_pos_iff, length]
    exact positive
  · rw [length]
    exact room

/-- 256 commands fit in a fragment of 2048 bytes, and are written with a count of zero. -/
theorem repeated_256_not_parsed :
    ¬(((repeated 256).write ⟨⟨[], List.replicate 2046 0⟩, none⟩ .allowOneByte).2.2 = true →
      @APDUParser.parse .atZero true Outstation.CommandResponseHandler.isAllowed
        ((repeated 256).write ⟨⟨[], List.replicate 2046 0⟩, none⟩
          .allowOneByte).2.1.position.written =
        .ok ((repeated 256).requested .allowOneByte)) := by
  intro agrees
  have written := repeated_written (show 0 < 256 by decide)
    (show 4 + 256 * 4 ≤ (List.replicate 2046 (0 : UInt8)).length by
      rw [List.length_replicate]
      decide)
  have all := countable_of_parsed
    (@APDUParser.parses_of_parse .atZero _ _ _ _ (agrees written)).2
  have few := all _ List.mem_cons_self
  have length : (repeatedHeader 256).records.length = 256 := List.length_replicate
  change (repeatedHeader 256).records.length ≤ 255 at few
  rw [length] at few
  exact absurd few (by decide)

/-- 255 commands are read as they are meant. -/
theorem repeated_255_parsed :
    @APDUParser.parse .atZero true Outstation.CommandResponseHandler.isAllowed
        ((repeated 255).write ⟨⟨[], List.replicate 2046 0⟩, none⟩
          .allowOneByte).2.1.position.written =
      .ok ((repeated 255).requested .allowOneByte) := by
  refine (@write_parses_iff .atZero _ _ _ (repeated_written (by decide)
    (by rw [List.length_replicate]; decide))).mpr ?_
  intro header member
  rw [List.mem_singleton.mp member]
  exact Nat.le_of_eq List.length_replicate

end CommandSet

end OpenDnp3.Master
