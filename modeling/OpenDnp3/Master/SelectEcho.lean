import OpenDnp3.Master.CommandRequests
import OpenDnp3.Master.CommandSetOps

/-!
# Echoes of a select

A response that selects all commands repeats each of them, in order. What is
repeated is what the comparison of values looks at.
-/

set_option autoImplicit false

namespace OpenDnp3.Master

open OpenDnp3.App OpenDnp3.Library

/-! ## Echoes -/

namespace CommandType

/-- Every field but the status is the same. -/
def SameFields : (type : CommandType) → type.Value → type.Value → Prop
  | .controlRelayOutputBlock, one, two =>
      ControlRelayOutputBlock.rawCode one = ControlRelayOutputBlock.rawCode two ∧
        ControlRelayOutputBlock.count one = ControlRelayOutputBlock.count two ∧
        ControlRelayOutputBlock.onTimeMS one = ControlRelayOutputBlock.onTimeMS two ∧
        ControlRelayOutputBlock.offTimeMS one = ControlRelayOutputBlock.offTimeMS two
  | .analogOutputInt32, one, two => AnalogOutput.value one = AnalogOutput.value two
  | .analogOutputInt16, one, two => AnalogOutput.value one = AnalogOutput.value two
  | .analogOutputFloat32, one, two => AnalogOutput.value one = AnalogOutput.value two
  | .analogOutputDouble64, one, two => AnalogOutput.value one = AnalogOutput.value two

/-- What the comparison of values finds to be the same. -/
def SameValues (type : CommandType) (one two : type.Value) : Prop :=
  type.valuesEqual one two = true

/-- Commands without floating point. -/
def Discrete (type : CommandType) : Prop :=
  type = .controlRelayOutputBlock ∨ type = .analogOutputInt32 ∨ type = .analogOutputInt16

end CommandType

/-- A type of commands with the commands of a header. -/
abbrev CommandItems := (type : CommandType) × List (Indexed type.Value)

abbrev Agreement := (type : CommandType) → type.Value → type.Value → Prop

/-- An echo repeats a command with success. -/
structure Repeats (agrees : Agreement) {type : CommandType} (command echo : Indexed type.Value) :
    Prop where
  index : echo.index = command.index
  value : agrees type echo.value command.value
  status : type.status echo.value = .success

/-- A header of a response repeats the commands of a header one by one. -/
inductive RepeatsHeader (agrees : Agreement) : CommandItems → Header → Prop
  | intro {type : CommandType} {commands echoes : List (Indexed type.Value)}
      (record : HeaderRecord) (count : UInt16)
      (repeats : List.Forall₂ (Repeats agrees) commands echoes) :
      RepeatsHeader agrees ⟨type, commands⟩ (.prefixOf record count type.objectType echoes)

/-- The headers of a response repeat the headers of a set one by one. More may follow. -/
def Echoes (agrees : Agreement) (items : List CommandItems) (headers : List Header) : Prop :=
  ∃ echo extra, headers = echo ++ extra ∧ List.Forall₂ (RepeatsHeader agrees) items echo

/-! ## Records -/

namespace CommandRecord

variable {type : CommandType}

/-- A command is selected by an echo that repeats it. -/
theorem repeats_of_selected {record : CommandRecord type.Value} {item : Indexed type.Value}
    (init : record.state = .init) (selected : (record.onSelect item).state = .selectSuccess) :
    Repeats CommandType.SameValues record.entry item := by
  rw [onSelect] at selected
  split_ifs at selected with index value status
  · rw [init] at selected
    cases selected
  · have same : type.valuesEqual item.value record.command = true := by simpa using value
    exact ⟨not_not.mp index, same, not_not.mp status⟩

end CommandRecord

namespace TypedCommandHeader

variable {type : CommandType}

/-- All the commands wait for their echoes. -/
def Init (header : TypedCommandHeader type) : Prop :=
  ∀ record ∈ header.records, record.state = .init

theorem forall₂_of_selected {records : List (CommandRecord type.Value)}
    {items : List (Indexed type.Value)} (init : ∀ record ∈ records, record.state = .init)
    (few : items.length ≤ records.length)
    (selected : ∀ record ∈ visitRecords CommandRecord.onSelect records items,
      record.state = .selectSuccess) :
    List.Forall₂ (Repeats CommandType.SameValues) (records.map CommandRecord.entry) items := by
  induction records generalizing items with
  | nil =>
      obtain rfl := List.length_eq_zero_iff.mp (Nat.le_zero.mp few)
      exact .nil
  | cons record records ih =>
      obtain ⟨first, others⟩ := List.forall_mem_cons.mp init
      cases items with
      | nil =>
          have missed := selected record List.mem_cons_self
          rw [first] at missed
          cases missed
      | cons item items =>
          obtain ⟨one, more⟩ := List.forall_mem_cons.mp selected
          exact .cons (CommandRecord.repeats_of_selected first one)
            (ih others (Nat.le_of_succ_le_succ few) more)

theorem areAllSelected_iff (header : TypedCommandHeader type) :
    header.areAllSelected = true ↔ ∀ record ∈ header.records, record.state = .selectSuccess := by
  simp [areAllSelected]

/-- A header without an echo is not selected. -/
theorem not_areAllSelected {header : TypedCommandHeader type} (init : header.Init)
    (present : header.entries ≠ []) : ¬header.areAllSelected = true := by
  rw [areAllSelected_iff]
  intro selected
  obtain ⟨record, member⟩ : ∃ record, record ∈ header.records :=
    List.exists_mem_of_ne_nil _ fun empty => present (by rw [entries, empty, List.map_nil])
  have state := selected record member
  rw [init record member] at state
  cases state

theorem forall₂_of_applySelectResponse {header : TypedCommandHeader type} {code : QualifierCode}
    {items : List (Indexed type.Value)} (init : header.Init) (present : header.entries ≠ [])
    (selected : (header.applySelectResponse code items).areAllSelected = true) :
    List.Forall₂ (Repeats CommandType.SameValues) header.entries items := by
  rw [applySelectResponse, applyResponse] at selected
  split_ifs at selected with other many
  · exact absurd selected (not_areAllSelected init present)
  · exact absurd selected (not_areAllSelected init present)
  · exact forall₂_of_selected init (Nat.not_lt.mp many) ((areAllSelected_iff _).mp selected)

/-- Whatever a header is told, its commands stay. -/
theorem entries_applyResponse
    {visit : CommandRecord type.Value → Indexed type.Value → CommandRecord type.Value}
    (same : ∀ record item, (visit record item).entry = record.entry)
    (header : TypedCommandHeader type) (code : QualifierCode) (items : List (Indexed type.Value)) :
    (header.applyResponse visit same code items).entries = header.entries ∧
      (header.applyResponse visit same code items).useSingleByteIndex =
        header.useSingleByteIndex := by
  rw [applyResponse]
  split_ifs
  · exact ⟨rfl, rfl⟩
  · exact ⟨rfl, rfl⟩
  · exact ⟨entry_visitRecords same header.records items, rfl⟩

end TypedCommandHeader

/-! ## Headers -/

namespace CommandHeader

def items (header : CommandHeader) : CommandItems := ⟨header.1, header.2.entries⟩

/-- What is written for a header, but for its states. -/
def bytes (mode : IndexQualifierMode) (header : CommandHeader) : List UInt8 :=
  prefixedBytes (header.2.restrict mode).indexType header.1.serializer header.2.entries

/-- A header of a set is told of a header of a response. -/
def told (mode : CommandMode) : Header → CommandHeader → CommandHeader
  | .prefixOf record _ type items => applyResponse mode record.getQualifierCode type items
  | _ => id

theorem told_own (mode : CommandMode) {type : CommandType} (record : HeaderRecord) (count : UInt16)
    (items : List (Indexed type.Value)) (header : TypedCommandHeader type) :
    told mode (.prefixOf record count type.objectType items) ⟨type, header⟩ =
      ⟨type, match mode with
        | .select => header.applySelectResponse record.getQualifierCode items
        | .operate => header.applyOperateResponse record.getQualifierCode items⟩ := by
  rw [told, applyResponse, dif_pos rfl]
  cases mode <;> rfl

theorem told_other (mode : CommandMode) {record : HeaderRecord} {count : UInt16}
    {type : ObjectType} {items : List (Indexed type.Value)} {header : CommandHeader}
    (other : type ≠ header.1.objectType) :
    told mode (.prefixOf record count type items) header = header := by
  rw [told, applyResponse, dif_neg other]

theorem repeats_of_told {header : CommandHeader} {response : Header} (init : header.2.Init)
    (present : header.2.entries ≠ [])
    (selected : (told .select response header).2.areAllSelected = true) :
    RepeatsHeader CommandType.SameValues header.items response := by
  have unselected := TypedCommandHeader.not_areAllSelected init present
  cases response with
  | prefixOf record count type echoes =>
      by_cases same : type = header.1.objectType
      · subst same
        obtain ⟨type, header⟩ := header
        rw [told_own] at selected
        exact .intro record count
          (TypedCommandHeader.forall₂_of_applySelectResponse init present selected)
      · rw [told_other .select same] at selected
        exact absurd selected unselected
  | _ => exact absurd selected unselected

/-- Headers with the same commands are written the same. -/
theorem bytes_eq {type : CommandType} {header next : TypedCommandHeader type}
    (same : next.entries = header.entries ∧ next.useSingleByteIndex = header.useSingleByteIndex)
    (mode : IndexQualifierMode) : bytes mode ⟨type, next⟩ = bytes mode ⟨type, header⟩ := by
  obtain ⟨entries, index⟩ := same
  have single : (next.restrict mode).useSingleByteIndex =
      (header.restrict mode).useSingleByteIndex :=
    congrArg (· && mode == .allowOneByte) index
  have indexType : (next.restrict mode).indexType = (header.restrict mode).indexType := by
    rw [TypedCommandHeader.indexType, TypedCommandHeader.indexType, single]
  change prefixedBytes (next.restrict mode).indexType type.serializer next.entries = _
  rw [indexType, entries]
  rfl

/-- Whatever a header is told, its commands stay. -/
theorem told_same (mode : CommandMode) (response : Header) (header : CommandHeader) :
    (told mode response header).items = header.items ∧
      ∀ written, (told mode response header).bytes written = header.bytes written := by
  cases response with
  | prefixOf record count type echoes =>
      by_cases same : type = header.1.objectType
      · subst same
        obtain ⟨type, header⟩ := header
        rw [told_own]
        cases mode with
        | select =>
            have kept := TypedCommandHeader.entries_applyResponse CommandRecord.entry_onSelect
              header record.getQualifierCode echoes
            exact ⟨congrArg (Sigma.mk type) kept.1, bytes_eq kept⟩
        | operate =>
            have kept := TypedCommandHeader.entries_applyResponse CommandRecord.entry_onOperate
              header record.getQualifierCode echoes
            exact ⟨congrArg (Sigma.mk type) kept.1, bytes_eq kept⟩
      · rw [told_other mode same]
        exact ⟨rfl, fun _ => rfl⟩
  | _ => exact ⟨rfl, fun _ => rfl⟩

end CommandHeader

/-! ## Sets -/

namespace CommandSet

def items (set : CommandSet) : List CommandItems := set.headers.map CommandHeader.items

/-- What is written for a set, but for its states. -/
def bytes (mode : IndexQualifierMode) (set : CommandSet) : List UInt8 :=
  set.headers.flatMap (CommandHeader.bytes mode)

def Init (set : CommandSet) : Prop := ∀ header ∈ set.headers, header.2.Init

/-- Headers are told of the headers of a response side by side. -/
def toldAll (mode : CommandMode) : List CommandHeader → List Header → List CommandHeader
  | header :: headers, response :: responses =>
      CommandHeader.told mode response header :: toldAll mode headers responses
  | headers, _ => headers

theorem toldAll_same (mode : CommandMode) (headers : List CommandHeader)
    (responses : List Header) :
    (toldAll mode headers responses).map CommandHeader.items = headers.map CommandHeader.items ∧
      ∀ written, (toldAll mode headers responses).flatMap (CommandHeader.bytes written) =
        headers.flatMap (CommandHeader.bytes written) := by
  induction headers generalizing responses with
  | nil => exact ⟨rfl, fun _ => rfl⟩
  | cons header headers ih =>
      cases responses with
      | nil => exact ⟨rfl, fun _ => rfl⟩
      | cons response responses =>
          obtain ⟨items, bytes⟩ := CommandHeader.told_same mode response header
          obtain ⟨others, more⟩ := ih responses
          rw [toldAll]
          refine ⟨?_, fun written => ?_⟩
          · rw [List.map_cons, List.map_cons, items, others]
          · rw [List.flatMap_cons, List.flatMap_cons, bytes, more]

theorem processHeader_eq (mode : CommandMode) (set : CommandSet) (response : Header) :
    set.processHeader mode response =
      ⟨set.headers.modify response.record.headerIndex (CommandHeader.told mode response)⟩ := by
  cases response with
  | prefixOf => rfl
  | _ => exact congrArg CommandSet.mk (List.modify_id _ _).symm

/-- Headers behind the last one of a set count for nothing. -/
theorem foldl_processHeader_of_beyond (mode : CommandMode) (set : CommandSet)
    {responses : List Header}
    (beyond : ∀ response ∈ responses, set.headers.length ≤ response.record.headerIndex) :
    responses.foldl (processHeader mode) set = set := by
  induction responses with
  | nil => rfl
  | cons response responses ih =>
      obtain ⟨first, others⟩ := List.forall_mem_cons.mp beyond
      have same : set.processHeader mode response = set := by
        rw [processHeader_eq, List.modify_eq_self first]
      rw [List.foldl_cons, same]
      exact ih others

/-- The headers of a response find the headers of a set by their positions. -/
theorem foldl_processHeader (mode : CommandMode) (done headers : List CommandHeader)
    {responses : List Header}
    (positions : responses.map (·.record.headerIndex) =
      List.range' done.length responses.length) :
    responses.foldl (processHeader mode) ⟨done ++ headers⟩ =
      ⟨done ++ toldAll mode headers responses⟩ := by
  induction responses generalizing done headers with
  | nil => cases headers <;> rfl
  | cons response responses ih =>
      cases headers with
      | nil =>
          refine foldl_processHeader_of_beyond mode _ fun other member => ?_
          have inside : other.record.headerIndex ∈
              List.range' done.length (response :: responses).length :=
            positions ▸ List.mem_map_of_mem member
          rw [List.append_nil]
          exact (List.mem_range'_1.mp inside).1
      | cons header headers =>
          rw [List.length_cons, List.range'_succ, List.map_cons] at positions
          obtain ⟨first, others⟩ := List.cons_eq_cons.mp positions
          have told : (done ++ header :: headers).modify done.length
              (CommandHeader.told mode response) =
                (done ++ [CommandHeader.told mode response header]) ++ headers := by
            rw [List.modify_eq_take_cons_drop (by simp)]
            simp
          rw [List.foldl_cons, processHeader_eq, first, told, ih _ _ (by simpa using others),
            toldAll, List.append_assoc]
          rfl

/-! ## Selected sets -/

/-- The headers of a set that is selected were repeated one by one. -/
theorem forall₂_of_toldAll {headers : List CommandHeader} {responses : List Header}
    (init : ∀ header ∈ headers, header.2.Init)
    (present : ∀ header ∈ headers, header.2.entries ≠ [])
    (selected : ∀ header ∈ toldAll .select headers responses, header.2.areAllSelected = true) :
    Echoes CommandType.SameValues (headers.map CommandHeader.items) responses := by
  induction headers generalizing responses with
  | nil => exact ⟨[], responses, rfl, .nil⟩
  | cons header headers ih =>
      obtain ⟨firstInit, othersInit⟩ := List.forall_mem_cons.mp init
      obtain ⟨firstPresent, othersPresent⟩ := List.forall_mem_cons.mp present
      cases responses with
      | nil =>
          exact absurd (selected header List.mem_cons_self)
            (TypedCommandHeader.not_areAllSelected firstInit firstPresent)
      | cons response responses =>
          obtain ⟨first, others⟩ := List.forall_mem_cons.mp selected
          obtain ⟨echo, extra, rfl, repeats⟩ := ih othersInit othersPresent others
          exact ⟨response :: echo, extra, rfl,
            .cons (CommandHeader.repeats_of_told firstInit firstPresent first) repeats⟩

section responses

variable [FloatOps]

/-- A response that selects all the commands of a set parses and repeats each of them. -/
theorem echoes_of_selected {set : CommandSet} {objects : List UInt8} (init : set.Init)
    (present : ∀ header ∈ set.headers, header.2.entries ≠ [])
    (selected : (set.processSelectResponse objects).2 = .ok) :
    ∃ headers, APDUParser.parse true commandWhiteList objects = .ok headers ∧
      Echoes CommandType.SameValues set.items headers := by
  rw [processSelectResponse] at selected
  cases parsed : APDUParser.parse true commandWhiteList objects with
  | error error =>
      rw [parsed] at selected
      cases selected
  | ok headers =>
      have positions := APDUParser.headerIndex_of_parse parsed
      rw [List.range_eq_range'] at positions
      have folded := foldl_processHeader .select [] set.headers positions
      simp only [parsed] at selected
      rw [List.nil_append] at folded
      rw [folded] at selected
      refine ⟨headers, rfl, forall₂_of_toldAll init present ?_⟩
      split at selected
      · next all =>
        simpa [areAllSelected] using all
      · cases selected

/-- Whatever a set is told, its commands stay. -/
theorem foldl_processHeader_same (mode : CommandMode) (set : CommandSet) (objects : List UInt8)
    {headers : List Header} (parsed : APDUParser.parse true commandWhiteList objects = .ok headers) :
    (headers.foldl (processHeader mode) set).items = set.items ∧
      ∀ written, (headers.foldl (processHeader mode) set).bytes written = set.bytes written := by
  have positions := APDUParser.headerIndex_of_parse parsed
  rw [List.range_eq_range'] at positions
  have folded := foldl_processHeader mode [] set.headers positions
  rw [List.nil_append] at folded
  rw [folded]
  exact toldAll_same mode set.headers headers

theorem processSelectResponse_same (set : CommandSet) (objects : List UInt8) :
    (set.processSelectResponse objects).1.items = set.items ∧
      ∀ written, (set.processSelectResponse objects).1.bytes written = set.bytes written := by
  rw [processSelectResponse]
  split
  · exact ⟨rfl, fun _ => rfl⟩
  · next parsed => exact set.foldl_processHeader_same .select objects parsed

theorem processOperateResponse_same (set : CommandSet) (objects : List UInt8) :
    (set.processOperateResponse objects).1.items = set.items ∧
      ∀ written, (set.processOperateResponse objects).1.bytes written = set.bytes written := by
  rw [processOperateResponse]
  split
  · exact ⟨rfl, fun _ => rfl⟩
  · next parsed => exact set.foldl_processHeader_same .operate objects parsed

end responses

/-! ## Written sets -/

theorem write_header_same (header : CommandHeader) (writer : HeaderWriter)
    (mode : IndexQualifierMode) :
    CommandHeader.items ⟨header.1, (header.2.write writer mode).1⟩ = header.items ∧
      CommandHeader.bytes mode ⟨header.1, (header.2.write writer mode).1⟩ = header.bytes mode ∧
      (header.2.Init → (header.2.write writer mode).1.Init) := by
  have idempotent : (header.2.restrict mode).restrict mode = header.2.restrict mode := by
    simp [TypedCommandHeader.restrict]
  rw [TypedCommandHeader.write]
  split
  · exact ⟨rfl, rfl, id⟩
  · refine ⟨rfl, ?_, id⟩
    change prefixedBytes ((header.2.restrict mode).restrict mode).indexType _ _ = _
    rw [idempotent]
    rfl

theorem writeHeaders_same (mode : IndexQualifierMode) (headers : List CommandHeader)
    (writer : HeaderWriter) :
    (writeHeaders mode writer headers).1.map CommandHeader.items =
        headers.map CommandHeader.items ∧
      (writeHeaders mode writer headers).1.flatMap (CommandHeader.bytes mode) =
        headers.flatMap (CommandHeader.bytes mode) ∧
      ((∀ header ∈ headers, header.2.Init) →
        ∀ header ∈ (writeHeaders mode writer headers).1, header.2.Init) := by
  induction headers generalizing writer with
  | nil => exact ⟨rfl, rfl, fun init => init⟩
  | cons header headers ih =>
      obtain ⟨type, header⟩ := header
      obtain ⟨items, bytes, init⟩ := write_header_same ⟨type, header⟩ writer mode
      rw [writeHeaders]
      rcases written : header.write writer mode with ⟨after, next, done⟩
      simp only [written] at items bytes init
      cases done with
      | false =>
          refine ⟨?_, ?_, fun all => ?_⟩
          · rw [List.map_cons, List.map_cons, items]
          · rw [List.flatMap_cons, List.flatMap_cons, bytes]
          · obtain ⟨first, others⟩ := List.forall_mem_cons.mp all
            exact List.forall_mem_cons.mpr ⟨init first, others⟩
      | true =>
          obtain ⟨others, more, rest⟩ := ih next
          refine ⟨?_, ?_, fun all => ?_⟩
          · rw [List.map_cons, List.map_cons, items, others]
          · rw [List.flatMap_cons, List.flatMap_cons, bytes, more]
          · obtain ⟨first, others⟩ := List.forall_mem_cons.mp all
            exact List.forall_mem_cons.mpr ⟨init first, rest others⟩

theorem writeHeaders_written (mode : IndexQualifierMode) (headers : List CommandHeader)
    (writer : HeaderWriter) (success : (writeHeaders mode writer headers).2.2 = true) :
    (∀ header ∈ headers, header.2.entries ≠ []) ∧
      (writeHeaders mode writer headers).2.1.position.written =
        writer.position.written ++ headers.flatMap (CommandHeader.bytes mode) := by
  induction headers generalizing writer with
  | nil => exact ⟨by simp, by simp [writeHeaders]⟩
  | cons header headers ih =>
      obtain ⟨type, header⟩ := header
      have one := header.write_written writer mode
      rw [writeHeaders] at success ⊢
      rcases result : header.write writer mode with ⟨after, next, done⟩
      rw [result] at one success
      cases done with
      | false => cases success
      | true =>
          obtain ⟨present, complete⟩ := one rfl
          obtain ⟨others, written⟩ := ih next success
          refine ⟨List.forall_mem_cons.mpr ⟨present, others⟩, ?_⟩
          rw [List.flatMap_cons, ← List.append_assoc]
          refine written.trans ?_
          rw [complete]
          rfl

theorem init_foldl_add {type : CommandType} (commands : List (Indexed type.Value))
    {header : TypedCommandHeader type} (init : header.Init) :
    (commands.foldl (fun header item => header.add item.value item.index) header).Init := by
  induction commands generalizing header with
  | nil => exact init
  | cons item commands ih =>
      refine ih fun record member => ?_
      rcases List.mem_append.mp member with old | new
      · exact init record old
      · rw [List.mem_singleton.mp new]

/-- A set as a user builds it waits for the echoes of all its commands. -/
theorem init_ofItems (items : List ((type : CommandType) × List (Indexed type.Value))) :
    (ofItems items).Init := by
  intro header member
  obtain ⟨⟨type, commands⟩, _, rfl⟩ := List.mem_map.mp member
  exact init_foldl_add commands nofun

end CommandSet

end OpenDnp3.Master
