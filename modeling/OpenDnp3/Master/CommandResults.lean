import OpenDnp3.Master.SelectBeforeOperate
import OpenDnp3.Master.SerialTimeSync
import OpenDnp3.Master.TaskRuns

/-!
# Results of commands

A command is reported with success only if the response to the last OPERATE of
its task repeats it.
-/

set_option autoImplicit false

namespace OpenDnp3.Master

open OpenDnp3.App OpenDnp3.Library

/-! ## Requests -/

namespace CommandItems

/-- Indices of one byte are used if they all fit and the mode allows it. -/
def singleByte (mode : IndexQualifierMode) (items : CommandItems) : Bool :=
  items.2.all (fun command => decide (command.index.toNat ≤ 255)) && mode == .allowOneByte

def indexType (mode : IndexQualifierMode) (items : CommandItems) : IndexType :=
  if items.singleByte mode then .uint8 else .uint16

/-- What is written for the commands of a header. -/
def bytes (mode : IndexQualifierMode) (items : CommandItems) : List UInt8 :=
  prefixedBytes (items.indexType mode) items.1.serializer items.2

end CommandItems

/-! ## What is reported -/

/-- A report that lists each command of each header, with a state and a status for its position. -/
def reportedPoints (items : List CommandItems)
    (verdict : Nat → Nat → CommandPointState × CommandStatus) :
    List (Nat × UInt16 × CommandPointState × CommandStatus) :=
  items.zipIdx.flatMap fun (items, headerIndex) =>
    items.2.zipIdx.map fun (command, position) =>
      (headerIndex, command.index, verdict headerIndex position)

/-- The header of a response at some position has the type and the qualifier of the request, and
its object at some position repeats the command there with a status. -/
inductive RepeatsAt (mode : IndexQualifierMode) (items : List CommandItems)
    (headers : List Header) (headerIndex position : Nat) : CommandStatus → Prop
  | intro {type : CommandType} {commands echoes : List (Indexed type.Value)}
      {command echo : Indexed type.Value} {record : HeaderRecord} {count : UInt16}
      (asked : items[headerIndex]? = some ⟨type, commands⟩)
      (told : headers[headerIndex]? = some (.prefixOf record count type.objectType echoes))
      (qualifier : record.getQualifierCode = (CommandItems.indexType mode ⟨type, commands⟩).countIndex)
      (commanded : commands[position]? = some command) (echoed : echoes[position]? = some echo)
      (index : echo.index = command.index)
      (value : type.valuesEqual echo.value command.value = true) :
      RepeatsAt mode items headers headerIndex position (type.status echo.value)

/-- The last request of a task operates all commands, and the response to it, which is the last
message, parses in full and repeats the command at a position. -/
def BackedAt [FloatOps] (mode : IndexQualifierMode) (items : List CommandItems)
    (messages : List TaskMessage) (headerIndex position : Nat) (status : CommandStatus) : Prop :=
  ∃ before sent apdu received header objects headers function seq,
    messages = before ++ [.request sent apdu, .response received header objects] ∧
    (function = .operate ∨ function = .directOperate) ∧
    apdu.toRSlice = requestBytes function seq (items.flatMap (CommandItems.bytes mode)) ∧
    APDUParser.parse true commandWhiteList objects = .ok headers ∧
    RepeatsAt mode items headers headerIndex position status

/-- A report lists every command once and in order, and success only where it is backed. -/
def Truthful [FloatOps] (mode : IndexQualifierMode) (items : List CommandItems)
    (messages : List TaskMessage) (report : TaskReport) : Prop :=
  ∃ verdict, report = .commands (reportedPoints items verdict) ∧
    ∀ headerIndex position, (verdict headerIndex position).1 = .success →
      BackedAt mode items messages headerIndex position (verdict headerIndex position).2

/-! ## States of a set -/

namespace CommandSet

/-- The state and the status of the command at a position. -/
def verdict (set : CommandSet) (headerIndex position : Nat) : CommandPointState × CommandStatus :=
  match set.headers[headerIndex]? with
  | none => (.init, .undefined)
  | some header =>
      match header.2.records[position]? with
      | none => (.init, .undefined)
      | some record => (record.state, record.status)

theorem exists_of_verdict {set : CommandSet} {headerIndex position : Nat}
    (success : (set.verdict headerIndex position).1 = .success) :
    ∃ (header : CommandHeader) (record : CommandRecord header.1.Value),
      set.headers[headerIndex]? = some header ∧ header.2.records[position]? = some record ∧
        record.state = .success ∧ (set.verdict headerIndex position).2 = record.status := by
  rw [verdict] at success ⊢
  cases found : set.headers[headerIndex]? with
  | none =>
      rw [found] at success
      cases success
  | some header =>
      rw [found] at success
      cases inside : header.2.records[position]? with
      | none =>
          simp only [inside] at success
          cases success
      | some record =>
          simp only [inside] at success
          exact ⟨header, record, rfl, inside, success, by simp only [inside]⟩

theorem points_records {Value : Type} (records : List (CommandRecord Value)) (headerIndex : Nat)
    (verdict : Nat → CommandPointState × CommandStatus)
    (found : ∀ position record, records[position]? = some record →
      verdict position = (record.state, record.status)) :
    records.map (fun record => (headerIndex, record.index, record.state, record.status)) =
      (records.map CommandRecord.entry).zipIdx.map fun (command, position) =>
        (headerIndex, command.index, verdict position) := by
  refine List.ext_getElem? fun position => ?_
  rw [List.getElem?_map, List.getElem?_map, List.getElem?_zipIdx, List.getElem?_map]
  cases inside : records[position]? with
  | none => rfl
  | some record =>
      simp only [Option.map_some, Nat.zero_add, found position record inside]
      rfl

/-- What a task reports of a set. -/
theorem onTaskComplete_eq (task : CommandTask) (result : TaskCompletion) :
    (MasterTask.command task).onTaskComplete result =
      .commands (reportedPoints task.commands.items task.commands.verdict) := by
  refine congrArg TaskReport.commands ?_
  rw [reportedPoints, items, List.zipIdx_map, List.flatMap_map]
  refine List.flatMap_congr fun entry member => ?_
  obtain ⟨header, headerIndex⟩ := entry
  have found := List.mk_mem_zipIdx_iff_getElem?.mp member
  refine points_records header.2.records headerIndex (task.commands.verdict headerIndex) ?_
  intro position record inside
  simp only [verdict, found, inside]

end CommandSet

/-! ## Echoes of an operate -/

theorem CommandRecord.success_onOperate {type : CommandType} {record : CommandRecord type.Value}
    {item : Indexed type.Value} (unsuccessful : record.state ≠ .success)
    (success : (record.onOperate item).state = .success) :
    item.index = record.index ∧ type.valuesEqual item.value record.command = true ∧
      (record.onOperate item).status = type.status item.value := by
  rw [onOperate] at success ⊢
  by_cases other : item.index ≠ record.index
  · rw [if_pos other] at success
    exact absurd success unsuccessful
  · rw [if_neg other] at success ⊢
    by_cases equal : type.valuesEqual item.value record.command = true
    · rw [if_neg (by simp [equal])]
      exact ⟨not_not.mp other, equal, rfl⟩
    · rw [if_pos (by simpa using equal)] at success
      cases success

namespace TypedCommandHeader

variable {type : CommandType}

def Unsuccessful (header : TypedCommandHeader type) : Prop :=
  ∀ record ∈ header.records, record.state ≠ .success

/-- An echo of a select is no success. -/
theorem unsuccessful_visitRecords {records : List (CommandRecord type.Value)}
    (unsuccessful : ∀ record ∈ records, record.state ≠ .success)
    (items : List (Indexed type.Value)) :
    ∀ record ∈ visitRecords CommandRecord.onSelect records items, record.state ≠ .success := by
  induction records generalizing items with
  | nil => exact unsuccessful
  | cons record records ih =>
      cases items with
      | nil => exact unsuccessful
      | cons item items =>
          obtain ⟨first, others⟩ := List.forall_mem_cons.mp unsuccessful
          refine List.forall_mem_cons.mpr ⟨?_, ih others items⟩
          rw [CommandRecord.onSelect]
          split_ifs
          · exact first
          · exact CommandPointState.noConfusion
          · exact CommandPointState.noConfusion
          · exact CommandPointState.noConfusion
          · exact first

theorem unsuccessful_applySelectResponse {header : TypedCommandHeader type}
    (unsuccessful : header.Unsuccessful) (code : QualifierCode)
    (items : List (Indexed type.Value)) :
    (header.applySelectResponse code items).Unsuccessful := by
  rw [applySelectResponse, applyResponse]
  split_ifs
  · exact unsuccessful
  · exact unsuccessful
  · exact unsuccessful_visitRecords unsuccessful items

theorem getElem?_visitRecords
    (visit : CommandRecord type.Value → Indexed type.Value → CommandRecord type.Value)
    (records : List (CommandRecord type.Value)) (items : List (Indexed type.Value))
    (position : Nat) :
    (visitRecords visit records items)[position]? =
      records[position]?.map fun record => items[position]?.elim record (visit record) := by
  induction records generalizing items position with
  | nil => rfl
  | cons record records ih =>
      cases items with
      | nil => simp [visitRecords]
      | cons item items =>
          cases position with
          | zero => rfl
          | succ position => exact ih items position

/-- A command with success was repeated by an object at its position. -/
theorem exists_of_applyOperateResponse {header : TypedCommandHeader type} {code : QualifierCode}
    {items : List (Indexed type.Value)} (unsuccessful : header.Unsuccessful) {position : Nat}
    {record : CommandRecord type.Value}
    (inside : (header.applyOperateResponse code items).records[position]? = some record)
    (success : record.state = .success) :
    code = header.expectedQualifier ∧ ∃ command item,
      header.entries[position]? = some command ∧ items[position]? = some item ∧
        item.index = command.index ∧ type.valuesEqual item.value command.value = true ∧
        record.status = type.status item.value := by
  rw [applyOperateResponse, applyResponse] at inside
  split_ifs at inside with other many
  · exact absurd success (unsuccessful record (List.mem_of_getElem? inside))
  · exact absurd success (unsuccessful record (List.mem_of_getElem? inside))
  refine ⟨not_not.mp other, ?_⟩
  change (visitRecords _ header.records items)[position]? = _ at inside
  rw [getElem?_visitRecords] at inside
  obtain ⟨before, present, visited⟩ := Option.map_eq_some_iff.mp inside
  have waiting := unsuccessful before (List.mem_of_getElem? present)
  cases echoed : items[position]? with
  | none =>
      rw [echoed] at visited
      obtain rfl : before = record := visited
      exact absurd success waiting
  | some item =>
      rw [echoed] at visited
      obtain rfl : before.onOperate item = record := visited
      obtain ⟨index, value, status⟩ := CommandRecord.success_onOperate waiting success
      refine ⟨before.entry, item, ?_, rfl, index, value, status⟩
      rw [entries, List.getElem?_map, present]
      rfl

end TypedCommandHeader

namespace CommandSet

def Unsuccessful (set : CommandSet) : Prop := ∀ header ∈ set.headers, header.2.Unsuccessful

/-- The headers expect the qualifiers that the commands are written with. -/
def Restricted (mode : IndexQualifierMode) (set : CommandSet) : Prop :=
  ∀ header ∈ set.headers, header.2.indexType = header.items.indexType mode

theorem getElem?_toldAll (mode : CommandMode) (headers : List CommandHeader)
    (responses : List Header) (position : Nat) :
    (toldAll mode headers responses)[position]? =
      headers[position]?.map fun header =>
        responses[position]?.elim header fun response => CommandHeader.told mode response header := by
  induction headers generalizing responses position with
  | nil => rfl
  | cons header headers ih =>
      cases responses with
      | nil => simp [toldAll]
      | cons response responses =>
          cases position with
          | zero => rfl
          | succ position => exact ih responses position

/-- The headers of a response that parses are told to the headers of a set side by side. -/
theorem foldl_processHeader_parsed [FloatOps] (mode : CommandMode) (set : CommandSet)
    {objects : List UInt8} {headers : List Header}
    (parsed : APDUParser.parse true commandWhiteList objects = .ok headers) :
    headers.foldl (processHeader mode) set = ⟨toldAll mode set.headers headers⟩ := by
  have positions := APDUParser.headerIndex_of_parse parsed
  rw [List.range_eq_range'] at positions
  exact foldl_processHeader mode [] set.headers positions

/-- A command with success was repeated by the header at its position. -/
theorem repeatsAt_of_toldAll {mode : IndexQualifierMode} {set : CommandSet}
    (unsuccessful : set.Unsuccessful) (restricted : set.Restricted mode) {headers : List Header}
    {headerIndex position : Nat}
    (success : (CommandSet.verdict ⟨toldAll .operate set.headers headers⟩ headerIndex
      position).1 = .success) :
    RepeatsAt mode set.items headers headerIndex position
      (CommandSet.verdict ⟨toldAll .operate set.headers headers⟩ headerIndex position).2 := by
  obtain ⟨after, record, found, inside, successful, status⟩ := exists_of_verdict success
  rw [status]
  rw [getElem?_toldAll] at found
  obtain ⟨header, present, told⟩ := Option.map_eq_some_iff.mp found
  have member := List.mem_of_getElem? present
  have waiting := unsuccessful header member
  have unchanged (same : after = header) : False := by
    subst same
    exact waiting record (List.mem_of_getElem? inside) successful
  cases responded : headers[headerIndex]? with
  | none =>
      rw [responded] at told
      exact (unchanged told.symm).elim
  | some response =>
      rw [responded] at told
      cases response with
      | prefixOf own count type echoes =>
          by_cases same : type = header.1.objectType
          · subst same
            obtain ⟨type, header⟩ := header
            obtain rfl := (CommandHeader.told_own .operate own count echoes header).symm.trans told
            obtain ⟨qualifier, command, item, commanded, echoed, index, value, answered⟩ :=
              TypedCommandHeader.exists_of_applyOperateResponse waiting inside successful
            rw [answered]
            refine .intro ?_ responded ?_ commanded echoed index value
            · rw [items, List.getElem?_map, present]
              rfl
            · rw [qualifier, TypedCommandHeader.expectedQualifier]
              exact congrArg IndexType.countIndex (restricted _ member)
          · have kept : header = after :=
              (@CommandHeader.told_other .operate own count _ echoes _ same).symm.trans told
            exact (unchanged kept.symm).elim
      | _ => exact (unchanged told.symm).elim

end CommandSet

/-! ## Headers without success -/

namespace CommandHeader

def restrict (mode : IndexQualifierMode) (header : CommandHeader) : CommandHeader :=
  ⟨header.1, header.2.restrict mode⟩

/-- What a header keeps until an operate is answered. -/
structure Pending (mode : IndexQualifierMode) (header : CommandHeader) : Prop where
  single : (header.2.useSingleByteIndex && mode == .allowOneByte) = header.items.singleByte mode
  unsuccessful : header.2.Unsuccessful

theorem Pending.restrict {mode : IndexQualifierMode} {header : CommandHeader}
    (pending : header.Pending mode) : (header.restrict mode).Pending mode := by
  refine ⟨?_, pending.unsuccessful⟩
  rw [show (header.restrict mode).items = header.items from rfl, ← pending.single]
  simp [CommandHeader.restrict, TypedCommandHeader.restrict]

theorem Pending.indexType_restrict {mode : IndexQualifierMode} {header : CommandHeader}
    (pending : header.Pending mode) :
    (header.restrict mode).2.indexType = header.items.indexType mode := by
  rw [TypedCommandHeader.indexType, CommandItems.indexType, ← pending.single]
  rfl

theorem Pending.bytes_eq {mode : IndexQualifierMode} {header : CommandHeader}
    (pending : header.Pending mode) : header.bytes mode = header.items.bytes mode :=
  congrArg (prefixedBytes · header.1.serializer header.2.entries) pending.indexType_restrict

/-- An echo of a select is no success. -/
theorem Pending.told {mode : IndexQualifierMode} {header : CommandHeader}
    (pending : header.Pending mode) (response : Header) :
    (CommandHeader.told .select response header).Pending mode := by
  cases response with
  | prefixOf record count type echoes =>
      by_cases same : type = header.1.objectType
      · subst same
        obtain ⟨type, header⟩ := header
        rw [told_own]
        obtain ⟨entries, single⟩ := TypedCommandHeader.entries_applyResponse
          CommandRecord.entry_onSelect header record.getQualifierCode echoes
        have items : items ⟨type, header.applySelectResponse record.getQualifierCode echoes⟩ =
            items ⟨type, header⟩ := congrArg (Sigma.mk type) entries
        refine ⟨?_, ?_⟩
        · rw [items, ← pending.single]
          exact congrArg (· && mode == .allowOneByte) single
        · exact TypedCommandHeader.unsuccessful_applySelectResponse pending.unsuccessful _ _
      · rw [told_other .select same]
        exact pending
  | _ => exact pending

end CommandHeader

namespace CommandSet

/-- What a set keeps until an operate is answered. -/
def Pending (mode : IndexQualifierMode) (set : CommandSet) : Prop :=
  ∀ header ∈ set.headers, header.Pending mode

theorem Pending.bytes_eq {mode : IndexQualifierMode} {set : CommandSet}
    (pending : set.Pending mode) :
    set.bytes mode = set.items.flatMap (CommandItems.bytes mode) := by
  rw [bytes, items, List.flatMap_map]
  exact List.flatMap_congr fun header member => (pending header member).bytes_eq

theorem pending_toldAll {mode : IndexQualifierMode} {headers : List CommandHeader}
    (pending : ∀ header ∈ headers, header.Pending mode) (responses : List Header) :
    ∀ header ∈ toldAll .select headers responses, header.Pending mode := by
  induction headers generalizing responses with
  | nil => exact pending
  | cons header headers ih =>
      cases responses with
      | nil => exact pending
      | cons response responses =>
          obtain ⟨first, others⟩ := List.forall_mem_cons.mp pending
          exact List.forall_mem_cons.mpr ⟨first.told response, ih others responses⟩

theorem Pending.select [FloatOps] {mode : IndexQualifierMode} {set : CommandSet}
    (pending : set.Pending mode) (objects : List UInt8) :
    (set.processSelectResponse objects).1.Pending mode := by
  rw [processSelectResponse]
  cases parsed : APDUParser.parse true commandWhiteList objects with
  | error error => exact pending
  | ok headers =>
      simp only [set.foldl_processHeader_parsed .select parsed]
      exact pending_toldAll pending headers

theorem pending_writeHeaders {mode : IndexQualifierMode} {headers : List CommandHeader}
    (pending : ∀ header ∈ headers, header.Pending mode) (writer : HeaderWriter) :
    (∀ header ∈ (writeHeaders mode writer headers).1, header.Pending mode) ∧
      ((writeHeaders mode writer headers).2.2 = true →
        ∀ header ∈ (writeHeaders mode writer headers).1,
          header.2.indexType = header.items.indexType mode) := by
  induction headers generalizing writer with
  | nil => exact ⟨pending, fun _ => List.forall_mem_nil _⟩
  | cons header headers ih =>
      obtain ⟨first, others⟩ := List.forall_mem_cons.mp pending
      obtain ⟨type, header⟩ := header
      by_cases empty : header.records.isEmpty = true
      · have same : header.write writer mode = (header, writer, false) := by
          rw [TypedCommandHeader.write, if_pos empty]
        rw [writeHeaders, same]
        exact ⟨pending, fun success => by cases success⟩
      · have restricted : (header.write writer mode).1 = header.restrict mode := by
          rw [TypedCommandHeader.write, if_neg empty]
        rw [writeHeaders]
        rcases written : header.write writer mode with ⟨after, next, done⟩
        rw [written] at restricted
        obtain rfl : after = header.restrict mode := restricted
        cases done with
        | false => exact ⟨List.forall_mem_cons.mpr ⟨first.restrict, others⟩, fun success => by cases success⟩
        | true =>
            obtain ⟨kept, complete⟩ := ih others next
            exact ⟨List.forall_mem_cons.mpr ⟨first.restrict, kept⟩, fun success =>
              List.forall_mem_cons.mpr ⟨first.indexType_restrict, complete success⟩⟩

theorem entries_foldl_add {type : CommandType} (commands : List (Indexed type.Value))
    (header : TypedCommandHeader type) :
    let after := commands.foldl (fun header item => header.add item.value item.index) header
    after.entries = header.entries ++ commands ∧
      after.useSingleByteIndex = (header.useSingleByteIndex &&
        commands.all fun command => decide (command.index.toNat ≤ 255)) := by
  induction commands generalizing header with
  | nil => simp
  | cons command commands ih =>
      obtain ⟨entries, single⟩ := ih (header.add command.value command.index)
      refine ⟨?_, ?_⟩
      · rw [List.foldl_cons, entries, TypedCommandHeader.add, TypedCommandHeader.entries,
          List.map_append, List.append_assoc]
        rfl
      · rw [List.foldl_cons, single, TypedCommandHeader.add, List.all_cons]
        by_cases large : command.index.toNat > 255
        · simp [large, Nat.not_le.mpr large]
        · simp [large, Nat.not_lt.mp large]

/-- A set as a user builds it has the commands that it was given. -/
theorem items_ofItems (items : List CommandItems) : (ofItems items).items = items := by
  rw [CommandSet.items, ofItems, List.map_map]
  refine List.map_id'' ?_ items
  rintro ⟨type, commands⟩
  exact congrArg (Sigma.mk type) (entries_foldl_add commands (.empty type)).1

theorem pending_ofItems (mode : IndexQualifierMode) (items : List CommandItems) :
    (ofItems items).Pending mode := by
  intro header member
  obtain ⟨⟨type, commands⟩, _, rfl⟩ := List.mem_map.mp member
  obtain ⟨entries, single⟩ := entries_foldl_add commands (.empty type)
  refine ⟨?_, ?_⟩
  · change ((commands.foldl _ (TypedCommandHeader.empty type)).useSingleByteIndex && _) =
      CommandItems.singleByte mode ⟨type, (commands.foldl _ (TypedCommandHeader.empty type)).entries⟩
    rw [entries, single]
    rfl
  · intro record present success
    have init := init_ofItems items _ member record present
    rw [init] at success
    cases success

/-- Nothing is reported with success before an operate is answered. -/
theorem Pending.verdict_ne {mode : IndexQualifierMode} {set : CommandSet}
    (pending : set.Pending mode) (headerIndex position : Nat) :
    (set.verdict headerIndex position).1 ≠ .success := by
  intro success
  obtain ⟨header, record, found, inside, successful, _⟩ := exists_of_verdict success
  exact (pending header (List.mem_of_getElem? found)).unsuccessful record
    (List.mem_of_getElem? inside) successful

end CommandSet

/-! ## Runs of a task -/

namespace CommandTask

/-- What a task keeps until an operate is answered. -/
structure Pending (mode : IndexQualifierMode) (items : List CommandItems) (task : CommandTask) :
    Prop where
  sameMode : task.mode = mode
  items : task.commands.items = items
  commands : task.commands.Pending mode

theorem Pending.requested {mode : IndexQualifierMode} {items : List CommandItems}
    {task next : CommandTask} {buffer : List UInt8} {seq : AppSeqNum} {apdu : APDURequest}
    {success : Bool} (pending : task.Pending mode items)
    (built : task.buildRequest (.ofBuffer buffer) seq.seq = (next, apdu, success)) :
    next.Pending mode items ∧
      (success = true → ∃ function, task.functionCodes = function :: next.functionCodes ∧
        next.commands.Restricted mode ∧
        apdu.toRSlice = requestBytes function seq (items.flatMap (CommandItems.bytes mode))) := by
  obtain ⟨rfl, rfl, commands⟩ := pending
  have cases := buildRequest_cases built
  rw [buildRequest] at built
  cases codes : task.functionCodes with
  | nil =>
      simp only [codes] at built
      obtain ⟨rfl, rest⟩ := Prod.mk.inj built
      obtain rfl := (Prod.mk.inj rest).2
      exact ⟨⟨rfl, rfl, commands⟩, fun success => by cases success⟩
  | cons function functionCodes =>
      obtain ⟨empty, _⟩ | ⟨_, requests⟩ := cases
      · rw [codes] at empty
        cases empty
      obtain ⟨kept, complete⟩ := CommandSet.pending_writeHeaders commands
        ⟨⟨[], buffer.drop 2⟩, none⟩
      simp only [codes, CommandSet.write] at built
      change (_, _, _) = _ at built
      obtain ⟨rfl, rest⟩ := Prod.mk.inj built
      obtain ⟨_, rfl⟩ := Prod.mk.inj rest
      refine ⟨⟨rfl, requests.same.items, kept⟩, fun success => ⟨_,
        codes.symm.trans requests.functionCodes, complete success, ?_⟩⟩
      rw [(requests.written success).2, commands.bytes_eq]

variable [FloatOps]

theorem Pending.selected {mode : IndexQualifierMode} {items : List CommandItems}
    {task : CommandTask} (pending : task.Pending mode items) (objects : List UInt8) :
    CommandTask.Pending mode items
      { task with commands := (task.commands.processSelectResponse objects).1 } where
  sameMode := pending.sameMode
  items := (task.commands.processSelectResponse_same objects).1.trans pending.items
  commands := pending.commands.select objects

/-- What is reported of a task is backed by its messages. -/
def Backed (mode : IndexQualifierMode) (items : List CommandItems) (messages : List TaskMessage)
    (task : CommandTask) : Prop :=
  task.commands.items = items ∧ ∀ headerIndex position,
    (task.commands.verdict headerIndex position).1 = .success →
      BackedAt mode items messages headerIndex position
        (task.commands.verdict headerIndex position).2

theorem Pending.backed {mode : IndexQualifierMode} {items : List CommandItems}
    {task : CommandTask} (pending : task.Pending mode items) (messages : List TaskMessage) :
    task.Backed mode items messages :=
  ⟨pending.items, fun headerIndex position success =>
    absurd success (pending.commands.verdict_ne headerIndex position)⟩

/-- How far a run has come. -/
inductive Runs (mode : IndexQualifierMode) (items : List CommandItems) :
    TaskPhase → CommandTask → List TaskMessage → Prop
  | ready {task : CommandTask} {messages : List TaskMessage} (pending : task.Pending mode items)
      (codes : task.functionCodes = [.select, .operate] ∨ task.functionCodes = [.operate] ∨
        task.functionCodes = [.directOperate]) : Runs mode items .ready task messages
  | selecting {task : CommandTask} {messages : List TaskMessage}
      (pending : task.Pending mode items) (codes : task.functionCodes = [.operate]) :
      Runs mode items .waiting task messages
  | operating {task : CommandTask} {before : List TaskMessage} {sent : UInt64}
      {apdu : APDURequest} {function : FunctionCode} {seq : AppSeqNum}
      (pending : task.Pending mode items) (codes : task.functionCodes = [])
      (restricted : task.commands.Restricted mode)
      (operates : function = .operate ∨ function = .directOperate)
      (written : apdu.toRSlice =
        requestBytes function seq (items.flatMap (CommandItems.bytes mode))) :
      Runs mode items .waiting task (before ++ [.request sent apdu])
  | completed {task : CommandTask} {messages : List TaskMessage} (result : TaskCompletion)
      (backed : task.Backed mode items messages) :
      Runs mode items (.completed result) task messages

theorem Runs.backed {mode : IndexQualifierMode} {items : List CommandItems} {phase : TaskPhase}
    {task : CommandTask} {messages : List TaskMessage} (runs : Runs mode items phase task messages) :
    task.Backed mode items messages := by
  cases runs with
  | ready pending => exact pending.backed messages
  | selecting pending => exact pending.backed messages
  | operating pending => exact pending.backed _
  | completed _ backed => exact backed

theorem Runs.requested {mode : IndexQualifierMode} {items : List CommandItems}
    {task next : CommandTask} {messages : List TaskMessage} {buffer : List UInt8} {seq : AppSeqNum}
    {apdu : APDURequest} (runs : Runs mode items .ready task messages)
    (built : task.buildRequest (.ofBuffer buffer) seq.seq = (next, apdu, true)) (sent : UInt64) :
    Runs mode items .waiting next (messages ++ [.request sent apdu]) := by
  cases runs with
  | ready pending codes =>
      obtain ⟨kept, success⟩ := pending.requested built
      obtain ⟨function, functionCodes, restricted, written⟩ := success rfl
      rw [functionCodes] at codes
      rcases codes with codes | codes | codes
      · obtain ⟨_, rest⟩ := List.cons_eq_cons.mp codes
        exact .selecting kept rest
      · obtain ⟨operate, rest⟩ := List.cons_eq_cons.mp codes
        exact .operating kept rest restricted (.inl operate) written
      · obtain ⟨operate, rest⟩ := List.cons_eq_cons.mp codes
        exact .operating kept rest restricted (.inr operate) written

theorem Runs.unformatted {mode : IndexQualifierMode} {items : List CommandItems}
    {task next : CommandTask} {messages : List TaskMessage} {buffer : List UInt8} {seq : AppSeqNum}
    {apdu : APDURequest} {success : Bool} (runs : Runs mode items .ready task messages)
    (built : task.buildRequest (.ofBuffer buffer) seq.seq = (next, apdu, success)) :
    next.Backed mode items messages := by
  cases runs with
  | ready pending => exact (pending.requested built).1.backed messages

/-- The response to an operate backs the success of the commands. -/
theorem Pending.operated {mode : IndexQualifierMode} {items : List CommandItems}
    {task : CommandTask} (pending : task.Pending mode items)
    (restricted : task.commands.Restricted mode) {function : FunctionCode} {seq : AppSeqNum}
    {apdu : APDURequest} (operates : function = .operate ∨ function = .directOperate)
    (written : apdu.toRSlice =
      requestBytes function seq (items.flatMap (CommandItems.bytes mode)))
    (before : List TaskMessage) (sent received : UInt64) (header : APDUResponseHeader)
    (objects : List UInt8) :
    CommandTask.Backed mode items
      (before ++ [.request sent apdu, .response received header objects])
      { task with commands := (task.commands.processOperateResponse objects).1 } := by
  refine ⟨(task.commands.processOperateResponse_same objects).1.trans pending.items, ?_⟩
  dsimp only
  rw [CommandSet.processOperateResponse]
  cases parsed : APDUParser.parse true commandWhiteList objects with
  | error error =>
      intro headerIndex position success
      exact absurd success (pending.commands.verdict_ne headerIndex position)
  | ok headers =>
      simp only [task.commands.foldl_processHeader_parsed .operate parsed]
      intro headerIndex position success
      refine ⟨before, sent, apdu, received, header, objects, headers, function, seq, rfl, operates,
        written, parsed, ?_⟩
      rw [← pending.items]
      exact CommandSet.repeatsAt_of_toldAll
        (fun header member => (pending.commands header member).unsuccessful) restricted success

theorem Runs.answered {mode : IndexQualifierMode} {items : List CommandItems}
    {task next : CommandTask} {messages : List TaskMessage} {header : APDUResponseHeader}
    {objects : List UInt8} {result : ResponseResult}
    (runs : Runs mode items .waiting task messages)
    (response : task.processResponse header objects = (next, result)) (received : UInt64) :
    Runs mode items result.phase next (messages ++ [.response received header objects]) := by
  rw [processResponse] at response
  by_cases single : validateSingleResponse header = true
  swap
  · rw [if_neg single] at response
    obtain ⟨rfl, rfl⟩ := Prod.mk.inj response
    cases runs with
    | selecting pending => exact .completed _ (pending.backed _)
    | operating pending => exact .completed _ (pending.backed _)
  rw [if_pos single, processObjects] at response
  cases runs with
  | selecting pending codes =>
      have more : ¬task.functionCodes.isEmpty = true := by
        rw [codes]
        decide
      have kept := pending.selected objects
      rcases selected : task.commands.processSelectResponse objects with ⟨commands, answer⟩
      rw [selected] at kept
      rw [if_neg more, selected] at response
      obtain ⟨rfl, rfl⟩ := Prod.mk.inj response
      cases answer with
      | ok => exact .ready kept (.inr (.inl codes))
      | failSelect => exact .completed _ (kept.backed _)
      | failParse => exact .completed _ (kept.backed _)
  | @operating _ before sent _ _ _ pending codes restricted operates written =>
      have last : task.functionCodes.isEmpty = true := by
        rw [codes]
        rfl
      have backed := pending.operated restricted operates written before sent received header
        objects
      rcases operated : task.commands.processOperateResponse objects with ⟨commands, answer⟩
      rw [operated] at backed
      rw [if_pos last, operated] at response
      obtain ⟨rfl, rfl⟩ := Prod.mk.inj response
      rw [finalIf, List.append_assoc]
      split
      · exact .completed _ backed
      · exact .completed _ backed

end CommandTask

/-- A task with the commands of a user, as it is created. -/
def CommandTask.CreatedFrom (mode : IndexQualifierMode) (items : List CommandItems)
    (task : CommandTask) : Prop :=
  task = .createDirectOperate (.ofItems items) mode ∨
    task = .createSelectAndOperate (.ofItems items) mode

theorem TaskRun.runs [FloatOps] {mode : IndexQualifierMode} {items : List CommandItems}
    {task : CommandTask} (created : task.CreatedFrom mode items) {phase : TaskPhase}
    {body : MasterTask} {messages : List TaskMessage}
    (run : TaskRun (.command task) phase body messages) :
    ∃ task, body = .command task ∧ CommandTask.Runs mode items phase task messages := by
  have fresh : task.Pending mode items ∧ (task.functionCodes = [.select, .operate] ∨
      task.functionCodes = [.operate] ∨ task.functionCodes = [.directOperate]) := by
    have pending := CommandSet.pending_ofItems mode items
    have same := CommandSet.items_ofItems items
    rcases created with rfl | rfl
    · exact ⟨⟨rfl, same, pending⟩, .inr (.inr rfl)⟩
    · exact ⟨⟨rfl, same, pending⟩, .inl rfl⟩
  induction run with
  | start => exact ⟨task, rfl, .ready fresh.1 fresh.2⟩
  | unstarted result => exact ⟨task, rfl, .completed result (fresh.1.backed _)⟩
  | requested _ built ih =>
      obtain ⟨before, rfl, runs⟩ := ih
      rcases request : before.buildRequest _ _ with ⟨after, apdu, success⟩
      rw [MasterTask.buildRequest, request] at built
      obtain ⟨rfl, rest⟩ := Prod.mk.inj built
      obtain ⟨rfl, rfl⟩ := Prod.mk.inj rest
      exact ⟨after, rfl, runs.requested request _⟩
  | unformatted _ built ih =>
      obtain ⟨before, rfl, runs⟩ := ih
      rcases request : before.buildRequest _ _ with ⟨after, apdu, success⟩
      rw [MasterTask.buildRequest, request] at built
      obtain ⟨rfl, _⟩ := Prod.mk.inj built
      exact ⟨after, rfl, .completed _ (runs.unformatted request)⟩
  | answered _ response ih =>
      obtain ⟨before, rfl, runs⟩ := ih
      rcases answer : before.processResponse _ _ with ⟨after, result⟩
      rw [MasterTask.processResponse, answer] at response
      obtain ⟨rfl, rest⟩ := Prod.mk.inj response
      obtain ⟨_, rfl⟩ := Prod.mk.inj rest
      exact ⟨after, rfl, runs.answered answer _⟩
  | abandoned _ _ result ih =>
      obtain ⟨before, rfl, runs⟩ := ih
      exact ⟨before, rfl, .completed result runs.backed⟩

/-- What a completed task with commands reports is backed by its messages. -/
theorem truthful_of_run [FloatOps] {mode : IndexQualifierMode} {items : List CommandItems}
    {task : CommandTask} (created : task.CreatedFrom mode items) {result : TaskCompletion}
    {body : MasterTask} {messages : List TaskMessage}
    (run : TaskRun (.command task) (.completed result) body messages) :
    Truthful mode items messages (body.onTaskComplete result) := by
  obtain ⟨after, rfl, runs⟩ := run.runs created
  obtain ⟨same, backed⟩ := runs.backed
  rw [CommandSet.onTaskComplete_eq, same]
  exact ⟨_, rfl, backed⟩

def relayTask : CommandTask := .createDirectOperate (.ofItems relayItems) .alwaysTwoBytes

/-- The relay is operated and the output is set, and the response repeats both commands. -/
theorem truthful_relayTask :
    ∃ body messages,
      @TaskRun .atZero (.command relayTask) (.completed .success) body messages ∧
        body.onTaskComplete .success =
          .commands [(0, 0, .success, .success), (1, 3, .success, .success)] ∧
        @Truthful .atZero .alwaysTwoBytes relayItems messages (body.onTaskComplete .success) := by
  have sent := @TaskRun.requested .atZero _ _ _ _ ⟨0⟩ (clockAt 0) (.replicate 40 0) _
    (@TaskRun.start .atZero (.command relayTask)) rfl
  have run := @TaskRun.answered .atZero _ _ _ _ (clockAt 100)
    ⟨⟨.ofByte 0xC0, .response⟩, ⟨0, 0⟩⟩ (relayEcho 0x42) _ .okFinal sent rfl
  exact ⟨_, _, run, by decide +kernel, @truthful_of_run .atZero _ _ _ (.inl rfl) _ _ _ run⟩

end OpenDnp3.Master
