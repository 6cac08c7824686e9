import OpenDnp3.Outstation.Event.EventFormats
import OpenDnp3.Outstation.Event.EventStorage

/-!
# Round trip of event responses

The events that a load moves to the written state are the ones that a master
gets from the bytes of the load.
-/

set_option autoImplicit false

namespace OpenDnp3.Outstation

open OpenDnp3.App OpenDnp3.Library OpenDnp3.Master

/-- An event as it is stored in the two kinds of list. -/
structure StoredEvent where
  type : EventType
  variation : type.Variation
  value : type.Meas
  index : UInt16

namespace StoredEvent

def Encodable (event : StoredEvent) : Prop := event.type.Encodable event.value

instance : DecidablePred Encodable := fun event =>
  inferInstanceAs (Decidable (event.type.Encodable event.value))

/-- What the variation of an event encodes of it. -/
def measurement [FloatOps] (event : StoredEvent) : Measurement :=
  ⟨event.type.objectType, event.type.encoded event.variation event.value, event.index⟩

end StoredEvent

namespace EventLists

/-- Follow the pointer of a generic record to its typed record. -/
def retrieve (lists : EventLists) (record : EventRecord) : Option StoredEvent :=
  ((lists.getList record.type).get? record.storageNode).map fun data =>
    ⟨record.type, data.selectedVariation, data.value, record.index⟩

/-- The selected events, oldest first. -/
def selectedEvents (lists : EventLists) : List StoredEvent :=
  lists.selectedRecords.filterMap lists.retrieve

/-- The events that were not written before and are written after, oldest first. -/
def newlyWritten (before after : EventLists) : List StoredEvent :=
  ((before.events.nodes.filter fun entry =>
    entry.2.state != .written &&
      (after.events.get? entry.1).any (fun record => record.state == .written)).map
    (·.2)).filterMap before.retrieve

variable {config : EventBufferConfig} {lists : EventLists}

/-- Every record is retrieved as an event. -/
theorem Valid.retrieve_isSome (valid : lists.Valid config) {record : EventRecord}
    (member : record ∈ lists.events.values) : (lists.retrieve record).isSome = true := by
  obtain ⟨⟨node, record⟩, found, rfl⟩ := List.mem_map.mp member
  obtain ⟨data, stored, _⟩ := valid.typed_of_record found
  rw [retrieve, NodeList.get?_eq_some_of_mem (valid.typed _) stored]
  rfl

/-- The records that a handler took are those whose state has changed to written. -/
theorem Valid.newlyWritten_eq (valid : lists.Valid config) {after : EventLists}
    {taken : List EventRecord} (afterValid : after.Valid config)
    (writes : Writes lists after taken) :
    lists.newlyWritten after = taken.filterMap lists.retrieve := by
  have serials : (lists.events.values.map (·.serial)).Nodup := valid.ordered.imp Nat.ne_of_lt
  have nodes : after.events.nodes = lists.events.nodes.map fun entry =>
      (entry.1, entry.2.setStateIn (taken.map (·.serial)) .written) := by
    refine List.ext_getElem? fun position => ?_
    have slots := congrArg (·[position]?) writes.slots
    have values := congrArg (·[position]?) writes.values
    simp only [NodeList.slots, NodeList.values, List.map_map, List.getElem?_map] at slots values ⊢
    cases one : after.events.nodes[position]? <;> cases two : lists.events.nodes[position]? <;>
      simp_all [Prod.ext_iff]
  have first := writes.first
  have selected : ∀ entry ∈ lists.events.nodes, entry.2.serial ∈ taken.map (·.serial) →
      entry.2.state = .selected := by
    intro entry member among
    obtain ⟨record, taken, same⟩ := List.mem_map.mp among
    have chosen : record ∈ lists.selectedRecords := by
      rw [first]
      exact List.mem_append_left _ taken
    obtain ⟨stored, state⟩ := List.mem_filter.mp chosen
    have known : entry.2 = record :=
      List.inj_on_of_nodup_map serials (List.mem_map_of_mem member) stored same.symm
    rw [known]
    exact of_decide_eq_true state
  have chosen : ∀ entry ∈ lists.events.nodes,
      (entry.2.state != .written &&
        (after.events.get? entry.1).any (fun record => record.state == .written)) =
      (decide (entry.2.state = .selected) &&
        decide (entry.2.serial ∈ taken.map (·.serial))) := by
    intro entry member
    have present : (entry.1, entry.2.setStateIn (taken.map (·.serial)) .written) ∈
        after.events.nodes := by
      rw [nodes]
      exact List.mem_map_of_mem member
    rw [NodeList.get?_eq_some_of_mem afterValid.events present]
    by_cases one : entry.2.serial ∈ taken.map (·.serial)
    · simp [EventRecord.setStateIn, one, selected entry member one]
    · simp [EventRecord.setStateIn, one]
  have records : (lists.events.nodes.filter fun entry =>
      entry.2.state != .written &&
        (after.events.get? entry.1).any (fun record => record.state == .written)).map (·.2) =
      lists.selectedRecords.filter fun record => decide (record.serial ∈ taken.map (·.serial)) := by
    rw [List.filter_congr chosen, selectedRecords, NodeList.values, List.filter_filter,
      List.filter_map]
    congr 1
    exact List.filter_congr fun entry _ => Bool.and_comm _ _
  have distinct : (lists.selectedRecords.map (·.serial)).Nodup :=
    serials.sublist (List.filter_sublist.map _)
  rw [first, List.map_append, List.nodup_append] at distinct
  have kept : (taken ++ after.selectedRecords).filter
      (fun record => decide (record.serial ∈ taken.map (·.serial))) = taken := by
    rw [List.filter_append, List.filter_eq_self.mpr, List.filter_eq_nil_iff.mpr, List.append_nil]
    · intro record member
      have other := distinct.2.2
      simp only [decide_eq_true_eq]
      intro also
      exact other _ also _ (List.mem_map_of_mem member) rfl
    · intro record member
      exact decide_eq_true (List.mem_map_of_mem member)
  have same := records.trans ((congrArg (List.filter _) first).trans kept)
  exact congrArg (List.filterMap lists.retrieve) same

/-- Fewer than 2^16 events of one type are selected. -/
theorem Valid.length_run_lt (valid : lists.Valid config) {type : EventType}
    {run : List EventRecord} (among : run.Sublist lists.selectedRecords)
    (kinds : ∀ record ∈ run, record.type = type) : run.length < 65536 := by
  have whole : run.filter (fun record => decide (record.type = type)) = run :=
    List.filter_eq_self.mpr fun record member => decide_eq_true (kinds record member)
  have within := ((among.trans List.filter_sublist).filter
    (fun record => decide (record.type = type))).length_le
  have size := valid.size_typed type
  have bound := valid.size_typed_lt type
  rw [whole, NodeList.values, List.filter_map, List.length_map] at within
  exact Nat.lt_of_le_of_lt within (size ▸ bound)

end EventLists

/-! ## Loading -/

theorem EventWriter.write_eq_some {Meas : Type} {writer after : EventWriter Meas} {meas : Meas}
    {index : UInt16} (success : writer.write meas index = some after) :
    ∃ copy, writer.convert meas = some copy ∧
      writer.iterator.write writer.writer.position copy index =
        some (after.iterator, after.writer.position) ∧ after.convert = writer.convert := by
  unfold EventWriter.write at success
  split at success
  · obtain ⟨copy, converted, written⟩ := Option.bind_eq_some_iff.mp success
    obtain ⟨⟨iterator, position⟩, moved, rfl⟩ := Option.map_eq_some_iff.mp written
    exact ⟨copy, converted, moved, rfl⟩
  · cases success

/-- What the next event to be written is retrieved as. -/
theorem EventLists.Offers.retrieve {lists : EventLists} {type : EventType} {taken : List EventRecord}
    {record : EventRecord} {data : TypedEventRecord type}
    (offers : lists.Offers type taken record data) :
    lists.retrieve record = some ⟨type, data.selectedVariation, data.value, record.index⟩ := by
  obtain ⟨_, rfl, retrieved⟩ := offers
  rw [EventLists.retrieve, retrieved]
  rfl

theorem EventLists.Offers.encodable {lists : EventLists} {type : EventType} {taken : List EventRecord}
    {record : EventRecord} {data : TypedEventRecord type}
    (offers : lists.Offers type taken record data)
    (encodable : ∀ event ∈ lists.selectedEvents, event.Encodable) :
    type.Encodable data.value := by
  refine encodable ⟨type, data.selectedVariation, data.value, record.index⟩ ?_
  exact List.mem_filterMap.mpr ⟨record, offers.next.subset (by simp), offers.retrieve⟩

section loading

variable [FloatOps] (lists : EventLists) (origin : List UInt8)

/-- Between two runs: the bytes behind the origin report the events taken so far. -/
def Loaded (taken : List EventRecord) (writer : HeaderWriter) : Prop :=
  ∃ bytes headers, writer.position.written = origin ++ bytes ∧
    Reports 0 bytes headers ((taken.filterMap lists.retrieve).map StoredEvent.measurement)

/-- Within a run: the events before it are reported, and those of the run stand behind the
header that the iterator holds open. -/
structure OpenRun {type : EventType} {variation : type.Variation}
    (format : EventFormat type variation) (before run : List EventRecord) (bytes : List UInt8)
    (headers : List Header) (events entries : Events type) (writer : EventWriter type.Meas) :
    Prop where
  reports : Reports 0 bytes headers
    ((before.filterMap lists.retrieve).map StoredEvent.measurement)
  nonempty : events ≠ []
  encodable : ∀ event ∈ events, type.Encodable event.value
  retrieved : run.map lists.retrieve =
    events.map fun event => some ⟨type, variation, event.value, event.index⟩
  kinds : ∀ record ∈ run, record.type = type
  among : before ++ run <+: lists.selectedRecords
  convert : writer.convert = format.convert
  converts : Converts format.convert events entries
  holds : writer.iterator.Holds writer.writer.position .uint16 (origin ++ bytes ++ format.lead)
    format.serializer entries

def Loading (type : EventType) (variation : type.Variation) (taken : List EventRecord)
    (writer : EventWriter type.Meas) : Prop :=
  ∃ (format : EventFormat type variation) (before run : List EventRecord) (bytes : List UInt8)
    (headers : List Header) (events entries : Events type), taken = before ++ run ∧
    OpenRun lists origin format before run bytes headers events entries writer

variable {lists origin} {config : EventBufferConfig}

/-- One more event in a run. -/
theorem OpenRun.write {type : EventType} {record : EventRecord} {data : TypedEventRecord type}
    {format : EventFormat type data.selectedVariation} {before : List EventRecord}
    {bytes : List UInt8} {headers : List Header} (run : List EventRecord)
    (events entries : Events type)
    {writer after : EventWriter type.Meas}
    (reports : Reports 0 bytes headers
      ((before.filterMap lists.retrieve).map StoredEvent.measurement))
    (kinds : ∀ record ∈ run, record.type = type)
    (retrieved : run.map lists.retrieve =
      events.map fun event => some ⟨type, data.selectedVariation, event.value, event.index⟩)
    (encodable : ∀ event ∈ events, type.Encodable event.value)
    (convert : writer.convert = format.convert) (converts : Converts format.convert events entries)
    (holds : writer.iterator.Holds writer.writer.position .uint16
      (origin ++ bytes ++ format.lead) format.serializer entries)
    (offers : lists.Offers type (before ++ run) record data)
    (storable : type.Encodable data.value)
    (success : writer.write data.value record.index = some after) :
    ∃ value, OpenRun lists origin format before (run ++ [record]) bytes headers
      (events ++ [⟨data.value, record.index⟩]) (entries ++ [⟨value, record.index⟩]) after := by
  obtain ⟨copy, converted, moved, same⟩ := EventWriter.write_eq_some success
  refine ⟨copy, reports, by simp, ?_, ?_, ?_, ?_, same.trans convert, ?_, holds.write moved⟩
  · exact List.forall_mem_append.mpr ⟨encodable, by simpa using storable⟩
  · rw [List.map_append, List.map_append, retrieved, List.map_singleton, offers.retrieve]
    rfl
  · exact List.forall_mem_append.mpr ⟨kinds, by simpa using offers.kind⟩
  · rw [← List.append_assoc]
    exact offers.next
  · rw [convert] at converted
    rw [Converts, List.map_append, List.map_append, converts, List.map_singleton, converted]
    rfl

/-- The handler keeps what is reported behind the origin. -/
theorem keeps_loaded (origin : List UInt8) (valid : lists.Valid config)
    (encodable : ∀ event ∈ lists.selectedEvents, event.Encodable) :
    EventLists.Keeps asduEventWriteHandler lists (Loaded lists origin) (Loading lists origin) where
  start := by
    intro type taken record data state offers loaded
    obtain ⟨bytes, headers, written, reports⟩ := loaded
    have storable := offers.encodable encodable
    obtain ⟨format, begins⟩ := exists_format type data.selectedVariation storable state
    simp only [asduEventWriteHandler]
    generalize ASDUEventWriteHandler.start type data.selectedVariation data.value state = writer
      at begins
    rcases begins.iterator with ⟨invalid, same⟩ | started
    · have none : writer.write data.value record.index = none := by
        rw [EventWriter.write, invalid]
        rfl
      rw [none]
      refine ⟨bytes, headers, ?_, reports⟩
      rw [EventWriter.finish, PrefixedWriteIterator.finish, invalid]
      exact same.trans written
    · obtain ⟨copy, converted⟩ := Option.isSome_iff_exists.mp begins.convertible
      obtain ⟨⟨iterator, position⟩, moved⟩ :=
        Option.isSome_iff_exists.mp (started.room copy record.index)
      cases success : writer.write data.value record.index with
      | none =>
          have valid : writer.iterator.isValid = true := started.holds.isValid
          rw [EventWriter.write, valid, if_pos rfl, begins.convert, converted, Option.bind_some,
            moved] at success
          cases success
      | some after =>
          have holds := started.holds
          rw [written] at holds
          obtain ⟨value, run⟩ := OpenRun.write [] [] [] reports
            (by simp) rfl (by simp) begins.convert rfl holds (by simpa using offers) storable success
          exact ⟨format, taken, [record], bytes, headers, _, _, rfl, run⟩
  write := by
    intro type taken record data writer after offers loading success
    obtain ⟨format, before, run, bytes, headers, events, entries, rfl, opened⟩ := loading
    obtain ⟨value, more⟩ := OpenRun.write _ _ _ opened.reports opened.kinds opened.retrieved
      opened.encodable opened.convert opened.converts opened.holds offers
      (offers.encodable encodable) success
    exact ⟨format, before, run ++ [record], bytes, headers, _, _, List.append_assoc _ _ _, more⟩
  finish := by
    intro type variation taken writer loading
    obtain ⟨format, before, run, bytes, headers, events, entries, rfl, opened⟩ := loading
    have length : run.length = events.length := by simpa using congrArg List.length opened.retrieved
    have fits : events.length < 65536 := by
      rw [← length]
      exact valid.length_run_lt
        ((List.sublist_append_right before run).trans opened.among.sublist) opened.kinds
    obtain ⟨others, more⟩ := format.reports headers.length events entries opened.nonempty fits
      opened.encodable opened.converts
    refine ⟨bytes ++ (format.lead ++ prefixedBytes .uint16 format.serializer entries), headers ++ others,
      ?_, ?_⟩
    · have finished := opened.holds.finish
      simpa [asduEventWriteHandler, EventWriter.finish, List.append_assoc] using finished
    · have reported : (run.filterMap lists.retrieve).map StoredEvent.measurement =
          events.measurements variation := by
        have stored : run.filterMap lists.retrieve =
            events.map fun event => ⟨type, variation, event.value, event.index⟩ := by
          have all := congrArg (List.filterMap id) opened.retrieved
          simpa [List.filterMap_map, Function.comp_def] using all
        rw [stored, List.map_map]
        rfl
      rw [List.filterMap_append, List.map_append, reported]
      exact opened.reports.append (by simpa using more)

end loading

/-- The bytes that a load of the selected events appends parse to headers with objects in them,
from which a master gets the events that the load has moved to the written state, and these are
the first of the selected ones. -/
theorem EventLists.load_reports [FloatOps] {config : EventBufferConfig} {lists : EventLists}
    (reached : machine.Reaches (empty config) lists)
    (encodable : ∀ event ∈ lists.selectedEvents, event.Encodable) (writer : HeaderWriter) :
    let after := (lists.write asduEventWriteHandler writer).2
    ∃ bytes headers calls,
      after.writer.position.written = writer.position.written ++ bytes ∧
      APDUParser.parse true MeasurementHandler.isAllowed bytes = .ok headers ∧
      (∀ header ∈ headers, 0 < numObjects header) ∧
      MeasurementHandler.processMeasurements bytes = .ok calls ∧
      calls.flatMap SOECall.measurements =
        (lists.newlyWritten after.lists).map StoredEvent.measurement ∧
      lists.newlyWritten after.lists <+: lists.selectedEvents := by
  have valid := Valid.of_reaches reached
  obtain ⟨taken, afterValid, writes, _, bytes, headers, written, reports⟩ :=
    valid.write_keeps (keeps_loaded writer.position.written valid encodable)
      writer ⟨[], [], by simp, Reports.nil⟩
  have events := valid.newlyWritten_eq afterValid writes
  obtain ⟨calls, processed, received⟩ := reports.processed
  refine ⟨bytes, headers, calls, written, reports.parses.parse, reports.nonempty, processed,
    received.trans (congrArg _ events.symm), ?_⟩
  rw [events, selectedEvents, writes.first, List.filterMap_append]
  exact List.prefix_append _ _

/-- Two events with a relative time, half a second apart. -/
theorem EventLists.load_reports_relative :
    ∃ (lists : EventLists) (bytes : List UInt8) (calls : List SOECall),
      machine.Reaches (empty (.allTypes 2)) lists ∧
      @MeasurementHandler.processMeasurements .atZero bytes = .ok calls ∧
      calls.flatMap SOECall.measurements =
        [⟨.binary, ⟨true, 0x81, 1000⟩, 3⟩, ⟨.binary, ⟨false, 0x01, 1500⟩, 4⟩] := by
  have stored : machine.Reaches (empty (.allTypes 2)) _ :=
    .step .start trivial (rfl : machine.step _
      (.update (⟨⟨true, 0x81, 1000⟩, 3, .ec1, .group2Var3⟩ : Event .binary)) = some _)
  have both : machine.Reaches (empty (.allTypes 2)) _ :=
    .step stored trivial (rfl : machine.step _
      (.update (⟨⟨false, 0x01, 1500⟩, 4, .ec1, .group2Var3⟩ : Event .binary)) = some _)
  have selected : machine.Reaches (empty (.allTypes 2)) _ :=
    .step both trivial (rfl : machine.step _ (.selectByClass .allEventClasses 5) = some _)
  obtain ⟨bytes, _, calls, _, _, _, processed, received, _⟩ :=
    @load_reports .atZero _ _ selected (fun event member => by
      have events : event ∈ ([⟨.binary, .group2Var3, ⟨true, 0x81, 1000⟩, 3⟩,
          ⟨.binary, .group2Var3, ⟨false, 0x01, 1500⟩, 4⟩] : List StoredEvent) := member
      rcases List.mem_pair.mp events with rfl | rfl <;> exact ⟨by decide, by decide⟩)
      ⟨⟨[], .replicate 40 0⟩, none⟩
  exact ⟨_, bytes, calls, selected, processed, received.trans (by decide +kernel)⟩

end OpenDnp3.Outstation
