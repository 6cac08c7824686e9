import OpenDnp3.Outstation.Database.StaticResponses
import OpenDnp3.Outstation.Event.RetainedEvents
import OpenDnp3.Outstation.ReadResponses

/-!
# Reported selections

A fragment of a response to a READ reports the first of what is selected, and
leaves the rest of it to the fragments behind it. Changes of the points between
the fragments leave the rest as it is, unless they discard selected events.
-/

set_option autoImplicit false

namespace OpenDnp3.Outstation

open OpenDnp3.App OpenDnp3.Library OpenDnp3.Master

def Reading.measurement (reading : Reading) : Measurement :=
  ⟨reading.type, reading.value, reading.index⟩

theorem measurements_processHeader {header : Header} {type : StaticType}
    (kinds : ∀ reading ∈ header.readings, reading.type = type.objectType)
    (nonempty : header.readings ≠ []) (handler : MeasurementHandler) :
    (handler.processHeader header).2.flatMap SOECall.measurements =
      header.readings.map Reading.measurement := by
  cases header with
  | rangeOf record range kind values =>
      obtain ⟨first, member⟩ := List.exists_mem_of_ne_nil _ nonempty
      have same := kinds first member
      obtain ⟨value, _, rfl⟩ := List.mem_map.mp member
      obtain rfl : kind = type.objectType := same
      have loads : handler.processRange record type.objectType values =
          handler.loadValues record (MeasurementHandler.modeFromType record.enumeration)
            type.objectType values := by
        cases type <;> rfl
      rw [MeasurementHandler.processHeader, loads, measurements_loadValues, Header.readings,
        List.map_map]
      rfl
  | _ => exact absurd rfl nonempty

/-- A master gets the points that headers with ranges carry. -/
theorem StaticReports.reports [FloatOps] {index : Nat} {bytes : List UInt8} {headers : List Header}
    {readings : List Reading} (reports : StaticReports index bytes headers readings)
    (kinds : ∀ reading ∈ readings, ∃ type : StaticType, reading.type = type.objectType) :
    Reports index bytes headers (readings.map Reading.measurement) where
  parses := reports.parses
  nonempty header member := by
    have some := reports.nonempty header member
    cases header with
    | rangeOf record range type values =>
        exact List.length_pos_iff.mpr fun none => some (by rw [Header.readings, none]; rfl)
    | _ => exact absurd rfl some
  received := by
    have nonempty := reports.nonempty
    have among : ∀ header ∈ headers, ∀ reading ∈ header.readings,
        ∃ type : StaticType, reading.type = type.objectType := by
      intro header member reading inside
      refine kinds reading ?_
      rw [← reports.readings]
      exact List.mem_flatMap.mpr ⟨header, member, inside⟩
    rw [← reports.readings, List.map_flatMap]
    clear reports kinds
    induction headers with
    | nil => exact fun _ => rfl
    | cons header headers ih =>
        intro handler
        obtain ⟨some, others⟩ := List.forall_mem_cons.mp nonempty
        obtain ⟨here, there⟩ := List.forall_mem_cons.mp among
        obtain ⟨first, member⟩ := List.exists_mem_of_ne_nil _ some
        obtain ⟨type, kind⟩ := here first member
        have uniform : ∀ reading ∈ header.readings, reading.type = type.objectType := by
          intro reading inside
          rw [← kind]
          cases header with
          | rangeOf record range object values =>
              obtain ⟨_, _, rfl⟩ := List.mem_map.mp member
              obtain ⟨_, _, rfl⟩ := List.mem_map.mp inside
              rfl
          | _ => exact absurd rfl some
        rw [MeasurementHandler.processHeaders, List.flatMap_cons]
        simp only
        rw [List.flatMap_append, measurements_processHeader uniform some, ih others there]

namespace DatabaseBuffers

variable [FloatOps] {db : DatabaseBuffers} {writer : HeaderWriter} {types : List StaticType}

/-- What is loaded comes before what is left, over all types. -/
theorem Valid.loadTypes_inOrder (distinct : types.Nodup) :
    ∀ {db : DatabaseBuffers}, db.Valid → db.Indexed → ∀ {writer : HeaderWriter} {load : Load},
      (∀ type ∈ types, ∀ space, NeverWraps type (db.pendingPoints type) space) →
      DatabaseBuffers.loadTypes types writer db = some load →
      types.flatMap db.pendingReadings =
        (types.flatMap fun type => (db.deselectedPoints load.buffers type).map Cell.reading) ++
          types.flatMap load.buffers.pendingReadings := by
  induction types with
  | nil =>
      intro db _ _ writer load _ _
      rfl
  | cons type types ih =>
      intro db valid indexed writer load fine success
      obtain ⟨fresh, distinct⟩ := List.nodup_cons.mp distinct
      obtain ⟨first, made, delivers, _⟩ :=
        valid.loadPoints_delivers indexed type (fine type List.mem_cons_self writer.remaining)
      rw [DatabaseBuffers.loadTypes, made, Option.bind_some] at success
      have kept : ∀ other ∈ types, first.buffers.points other = db.points other := by
        intro other member
        refine delivers.others other ?_
        rw [List.mem_singleton]
        rintro rfl
        exact fresh member
      have split : db.pendingReadings type =
          (db.deselectedPoints first.buffers type).map Cell.reading ++
            first.buffers.pendingReadings type := by
        rw [pendingReadings, delivers.split type, List.map_append]
        rfl
      have others : types.flatMap first.buffers.pendingReadings =
          types.flatMap db.pendingReadings := by
        refine List.flatMap_congr fun other member => ?_
        rw [pendingReadings, pendingReadings, pendingPoints, kept other member]
        rfl
      cases more : first.complete with
      | false =>
          rw [more, if_neg Bool.false_ne_true] at success
          obtain rfl := Option.some.inj success
          have none : (types.flatMap fun other =>
              (db.deselectedPoints first.buffers other).map Cell.reading) = [] := by
            rw [List.flatMap_eq_nil_iff]
            intro other member
            rw [deselectedPoints_of_same (kept other member)]
            rfl
          rw [List.flatMap_cons, List.flatMap_cons, List.flatMap_cons, none, List.append_nil,
            others, split, List.append_assoc]
      | true =>
          rw [more, if_pos rfl] at success
          have nothing : first.buffers.pendingReadings type = [] := by
            rw [pendingReadings, delivers.complete.mp more type (List.mem_singleton_self _)]
            rfl
          have behind := ih distinct (valid.loadPoints made) (indexed.congr delivers.indices)
            (fun other member space => by
              rw [pendingPoints, kept other member]
              exact fine other (List.mem_cons_of_mem _ member) space) success
          have same : load.buffers.points type = first.buffers.points type :=
            points_loadTypes_of_not_mem fresh success
          have here : db.deselectedPoints load.buffers type =
              db.deselectedPoints first.buffers type := by
            rw [deselectedPoints, same]
            rfl
          have left : load.buffers.pendingReadings type = [] := by
            rw [pendingReadings, pendingPoints, same]
            exact nothing
          have there : (types.flatMap fun other =>
              (first.buffers.deselectedPoints load.buffers other).map Cell.reading) =
              types.flatMap fun other =>
                (db.deselectedPoints load.buffers other).map Cell.reading := by
            refine List.flatMap_congr fun other member => ?_
            rw [deselectedPoints, deselectedPoints, kept other member]
          rw [List.flatMap_cons, List.flatMap_cons, List.flatMap_cons, here, left, List.nil_append,
            split, nothing, List.append_nil, ← others, behind, there, List.append_assoc]

/-- What all points still have to say, in the order in which they are loaded. -/
def toReport (db : DatabaseBuffers) : List Measurement :=
  (loadOrder.flatMap db.pendingReadings).map Reading.measurement

theorem SameRequests.toReport {other : DatabaseBuffers} (same : db.SameRequests other) :
    other.toReport = db.toReport := by
  rw [DatabaseBuffers.toReport, DatabaseBuffers.toReport, funext same.pendingReadings]

/-- A load reports the first of what is to be reported. -/
theorem Reporting.load_toReport (reporting : db.Reporting) {load : Load}
    (success : db.load writer = some load) :
    load.buffers.Reporting ∧ (load.complete = true → load.buffers.toReport = []) ∧
      ∃ bytes readings, load.writer.position.written = writer.position.written ++ bytes ∧
        (∀ index, ∃ headers, Outstation.Reports index bytes headers readings) ∧
        db.toReport = readings ++ load.buffers.toReport := by
  have never := fun type space => neverWraps_of_reportable (reporting.reportable type) space
  obtain ⟨_, made, reports⟩ := reporting.load writer
  obtain rfl := Option.some.inj (success.symm.trans made)
  obtain ⟨_, other, delivers⟩ := @Valid.loadTypes_delivers _ _ nodup_loadOrder _ reporting.valid
    reporting.indexed writer fun type _ space => never type space
  obtain rfl := Option.some.inj (success.symm.trans other)
  have inOrder := Valid.loadTypes_inOrder nodup_loadOrder reporting.valid reporting.indexed
    (fun type _ space => never type space) success
  obtain ⟨bytes, written, reported⟩ := delivers.reported
  refine ⟨reports.after, fun complete => ?_, bytes,
    (loadOrder.flatMap fun type =>
      (db.deselectedPoints load.buffers type).map Cell.reading).map Reading.measurement,
    written, fun index => ?_, ?_⟩
  · rw [DatabaseBuffers.toReport, funext (reports.complete.mp complete)]
    rfl
  · obtain ⟨headers, static⟩ := reported (fun type _ cell member => by
      have whole : cell ∈ db.pendingPoints type := by
        rw [delivers.split type]
        exact List.mem_append_left _ member
      exact (Bool.and_eq_true_iff.mp (reporting.reportable type cell whole)).2) index
    refine ⟨headers, static.reports fun reading member => ?_⟩
    obtain ⟨type, _, inside⟩ := List.mem_flatMap.mp member
    obtain ⟨_, _, rfl⟩ := List.mem_map.mp inside
    exact ⟨type, rfl⟩
  · rw [DatabaseBuffers.toReport, inOrder, List.map_append]
    rfl

end DatabaseBuffers

/-! ## Events -/

namespace EventBuffer

variable [FloatOps] {config : EventBufferConfig} {buffer : EventBuffer}

/-- What the selected events still have to say, oldest first. -/
def toReport (buffer : EventBuffer) : List Measurement :=
  buffer.storage.selectedEvents.map StoredEvent.measurement

/-- A load reports the first of the selected events. -/
theorem load_toReport (valid : buffer.storage.Valid config)
    (encodable : ∀ event ∈ buffer.storage.selectedEvents, event.Encodable)
    (writer : HeaderWriter) :
    (buffer.load writer).buffer.storage.Valid config ∧
      (∀ event ∈ (buffer.load writer).buffer.storage.selectedEvents, event.Encodable) ∧
      ((buffer.load writer).complete = true → (buffer.load writer).buffer.toReport = []) ∧
      ∃ bytes headers measurements,
        (buffer.load writer).writer.position.written = writer.position.written ++ bytes ∧
        Reports 0 bytes headers measurements ∧
        buffer.toReport = measurements ++ (buffer.load writer).buffer.toReport := by
  obtain ⟨taken, sound, writes, _, bytes, headers, written, reports⟩ :=
    valid.write_keeps (keeps_loaded writer.position.written valid encodable) writer
      ⟨[], [], by simp, Reports.nil⟩
  change (buffer.load writer).buffer.storage.Valid config at sound
  change EventLists.Writes buffer.storage (buffer.load writer).buffer.storage taken at writes
  have same : (buffer.load writer).buffer.storage.retrieve = buffer.storage.retrieve := by
    funext record
    rw [EventLists.retrieve, EventLists.getList, writes.typed]
    rfl
  have split : buffer.storage.selectedEvents = taken.filterMap buffer.storage.retrieve ++
      (buffer.load writer).buffer.storage.selectedEvents := by
    rw [EventLists.selectedEvents, EventLists.selectedEvents, writes.first, List.filterMap_append,
      same]
  refine ⟨sound, fun event member => ?_, fun complete => ?_, bytes, headers, _, written, reports,
    ?_⟩
  · refine encodable event ?_
    rw [split]
    exact List.mem_append_right _ member
  · have none : (buffer.load writer).buffer.storage.numSelected = 0 := beq_iff_eq.mp complete
    have length := sound.length_selectedRecords
    rw [none] at length
    rw [toReport, EventLists.selectedEvents, List.length_eq_zero_iff.mp length.symm]
    rfl
  · rw [toReport, split, List.map_append]
    rfl

end EventBuffer

/-! ## Fragments -/

/-- A fragment of a response, from which a master gets measurements. -/
def Delivers [FloatOps] (control : AppControlField) (measurements : List Measurement)
    (fragment : List UInt8) : Prop :=
  ∃ iin objects calls,
    APDUHeader.parseResponse fragment = some (⟨⟨control, .response⟩, iin⟩, objects) ∧
    MeasurementHandler.processMeasurements objects = .ok calls ∧
    calls.flatMap SOECall.measurements = measurements

namespace OContext

variable [FloatOps] {config : EventBufferConfig} {environment : Environment}
  {request : ParsedRequest} {context after : OContext}

/-- What is selected and has not been written yet: the events, and behind them the points. -/
def toReport (context : OContext) : List Measurement :=
  context.eventBuffer.toReport ++ context.database.toReport

/-- What can be reported of an outstation whole. -/
structure Reporting (config : EventBufferConfig) (context : OContext) : Prop where
  events : context.eventBuffer.storage.Valid config
  encodable : ∀ event ∈ context.eventBuffer.storage.selectedEvents, event.Encodable
  points : context.database.Reporting

theorem Reporting.loadResponse {loaded : Loaded} {writer : HeaderWriter}
    (reporting : context.Reporting config) (success : context.loadResponse writer = some loaded) :
    loaded.context.Reporting config ∧
      (loaded.control.fin = true → loaded.context.toReport = []) ∧
      ∃ bytes headers measurements,
        loaded.writer.position.written = writer.position.written ++ bytes ∧
        Outstation.Reports 0 bytes headers measurements ∧
        context.toReport = measurements ++ loaded.context.toReport := by
  obtain ⟨valid, encodable, done, bytes, headers, measurements, written, reports, split⟩ :=
    EventBuffer.load_toReport reporting.events reporting.encodable writer
  simp only [OContext.loadResponse] at success
  split at success
  · next complete =>
      obtain ⟨static, made, rfl⟩ := Option.map_eq_some_iff.mp success
      obtain ⟨points, whole, more, readings, appended, reported, order⟩ :=
        reporting.points.load_toReport made
      have none := done complete
      obtain ⟨others, follow⟩ := reported (0 + headers.length)
      refine ⟨⟨valid, encodable, points⟩, fun fin => ?_, bytes ++ more, headers ++ others,
        measurements ++ readings, ?_, reports.append follow, ?_⟩
      · exact List.append_eq_nil_iff.mpr ⟨none, whole fin⟩
      · rw [← List.append_assoc, ← written]
        exact appended
      · change _ = measurements ++ readings ++
          ((context.eventBuffer.load writer).buffer.toReport ++ static.buffers.toReport)
        rw [none, toReport, split, none, List.append_nil, order, List.nil_append,
          List.append_assoc]
  · obtain rfl := Option.some.inj success
    refine ⟨⟨valid, encodable, reporting.points⟩, by rintro ⟨⟩, bytes, headers, measurements,
      written, reports, ?_⟩
    rw [toReport, split, List.append_assoc]
    rfl

/-- A fragment that is sent reports the first of what was to be reported. -/
structure ReportsFirst (config : EventBufferConfig) (selected : List Measurement)
    (after : OContext) : Prop where
  reporting : after.Reporting config
  done : after.sol.tx.control.fin = true → after.toReport = []
  delivers : ∃ measurements, selected = measurements ++ after.toReport ∧
    Delivers after.sol.tx.control measurements after.sol.tx.lastResponse

theorem Reporting.sends {loaded : Loaded} {response : APDUResponse}
    (reporting : context.Reporting config)
    (success : context.loadResponse response.getWriter = some loaded)
    (empty : response.remaining.written = [])
    (function : response.function = FunctionCode.response.toType) (destination : UInt16)
    {seq : AppSeqNum} (below : seq.seq < 16) (iin : IINField) :
    (sendLoaded environment loaded destination seq iin response).ReportsFirst config
      context.toReport := by
  obtain ⟨sound, done, bytes, headers, measurements, written, reports, split⟩ :=
    reporting.loadResponse success
  obtain ⟨calls, processed, received⟩ := reports.processed
  have objects : loaded.writer.position.written = bytes := by
    rw [written]
    change response.remaining.written ++ bytes = bytes
    rw [empty, List.nil_append]
  have same : AppControlField.ofByte
      (AppControlField.toByte { loaded.control with seq := seq.seq }) =
        { loaded.control with seq := seq.seq } := AppControlField.ofByte_toByte _ below
  have parsed (iin : IINField) : APDUHeader.parseResponse
      ((((response.setWriter loaded.writer).setControl
        { loaded.control with seq := seq.seq }).setIIN iin).toRSlice) =
      some (⟨⟨{ loaded.control with seq := seq.seq }, .response⟩, iin⟩, bytes) := by
    have read : APDUHeader.parseResponse
        ((((response.setWriter loaded.writer).setControl
          { loaded.control with seq := seq.seq }).setIIN iin).toRSlice) =
        some (⟨⟨.ofByte (AppControlField.toByte { loaded.control with seq := seq.seq }),
          .fromType response.function⟩, iin⟩, loaded.writer.position.written) := rfl
    rwa [same, function, FunctionCode.fromType_toType, objects] at read
  rw [sendLoaded]
  dsimp only
  split
  · exact ⟨⟨sound.events, sound.encodable, sound.points⟩, done,
      ⟨measurements, split, _, bytes, calls, parsed _, processed, received⟩⟩
  · exact ⟨⟨sound.events, sound.encodable, sound.points⟩, done,
      ⟨measurements, split, _, bytes, calls, parsed _, processed, received⟩⟩

/-- What the headers of a READ select. -/
def selectedBy (context : OContext) (headers : List Header) : OContext :=
  let handler : ReadHandler := headers.foldl ReadHandler.onHeader
    { database := context.startRead.database, eventBuffer := context.startRead.eventBuffer }
  { context.startRead with database := handler.database, eventBuffer := handler.eventBuffer }

theorem respondToReadRequest_reports {headers : List Header}
    (parsed : APDUParser.parse false ReadHandler.isAllowed request.objects = .ok headers)
    (reporting : (context.selectedBy headers).Reporting config)
    (below : request.header.control.seq < 16)
    (success : context.respondToReadRequest environment request = some after) :
    after.ReportsFirst config (context.selectedBy headers).toReport := by
  obtain ⟨⟨iin, loaded⟩, made, rfl⟩ := Option.map_eq_some_iff.mp success
  simp only [handleRead, parsed] at made
  obtain ⟨_, loads, same⟩ := Option.map_eq_some_iff.mp made
  obtain ⟨_, rfl⟩ := Prod.mk.inj same
  have whole : OContext.Reporting config (OContext.selectedBy
      { context with
        history := .recordLastProcessedRequest request.header request.objects } headers) :=
    ⟨reporting.events, reporting.encodable, reporting.points⟩
  exact whole.sends loads rfl rfl request.addresses.source below iin

theorem continueMultiFragResponse_reports {addresses : Addresses} {seq : AppSeqNum}
    (reporting : context.Reporting config) (below : seq.seq < 16)
    (success : context.continueMultiFragResponse environment addresses seq = some after) :
    after.ReportsFirst config context.toReport := by
  obtain ⟨loaded, made, rfl⟩ := Option.map_eq_some_iff.mp success
  exact reporting.sends made rfl rfl addresses.source below .empty

/-! ## Changes -/

theorem toReport_clearWritten {serials : List Nat}
    (marks : context.eventBuffer.Marks config serials) :
    context.confirmed.clearWritten.toReport = context.toReport :=
  congrArg (List.map StoredEvent.measurement · ++ context.database.toReport)
    marks.valid.selectedEvents_clearWritten

omit [FloatOps] in
theorem Reporting.clearWritten (reporting : context.Reporting config) :
    context.confirmed.clearWritten.Reporting config where
  events := reporting.events.clearWritten.1
  encodable := by
    have same := reporting.events.selectedEvents_clearWritten
    exact fun event member => reporting.encodable event (same ▸ member)
  points := reporting.points

theorem retains_changeAll {updates : List DatabaseUpdate} {serials : List Nat}
    (marks : context.eventBuffer.Marks config serials)
    (changed : changeAll updates context = some after) :
    context.eventBuffer.storage.Retains after.eventBuffer.storage ∧
      after.eventBuffer.Marks config serials := by
  induction updates generalizing context with
  | nil =>
      obtain rfl := Option.some.inj changed
      exact ⟨.refl _, marks⟩
  | cons update updates ih =>
      obtain ⟨next, made, rest⟩ := Option.bind_eq_some_iff.mp changed
      obtain ⟨eventBuffer, stored, rfl⟩ := Option.map_eq_some_iff.mp made
      have marked := marks.updateAll stored
      obtain ⟨retains, last⟩ := @ih { context with
        database := (changePoints context.database update).buffers, eventBuffer } marked rest
      exact ⟨(marks.retains_updateAll stored).trans retains, last⟩

theorem sameRequests_changeAll {updates : List DatabaseUpdate}
    (changed : changeAll updates context = some after) :
    context.database.SameRequests after.database := by
  induction updates generalizing context with
  | nil =>
      obtain rfl := Option.some.inj changed
      exact .refl _
  | cons update updates ih =>
      obtain ⟨next, made, rest⟩ := Option.bind_eq_some_iff.mp changed
      obtain ⟨eventBuffer, _, rfl⟩ := Option.map_eq_some_iff.mp made
      refine .trans ?_ (ih rest)
      cases update with
      | update type value index mode =>
          exact context.database.sameRequests_updateEvent value index mode
      | updateTimeAndInterval value index =>
          exact @DatabaseBuffers.sameRequests_updateEvent .timeAndInterval _ context.database value
            index _
      | modify flagsType start stop flags =>
          exact context.database.sameRequests_modify flagsType start stop flags

/-- A change of the points that discards no selected event leaves what is to be reported. -/
theorem Reporting.changeAll {updates : List DatabaseUpdate} {serials : List Nat}
    (reporting : context.Reporting config) (marks : context.eventBuffer.Marks config serials)
    (changed : OContext.changeAll updates context = some after)
    (kept : after.eventBuffer.storage.numSelected = context.eventBuffer.storage.numSelected) :
    after.Reporting config ∧ after.toReport = context.toReport := by
  obtain ⟨retains, marked⟩ := retains_changeAll marks changed
  have requests := sameRequests_changeAll changed
  have events := retains.selectedEvents marks.valid marked.valid kept
  refine ⟨⟨marked.valid, events ▸ reporting.encodable,
    reporting.points.of_sameRequests requests⟩, ?_⟩
  rw [toReport, toReport, requests.toReport, EventBuffer.toReport, events]
  rfl

end OContext

end OpenDnp3.Outstation
