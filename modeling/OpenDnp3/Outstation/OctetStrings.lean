import OpenDnp3.App.OctetData
import OpenDnp3.App.Parsing.APDUParserProperties
import OpenDnp3.Outstation.Database.StaticLoading
import OpenDnp3.Outstation.Event.EventRoundTrip

/-!
# Octet strings

The size of an octet string is the variation of the header that it is reported
under, as static data and as an event, and a master refuses the variation zero.
-/

set_option autoImplicit false

namespace OpenDnp3.Outstation

open OpenDnp3.App OpenDnp3.Library OpenDnp3.Master

/-- The strings that a header carries, and their indices. -/
def strings : Header → List (Indexed OctetString)
  | .rangeOf _ _ .octetString values => values
  | .prefixOf _ _ .octetString values => values
  | _ => []

section reports

variable [FloatOps]

/-- Wherever the part stands in a fragment whose other parts can be read, a master reads all of the
headers, among them one with the strings. -/
def Received (part : List UInt8) (sent : List (Indexed OctetString)) : Prop :=
  ∀ (lead : List UInt8) (first : List Header) (rest : List UInt8) (behind : Nat → List Header),
    Parses true 0 lead first → (∀ index, Parses true index rest (behind index)) →
      ∃ header, strings header = sent ∧
        APDUParser.parse true MeasurementHandler.isAllowed (lead ++ part ++ rest) =
          .ok (first ++ header :: behind (first.length + 1))

theorem received_of_parseHeader {part : List UInt8} {sent : List (Indexed OctetString)}
    (parsed : ∀ index, ∃ header, strings header = sent ∧ ∀ after,
      APDUParser.parseHeader true none index (part ++ after) = .ok (header, after)) :
    Received part sent := by
  intro lead first rest behind before others
  obtain ⟨header, same, read⟩ := parsed first.length
  refine ⟨header, same, ?_⟩
  rw [List.append_assoc]
  have here : Parses true (0 + first.length) (part ++ rest)
      (header :: behind (first.length + 1)) := by
    rw [Nat.zero_add]
    exact .cons read (others _)
  exact (before.append here).parse

/-- A part that is refused on its own is not received. -/
theorem not_received_of_parseHeader {part : List UInt8} {error : ParseError}
    (refused : APDUParser.parseHeader true none 0 (part ++ []) = .error error)
    (sent : List (Indexed OctetString)) : ¬Received part sent := by
  intro received
  obtain ⟨header, _, parsed⟩ := received [] [] [] (fun _ => []) .nil (fun _ => .nil)
  have whole := (APDUParser.parses_of_parse parsed).1
  rw [List.nil_append, List.nil_append] at whole
  generalize part ++ [] = bytes at refused whole
  cases whole with
  | cons one _ =>
      rw [one] at refused
      cases refused

/-! ## Events -/

/-- Write events one behind the other. -/
def EventWriter.writeAll {Meas : Type} :
    EventWriter Meas → List (Indexed Meas) → Option (EventWriter Meas)
  | writer, [] => some writer
  | writer, event :: events =>
      (writer.write event.value event.index).bind fun writer => writeAll writer events

/-- An event with a string, as it is stored. -/
def storedOctets (event : Indexed OctetString) : StoredEvent :=
  ⟨.octetString, .group111Var0, event.value, event.index⟩

omit [FloatOps] in
/-- Fewer than 2^16 strings are selected. -/
theorem length_lt_of_among {config : EventBufferConfig} {lists : EventLists}
    (reached : EventLists.machine.Reaches (.empty config) lists)
    {events : List (Indexed OctetString)}
    (among : events.map storedOctets <:+: lists.selectedEvents) : events.length < 65536 := by
  have valid := EventLists.Valid.of_reaches reached
  obtain ⟨run, inside, same⟩ := List.sublist_filterMap_iff.mp among.sublist
  have retrieved : ∀ record ∈ run, (lists.retrieve record).isSome = true := fun record member =>
    valid.retrieve_isSome ((inside.trans List.filter_sublist).subset member)
  have length : run.length = events.length := by
    rw [← List.length_map storedOctets, same, List.length_filterMap_eq_countP,
      List.countP_eq_length.mpr retrieved]
  have kinds : ∀ record ∈ run, record.type = .octetString := by
    intro record member
    obtain ⟨event, found⟩ := Option.isSome_iff_exists.mp (retrieved record member)
    have stored : event ∈ events.map storedOctets := by
      rw [same]
      exact List.mem_filterMap.mpr ⟨record, member, found⟩
    obtain ⟨_, _, rfl⟩ := List.mem_map.mp stored
    rw [EventLists.retrieve, Option.map_eq_some_iff] at found
    obtain ⟨_, _, is⟩ := found
    exact congrArg StoredEvent.type is
  rw [← length]
  exact valid.length_run_lt inside kinds

/-- What stands behind a header that strings of its size are written to. -/
structure HoldsStrings (size : UInt8) (origin : List UInt8)
    (entries : List (Indexed OctetString)) (writer : EventWriter OctetString) : Prop where
  holds : writer.iterator.Holds writer.writer.position .uint16 origin
    (octetStringSerializer true size) entries
  convert : writer.convert = fun meas => if meas.size ≠ size.toNat then none else some meas
  sizes : ∀ entry ∈ entries, entry.value.size = size.toNat

omit [FloatOps] in
theorem HoldsStrings.write {size : UInt8} {origin : List UInt8}
    {entries : List (Indexed OctetString)} {writer after : EventWriter OctetString}
    (held : HoldsStrings size origin entries writer) {event : Indexed OctetString}
    (success : writer.write event.value event.index = some after) :
    HoldsStrings size origin (entries ++ [event]) after := by
  obtain ⟨copy, converted, moved, same⟩ := EventWriter.write_eq_some success
  rw [held.convert] at converted
  simp only at converted
  by_cases sized : event.value.size = size.toNat
  · rw [if_neg (not_not.mpr sized)] at converted
    obtain rfl := Option.some.inj converted
    exact ⟨held.holds.write moved, same.trans held.convert,
      List.forall_mem_append.mpr ⟨held.sizes, by simpa using sized⟩⟩
  · rw [if_pos sized] at converted
    cases converted

omit [FloatOps] in
theorem HoldsStrings.writeAll {size : UInt8} {origin : List UInt8}
    {entries events : List (Indexed OctetString)} {writer after : EventWriter OctetString}
    (held : HoldsStrings size origin entries writer)
    (success : writer.writeAll events = some after) :
    HoldsStrings size origin (entries ++ events) after := by
  induction events generalizing entries writer with
  | nil =>
      obtain rfl := Option.some.inj success
      rwa [List.append_nil]
  | cons event events ih =>
      obtain ⟨next, written, rest⟩ := Option.bind_eq_some_iff.mp success
      have more := ih (held.write written) rest
      rwa [List.append_assoc] at more

/-- The strings are written under one header, whose variation is the size of each of them. -/
theorem writeAll_octets {first : Indexed OctetString} {events : List (Indexed OctetString)}
    {writer : HeaderWriter} {after : EventWriter OctetString}
    (success : EventWriter.writeAll
      (ASDUEventWriteHandler.start .octetString .group111Var0 first.value writer)
        (first :: events) = some after) :
    after.finish.position.written = writer.position.written ++
        prefixedBytes .uint16 (octetStringSerializer true (UInt8.ofNat first.value.size))
          (first :: events) ∧
      ∀ entry ∈ first :: events, entry.value.size = first.value.size := by
  change (EventWriter.octetString (UInt8.ofNat first.value.size) writer).writeAll _ = _ at success
  rw [EventWriter.octetString] at success
  rcases made : writer.iterateOverCountWithPrefix .uint16 .uint16CntUint16Index
    (octetStringSerializer true (UInt8.ofNat first.value.size)) with ⟨iterator, opened⟩
  simp only [made] at success
  rcases writer.iterateOverCountWithPrefix_cases .uint16 _ made with ⟨invalid, _⟩ | started
  · rw [EventWriter.writeAll, EventWriter.write, invalid] at success
    cases success
  · have start : HoldsStrings (UInt8.ofNat first.value.size) writer.position.written []
        ⟨iterator, opened, fun meas =>
          if meas.size ≠ (UInt8.ofNat first.value.size).toNat then none else some meas⟩ :=
      ⟨started.holds, rfl, by simp⟩
    have held := start.writeAll success
    refine ⟨held.holds.finish, ?_⟩
    intro entry member
    exact (held.sizes entry member).trans (toNat_size _)

/-! ## Reports -/

/-- The value and the index of a point. -/
def pointOf (cell : Cell .octetString) : Indexed OctetString :=
  ⟨cell.selection.value, cell.vIndex⟩

/-- A part of a response, and the strings that it reports: points at the front of any range, or
events that are written one behind the other. -/
inductive OctetReport : List UInt8 → List (Indexed OctetString) → Prop
  | static {points : RangeView .octetString} {before active after : List (Cell .octetString)}
      {first last : Cell .octetString} (window : points.Window before (first :: active) after)
      (isLast : (first :: active).getLast? = some last)
      (increasing : Increasing (first :: active)) (selected : first.selection.selected = true)
      {writer : HeaderWriter} {taken rest : List (Cell .octetString)}
      (split : first :: active = taken ++ rest)
      (moved : (writeOctetStrings first writer points).points.Window
        (before ++ taken.map Cell.deselect) rest after)
      {part : List UInt8}
      (written : (writeOctetStrings first writer points).writer.position.written =
        writer.position.written ++ part) :
      OctetReport part (taken.map pointOf)
  | events {config : EventBufferConfig} {lists : EventLists}
      (reached : EventLists.machine.Reaches (.empty config) lists)
      {first : Indexed OctetString} {events : List (Indexed OctetString)}
      (among : (first :: events).map storedOctets <:+: lists.selectedEvents)
      {writer : HeaderWriter} {after : EventWriter OctetString}
      (success : EventWriter.writeAll
        (ASDUEventWriteHandler.start .octetString .group111Var0 first.value writer)
          (first :: events) = some after)
      {part : List UInt8}
      (written : after.finish.position.written = writer.position.written ++ part) :
      OctetReport part (first :: events)

/-- Points that are written under one header are received unless they have no bytes. -/
theorem received_rangeBytes_iff {first last : Cell .octetString} {size : Nat}
    {taken : List (Cell .octetString)} (nonempty : taken ≠ [])
    (consecutive : Consecutive first.vIndex taken)
    (sizes : ∀ cell ∈ taken, cell.selection.value.size = size) (small : size ≤ 255)
    (fits : first.vIndex.toNat + taken.length ≤ (rangeType ⟨first.vIndex, last.vIndex⟩).max + 1) :
    Received (rangeBytes ⟨110, UInt8.ofNat size⟩ (rangeType ⟨first.vIndex, last.vIndex⟩)
        first.vIndex.toNat (taken.map fun cell => cell.selection.value).length
        ((taken.map fun cell => cell.selection.value).flatMap OctetString.bytes))
      (taken.map pointOf) ↔ 0 < size := by
  have length : (taken.map fun cell => cell.selection.value).length = taken.length :=
    List.length_map _
  cases size with
  | zero =>
      refine iff_of_false (not_received_of_parseHeader (parseHeader_rangeOctets_empty _ ?_ ?_ 0 _ _)
        _) (Nat.lt_irrefl 0)
      · rw [length]
        exact List.length_pos_iff.mpr nonempty
      · rw [length]
        exact fits
  | succ size =>
      have whole : (UInt8.ofNat (size + 1)).toNat = size + 1 := by
        rw [UInt8.toNat_ofNat', Nat.mod_eq_of_lt (Nat.lt_succ_of_le small)]
      have positive : 0 < UInt8.ofNat (size + 1) := by
        rw [UInt8.lt_iff_toNat_lt, whole]
        exact Nat.succ_pos size
      have values : ∀ value ∈ taken.map (fun cell => cell.selection.value),
          value.size = (UInt8.ofNat (size + 1)).toNat := by
        intro value member
        obtain ⟨cell, inside, rfl⟩ := List.mem_map.mp member
        exact (sizes cell inside).trans whole.symm
      have counted : Consecutive (UInt16.ofNat first.vIndex.toNat) taken := by
        rwa [UInt16.ofNat_toNat]
      refine iff_of_true (received_of_parseHeader fun index => ⟨_, ?_, fun later =>
        parseHeader_rangeOctets positive _ (by simpa using nonempty) values (by rwa [length])
          index later⟩) (Nat.succ_pos size)
      exact counted.indexed fun cell => cell.selection.value

/-- Events that are written under one header are received unless they have no bytes. -/
theorem received_prefixedBytes_iff {events : List (Indexed OctetString)} (nonempty : events ≠ [])
    (fits : events.length < 65536) {size : Nat}
    (sizes : ∀ event ∈ events, event.value.size = size) (small : size ≤ 255) :
    Received (prefixedBytes .uint16 (octetStringSerializer true (UInt8.ofNat size)) events)
      events ↔ 0 < size := by
  cases size with
  | zero =>
      exact iff_of_false (not_received_of_parseHeader
        (parseHeader_prefixedOctets_empty nonempty fits 0 []) _) (Nat.lt_irrefl 0)
  | succ size =>
      have whole : (UInt8.ofNat (size + 1)).toNat = size + 1 := by
        rw [UInt8.toNat_ofNat', Nat.mod_eq_of_lt (Nat.lt_succ_of_le small)]
      have positive : 0 < UInt8.ofNat (size + 1) := by
        rw [UInt8.lt_iff_toNat_lt, whole]
        exact Nat.succ_pos size
      refine iff_of_true (received_of_parseHeader fun index => ⟨_, ?_, fun later =>
        parseHeader_prefixedOctets positive nonempty
          (fun event member => (sizes event member).trans whole.symm) fits index later⟩)
        (Nat.succ_pos size)
      rfl

/-- What a part reports is received as long as its strings have bytes. -/
theorem OctetReport.received_iff_size {part : List UInt8} {sent : List (Indexed OctetString)}
    (report : OctetReport part sent) {entry : Indexed OctetString} (member : entry ∈ sent) :
    Received part sent ↔ 0 < entry.value.size := by
  cases report with
  | @static points before active after first last window isLast increasing selected writer taken
      rest split moved _ written =>
      obtain ⟨cell, inside, rfl⟩ := List.mem_map.mp member
      rcases writeOctetStrings_writes window isLast increasing selected writer with
        ⟨_, same⟩ | ⟨others, behind, split', writes⟩
      · -- the range has not moved, so nothing was taken
        rw [same] at moved
        have count := moved.count.symm.trans window.count
        have length := congrArg List.length split
        rw [List.length_append] at length
        have none : taken = [] := List.eq_nil_of_length_eq_zero (by omega)
        rw [none] at inside
        cases inside
      · have count : behind.length = rest.length :=
          writes.window.count.symm.trans moved.count
        obtain ⟨rfl, rfl⟩ := List.append_inj' (split'.symm.trans split) count
        have sized : ∀ cell ∈ others, cell.selection.value.size = first.selection.value.size :=
          fun cell member =>
            beq_iff_eq.mp (Bool.and_eq_true_iff.mp (writes.accepted cell member).2).1
        obtain rfl := List.append_cancel_left (writes.written.symm.trans written)
        rw [pointOf, sized cell inside]
        exact received_rangeBytes_iff writes.nonempty writes.consecutive sized
          first.selection.value.fits writes.fits
  | events reached among success written =>
      obtain ⟨bytes, sizes⟩ := writeAll_octets success
      obtain rfl := List.append_cancel_left (bytes.symm.trans written)
      rw [sizes entry member]
      exact received_prefixedBytes_iff (List.cons_ne_nil _ _) (length_lt_of_among reached among)
        sizes (OctetString.fits _)

/-- A string that the outstation reports is received with its bytes, unless it was assigned without
a byte to assign. -/
theorem received_iff_assignsNothing (source : OctetSource) {part : List UInt8}
    {sent : List (Indexed OctetString)} (report : OctetReport part sent)
    (reports : ∃ entry ∈ sent, entry.value = source.string) :
    Received part sent ↔ ¬source.AssignsNothing := by
  obtain ⟨entry, member, same⟩ := reports
  rw [report.received_iff_size member, same]
  exact source.size_pos_iff

end reports

/-! ## A string without bytes -/

/-- The writer of a response with room for 40 bytes. -/
def fortyBytes : HeaderWriter := ⟨⟨[], .replicate 40 0⟩, none⟩

/-- A string is recorded as an event, and selected. -/
theorem exists_selected_octets (data : OctetString) :
    ∃ lists, EventLists.machine.Reaches (.empty (.allTypes 2)) lists ∧
      lists.selectedEvents = [storedOctets ⟨data, 7⟩] :=
  ⟨_, .step (.step .start trivial (rfl : EventLists.machine.step _
      (.update (⟨data, 7, .ec1, .group111Var0⟩ : Event .octetString)) = some _)) trivial
      (rfl : EventLists.machine.step _ (.selectByClass .allEventClasses 5) = some _), rfl⟩

theorem octetReport_of_writeAll (data : OctetString) {after : EventWriter OctetString}
    (success : EventWriter.writeAll
      (@ASDUEventWriteHandler.start .atZero .octetString .group111Var0 data fortyBytes)
        [⟨data, 7⟩] = some after) :
    @OctetReport .atZero after.finish.position.written [⟨data, 7⟩] := by
  obtain ⟨lists, reached, selected⟩ := exists_selected_octets data
  exact @OctetReport.events .atZero _ _ reached _ [] ⟨[], [], selected.symm⟩ _ _ success _ rfl

/-- A string that is assigned from nothing has no bytes, and what reports it is refused. -/
theorem not_received_assignsNothing :
    ∃ part, @OctetReport .atZero part [⟨(OctetSource.assigned []).string, 7⟩] ∧
      ¬@Received .atZero part [⟨(OctetSource.assigned []).string, 7⟩] := by
  refine ⟨_, octetReport_of_writeAll _ rfl, ?_⟩
  exact @not_received_of_parseHeader .atZero _ .invalidObject (by decide +kernel) _

/-- Two bytes are received. -/
theorem received_twoBytes :
    ∃ part, @Received .atZero part [⟨(OctetSource.assigned [1, 2]).string, 7⟩] :=
  ⟨_, (@received_iff_assignsNothing .atZero (.assigned [1, 2]) _ _
    (octetReport_of_writeAll _ rfl) ⟨_, List.mem_singleton_self _, rfl⟩).mpr
      (List.cons_ne_nil _ _)⟩

end OpenDnp3.Outstation
