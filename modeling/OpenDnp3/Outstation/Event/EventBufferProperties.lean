import OpenDnp3.App.HeaderWriterProperties
import OpenDnp3.Outstation.Event.EventBuffer
import OpenDnp3.Outstation.Event.EventStorage

/-!
# Event buffer properties

Which events are marked as written, and that a load that writes events takes
space in its fragment.
-/

set_option autoImplicit false

namespace OpenDnp3.Outstation

open OpenDnp3.App OpenDnp3.Library

/-! ## Space -/

section space

variable {Meas : Type}

/-- A run takes space when it can write events. -/
def EventWriter.TakesSpace (before : HeaderWriter) (writer : EventWriter Meas) : Prop :=
  HeaderWriter.TakesSpace before (writer.iterator, writer.writer)

theorem EventWriter.basic_takesSpace (writer : HeaderWriter) (serializer : DNP3Serializer Meas) :
    (EventWriter.basic writer serializer).TakesSpace writer :=
  writer.iterateOverCountWithPrefix_takesSpace .uint16 serializer

theorem EventWriter.withCTO_takesSpace {Value : Type} (cto : DNPTime) (writer : HeaderWriter)
    (serializer : DNP3Serializer (TypedMeasurement Value)) :
    (EventWriter.withCTO cto writer serializer).TakesSpace writer :=
  writer.iterateOverCountWithPrefixAndCTO_takesSpace serializer group51Var1.inst cto
    (group51Var1.codec.length_write cto)

theorem EventWriter.write_remaining_le {writer after : EventWriter Meas} {meas : Meas}
    {index : UInt16} (success : writer.write meas index = some after) :
    writer.iterator.isValid = true ∧ after.writer.remaining ≤ writer.writer.remaining := by
  unfold EventWriter.write at success
  split at success
  · next valid =>
      obtain ⟨copy, converted, written⟩ := Option.bind_eq_some_iff.mp success
      obtain ⟨⟨iterator, position⟩, moved, rfl⟩ := Option.map_eq_some_iff.mp written
      refine ⟨valid, ?_⟩
      rw [PrefixedWriteIterator.write] at moved
      split at moved
      · cases moved
        simp only [HeaderWriter.remaining, Cursor.size_put]
        omega
      · cases moved
  · cases success

theorem EventWriter.remaining_finish (writer : EventWriter Meas) :
    writer.finish.remaining = writer.writer.remaining := by
  rw [EventWriter.finish, HeaderWriter.remaining, PrefixedWriteIterator.finish]
  split <;> rfl

variable [FloatOps]

theorem start_takesSpace (type : EventType) (variation : type.Variation) (first : type.Meas)
    (writer : HeaderWriter) :
    (ASDUEventWriteHandler.start type variation first writer).TakesSpace writer := by
  cases type with
  | binary =>
      cases variation with
      | group2Var1 | group2Var2 => exact EventWriter.basic_takesSpace _ _
      | group2Var3 => exact EventWriter.withCTO_takesSpace _ _ _
  | doubleBitBinary =>
      cases variation with
      | group4Var1 | group4Var2 => exact EventWriter.basic_takesSpace _ _
      | group4Var3 => exact EventWriter.withCTO_takesSpace _ _ _
  | counter => cases variation <;> exact EventWriter.basic_takesSpace _ _
  | frozenCounter => cases variation <;> exact EventWriter.basic_takesSpace _ _
  | analog => cases variation <;> exact EventWriter.basic_takesSpace _ _
  | binaryOutputStatus => cases variation <;> exact EventWriter.basic_takesSpace _ _
  | analogOutputStatus => cases variation <;> exact EventWriter.basic_takesSpace _ _
  | octetString => exact writer.iterateOverCountWithPrefix_takesSpace .uint16 _

/-- Events that are written take space. -/
theorem keeps_takesSpace (lists : EventLists) (space : Nat) :
    EventLists.Keeps asduEventWriteHandler lists
      (fun taken writer => writer.remaining ≤ space ∧ (taken ≠ [] → writer.remaining < space))
      (fun _ _ _ writer => writer.writer.remaining < space) where
  start := by
    intro type taken record data writer _ between
    have takes := start_takesSpace type data.selectedVariation data.value writer
    simp only
    split
    · have finished := EventWriter.remaining_finish
        (ASDUEventWriteHandler.start type data.selectedVariation data.value writer)
      have le := takes.le
      change (EventWriter.finish (ASDUEventWriteHandler.start type data.selectedVariation
        data.value writer)).remaining ≤ space ∧ (taken ≠ [] → (EventWriter.finish
          (ASDUEventWriteHandler.start type data.selectedVariation data.value
            writer)).remaining < space)
      rw [finished]
      exact ⟨Nat.le_trans le between.1, fun some => Nat.lt_of_le_of_lt le (between.2 some)⟩
    · next after written =>
        obtain ⟨valid, le⟩ := EventWriter.write_remaining_le written
        exact Nat.lt_of_le_of_lt le (Nat.lt_of_lt_of_le (takes.lt valid) between.1)
  write := by
    intro type taken record data writer after _ within written
    exact Nat.lt_of_le_of_lt (EventWriter.write_remaining_le written).2 within
  finish := by
    intro type variation taken writer within
    have less := lt_of_eq_of_lt (EventWriter.remaining_finish writer) within
    exact ⟨Nat.le_of_lt less, fun _ => less⟩

end space

/-! ## Marks -/

namespace EventLists

variable {config : EventBufferConfig} {lists after : EventLists}

/-- A walk over an update: records are discarded, and an unselected one is stored. -/
theorem Valid.records_update (valid : lists.Valid config) {type : EventType} {event : Event type}
    {overflow : Bool} (success : lists.update event = some (overflow, after)) :
    ∀ record ∈ after.events.values, record ∈ lists.events.values ∨
      (record.state = .unselected ∧ record.serial = lists.nextSerial) := by
  have appended {first : EventLists} (sound : first.Valid config)
      (stored : first.append event = some after) :
      ∀ record ∈ after.events.values, record ∈ first.events.values ∨
        (record.state = .unselected ∧ record.serial = first.nextSerial) := by
    obtain ⟨_, _, record, _, rfl, _, _, nodes, _⟩ := append_eq_some sound stored
    intro other member
    rw [NodeList.values, nodes, List.map_append, List.mem_append] at member
    rcases member with before | new
    · exact .inl before
    · obtain rfl := List.mem_singleton.mp new
      exact .inr ⟨rfl, rfl⟩
  unfold EventLists.update at success
  split at success
  · obtain ⟨_, rfl⟩ := Prod.mk.inj (Option.some.inj success)
    exact fun record member => .inl member
  · split at success
    · next full =>
        obtain ⟨_, stored, same⟩ := Option.map_eq_some_iff.mp success
        obtain ⟨_, rfl⟩ := Prod.mk.inj same
        simp only [isFullAndCapacityNotZero, Bool.and_eq_true, decide_eq_true_eq] at full
        have size := (valid.typed type).isFull_iff.mp full.1
        obtain ⟨node, oldest, member, _, _, made⟩ :=
          @Valid.makeSpace_eq _ _ valid type (by omega)
        intro record found
        rcases appended (valid.makeSpace type) stored record found with before | new
        · rw [made] at before
          exact .inl (NodeList.values_remove_subset _ _ before)
        · rw [made, nextSerial_release] at new
          exact .inr new
    · obtain ⟨_, stored, same⟩ := Option.map_eq_some_iff.mp success
      obtain ⟨_, rfl⟩ := Prod.mk.inj same
      exact appended valid stored

end EventLists

namespace EventBuffer

/-- The events, oldest first. -/
def records (buffer : EventBuffer) : List EventRecord := buffer.storage.events.values

/-- The events, whatever is selected or written of them. -/
def serials (buffer : EventBuffer) : List Nat := buffer.records.map (·.serial)

variable {config : EventBufferConfig} {buffer after : EventBuffer} {serials : List Nat}

/-- The buffer is sound, and the events that are marked as written are among these. -/
structure Marks (config : EventBufferConfig) (serials : List Nat) (buffer : EventBuffer) :
    Prop where
  valid : buffer.storage.Valid config
  written : ∀ record ∈ buffer.records, record.state = .written → record.serial ∈ serials

theorem Marks.create : (EventBuffer.create config).Marks config [] :=
  ⟨EventLists.valid_empty config, nofun⟩

theorem Marks.isOverflown (marks : buffer.Marks config serials) :
    buffer.isOverflown.2.Marks config serials :=
  ⟨marks.valid, marks.written⟩

theorem Marks.unselect (marks : buffer.Marks config serials) :
    buffer.unselect.Marks config [] := by
  refine ⟨marks.valid.unselect, fun record member written => ?_⟩
  simp only [records, EventBuffer.unselect, EventLists.unselect, NodeList.values,
    NodeList.nodes_mapValues, List.map_map, List.mem_map, Function.comp_apply] at member
  obtain ⟨entry, _, rfl⟩ := member
  cases written

theorem Marks.selects {lists : EventLists} {chosen : List Nat}
    (marks : buffer.Marks config serials) (valid : lists.Valid config)
    (selects : EventLists.Selects buffer.storage lists chosen) :
    EventBuffer.Marks config serials { buffer with storage := lists } := by
  refine ⟨valid, fun record member written => ?_⟩
  rw [records, selects.values] at member
  obtain ⟨before, found, rfl⟩ := List.mem_map.mp member
  rw [EventRecord.serial_setStateIn]
  by_cases now : before.serial ∈ chosen
  · simp [EventRecord.setStateIn, now] at written
  · refine marks.written before found ?_
    simpa [EventRecord.setStateIn, now] using written

theorem Marks.selectByClass (marks : buffer.Marks config serials) (clazz : ClassField)
    (maximum : Nat) :
    EventBuffer.Marks config serials
      { buffer with storage := (buffer.storage.selectByClass clazz maximum).2 } := by
  obtain ⟨valid, chosen, selects⟩ := EventLists.selectClassNodes_selects clazz maximum
    buffer.storage.events.slots 0 buffer.storage marks.valid
  exact marks.selects valid selects

theorem Marks.selectMaxCount (marks : buffer.Marks config serials) (gv : GroupVariation)
    (maximum : Nat) : (buffer.selectMaxCount gv maximum).2.Marks config serials := by
  rw [EventBuffer.selectMaxCount]
  split
  · next type variation _ =>
      obtain ⟨valid, chosen, selects⟩ := EventLists.selectNodes_selects type variation maximum
        (buffer.storage.getList type).slots 0 buffer.storage marks.valid
      exact marks.selects valid selects
  · split
    · exact marks.selectByClass _ maximum
    · exact marks

theorem Marks.clearWritten (marks : buffer.Marks config serials) :
    buffer.clearWritten.Marks config [] := by
  obtain ⟨valid, _, values⟩ := marks.valid.clearWritten
  refine ⟨valid, fun record member written => ?_⟩
  rw [records, EventBuffer.clearWritten, values, List.mem_filter] at member
  exact absurd written (by simpa using member.2)

theorem Marks.update (marks : buffer.Marks config serials) {event : AnyEvent}
    (success : buffer.update event = some after) : after.Marks config serials := by
  obtain ⟨⟨overflow, lists⟩, stored, rfl⟩ := Option.map_eq_some_iff.mp success
  refine ⟨marks.valid.update stored, fun record member written => ?_⟩
  rcases marks.valid.records_update stored record member with before | ⟨unselected, _⟩
  · exact marks.written record before written
  · rw [unselected] at written
    cases written

theorem Marks.updateAll {events : List AnyEvent} (marks : buffer.Marks config serials)
    (success : updateAll events buffer = some after) : after.Marks config serials := by
  induction events generalizing buffer with
  | nil =>
      cases success
      exact marks
  | cons event events ih =>
      obtain ⟨next, stored, others⟩ := Option.bind_eq_some_iff.mp success
      exact ih (marks.update stored) others

/-- The serials that a load carries are marked, and they take space. -/
theorem Marks.load [FloatOps] (marks : buffer.Marks config serials) (writer : HeaderWriter) :
    (buffer.load writer).buffer.Marks config (serials ++ (buffer.load writer).carried) ∧
      ((buffer.load writer).carried ≠ [] →
        (buffer.load writer).writer.remaining < writer.remaining) := by
  obtain ⟨taken, valid, writes, carried, space⟩ := marks.valid.write_keeps
    (keeps_takesSpace buffer.storage writer.remaining) writer ⟨Nat.le_refl _, fun none => absurd rfl none⟩
  refine ⟨⟨valid, fun record member written => ?_⟩, fun some => space.2 ?_⟩
  · have same : (buffer.load writer).carried = taken.map (·.serial) := carried
    have values : (buffer.load writer).buffer.records = _ := writes.values
    rw [values] at member
    obtain ⟨before, found, rfl⟩ := List.mem_map.mp member
    rw [EventRecord.serial_setStateIn, List.mem_append, same]
    by_cases now : before.serial ∈ taken.map (·.serial)
    · exact .inr now
    · refine .inl (marks.written before found ?_)
      simpa [EventRecord.setStateIn, now] using written
  · rintro rfl
    exact some carried

/-! ## The events behind their states -/

/-- The events are the same, whatever is selected or written of them. -/
structure Restates (before after : EventBuffer) : Prop where
  overflow : after.overflow = before.overflow
  records : after.records.map EventRecord.bare = before.records.map EventRecord.bare

theorem Restates.refl (buffer : EventBuffer) : Restates buffer buffer := ⟨rfl, rfl⟩

theorem Restates.trans {last : EventBuffer} (first : Restates buffer after)
    (second : Restates after last) : Restates buffer last :=
  ⟨second.overflow.trans first.overflow, second.records.trans first.records⟩

theorem Restates.of_map {change : EventRecord → EventRecord}
    (overflow : after.overflow = buffer.overflow)
    (records : after.records = buffer.records.map change)
    (same : ∀ record, (change record).bare = record.bare) : Restates buffer after := by
  refine ⟨overflow, ?_⟩
  rw [records, List.map_map]
  exact List.map_congr_left fun record _ => same record

theorem Restates.serials_eq (restates : Restates buffer after) : after.serials = buffer.serials := by
  have same := congrArg (List.map EventRecord.serial) restates.records
  rw [List.map_map, List.map_map] at same
  exact same

theorem restates_unselect : Restates buffer buffer.unselect := by
  refine @Restates.of_map _ _ (fun record => { record with state := .unselected }) rfl ?_
    fun _ => rfl
  simp only [records, EventBuffer.unselect, EventLists.unselect, NodeList.values,
    NodeList.nodes_mapValues, List.map_map]
  rfl

theorem restates_of_selects {lists : EventLists} {chosen : List Nat}
    (selects : EventLists.Selects buffer.storage lists chosen) :
    Restates buffer { buffer with storage := lists } :=
  .of_map rfl selects.values fun record => EventRecord.bare_setStateIn _ _ record

theorem Marks.restates_selectByClass (marks : buffer.Marks config serials) (clazz : ClassField)
    (maximum : Nat) :
    Restates buffer { buffer with storage := (buffer.storage.selectByClass clazz maximum).2 } := by
  obtain ⟨_, chosen, selects⟩ := EventLists.selectClassNodes_selects clazz maximum
    buffer.storage.events.slots 0 buffer.storage marks.valid
  exact restates_of_selects selects

theorem Marks.restates_selectMaxCount (marks : buffer.Marks config serials) (gv : GroupVariation)
    (maximum : Nat) : Restates buffer (buffer.selectMaxCount gv maximum).2 := by
  rw [EventBuffer.selectMaxCount]
  split
  · next type variation _ =>
      obtain ⟨_, chosen, selects⟩ := EventLists.selectNodes_selects type variation maximum
        (buffer.storage.getList type).slots 0 buffer.storage marks.valid
      exact restates_of_selects selects
  · split
    · exact marks.restates_selectByClass _ maximum
    · exact .refl _

theorem Marks.restates_load [FloatOps] (marks : buffer.Marks config serials)
    (writer : HeaderWriter) : Restates buffer (buffer.load writer).buffer := by
  obtain ⟨taken, _, writes, _⟩ := marks.valid.write asduEventWriteHandler writer
  exact .of_map rfl writes.values fun record => EventRecord.bare_setStateIn _ _ record

/-! ## Overflow -/

theorem Marks.isFull_iff (marks : buffer.Marks config serials) (type : EventType) :
    buffer.storage.isFullAndCapacityNotZero type = true ↔
      0 < (config.maxEvents type).toNat ∧
        (buffer.records.map EventRecord.bare).countP (fun record => decide (record.type = type)) =
          (config.maxEvents type).toNat := by
  have count : (buffer.records.map EventRecord.bare).countP
      (fun record => decide (record.type = type)) = (buffer.storage.getList type).size := by
    rw [marks.valid.size_typed, ← List.countP_eq_length_filter, List.countP_map, records,
      NodeList.values, List.countP_map]
    rfl
  rw [count, EventLists.isFullAndCapacityNotZero, Bool.and_eq_true, decide_eq_true_eq,
    (marks.valid.typed type).isFull_iff, marks.valid.capacities, and_comm]

/-- Whether the overflow goes on depends on what the events are. -/
theorem Restates.isOverflown (restates : Restates buffer after) {others : List Nat}
    (marks : buffer.Marks config serials) (marked : after.Marks config others) :
    after.isOverflown.1 = buffer.isOverflown.1 := by
  have full : after.storage.isAnyTypeFull = buffer.storage.isAnyTypeFull := by
    rw [Bool.eq_iff_iff, EventLists.isAnyTypeFull, EventLists.isAnyTypeFull, List.any_eq_true,
      List.any_eq_true]
    refine exists_congr fun type => and_congr_right fun _ => ?_
    rw [marked.isFull_iff, marks.isFull_iff, restates.records]
  rw [EventBuffer.isOverflown, EventBuffer.isOverflown, full, restates.overflow]

theorem isOverflown_iff : buffer.isOverflown.1 = true ↔
    buffer.overflow = true ∧ ∃ type, buffer.storage.isFullAndCapacityNotZero type = true := by
  rw [EventBuffer.isOverflown, Bool.and_eq_true, EventLists.isAnyTypeFull, List.any_eq_true]
  refine and_congr_right fun _ => exists_congr fun type => and_iff_right (EventType.mem_all type)

/-- An overflow goes on while events are stored. -/
theorem Marks.isOverflown_update (marks : buffer.Marks config serials) {event : AnyEvent}
    (success : buffer.update event = some after) (overflown : buffer.isOverflown.1 = true) :
    after.isOverflown.1 = true := by
  obtain ⟨⟨discarded, lists⟩, stored, rfl⟩ := Option.map_eq_some_iff.mp success
  obtain ⟨overflow, type, full⟩ := isOverflown_iff.mp overflown
  refine isOverflown_iff.mpr ⟨?_, type, marks.valid.isFull_update stored full⟩
  rw [overflow]
  rfl

theorem Marks.isOverflown_updateAll {events : List AnyEvent} (marks : buffer.Marks config serials)
    (success : EventBuffer.updateAll events buffer = some after) (overflown : buffer.isOverflown.1 = true) :
    after.isOverflown.1 = true := by
  induction events generalizing buffer with
  | nil =>
      cases success
      exact overflown
  | cons event events ih =>
      obtain ⟨next, stored, others⟩ := Option.bind_eq_some_iff.mp success
      exact ih (marks.update stored) others (marks.isOverflown_update stored overflown)

/-- An overflow begins when an event is discarded for another one. -/
theorem Marks.isOverflown_of_discarded (marks : buffer.Marks config serials) {event : AnyEvent}
    (success : buffer.update event = some after) {record : EventRecord}
    (member : record ∈ buffer.records) (gone : record.serial ∉ after.serials) :
    after.isOverflown.1 = true := by
  obtain ⟨⟨discarded, lists⟩, stored, rfl⟩ := Option.map_eq_some_iff.mp success
  have absent : record ∉ lists.events.values := fun kept => gone (List.mem_map_of_mem kept)
  obtain ⟨rfl, full⟩ := marks.valid.discarded_update stored member absent
  exact isOverflown_iff.mpr
    ⟨Bool.or_true _, event.1, marks.valid.isFull_update stored full⟩

/-- When no event is marked as written, a class is reported exactly when it has an event. -/
theorem Marks.hasEventType (marks : buffer.Marks config []) (clazz : EventClass) :
    buffer.unwrittenClassField.hasEventType clazz = true ↔
      ∃ record ∈ buffer.records, record.clazz = clazz := by
  rw [unwrittenClassField, marks.valid.hasEventType_unwrittenClassField]
  refine exists_congr fun record => and_congr_right fun member => and_iff_left ?_
  intro written
  cases marks.written record member written

end EventBuffer

end OpenDnp3.Outstation
