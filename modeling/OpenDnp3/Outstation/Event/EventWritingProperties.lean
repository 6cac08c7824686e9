import OpenDnp3.Outstation.Event.EventListsProperties

/-!
# Selecting, writing and clearing keep the invariant

Each of these operations walks a list and treats one record after the other, so
each comes with a lemma about one record and an induction over the walk.
-/

set_option autoImplicit false

namespace OpenDnp3.Outstation

open OpenDnp3.App OpenDnp3.Library

namespace EventRecord

/-- Give the records with one of these serials another state. -/
def setStateIn (serials : List Nat) (state : EventState) (record : EventRecord) : EventRecord :=
  if record.serial ∈ serials then { record with state } else record

@[simp] theorem setStateIn_nil (state : EventState) (record : EventRecord) :
    setStateIn [] state record = record := by
  simp [setStateIn]

@[simp] theorem serial_setStateIn (serials : List Nat) (state : EventState)
    (record : EventRecord) : (setStateIn serials state record).serial = record.serial := by
  unfold setStateIn
  split <;> rfl

/-- A record, whatever is selected or written. -/
def bare (record : EventRecord) : EventRecord := { record with state := .unselected }

@[simp] theorem bare_setStateIn (serials : List Nat) (state : EventState)
    (record : EventRecord) : (setStateIn serials state record).bare = record.bare := by
  unfold setStateIn
  split <;> rfl

theorem setStateIn_append (first second : List Nat) (state : EventState)
    (record : EventRecord) :
    setStateIn second state (setStateIn first state record) =
      setStateIn (first ++ second) state record := by
  unfold setStateIn
  by_cases one : record.serial ∈ first <;> by_cases two : record.serial ∈ second <;>
    simp [one, two]

end EventRecord

namespace EventLists

variable {config : EventBufferConfig} {lists : EventLists}

/-- The record with a serial is in one node only. -/
theorem Valid.node_eq_iff (valid : lists.Valid config) {node other : Nat}
    {record another : EventRecord} (member : (node, record) ∈ lists.events.nodes)
    (present : (other, another) ∈ lists.events.nodes) :
    other = node ↔ another.serial = record.serial := by
  have serials : (lists.events.nodes.map (fun entry => entry.2.serial)).Nodup := by
    have ordered := valid.ordered
    rw [NodeList.values, List.map_map] at ordered
    exact ordered.imp Nat.ne_of_lt
  constructor
  · intro same
    have := List.inj_on_of_nodup_map valid.events.slots_nodup present member same
    rw [(Prod.mk.inj this).2]
  · intro same
    have := List.inj_on_of_nodup_map serials present member same
    exact (Prod.mk.inj this).1

theorem Valid.values_setState (valid : lists.Valid config) {node : Nat} {record : EventRecord}
    (member : (node, record) ∈ lists.events.nodes) (state : EventState) :
    (lists.events.modify node (fun record => { record with state })).values =
      lists.events.values.map (EventRecord.setStateIn [record.serial] state) := by
  simp only [NodeList.values, NodeList.nodes_modify, List.map_map]
  refine List.map_congr_left fun entry found => ?_
  have unique := valid.node_eq_iff member found
  by_cases hit : entry.1 = node
  · simp [EventRecord.setStateIn, hit, unique.mp hit]
  · simp [EventRecord.setStateIn, hit, mt unique.mpr hit]

/-- What selecting does to the sequence of records: some that were unselected are selected. -/
structure Selects (before after : EventLists) (serials : List Nat) : Prop where
  values : after.events.values =
    before.events.values.map (EventRecord.setStateIn serials .selected)
  unselected : ∀ record ∈ before.events.values, record.serial ∈ serials →
    record.state = .unselected
  nextSerial : after.nextSerial = before.nextSerial

theorem Selects.refl (lists : EventLists) : Selects lists lists [] :=
  ⟨(List.map_id'' (EventRecord.setStateIn_nil _) _).symm, by simp, rfl⟩

theorem Selects.trans {first second third : EventLists} {one two : List Nat}
    (before : Selects first second one) (after : Selects second third two) :
    Selects first third (one ++ two) := by
  refine ⟨?_, ?_, after.nextSerial.trans before.nextSerial⟩
  · rw [after.values, before.values, List.map_map]
    exact List.map_congr_left fun record _ => EventRecord.setStateIn_append one two _ record
  · intro record member chosen
    rcases List.mem_append.mp chosen with chosen | chosen
    · exact before.unselected record member chosen
    · by_cases earlier : record.serial ∈ one
      · exact before.unselected record member earlier
      · have kept : EventRecord.setStateIn one .selected record = record := by
          simp [EventRecord.setStateIn, earlier]
        refine after.unselected record ?_ chosen
        rw [before.values, ← kept]
        exact List.mem_map_of_mem member

theorem Valid.selects_one (valid : lists.Valid config) {node : Nat} {record : EventRecord}
    (member : (node, record) ∈ lists.events.nodes) (unselected : record.state = .unselected)
    (after : EventLists) (next : after.nextSerial = lists.nextSerial)
    (events : after.events =
      lists.events.modify node (fun record => { record with state := .selected })) :
    Selects lists after [record.serial] := by
  refine ⟨events ▸ valid.values_setState member .selected, ?_, next⟩
  intro other present chosen
  obtain ⟨⟨slot, other⟩, found, rfl⟩ := List.mem_map.mp present
  have same := (valid.node_eq_iff member found).mpr (by simpa using chosen)
  have := List.inj_on_of_nodup_map valid.events.slots_nodup found member same
  rw [(Prod.mk.inj this).2]
  exact unselected

theorem selectNodes_selects (type : EventType) (chosen : Option type.Variation) (max : Nat) :
    ∀ (nodes : List Nat) (numSelected : Nat) (lists : EventLists), lists.Valid config →
      (selectNodes type chosen max nodes numSelected lists).2.Valid config ∧
      ∃ serials, Selects lists (selectNodes type chosen max nodes numSelected lists).2 serials := by
  intro nodes
  induction nodes with
  | nil => exact fun _ lists valid => ⟨valid, [], Selects.refl lists⟩
  | cons typedNode rest ih =>
      intro numSelected lists valid
      rw [selectNodes]
      split
      · exact ⟨valid, [], Selects.refl lists⟩
      split
      · exact ih numSelected lists valid
      rename_i typed _
      split
      · exact ih numSelected lists valid
      rename_i record found
      split
      · rename_i unselected
        have member := NodeList.mem_of_get?_eq_some found
        have one := valid.selects_one member unselected (lists.selectTyped type typedNode
          typed.record (chosen.getD typed.defaultVariation)) rfl rfl
        obtain ⟨validAfter, serials, more⟩ := ih (numSelected + 1) _
          (valid.selectTyped typedNode (chosen.getD typed.defaultVariation) member unselected)
        exact ⟨validAfter, _, one.trans more⟩
      · exact ih numSelected lists valid

theorem selectClassNodes_selects (clazz : ClassField) (max : Nat) :
    ∀ (nodes : List Nat) (numSelected : Nat) (lists : EventLists), lists.Valid config →
      (selectClassNodes clazz max nodes numSelected lists).2.Valid config ∧
      ∃ serials, Selects lists (selectClassNodes clazz max nodes numSelected lists).2 serials := by
  intro nodes
  induction nodes with
  | nil => exact fun _ lists valid => ⟨valid, [], Selects.refl lists⟩
  | cons node rest ih =>
      intro numSelected lists valid
      rw [selectClassNodes]
      split
      · split
        · exact ih numSelected lists valid
        rename_i record found
        split
        · rename_i wanted
          have member := NodeList.mem_of_get?_eq_some found
          have one := valid.selects_one member wanted.1 (lists.selectRecord node) rfl rfl
          obtain ⟨validAfter, serials, more⟩ := ih (numSelected + 1) _
            (valid.selectRecord member wanted.1)
          exact ⟨validAfter, _, one.trans more⟩
        · exact ih numSelected lists valid
      · exact ⟨valid, [], Selects.refl lists⟩

namespace Valid

theorem selectByType (valid : lists.Valid config) (type : EventType)
    (chosen : Option type.Variation) (max : Nat) :
    (lists.selectByType type chosen max).2.Valid config :=
  (selectNodes_selects type chosen max _ 0 lists valid).1

theorem selectByClass (valid : lists.Valid config) (clazz : ClassField) (max : Nat) :
    (lists.selectByClass clazz max).2.Valid config :=
  (selectClassNodes_selects clazz max _ 0 lists valid).1

end Valid

/-- The selected records, oldest first. -/
def selectedRecords (lists : EventLists) : List EventRecord :=
  lists.events.values.filter (fun record => decide (record.state = .selected))

/-- What writing does to the sequence of records: the first of the selected are written. -/
structure Writes (before after : EventLists) (taken : List EventRecord) : Prop where
  values : after.events.values =
    before.events.values.map (EventRecord.setStateIn (taken.map (·.serial)) .written)
  first : before.selectedRecords = taken ++ after.selectedRecords
  slots : after.events.slots = before.events.slots
  typed : after.typed = before.typed
  nextSerial : after.nextSerial = before.nextSerial

theorem Writes.refl (lists : EventLists) : Writes lists lists [] :=
  ⟨(List.map_id'' (EventRecord.setStateIn_nil _) _).symm, rfl, rfl, rfl, rfl⟩

theorem Writes.trans {first second third : EventLists} {one two : List EventRecord}
    (before : Writes first second one) (after : Writes second third two) :
    Writes first third (one ++ two) := by
  refine ⟨?_, ?_, after.slots.trans before.slots, after.typed.trans before.typed,
    after.nextSerial.trans before.nextSerial⟩
  · rw [after.values, before.values, List.map_map, List.map_append]
    exact List.map_congr_left fun record _ => EventRecord.setStateIn_append _ _ _ record
  · rw [before.first, after.first, List.append_assoc]

/-- An iterator stands inside the list and has passed no selected record. -/
structure Positioned (lists : EventLists) (iterator : List Nat) : Prop where
  split : ∃ passed rest, lists.events.nodes = passed ++ rest ∧ iterator = rest.map (·.1) ∧
    ∀ entry ∈ passed, entry.2.state ≠ .selected

theorem positioned_slots (lists : EventLists) : Positioned lists lists.events.slots :=
  ⟨[], lists.events.nodes, rfl, rfl, by simp⟩

/-- The iterator comes to rest at the first selected record, if there is one. -/
theorem Valid.findSelected (valid : lists.Valid config) {iterator : List Nat}
    (positioned : Positioned lists iterator) :
    (lists.findSelected iterator = [] ∧ ∀ record ∈ lists.events.values,
        record.state ≠ .selected) ∨
    ∃ passed node record rest, lists.findSelected iterator = node :: rest.map (·.1) ∧
      lists.events.nodes = passed ++ (node, record) :: rest ∧ record.state = .selected ∧
      (∀ entry ∈ passed, entry.2.state ≠ .selected) := by
  obtain ⟨passed, rest, split, rfl, before⟩ := positioned
  induction rest generalizing passed with
  | nil =>
      refine .inl ⟨rfl, fun record member => ?_⟩
      obtain ⟨entry, found, rfl⟩ := List.mem_map.mp member
      exact before entry (by simpa [split] using found)
  | cons entry rest ih =>
      obtain ⟨node, record⟩ := entry
      have found : lists.events.get? node = some record :=
        NodeList.get?_eq_some_of_mem valid.events (by simp [split])
      rw [List.map_cons, EventLists.findSelected, found]
      by_cases selected : record.state = .selected
      · refine .inr ⟨passed, node, record, rest, ?_, split, selected, before⟩
        simp [selected]
      · have next := ih (passed ++ [(node, record)]) (by simp [split]) (by
          intro entry member
          rcases List.mem_append.mp member with member | member
          · exact before entry member
          · rw [List.mem_singleton.mp member]
            exact selected)
        simpa [selected] using next

/-- The event that a writer takes: the first selected one, with its typed record. -/
structure Takes (lists : EventLists) (type : EventType) (node : Nat) (record : EventRecord)
    (data : TypedEventRecord type) (rest : List (Nat × EventRecord)) : Prop where
  split : ∃ passed, lists.events.nodes = passed ++ (node, record) :: rest ∧
    ∀ entry ∈ passed, entry.2.state ≠ .selected
  selected : record.state = .selected
  kind : record.type = type
  retrieved : (lists.getList type).get? record.storageNode = some data

theorem Takes.writes (valid : lists.Valid config) {type : EventType} {node : Nat}
    {record : EventRecord} {data : TypedEventRecord type} {rest : List (Nat × EventRecord)}
    (takes : Takes lists type node record data rest) :
    (lists.markWritten node record.clazz).Valid config ∧
      Writes lists (lists.markWritten node record.clazz) [record] ∧
      Positioned (lists.markWritten node record.clazz) (rest.map (·.1)) := by
  obtain ⟨passed, split, before⟩ := takes.split
  have member : (node, record) ∈ lists.events.nodes := by simp [split]
  have nodes : (lists.markWritten node record.clazz).events.nodes =
      passed ++ (node, { record with state := .written }) :: rest :=
    valid.events.nodes_modify_split split _
  refine ⟨valid.markWritten member takes.selected, ?_, ?_⟩
  · refine ⟨valid.values_setState member .written, ?_, ?_, rfl, rfl⟩
    · have none : (passed.map (·.2)).filter (fun record => decide (record.state = .selected)) =
          [] := by
        refine List.filter_eq_nil_iff.mpr fun record member => ?_
        obtain ⟨entry, found, rfl⟩ := List.mem_map.mp member
        simpa using before entry found
      simp only [selectedRecords, NodeList.values, nodes, split, List.map_append, List.map_cons,
        List.filter_append, none, List.nil_append]
      simp [takes.selected]
    · exact NodeList.slots_modify _ _ _
  · refine ⟨passed ++ [(node, { record with state := .written })], rest, by simp [nodes], rfl, ?_⟩
    intro entry member
    rcases List.mem_append.mp member with member | member
    · exact before entry member
    · rw [List.mem_singleton.mp member]
      simp

theorem length_findSelected_le (lists : EventLists) (iterator : List Nat) :
    (lists.findSelected iterator).length ≤ iterator.length := by
  induction iterator with
  | nil => exact Nat.le_refl _
  | cons node rest ih =>
      rw [EventLists.findSelected]
      split
      · exact Nat.le_refl _
      · exact Nat.le_succ_of_le ih

/-- Where the search stops, the iterator is in position again. -/
theorem Valid.positioned_findSelected (valid : lists.Valid config) {iterator : List Nat}
    (positioned : Positioned lists iterator) :
    Positioned lists (lists.findSelected iterator) := by
  rcases valid.findSelected positioned with
    ⟨found, none⟩ | ⟨passed, node, record, rest, found, split, _, before⟩
  · refine ⟨lists.events.nodes, [], by simp, by simp [found], fun entry member => ?_⟩
    exact none entry.2 (List.mem_map_of_mem member)
  · exact ⟨passed, (node, record) :: rest, split, by simp [found], before⟩

section writing

variable {State : Type} (handler : EventWriteHandler State) {type : EventType}
  {variation : type.Variation}

/-- What one attempt to write does. -/
theorem writeOne_cases {writing after : Writing (handler.Writer type)} {success : Bool}
    (valid : writing.lists.Valid config) (positioned : Positioned writing.lists writing.iterator)
    (result : writeOne handler type variation writing = (success, after)) :
    (success = false ∧ after.lists = writing.lists ∧ after.writer = writing.writer ∧
      after.carried = writing.carried ∧ Positioned after.lists after.iterator) ∨
    (success = true ∧ ∃ node record data rest,
      Takes writing.lists type node record data rest ∧ data.selectedVariation = variation ∧
      handler.write writing.writer data.value record.index = some after.writer ∧
      after.lists = writing.lists.markWritten node record.clazz ∧
      after.iterator = rest.map (·.1) ∧ after.iterator.length < writing.iterator.length ∧
      after.carried = writing.carried ++ [record.serial]) := by
  unfold writeOne at result
  split at result
  · obtain ⟨rfl, rfl⟩ := Prod.mk.inj result
    exact .inl ⟨rfl, rfl, rfl, rfl, positioned⟩
  have again := valid.positioned_findSelected positioned
  have shorter := length_findSelected_le writing.lists writing.iterator
  simp only at result
  rcases valid.findSelected positioned with
    ⟨found, none⟩ | ⟨passed, node, record, rest, found, split, selected, before⟩
  · simp only [found, Prod.mk.injEq] at result
    obtain ⟨rfl, rfl⟩ := result
    exact .inl ⟨rfl, rfl, rfl, rfl, found ▸ again⟩
  have retrieved : writing.lists.events.get? node = some record :=
    NodeList.get?_eq_some_of_mem valid.events (by simp [split])
  rw [found] at shorter
  simp only [found, retrieved] at result
  rw [found] at again
  have stopped : ∀ {last : Bool × Writing (handler.Writer type)},
      (false, { writing with iterator := node :: rest.map (·.1) }) = last →
      last = (success, after) →
      success = false ∧ after.lists = writing.lists ∧ after.writer = writing.writer ∧
        after.carried = writing.carried ∧ Positioned after.lists after.iterator := by
    rintro _ rfl same
    obtain ⟨rfl, rfl⟩ := Prod.mk.inj same
    exact ⟨rfl, rfl, rfl, rfl, again⟩
  split at result
  · exact .inl (stopped rfl result)
  rename_i kind
  split at result
  · exact .inl (stopped rfl result)
  rename_i data dataFound
  split at result
  · exact .inl (stopped rfl result)
  rename_i sameVariation
  split at result
  · exact .inl (stopped rfl result)
  rename_i writer written
  obtain ⟨rfl, rfl⟩ := Prod.mk.inj result
  refine .inr ⟨rfl, node, record, data, rest, ⟨⟨passed, split, before⟩, selected,
    not_not.mp kind, dataFound⟩, not_not.mp sameVariation, written, rfl, rfl, ?_, rfl⟩
  simpa [Nat.succ_le_iff] using shorter

/-- A record that an iterator stands at and that has the type and the variation of the run is
offered to the writer. -/
theorem writeOne_of_takes {writing : Writing (handler.Writer type)}
    (valid : writing.lists.Valid config) {node : Nat} {record : EventRecord}
    {data : TypedEventRecord type} {rest : List (Nat × EventRecord)}
    (takes : Takes writing.lists type node record data rest)
    (standing : writing.iterator = node :: rest.map (·.1))
    (sameVariation : data.selectedVariation = variation) :
    writeOne handler type variation writing =
      match handler.write writing.writer data.value record.index with
      | none => (false, writing)
      | some writer => (true, ⟨rest.map (·.1), writing.lists.markWritten node record.clazz, writer,
          writing.carried ++ [record.serial]⟩) := by
  obtain ⟨passed, split, _⟩ := takes.split
  have member : (node, record) ∈ writing.lists.events.nodes := by simp [split]
  have present := NodeList.get?_eq_some_of_mem valid.events member
  have counted : writing.lists.counters.selected ≠ 0 := by
    intro none
    have count := valid.counts.selected
    rw [none, UInt32.toNat_zero, eq_comm, List.countP_eq_zero] at count
    exact count record (List.mem_map_of_mem member) (by simp [takes.selected])
  have found : writing.lists.findSelected writing.iterator = node :: rest.map (·.1) := by
    rw [standing, EventLists.findSelected, present]
    simp [takes.selected]
  unfold writeOne
  rw [if_neg counted]
  simp only [found, present, takes.kind, not_true, ne_eq, if_false, takes.retrieved,
    sameVariation]
  cases handler.write writing.writer data.value record.index with
  | none => rw [← standing]
  | some writer => rfl

/-- Invariant of the loops: the records that have been written since the start. -/
structure Progress (config : EventBufferConfig) (start lists : EventLists)
    (iterator carried : List Nat) (taken : List EventRecord) : Prop where
  valid : lists.Valid config
  positioned : Positioned lists iterator
  writes : Writes start lists taken
  serials : carried = taken.map (·.serial)

/-- The next event that a writer is offered when it has taken some of the selected ones. -/
structure Offers (lists : EventLists) (type : EventType) (taken : List EventRecord)
    (record : EventRecord) (data : TypedEventRecord type) : Prop where
  next : taken ++ [record] <+: lists.selectedRecords
  kind : record.type = type
  retrieved : (lists.getList type).get? record.storageNode = some data

theorem Takes.offers {start lists : EventLists} {iterator carried : List Nat}
    {taken : List EventRecord} (progress : Progress config start lists iterator carried taken)
    {node : Nat} {record : EventRecord} {data : TypedEventRecord type}
    {rest : List (Nat × EventRecord)} (takes : Takes lists type node record data rest) :
    Offers start type taken record data := by
  have first := (takes.writes progress.valid).2.1.first
  refine ⟨?_, takes.kind, ?_⟩
  · rw [progress.writes.first, first, ← List.append_assoc]
    exact List.prefix_append _ _
  · have same : start.getList type = lists.getList type :=
      congrFun progress.writes.typed.symm type
    rw [same]
    exact takes.retrieved

/-- What a handler keeps while it is offered the selected events of some lists: a property
between the runs, and one within a run of a type and a variation. -/
structure Keeps (lists : EventLists) (Between : List EventRecord → State → Prop)
    (Within : (type : EventType) → type.Variation → List EventRecord → handler.Writer type →
      Prop) : Prop where
  /-- The first event of a run is written, or nothing is. -/
  start : ∀ {type : EventType} {taken : List EventRecord} {record : EventRecord}
    {data : TypedEventRecord type} {state : State}, Offers lists type taken record data →
    Between taken state →
    let writer := handler.start type data.selectedVariation data.value state
    match handler.write writer data.value record.index with
    | none => Between taken (handler.finish writer)
    | some after => Within type data.selectedVariation (taken ++ [record]) after
  write : ∀ {type : EventType} {taken : List EventRecord} {record : EventRecord}
    {data : TypedEventRecord type} {writer after : handler.Writer type},
    Offers lists type taken record data → Within type data.selectedVariation taken writer →
    handler.write writer data.value record.index = some after →
    Within type data.selectedVariation (taken ++ [record]) after
  finish : ∀ {type : EventType} {variation : type.Variation} {taken : List EventRecord}
    {writer : handler.Writer type}, Within type variation taken writer →
    Between taken (handler.finish writer)

/-- Every handler keeps the trivial properties. -/
theorem keeps_trivial (lists : EventLists) :
    Keeps handler lists (fun _ _ => True) (fun _ _ _ _ => True) where
  start _ _ := by
    simp only
    split <;> trivial
  write _ _ _ := trivial
  finish _ := trivial

variable {start : EventLists} {Between : List EventRecord → State → Prop}
  {Within : (type : EventType) → type.Variation → List EventRecord → handler.Writer type → Prop}

/-- A step keeps the invariant of the loops. -/
theorem Progress.take {lists : EventLists} {iterator carried : List Nat}
    {taken : List EventRecord} (progress : Progress config start lists iterator carried taken)
    {node : Nat} {record : EventRecord} {data : TypedEventRecord type}
    {rest : List (Nat × EventRecord)} (takes : Takes lists type node record data rest) :
    Progress config start (lists.markWritten node record.clazz) (rest.map (·.1))
      (carried ++ [record.serial]) (taken ++ [record]) := by
  obtain ⟨valid, writes, positioned⟩ := takes.writes progress.valid
  refine ⟨valid, positioned, progress.writes.trans writes, ?_⟩
  rw [progress.serials, List.map_append]
  rfl

theorem writeRun_keeps (keeps : Keeps handler start Between Within) :
    ∀ (fuel : Nat) (writing : Writing (handler.Writer type)) (taken : List EventRecord),
      Progress config start writing.lists writing.iterator writing.carried taken →
      Within type variation taken writing.writer →
      let after := (writeRun handler type variation fuel writing).2
      ∃ taken, Progress config start after.lists after.iterator after.carried taken ∧
        Within type variation taken after.writer := by
  intro fuel
  induction fuel with
  | zero => exact fun writing taken progress within => ⟨taken, progress, within⟩
  | succ fuel ih =>
      intro writing taken progress within
      rw [writeRun]
      rcases result : writeOne handler type variation writing with ⟨success, after⟩
      rcases writeOne_cases handler progress.valid progress.positioned result with
        ⟨rfl, lists, writer, carried, positioned⟩ |
        ⟨rfl, node, record, data, rest, takes, rfl, written, lists, iterator, _, carried⟩
      · refine ⟨taken, ⟨lists ▸ progress.valid, positioned, lists ▸ progress.writes, ?_⟩, ?_⟩
        · rw [carried, progress.serials]
        · rw [writer]
          exact within
      · refine ih after (taken ++ [record]) ?_
          (keeps.write (takes.offers progress) within written)
        rw [lists, iterator, carried]
        exact progress.take takes

theorem writeSome_keeps (keeps : Keeps handler start Between Within) (writing : Writing State)
    {taken : List EventRecord}
    (progress : Progress config start writing.lists writing.iterator writing.carried taken)
    (between : Between taken writing.writer) :
    let after := (writeSome handler writing).2
    ∃ taken, Progress config start after.lists after.iterator after.carried taken ∧
      Between taken after.writer := by
  have again := progress.valid.positioned_findSelected progress.positioned
  unfold writeSome
  split
  · exact ⟨taken, progress, between⟩
  rcases progress.valid.findSelected progress.positioned with
    ⟨found, none⟩ | ⟨passed, node, record, rest, found, split, selected, before⟩
  · rw [found] at again ⊢
    exact ⟨taken, ⟨progress.valid, again, progress.writes, progress.serials⟩, between⟩
  have member : (node, record) ∈ writing.lists.events.nodes := by simp [split]
  obtain ⟨data, stored, _⟩ := progress.valid.typed_of_record member
  have retrieved := NodeList.get?_eq_some_of_mem (progress.valid.typed record.type) stored
  have takes : Takes writing.lists record.type node record data rest :=
    ⟨⟨passed, split, before⟩, selected, rfl, retrieved⟩
  rw [found] at again ⊢
  simp only [NodeList.get?_eq_some_of_mem progress.valid.events member, retrieved,
    List.length_cons, writeRun]
  -- the run begins with the record that the search came to rest at
  rw [writeOne_of_takes handler progress.valid takes rfl rfl]
  have first := keeps.start (takes.offers progress) between
  simp only at first ⊢
  split at first
  · simp only
    exact ⟨taken, ⟨progress.valid, again, progress.writes, progress.serials⟩, first⟩
  · rename_i writer _
    simp only
    obtain ⟨all, done, within⟩ := writeRun_keeps handler keeps _ ⟨rest.map (·.1),
      writing.lists.markWritten node record.clazz, writer, writing.carried ++ [record.serial]⟩
      (taken ++ [record]) (progress.take takes) first
    exact ⟨all, done, keeps.finish within⟩

theorem writeRuns_keeps (keeps : Keeps handler start Between Within) :
    ∀ (fuel : Nat) (writing : Writing State) (taken : List EventRecord),
      Progress config start writing.lists writing.iterator writing.carried taken →
      Between taken writing.writer →
      let after := (writeRuns handler fuel writing).2
      ∃ taken, Progress config start after.lists after.iterator after.carried taken ∧
        Between taken after.writer := by
  intro fuel
  induction fuel with
  | zero => exact fun writing taken progress between => ⟨taken, progress, between⟩
  | succ fuel ih =>
      intro writing taken progress between
      obtain ⟨all, done, kept⟩ := writeSome_keeps handler keeps writing progress between
      rw [writeRuns]
      split
      · rename_i after result
        rw [result] at done kept
        exact ⟨all, done, kept⟩
      · rename_i numWritten after _ result
        rw [result] at done kept
        exact ih after all done kept

end writing

/-- Writing marks the first of the selected records, those that the handler took, and keeps
what the handler keeps. -/
theorem Valid.write_keeps (valid : lists.Valid config) {State : Type}
    {handler : EventWriteHandler State} {Between : List EventRecord → State → Prop}
    {Within : (type : EventType) → type.Variation → List EventRecord → handler.Writer type → Prop}
    (keeps : Keeps handler lists Between Within) (state : State) (initially : Between [] state) :
    let after := (lists.write handler state).2
    ∃ taken, after.lists.Valid config ∧ Writes lists after.lists taken ∧
      after.carried = taken.map (·.serial) ∧ Between taken after.writer := by
  obtain ⟨taken, progress, between⟩ := writeRuns_keeps handler keeps (lists.events.size + 1)
    ⟨lists.events.slots, lists, state, []⟩ []
    ⟨valid, positioned_slots lists, Writes.refl lists, rfl⟩ initially
  exact ⟨taken, progress.valid, progress.writes, progress.serials, between⟩

theorem Valid.write (valid : lists.Valid config) {State : Type}
    (handler : EventWriteHandler State) (state : State) :
    ∃ taken, (lists.write handler state).2.lists.Valid config ∧
      Writes lists (lists.write handler state).2.lists taken ∧
      (lists.write handler state).2.carried = taken.map (·.serial) := by
  obtain ⟨taken, after, writes, carried, _⟩ :=
    valid.write_keeps (keeps_trivial handler lists) state trivial
  exact ⟨taken, after, writes, carried⟩

/-- The walk that clears keeps the records that are not written, in order. -/
theorem clearNodes_nodes :
    ∀ (rest kept : List (Nat × EventRecord)) (count : Nat) (lists : EventLists),
      lists.Valid config → lists.events.nodes = kept ++ rest →
      let after := (clearNodes (rest.map (·.1)) count lists).2
      after.Valid config ∧ after.nextSerial = lists.nextSerial ∧
        after.events.nodes =
          kept ++ rest.filter (fun entry => decide (entry.2.state ≠ .written)) := by
  intro rest
  induction rest with
  | nil => exact fun kept count lists valid split => ⟨valid, rfl, split⟩
  | cons entry rest ih =>
      intro kept count lists valid split
      obtain ⟨node, record⟩ := entry
      have member : (node, record) ∈ lists.events.nodes := by simp [split]
      simp only [List.map_cons, clearNodes,
        NodeList.get?_eq_some_of_mem valid.events member]
      by_cases written : record.state = .written
      · have removed : (lists.release record.type record.storageNode node record).events.nodes =
            kept ++ rest := valid.events.nodes_remove_split split
        simpa [written] using ih kept (count + 1) _ (valid.release member) removed
      · simpa [written] using ih (kept ++ [(node, record)]) count lists valid (by simp [split])

theorem Valid.clearWritten (valid : lists.Valid config) :
    lists.clearWritten.2.Valid config ∧
      lists.clearWritten.2.nextSerial = lists.nextSerial ∧
      lists.clearWritten.2.events.values =
        lists.events.values.filter (fun record => decide (record.state ≠ .written)) := by
  obtain ⟨after, next, nodes⟩ := clearNodes_nodes lists.events.nodes [] 0 lists valid rfl
  refine ⟨after, next, ?_⟩
  rw [NodeList.values, NodeList.values, List.filter_map]
  exact congrArg (List.map (·.2)) nodes

end EventLists

end OpenDnp3.Outstation
