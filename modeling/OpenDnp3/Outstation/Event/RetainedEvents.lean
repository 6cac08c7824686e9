import OpenDnp3.Outstation.Event.EventBufferProperties
import OpenDnp3.Outstation.Event.EventRoundTrip

/-!
# Retained events

Storing events and removing written ones takes nothing away from the selected
events but what is discarded to make space, and a discarded event is missing in
the number of selected events.
-/

set_option autoImplicit false

namespace OpenDnp3.Outstation

open OpenDnp3.App OpenDnp3.Library

namespace EventLists

variable {config : EventBufferConfig} {lists other after : EventLists}

/-- Of the selected events some are left, and they say what they said before. -/
structure Retains (before after : EventLists) : Prop where
  records : after.selectedRecords.Sublist before.selectedRecords
  retrieve : ∀ record ∈ after.selectedRecords, after.retrieve record = before.retrieve record

theorem Retains.refl (lists : EventLists) : lists.Retains lists := ⟨.refl _, fun _ _ => rfl⟩

theorem Retains.trans (first : lists.Retains other) (second : other.Retains after) :
    lists.Retains after := by
  refine ⟨second.records.trans first.records, fun record member => ?_⟩
  rw [second.retrieve record member]
  exact first.retrieve record (second.records.subset member)

theorem selectedEvents_congr (records : after.selectedRecords = lists.selectedRecords)
    (retrieve : ∀ record ∈ after.selectedRecords,
      after.retrieve record = lists.retrieve record) :
    after.selectedEvents = lists.selectedEvents := by
  rw [selectedEvents, selectedEvents, ← records]
  exact List.filterMap_congr retrieve

theorem Valid.length_selectedRecords (valid : lists.Valid config) :
    lists.numSelected.toNat = lists.selectedRecords.length := by
  rw [numSelected, valid.counts.selected, selectedRecords, ← List.countP_eq_length_filter]

/-- What is retained is everything, when there are as many events as before. -/
theorem Retains.selectedEvents (retains : lists.Retains after) (valid : lists.Valid config)
    (sound : after.Valid config) (same : after.numSelected = lists.numSelected) :
    after.selectedEvents = lists.selectedEvents := by
  have lengths : after.selectedRecords.length = lists.selectedRecords.length := by
    rw [← sound.length_selectedRecords, ← valid.length_selectedRecords, same]
  exact selectedEvents_congr (retains.records.eq_of_length lengths) retains.retrieve

/-- A record is retrieved alike where its typed record is one of those before. -/
theorem Valid.retrieve_eq (valid : lists.Valid config) (sound : after.Valid config)
    {record : EventRecord} (member : record ∈ after.events.values)
    (typed : ∀ type, ∀ entry ∈ (after.getList type).nodes, entry ∈ (lists.getList type).nodes) :
    after.retrieve record = lists.retrieve record := by
  obtain ⟨entry, found, rfl⟩ := List.mem_map.mp member
  obtain ⟨data, stored, _⟩ := sound.typed_of_record found
  have before := typed entry.2.type _ stored
  rw [retrieve, retrieve, NodeList.get?_eq_some_of_mem (sound.typed _) stored,
    NodeList.get?_eq_some_of_mem (valid.typed _) before]

/-! ## Storing -/

theorem Valid.retains_release (valid : lists.Valid config) {node : Nat} {record : EventRecord}
    (member : (node, record) ∈ lists.events.nodes) :
    lists.Retains (lists.release record.type record.storageNode node record) := by
  have sound := valid.release member
  have fewer : (lists.release record.type record.storageNode node record).events.nodes.Sublist
      lists.events.nodes := List.filter_sublist
  refine ⟨(fewer.map _).filter _, fun other selected => ?_⟩
  refine valid.retrieve_eq sound (List.mem_of_mem_filter selected) fun type entry stored => ?_
  by_cases same : record.type = type
  · subst same
    rw [getList_release] at stored
    exact List.mem_of_mem_filter stored
  · rwa [getList_release_of_ne lists same] at stored

theorem Valid.retains_makeSpace (valid : lists.Valid config) (type : EventType) :
    lists.Retains (lists.makeSpace type) := by
  by_cases nonempty : 0 < (lists.getList type).size
  · obtain ⟨node, record, member, rfl, _, same⟩ := valid.makeSpace_eq nonempty
    rw [same]
    exact valid.retains_release member
  · have empty : (lists.getList type).nodes = [] := by
      simpa [NodeList.size] using nonempty
    have unchanged : lists.makeSpace type = lists := by
      simp [EventLists.makeSpace, NodeList.head?, empty]
    rw [unchanged]
    exact .refl lists

/-- A new event is not selected. -/
theorem Valid.retains_append (valid : lists.Valid config) {type : EventType} {event : Event type}
    (success : lists.append event = some after) : lists.Retains after := by
  have sound := valid.append success
  obtain ⟨recordNode, typedNode, record, typed, rfl, _, _, nodes, _, _, typedNodes, _, _, others,
    _, _⟩ := append_eq_some valid success
  have records : after.selectedRecords = lists.selectedRecords := by
    rw [selectedRecords, selectedRecords, NodeList.values, NodeList.values, nodes,
      List.map_append, List.filter_append]
    exact List.append_nil _
  refine ⟨records ▸ .refl _, fun record member => ?_⟩
  have before : record ∈ lists.events.values := by
    rw [records] at member
    exact List.mem_of_mem_filter member
  refine (sound.retrieve_eq valid before fun kind entry stored => ?_).symm
  by_cases same : type = kind
  · subst same
    rw [typedNodes]
    exact List.mem_append_left _ stored
  · rwa [others kind same]

theorem Valid.retains_update (valid : lists.Valid config) {type : EventType} {event : Event type}
    {discarded : Bool} (success : lists.update event = some (discarded, after)) :
    lists.Retains after := by
  rw [EventLists.update] at success
  split at success
  · obtain ⟨_, rfl⟩ := Prod.mk.inj (Option.some.inj success)
    exact .refl lists
  · split at success
    · obtain ⟨_, stored, same⟩ := Option.map_eq_some_iff.mp success
      obtain ⟨_, rfl⟩ := Prod.mk.inj same
      exact (valid.retains_makeSpace type).trans ((valid.makeSpace type).retains_append stored)
    · obtain ⟨_, stored, same⟩ := Option.map_eq_some_iff.mp success
      obtain ⟨_, rfl⟩ := Prod.mk.inj same
      exact valid.retains_append stored

/-! ## Removing -/

theorem Valid.retains_clearNodes :
    ∀ (nodes : List Nat) (count : Nat) (lists : EventLists), lists.Valid config →
      lists.Retains (clearNodes nodes count lists).2 := by
  intro nodes
  induction nodes with
  | nil =>
      intro count lists _
      exact .refl lists
  | cons node nodes ih =>
      intro count lists valid
      rw [clearNodes]
      cases found : lists.events.get? node with
      | none => exact ih count lists valid
      | some record =>
          by_cases written : record.state = .written
          · have member := NodeList.mem_of_get?_eq_some found
            simp only [if_pos written]
            exact (valid.retains_release member).trans (ih _ _ (valid.release member))
          · simp only [if_neg written]
            exact ih count lists valid

/-- Written events are not selected. -/
theorem Valid.selectedEvents_clearWritten (valid : lists.Valid config) :
    lists.clearWritten.2.selectedEvents = lists.selectedEvents := by
  obtain ⟨sound, _, values⟩ := valid.clearWritten
  have retains : lists.Retains lists.clearWritten.2 := valid.retains_clearNodes _ 0 lists
  refine selectedEvents_congr ?_ retains.retrieve
  rw [selectedRecords, selectedRecords, values, List.filter_filter]
  refine List.filter_congr fun record _ => ?_
  cases record.state <;> rfl

end EventLists

namespace EventBuffer

variable {config : EventBufferConfig} {buffer after : EventBuffer} {serials : List Nat}

theorem Marks.retains_updateAll {events : List AnyEvent} (marks : buffer.Marks config serials)
    (success : EventBuffer.updateAll events buffer = some after) :
    buffer.storage.Retains after.storage := by
  induction events generalizing buffer with
  | nil =>
      obtain rfl := Option.some.inj success
      exact .refl _
  | cons event events ih =>
      obtain ⟨next, stored, others⟩ := Option.bind_eq_some_iff.mp success
      obtain ⟨⟨discarded, lists⟩, made, rfl⟩ := Option.map_eq_some_iff.mp stored
      exact (marks.valid.retains_update made).trans (ih (marks.update stored) others)

end EventBuffer

end OpenDnp3.Outstation
