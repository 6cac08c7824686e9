import OpenDnp3.Outstation.Event.EventRoundTrip

/-!
# Variations of events

The variation in which an event was asked for, and the one in which it is written.
Selecting by type sets the latter; selecting by class leaves what an earlier
selection has set.
-/

set_option autoImplicit false

namespace OpenDnp3.Outstation

open OpenDnp3.App OpenDnp3.Library OpenDnp3.Master

/-- A variation of one of the types. -/
abbrev EventVariation := (type : EventType) × type.Variation

def StoredEvent.choice (event : StoredEvent) : EventVariation := ⟨event.type, event.variation⟩

namespace EventLists

/-! ## What is asked for -/

/-- The variation in which an event would be written. -/
def choiceOf (lists : EventLists) (record : EventRecord) : Option EventVariation :=
  ((lists.getList record.type).get? record.storageNode).map fun data =>
    ⟨record.type, data.selectedVariation⟩

/-- The variation that was recorded with an event. -/
def defaultOf (lists : EventLists) (record : EventRecord) : Option EventVariation :=
  ((lists.getList record.type).get? record.storageNode).map fun data =>
    ⟨record.type, data.defaultVariation⟩

/-- The variation in which a selection asks for an event. -/
def asks (lists : EventLists) : Operation → EventRecord → Option EventVariation
  | .selectByType type (some variation) _, _ => some ⟨type, variation⟩
  | .selectByType _ none _, record | .selectByClass _ _, record => lists.defaultOf record
  | _, _ => none

/-- An event that is selected now and was not before. -/
def newlySelected (before after : EventLists) (serial : Nat) : Option EventRecord :=
  before.events.values.find? fun record =>
    record.serial == serial && record.state == .unselected &&
      after.events.values.any fun other => other.serial == serial && other.state == .selected

/-- The variations in which events were asked for, by their serials, after an operation. -/
def track (before after : EventLists) (operation : Operation)
    (asked : Nat → Option EventVariation) (serial : Nat) : Option EventVariation :=
  match before.newlySelected after serial with
  | some record => before.asks operation record
  | none => asked serial

/-- The event storage with the variations in which its events were asked for. -/
def asking : Machine (EventLists × (Nat → Option EventVariation)) Operation Unit where
  step state operation := (machine.step state.1 operation).map fun (after, output) =>
    ((after, state.1.track after operation state.2), output)

/-- The events that a selection by class finds. -/
def ofClass (lists : EventLists) (clazz : ClassField) : List EventRecord :=
  lists.events.values.filter fun record =>
    decide (record.state = .unselected ∧ clazz.hasEventType record.clazz = true)

/-- What a selection by class finds has the variation that was recorded with it. -/
def AsRecorded (lists : EventLists) (operation : Operation) : Prop :=
  ∀ clazz max, operation = .selectByClass clazz max →
    ∀ record ∈ (lists.ofClass clazz).take max, lists.choiceOf record = lists.defaultOf record

/-- A handler, and the events that are handed to it with the variation of the run. -/
def recording {State : Type} (handler : EventWriteHandler State) :
    EventWriteHandler (State × List StoredEvent) where
  Writer type := handler.Writer type × type.Variation × List StoredEvent
  start type variation value state :=
    (handler.start type variation value state.1, variation, state.2)
  write {type} writer value index := (handler.write writer.1 value index).map fun after =>
    (after, writer.2.1, writer.2.2 ++ [⟨type, writer.2.1, value, index⟩])
  finish writer := (handler.finish writer.1, writer.2.2)

variable {config : EventBufferConfig} {lists : EventLists}

/-! ## Selections -/

/-- What selections make of the records: those that were not selected before have the variation
that is asked for. -/
structure Chooses (asks : EventRecord → Option EventVariation) (before after : EventLists) :
    Prop where
  selected : ∀ record ∈ after.events.values, record.state = .selected →
    ∃ earlier ∈ before.events.values, record.bare = earlier.bare ∧
      (earlier.state = .selected ∧ after.choiceOf record = before.choiceOf earlier ∨
        earlier.state = .unselected ∧ after.choiceOf record = asks earlier)
  unselected : ∀ record ∈ after.events.values, record.state = .unselected →
    record ∈ before.events.values

theorem Chooses.refl (asks : EventRecord → Option EventVariation) (lists : EventLists) :
    Chooses asks lists lists :=
  ⟨fun record member selected => ⟨record, member, rfl, .inl ⟨selected, rfl⟩⟩,
    fun _ member _ => member⟩

theorem Chooses.trans {asks : EventRecord → Option EventVariation}
    {first second third : EventLists} (one : Chooses asks first second)
    (two : Chooses asks second third) : Chooses asks first third := by
  refine ⟨fun record member selected => ?_, fun record member unselected => ?_⟩
  · obtain ⟨middle, found, same, ⟨already, kept⟩ | ⟨unselected, asked⟩⟩ :=
      two.selected record member selected
    · obtain ⟨earlier, present, bare, ⟨before, choice⟩ | ⟨before, choice⟩⟩ :=
        one.selected middle found already
      · exact ⟨earlier, present, same.trans bare, .inl ⟨before, kept.trans choice⟩⟩
      · exact ⟨earlier, present, same.trans bare, .inr ⟨before, kept.trans choice⟩⟩
    · exact ⟨middle, one.unselected middle found unselected, same, .inr ⟨unselected, asked⟩⟩
  · exact one.unselected record (two.unselected record member unselected) unselected

/-- One selected record. -/
theorem Valid.chooses_one (valid : lists.Valid config) {asks : EventRecord → Option EventVariation}
    {after : EventLists} {node : Nat} {record : EventRecord}
    (member : (node, record) ∈ lists.events.nodes) (unselected : record.state = .unselected)
    (events : after.events =
      lists.events.modify node (fun record => { record with state := .selected }))
    (chosen : after.choiceOf record = asks record)
    (others : ∀ entry ∈ lists.events.nodes, entry.1 ≠ node →
      after.choiceOf entry.2 = lists.choiceOf entry.2) : Chooses asks lists after := by
  have among : ∀ changed ∈ after.events.values,
      (∃ entry ∈ lists.events.nodes, entry.1 ≠ node ∧ changed = entry.2) ∨
        changed = { record with state := .selected } := by
    intro changed found
    rw [events, NodeList.values, NodeList.nodes_modify, List.map_map] at found
    obtain ⟨entry, present, rfl⟩ := List.mem_map.mp found
    by_cases hit : entry.1 = node
    · have same : entry = (node, record) :=
        List.inj_on_of_nodup_map valid.events.slots_nodup present member hit
      subst same
      exact .inr (by simp)
    · exact .inl ⟨entry, present, hit, by simp [hit]⟩
  refine ⟨fun changed found selected => ?_, fun changed found state => ?_⟩
  · rcases among changed found with ⟨entry, present, other, rfl⟩ | rfl
    · exact ⟨entry.2, List.mem_map_of_mem present, rfl, .inl ⟨selected, others entry present other⟩⟩
    · exact ⟨record, List.mem_map_of_mem member, rfl, .inr ⟨unselected, chosen⟩⟩
  · rcases among changed found with ⟨entry, present, _, rfl⟩ | rfl
    · exact List.mem_map_of_mem present
    · cases state

theorem get?_selectTyped (lists : EventLists) (type other : EventType) (typedNode recordNode : Nat)
    (variation : type.Variation) (slot : Nat) :
    ((lists.selectTyped type typedNode recordNode variation).getList other).get? slot =
      ((lists.getList other).get? slot).map fun data =>
        if same : type = other then
          if slot = typedNode then { data with selectedVariation := same ▸ variation } else data
        else data := by
  by_cases same : type = other
  · subst same
    have list : (lists.selectTyped type typedNode recordNode variation).getList type =
        (lists.getList type).modify typedNode
          (fun typed => { typed with selectedVariation := variation }) := getList_setList _ _ _
    rw [list, NodeList.get?_modify]
    simp
  · have list : (lists.selectTyped type typedNode recordNode variation).getList other =
        lists.getList other := getList_setList_of_ne _ _ same
    rw [list]
    simp [same]

/-- Selecting leaves what is recorded. -/
theorem defaultOf_selectTyped (lists : EventLists) (type : EventType) (typedNode recordNode : Nat)
    (variation : type.Variation) (record : EventRecord) :
    (lists.selectTyped type typedNode recordNode variation).defaultOf record =
      lists.defaultOf record := by
  rw [defaultOf, get?_selectTyped, Option.map_map, defaultOf]
  refine Option.map_congr fun data _ => ?_
  simp only [Function.comp_apply]
  split
  · split <;> rfl
  · rfl

/-- The event that is selected by type has the variation that is asked for. -/
theorem choiceOf_selectTyped_self {type : EventType} {typedNode recordNode : Nat}
    {typed : TypedEventRecord type} {record : EventRecord} (variation : type.Variation)
    (found : (lists.getList type).get? typedNode = some typed) (kind : record.type = type)
    (storage : record.storageNode = typedNode) :
    (lists.selectTyped type typedNode recordNode variation).choiceOf record =
      some ⟨type, variation⟩ := by
  subst kind storage
  rw [choiceOf, get?_selectTyped, found]
  simp

theorem choiceOf_selectTyped_of_ne {type : EventType} {typedNode recordNode : Nat}
    {record : EventRecord} (variation : type.Variation)
    (different : record.type = type → record.storageNode ≠ typedNode) :
    (lists.selectTyped type typedNode recordNode variation).choiceOf record =
      lists.choiceOf record := by
  rw [choiceOf, get?_selectTyped, Option.map_map, choiceOf]
  refine Option.map_congr fun data _ => ?_
  simp only [Function.comp_apply]
  split
  · next same => rw [if_neg (different same.symm)]
  · rfl

/-- A selection by type sets the variation of what it selects. -/
theorem selectNodes_chooses (type : EventType) (chosen : Option type.Variation) (max : Nat)
    {asks : EventRecord → Option EventVariation}
    (explicit : ∀ variation, chosen = some variation → ∀ record, asks record = some ⟨type, variation⟩) :
    ∀ (nodes : List Nat) (numSelected : Nat) (lists : EventLists), lists.Valid config →
      (chosen = none → ∀ record, asks record = lists.defaultOf record) →
      Chooses asks lists (selectNodes type chosen max nodes numSelected lists).2 := by
  intro nodes
  induction nodes with
  | nil => exact fun _ lists _ _ => .refl asks lists
  | cons typedNode rest ih =>
      intro numSelected lists valid recorded
      rw [selectNodes]
      split
      · exact .refl asks lists
      split
      · exact ih numSelected lists valid recorded
      rename_i typed found
      split
      · exact ih numSelected lists valid recorded
      rename_i record present
      split
      · rename_i unselected
        have member := NodeList.mem_of_get?_eq_some present
        obtain ⟨back, there, kind, storage⟩ :=
          valid.record_of_typed (NodeList.mem_of_get?_eq_some found)
        have same : back = record := congrArg Prod.snd
          (List.inj_on_of_nodup_map valid.events.slots_nodup there member rfl)
        subst same
        have one := valid.selectTyped typedNode (chosen.getD typed.defaultVariation) member unselected
        refine .trans ?_ (ih (numSelected + 1) _ one fun none record => ?_)
        · refine valid.chooses_one member unselected rfl ?_ fun entry among other => ?_
          · rw [choiceOf_selectTyped_self _ found kind storage]
            cases chosen with
            | none =>
                rw [recorded rfl, defaultOf]
                subst kind storage
                rw [found]
                rfl
            | some variation => exact (explicit variation rfl _).symm
          · refine choiceOf_selectTyped_of_ne _ fun sameType sameNode => other ?_
            -- the typed node belongs to one record only
            obtain ⟨data, stored, points⟩ := valid.typed_of_record (show (entry.1, entry.2) ∈ _ from among)
            subst sameType
            rw [sameNode] at stored
            have only := NodeList.get?_eq_some_of_mem (valid.typed _) stored
            rw [← points, Option.some.inj (only.symm.trans found)]
        · rw [recorded none, defaultOf_selectTyped]
      · exact ih numSelected lists valid recorded

theorem Valid.selectByType_chooses (valid : lists.Valid config) (type : EventType)
    (chosen : Option type.Variation) (max : Nat) :
    Chooses (lists.asks (.selectByType type chosen max)) lists
      (lists.selectByType type chosen max).2 := by
  refine selectNodes_chooses type chosen max ?_ _ 0 lists valid ?_
  · rintro variation rfl record
    rfl
  · rintro rfl record
    rfl

/-- A selection by class selects the first events that it finds, and leaves their variations. -/
theorem selectClassNodes_among (clazz : ClassField) (max : Nat) :
    ∀ (rest kept : List (Nat × EventRecord)) (numSelected : Nat) (lists : EventLists),
      lists.Valid config → lists.events.nodes = kept ++ rest →
      let after := (selectClassNodes clazz max (rest.map (·.1)) numSelected lists).2
      after.typed = lists.typed ∧
        ∀ record ∈ after.events.values, record ∈ lists.events.values ∨
          ∃ earlier ∈ ((rest.map (·.2)).filter fun record =>
              decide (record.state = .unselected ∧ clazz.hasEventType record.clazz = true)).take
                (max - numSelected),
            record = { earlier with state := .selected } := by
  intro rest
  induction rest with
  | nil => exact fun kept numSelected lists _ _ => ⟨rfl, fun record member => .inl member⟩
  | cons entry rest ih =>
      intro kept numSelected lists valid split
      obtain ⟨node, record⟩ := entry
      have member : (node, record) ∈ lists.events.nodes := by simp [split]
      simp only [List.map_cons, selectClassNodes, NodeList.get?_eq_some_of_mem valid.events member]
      by_cases room : numSelected < max
      · rw [if_pos room]
        by_cases wanted : record.state = .unselected ∧ clazz.hasEventType record.clazz = true
        · rw [if_pos wanted, List.filter_cons_of_pos (by simpa using wanted)]
          have nodes : (lists.selectRecord node).events.nodes =
              (kept ++ [(node, { record with state := .selected })]) ++ rest := by
            rw [List.append_assoc]
            exact valid.events.nodes_modify_split split _
          obtain ⟨typed, among⟩ := ih _ (numSelected + 1) _ (valid.selectRecord member wanted.1) nodes
          refine ⟨typed, fun changed found => ?_⟩
          rw [show max - numSelected = max - (numSelected + 1) + 1 by omega, List.take_succ_cons]
          rcases among changed found with before | ⟨earlier, first, same⟩
          · rw [NodeList.values, nodes, List.map_append, List.map_append, List.mem_append,
              List.mem_append] at before
            rcases before with (early | now) | late
            · refine .inl ?_
              rw [NodeList.values, split, List.map_append]
              exact List.mem_append_left _ early
            · exact .inr ⟨record, List.mem_cons_self, List.mem_singleton.mp now⟩
            · refine .inl ?_
              rw [NodeList.values, split, List.map_append]
              exact List.mem_append_right _ (List.mem_cons_of_mem _ late)
          · exact .inr ⟨earlier, List.mem_cons_of_mem _ first, same⟩
        · rw [if_neg wanted, List.filter_cons_of_neg (by simpa using wanted)]
          exact ih (kept ++ [(node, record)]) numSelected lists valid (by simp [split])
      · rw [if_neg room]
        exact ⟨rfl, fun record member => .inl member⟩

theorem choiceOf_congr_typed {after : EventLists} (typed : after.typed = lists.typed)
    (record : EventRecord) : after.choiceOf record = lists.choiceOf record := by
  rw [choiceOf, choiceOf, getList, getList, typed]

theorem Valid.selectByClass_chooses (valid : lists.Valid config) (clazz : ClassField) (max : Nat)
    (recorded : ∀ record ∈ (lists.ofClass clazz).take max,
      lists.choiceOf record = lists.defaultOf record) :
    Chooses (lists.asks (.selectByClass clazz max)) lists (lists.selectByClass clazz max).2 := by
  obtain ⟨typed, among⟩ := selectClassNodes_among clazz max lists.events.nodes [] 0 lists valid rfl
  refine ⟨fun record member selected => ?_, fun record member unselected => ?_⟩
  · rcases among record member with before | ⟨earlier, first, rfl⟩
    · exact ⟨record, before, rfl, .inl ⟨selected, choiceOf_congr_typed typed record⟩⟩
    · have found : earlier ∈ lists.ofClass clazz := List.mem_of_mem_take first
      obtain ⟨present, wanted⟩ := List.mem_filter.mp found
      refine ⟨earlier, present, rfl, .inr ⟨(of_decide_eq_true wanted).1, ?_⟩⟩
      exact (choiceOf_congr_typed typed _).trans (recorded earlier first)
  · rcases among record member with before | ⟨_, _, rfl⟩
    · exact before
    · cases unselected

/-! ## The other operations -/

/-- What is selected was selected before, and has the same variation. -/
def Carries (before after : EventLists) : Prop :=
  ∀ record ∈ after.events.values, record.state = .selected →
    record ∈ before.events.values ∧ after.choiceOf record = before.choiceOf record

/-- A record has the same variation where fewer typed records are left. -/
theorem Valid.choiceOf_eq {after : EventLists} (valid : lists.Valid config)
    (afterValid : after.Valid config)
    (within : ∀ type, (after.getList type).nodes ⊆ (lists.getList type).nodes)
    {record : EventRecord} (member : record ∈ after.events.values) :
    after.choiceOf record = lists.choiceOf record := by
  obtain ⟨entry, found, rfl⟩ := List.mem_map.mp member
  obtain ⟨data, stored, _⟩ := afterValid.typed_of_record (show (entry.1, entry.2) ∈ _ from found)
  rw [choiceOf, choiceOf, NodeList.get?_eq_some_of_mem (afterValid.typed _) stored,
    NodeList.get?_eq_some_of_mem (valid.typed _) (within _ stored)]

theorem within_release (lists : EventLists) (type other : EventType) (typedNode recordNode : Nat)
    (record : EventRecord) :
    ((lists.release type typedNode recordNode record).getList other).nodes ⊆
      (lists.getList other).nodes := by
  by_cases same : type = other
  · subst same
    rw [getList_release]
    exact List.filter_subset_self _
  · rw [getList_release_of_ne lists same]
    exact List.Subset.refl _

theorem within_makeSpace (valid : lists.Valid config) (type other : EventType) :
    ((lists.makeSpace type).getList other).nodes ⊆ (lists.getList other).nodes ∧
      (lists.makeSpace type).events.values ⊆ lists.events.values := by
  by_cases nonempty : 0 < (lists.getList type).size
  · obtain ⟨node, record, member, rfl, _, same⟩ := valid.makeSpace_eq nonempty
    rw [same]
    exact ⟨within_release .., NodeList.values_remove_subset _ _⟩
  · have empty : (lists.getList type).nodes = [] := by
      simpa [NodeList.size] using nonempty
    have same : lists.makeSpace type = lists := by
      simp [EventLists.makeSpace, NodeList.head?, empty]
    rw [same]
    exact ⟨List.Subset.refl _, List.Subset.refl _⟩

theorem Valid.append_carries (valid : lists.Valid config) {type : EventType} {event : Event type}
    {after : EventLists} (success : lists.append event = some after) : lists.Carries after := by
  obtain ⟨recordNode, typedNode, record, typed, rfl, rfl, _, nodes, _, _, typedNodes, _, _, others, _⟩ :=
    append_eq_some valid success
  have within (other : EventType) : (lists.getList other).nodes ⊆ (after.getList other).nodes := by
    by_cases same : type = other
    · subst same
      rw [typedNodes]
      exact List.subset_append_left _ _
    · rw [others other same]
      exact List.Subset.refl _
  intro record member selected
  rw [NodeList.values, nodes, List.map_append, List.mem_append] at member
  rcases member with before | new
  · exact ⟨before, ((valid.append success).choiceOf_eq valid within before).symm⟩
  · rw [List.mem_singleton.mp new] at selected
    cases selected

theorem Valid.update_carries (valid : lists.Valid config) {type : EventType} {event : Event type}
    {overflow : Bool} {after : EventLists}
    (success : lists.update event = some (overflow, after)) : lists.Carries after := by
  unfold EventLists.update at success
  split at success
  · obtain ⟨_, rfl⟩ := Prod.mk.inj (Option.some.inj success)
    exact fun record member _ => ⟨member, rfl⟩
  split at success
  · obtain ⟨_, stored, same⟩ := Option.map_eq_some_iff.mp success
    obtain ⟨_, rfl⟩ := Prod.mk.inj same
    intro record member selected
    obtain ⟨found, kept⟩ := (valid.makeSpace type).append_carries stored record member selected
    refine ⟨(within_makeSpace valid type type).2 found, kept.trans ?_⟩
    exact valid.choiceOf_eq (valid.makeSpace type) (fun other => (within_makeSpace valid type other).1)
      found
  · obtain ⟨_, stored, same⟩ := Option.map_eq_some_iff.mp success
    obtain ⟨_, rfl⟩ := Prod.mk.inj same
    exact valid.append_carries stored

theorem within_clearNodes (type : EventType) :
    ∀ (nodes : List Nat) (count : Nat) (lists : EventLists),
      ((clearNodes nodes count lists).2.getList type).nodes ⊆ (lists.getList type).nodes := by
  intro nodes
  induction nodes with
  | nil => exact fun _ lists => List.Subset.refl _
  | cons node rest ih =>
      intro count lists
      rw [clearNodes]
      split
      · exact ih count lists
      split
      · exact List.Subset.trans (ih _ _) (within_release ..)
      · exact ih count lists

theorem Valid.clearWritten_carries (valid : lists.Valid config) :
    lists.Carries lists.clearWritten.2 := by
  obtain ⟨after, _, values⟩ := valid.clearWritten
  intro record member _
  refine ⟨?_, valid.choiceOf_eq after (fun type => within_clearNodes type _ 0 lists) member⟩
  rw [values] at member
  exact (List.mem_filter.mp member).1

theorem Writes.carries {after : EventLists} {taken : List EventRecord}
    (writes : Writes lists after taken) : lists.Carries after := by
  intro record member selected
  refine ⟨?_, choiceOf_congr_typed writes.typed record⟩
  rw [writes.values] at member
  obtain ⟨earlier, found, rfl⟩ := List.mem_map.mp member
  rw [EventRecord.setStateIn] at selected ⊢
  split at selected
  · cases selected
  · next not => rw [if_neg not]; exact found

theorem unselect_carries (lists : EventLists) : lists.Carries lists.unselect := by
  intro record member selected
  simp only [EventLists.unselect, NodeList.values, NodeList.nodes_mapValues, List.map_map,
    List.mem_map, Function.comp_apply] at member
  obtain ⟨entry, _, rfl⟩ := member
  cases selected

/-! ## Runs -/

/-- What is selected has the variation in which it was asked for. -/
def Agrees (lists : EventLists) (asked : Nat → Option EventVariation) : Prop :=
  ∀ record ∈ lists.events.values, record.state = .selected →
    asked record.serial = lists.choiceOf record

/-- The record that is selected now, if it was not before. -/
theorem Valid.newlySelected_eq (valid : lists.Valid config) {after : EventLists}
    {record earlier : EventRecord} (member : record ∈ after.events.values)
    (selected : record.state = .selected) (found : earlier ∈ lists.events.values)
    (same : record.bare = earlier.bare) :
    lists.newlySelected after record.serial =
      if earlier.state = .unselected then some earlier else none := by
  have serial : earlier.serial = record.serial := (congrArg EventRecord.serial same).symm
  have unique : ∀ other ∈ lists.events.values, other.serial = record.serial → other = earlier := by
    intro other present equal
    have serials : (lists.events.values.map (·.serial)).Nodup := valid.ordered.imp Nat.ne_of_lt
    exact List.inj_on_of_nodup_map serials present found (equal.trans serial.symm)
  split
  · next unselected =>
      cases first : lists.newlySelected after record.serial with
      | none =>
          have none := List.find?_eq_none.mp first earlier found
          simp only [serial, unselected, beq_self_eq_true, Bool.true_and, List.any_eq_true] at none
          exact absurd ⟨record, member, by simp [selected]⟩ none
      | some other =>
          have matching := List.find?_some first
          simp only [Bool.and_eq_true, beq_iff_eq] at matching
          rw [unique other (List.mem_of_find?_eq_some first) matching.1.1]
  · next selected =>
      refine List.find?_eq_none.mpr fun other present => ?_
      by_cases equal : other.serial = record.serial
      · rw [unique other present equal]
        simp [selected]
      · simp [equal]

theorem Agrees.chooses {asked : Nat → Option EventVariation} {after : EventLists}
    {operation : Operation} (agrees : lists.Agrees asked) (valid : lists.Valid config)
    (chooses : Chooses (lists.asks operation) lists after) :
    after.Agrees (lists.track after operation asked) := by
  intro record member selected
  obtain ⟨earlier, found, same, how⟩ := chooses.selected record member selected
  rw [track, valid.newlySelected_eq member selected found same]
  rcases how with ⟨already, kept⟩ | ⟨unselected, asks⟩
  · have serial : earlier.serial = record.serial := (congrArg EventRecord.serial same).symm
    rw [if_neg (by simp [already]), kept, ← agrees earlier found already, serial]
  · rw [if_pos unselected, asks]

theorem Agrees.carries {asked : Nat → Option EventVariation} {after : EventLists}
    {operation : Operation} (agrees : lists.Agrees asked) (valid : lists.Valid config)
    (carries : lists.Carries after) : after.Agrees (lists.track after operation asked) := by
  intro record member selected
  obtain ⟨found, kept⟩ := carries record member selected
  rw [track, valid.newlySelected_eq member selected found rfl, if_neg (by simp [selected]), kept]
  exact agrees record found selected

theorem Agrees.step {asked : Nat → Option EventVariation} {operation : Operation}
    {next : EventLists × (Nat → Option EventVariation)} {output : Unit}
    (agrees : lists.Agrees asked) (valid : lists.Valid config)
    (recorded : lists.AsRecorded operation)
    (success : asking.step (lists, asked) operation = some (next, output)) :
    next.1.Agrees next.2 ∧ next.1.Valid config := by
  obtain ⟨⟨after, done⟩, stepped, same⟩ := Option.map_eq_some_iff.mp success
  obtain ⟨rfl, rfl⟩ := Prod.mk.inj same
  refine ⟨?_, valid.step stepped⟩
  cases operation with
  | update event =>
      obtain ⟨⟨overflow, _⟩, stored, same⟩ := Option.map_eq_some_iff.mp stepped
      obtain ⟨rfl, _⟩ := Prod.mk.inj same
      exact agrees.carries valid (valid.update_carries stored)
  | selectByType type chosen max =>
      obtain ⟨rfl, _⟩ := Prod.mk.inj (Option.some.inj stepped)
      exact agrees.chooses valid (valid.selectByType_chooses type chosen max)
  | selectByClass clazz max =>
      obtain ⟨rfl, _⟩ := Prod.mk.inj (Option.some.inj stepped)
      exact agrees.chooses valid (valid.selectByClass_chooses clazz max (recorded clazz max rfl))
  | write handler state =>
      obtain ⟨rfl, _⟩ := Prod.mk.inj (Option.some.inj stepped)
      obtain ⟨_, _, writes, _⟩ := valid.write handler state
      exact agrees.carries valid writes.carries
  | clearWritten =>
      obtain ⟨rfl, _⟩ := Prod.mk.inj (Option.some.inj stepped)
      exact agrees.carries valid valid.clearWritten_carries
  | unselect =>
      obtain ⟨rfl, _⟩ := Prod.mk.inj (Option.some.inj stepped)
      exact agrees.carries valid (unselect_carries lists)

/-! ## Writing -/

def Writing.map {Writer Other : Type} (change : Writer → Other) (writing : Writing Writer) :
    Writing Other :=
  ⟨writing.iterator, writing.lists, change writing.writer, writing.carried⟩

section recording

variable {State : Type} (handler : EventWriteHandler State)

theorem writeOne_recording (type : EventType) (variation : type.Variation)
    (writing : Writing ((recording handler).Writer type)) :
    writeOne handler type variation (writing.map (·.1)) =
      ((writeOne (recording handler) type variation writing).1,
        (writeOne (recording handler) type variation writing).2.map (·.1)) := by
  obtain ⟨iterator, lists, writer, carried⟩ := writing
  change writeOne handler type variation ⟨iterator, lists, writer.1, carried⟩ = _
  unfold writeOne
  simp only [Writing.map]
  by_cases counted : lists.counters.selected = 0
  · simp only [if_pos counted]
  simp only [if_neg counted]
  cases lists.findSelected iterator with
  | nil => rfl
  | cons node rest =>
      simp only
      cases lists.events.get? node with
      | none => rfl
      | some record =>
          simp only
          by_cases kind : record.type ≠ type
          · simp only [if_pos kind]
          simp only [if_neg kind]
          cases (lists.getList type).get? record.storageNode with
          | none => rfl
          | some data =>
              simp only
              by_cases other : data.selectedVariation ≠ variation
              · simp only [if_pos other]
              simp only [if_neg other, recording]
              cases handler.write writer.1 data.value record.index with
              | none => rfl
              | some after => rfl

theorem writeRun_recording (type : EventType) (variation : type.Variation) :
    ∀ (fuel : Nat) (writing : Writing ((recording handler).Writer type)),
      writeRun handler type variation fuel (writing.map (·.1)) =
        ((writeRun (recording handler) type variation fuel writing).1,
          (writeRun (recording handler) type variation fuel writing).2.map (·.1)) := by
  intro fuel
  induction fuel with
  | zero => exact fun writing => rfl
  | succ fuel ih =>
      intro writing
      rw [writeRun, writeRun, writeOne_recording]
      rcases writeOne (recording handler) type variation writing with ⟨success, after⟩
      cases success with
      | false => rfl
      | true => simp only [ih]

theorem writeSome_recording (writing : Writing (State × List StoredEvent)) :
    writeSome handler (writing.map (·.1)) =
      ((writeSome (recording handler) writing).1,
        (writeSome (recording handler) writing).2.map (·.1)) := by
  obtain ⟨iterator, lists, state, carried⟩ := writing
  change writeSome handler ⟨iterator, lists, state.1, carried⟩ = _
  unfold writeSome
  simp only [Writing.map]
  by_cases counted : lists.counters.selected = 0
  · simp only [if_pos counted]
  simp only [if_neg counted]
  cases lists.findSelected iterator with
  | nil => rfl
  | cons node rest =>
      simp only
      cases lists.events.get? node with
      | none => rfl
      | some record =>
          simp only
          cases (lists.getList record.type).get? record.storageNode with
          | none => rfl
          | some data =>
              have run := writeRun_recording handler record.type data.selectedVariation
                (node :: rest).length ⟨node :: rest, lists,
                  (recording handler).start record.type data.selectedVariation data.value
                    state, carried⟩
              simp only [Writing.map, recording] at run ⊢
              rw [run]

theorem writeRuns_recording :
    ∀ (fuel : Nat) (writing : Writing (State × List StoredEvent)),
      writeRuns handler fuel (writing.map (·.1)) =
        ((writeRuns (recording handler) fuel writing).1,
          (writeRuns (recording handler) fuel writing).2.map (·.1)) := by
  intro fuel
  induction fuel with
  | zero => exact fun writing => rfl
  | succ fuel ih =>
      intro writing
      rw [writeRuns, writeRuns, writeSome_recording]
      rcases writeSome (recording handler) writing with ⟨numWritten, after⟩
      by_cases nothing : numWritten = 0
      · subst nothing
        rfl
      · simp only [ih]

/-- A handler writes the same when its events are recorded. -/
theorem write_recording (state : State) (lists : EventLists) :
    lists.write handler state =
      ((lists.write (recording handler) (state, [])).1,
        (lists.write (recording handler) (state, [])).2.map (·.1)) :=
  writeRuns_recording handler _ ⟨_, lists, (state, []), []⟩

/-- The events that a recording handler is handed so far. -/
def Recorded (lists : EventLists) (taken : List EventRecord) (state : State × List StoredEvent) :
    Prop :=
  taken.map lists.retrieve = state.2.map some

def Recording (lists : EventLists) (type : EventType) (variation : type.Variation)
    (taken : List EventRecord) (writer : (recording handler).Writer type) : Prop :=
  writer.2.1 = variation ∧ taken.map lists.retrieve = writer.2.2.map some

theorem keeps_recorded (lists : EventLists) :
    Keeps (recording handler) lists (Recorded lists) (Recording handler lists) where
  start := by
    intro type taken record data state offers recorded
    simp only [recording]
    cases handler.write (handler.start type data.selectedVariation data.value state.1) data.value
        record.index with
    | none => exact recorded
    | some after =>
        refine ⟨rfl, ?_⟩
        rw [List.map_append, List.map_append, recorded, List.map_singleton, offers.retrieve]
        rfl
  write := by
    intro type taken record data writer after offers within success
    obtain ⟨written, _, rfl⟩ := Option.map_eq_some_iff.mp success
    refine ⟨within.1, ?_⟩
    rw [List.map_append, List.map_append, within.2, List.map_singleton, offers.retrieve, within.1]
    rfl
  finish := fun within => within.2

end recording

theorem map_choice_retrieve (lists : EventLists) (record : EventRecord) :
    (lists.retrieve record).map StoredEvent.choice = lists.choiceOf record := by
  rw [retrieve, choiceOf, Option.map_map]
  rfl

/-- The events that are written, with the variations in which they were asked for. -/
theorem Agrees.encoded {asked : Nat → Option EventVariation} {taken : List EventRecord}
    {after : EventLists} (agrees : lists.Agrees asked) (writes : Writes lists after taken)
    {events : List StoredEvent} (recorded : taken.map lists.retrieve = events.map some) :
    events.map (fun event => some event.choice) = (taken.map (·.serial)).map asked := by
  have chosen := congrArg (List.map (Option.map StoredEvent.choice)) recorded
  rw [List.map_map, List.map_map] at chosen
  rw [List.map_map]
  refine chosen.symm.trans (List.map_congr_left fun record member => ?_)
  have selected : record ∈ lists.selectedRecords := by
    rw [writes.first]
    exact List.mem_append_left _ member
  obtain ⟨present, state⟩ := List.mem_filter.mp selected
  exact (map_choice_retrieve lists record).trans
    (agrees record present (of_decide_eq_true state)).symm

/-- As long as selections by class find events with the variation that was recorded with them,
every event is written in the variation in which it was asked for. -/
theorem encoded_of_reachesWhile [FloatOps] {asked : Nat → Option EventVariation}
    (reached : asking.ReachesWhile (fun state operation => state.1.AsRecorded operation)
      (empty config, fun _ => none) (lists, asked)) (writer : HeaderWriter) :
    let writing := (lists.write (recording asduEventWriteHandler) (writer, [])).2
    let events := writing.writer.2
    (lists.write asduEventWriteHandler writer).2 = writing.map (·.1) ∧
      events.map (fun event => some event.choice) = writing.carried.map asked ∧
      ((∀ event ∈ lists.selectedEvents, event.Encodable) → ∃ bytes calls,
        writing.writer.1.position.written = writer.position.written ++ bytes ∧
        MeasurementHandler.processMeasurements bytes = .ok calls ∧
        calls.flatMap SOECall.measurements = events.map StoredEvent.measurement) := by
  obtain ⟨agrees, valid⟩ : lists.Agrees asked ∧ lists.Valid config :=
    @Machine.ReachesWhile.invariant _ _ _ _ _ _ _
      (fun state => state.1.Agrees state.2 ∧ state.1.Valid config) reached
      ⟨by rintro record ⟨⟩, valid_empty config⟩
      fun both recorded success => both.1.step both.2 recorded success
  have same := congrArg Prod.snd (write_recording asduEventWriteHandler writer lists)
  obtain ⟨taken, _, writes, carried, recorded⟩ := valid.write_keeps
    (keeps_recorded asduEventWriteHandler lists) (writer, []) rfl
  refine ⟨same, ?_, fun encodable => ?_⟩
  · rw [carried]
    exact agrees.encoded writes recorded
  · obtain ⟨others, _, alike, _, bytes, headers, written, reports⟩ :=
      valid.write_keeps (keeps_loaded writer.position.written valid encodable) writer
        ⟨[], [], by simp, Reports.nil⟩
    rw [same] at alike written
    -- both runs take what is selected before and not after
    have equal : others = taken :=
      List.append_cancel_right (alike.first.symm.trans writes.first)
    have events : taken.filterMap lists.retrieve =
        (lists.write (recording asduEventWriteHandler) (writer, [])).2.writer.2 := by
      have all := congrArg (List.filterMap id) recorded
      simpa [List.filterMap_map, Function.comp_def] using all
    rw [equal, events] at reports
    obtain ⟨calls, processed, received⟩ := reports.processed
    exact ⟨bytes, calls, written, processed, received⟩

/-- One event that is recorded with the first variation. -/
private def flagged : Event .binary := ⟨⟨true, 0x81, 1000⟩, 3, .ec1, .group2Var1⟩

/-- It is asked for in another variation, and again when that read is abandoned. One that is
recorded then is found by its class. -/
theorem encoded_abandoned :
    ∃ (lists : EventLists) (asked : Nat → Option EventVariation),
      asking.Reaches (empty (.allTypes 2), fun _ => none) (lists, asked) ∧
      let writing := (lists.write (recording (@asduEventWriteHandler .atZero))
        (⟨⟨[], .replicate 40 0⟩, none⟩, [])).2
      writing.writer.2.map (fun event => some event.choice) = writing.carried.map asked ∧
      writing.carried.map asked =
        [some ⟨.binary, .group2Var2⟩, some ⟨.binary, .group2Var1⟩] := by
  have stored : asking.ReachesWhile (fun state operation => state.1.AsRecorded operation)
      (empty (.allTypes 2), fun _ => none) _ :=
    .step .start (by rintro _ _ ⟨⟩) (rfl : asking.step _ (.update flagged) = some _)
  have first := stored.step (by rintro _ _ ⟨⟩) (rfl : asking.step _
    (.selectByType .binary (some .group2Var3) 5) = some _)
  have abandoned := first.step (by rintro _ _ ⟨⟩) (rfl : asking.step _ .unselect = some _)
  have again := abandoned.step (by rintro _ _ ⟨⟩) (rfl : asking.step _
    (.selectByType .binary (some .group2Var2) 5) = some _)
  have another := again.step (by rintro _ _ ⟨⟩) (rfl : asking.step _ (.update flagged) = some _)
  have found := another.step (by rintro _ _ ⟨⟩; decide +kernel) (rfl : asking.step _
    (.selectByClass .allEventClasses 5) = some _)
  have encoded := @encoded_of_reachesWhile _ _ .atZero _ found ⟨⟨[], .replicate 40 0⟩, none⟩
  exact ⟨_, _, found.reaches, encoded.2.1, rfl⟩

/-- A selection by class leaves the variation of the abandoned read. -/
theorem not_encoded :
    ∃ (lists : EventLists) (asked : Nat → Option EventVariation),
      asking.Reaches (empty (.allTypes 2), fun _ => none) (lists, asked) ∧
      let writing := (lists.write (recording (@asduEventWriteHandler .atZero))
        (⟨⟨[], .replicate 40 0⟩, none⟩, [])).2
      writing.writer.2.map (fun event => some event.choice) = [some ⟨.binary, .group2Var2⟩] ∧
      writing.carried.map asked = [some ⟨.binary, .group2Var1⟩] := by
  have stored : asking.Reaches (empty (.allTypes 2), fun _ => none) _ :=
    .step .start trivial (rfl : asking.step _ (.update flagged) = some _)
  have first := stored.step trivial (rfl : asking.step _
    (.selectByType .binary (some .group2Var2) 5) = some _)
  have abandoned := first.step trivial (rfl : asking.step _ .unselect = some _)
  have second := abandoned.step trivial (rfl : asking.step _
    (.selectByClass .allEventClasses 5) = some _)
  exact ⟨_, _, second, rfl, rfl⟩

end EventLists

end OpenDnp3.Outstation
