import OpenDnp3.Library.Machine
import OpenDnp3.Outstation.Event.EventWritingProperties

/-!
# Event storage

The event lists as a machine driven by the operations of the storage, its
representation invariant over all runs, and the storage as lists that carry
their invariant.
-/

set_option autoImplicit false

namespace OpenDnp3.Outstation

open OpenDnp3.App OpenDnp3.Library

namespace EventLists

inductive Operation : Type 1 where
  | update {type : EventType} (event : Event type)
  | selectByType (type : EventType) (chosen : Option type.Variation) (max : Nat)
  | selectByClass (clazz : ClassField) (max : Nat)
  | write {State : Type} (handler : EventWriteHandler State) (state : State)
  | clearWritten
  | unselect

/-- An update has no step when an `Add` returns null. -/
def machine : Machine EventLists Operation Unit where
  step lists
    | .update event => (lists.update event).map fun (_, after) => (after, ())
    | .selectByType type chosen max => some ((lists.selectByType type chosen max).2, ())
    | .selectByClass clazz max => some ((lists.selectByClass clazz max).2, ())
    | .write handler state => some ((lists.write handler state).2.lists, ())
    | .clearWritten => some (lists.clearWritten.2, ())
    | .unselect => some (lists.unselect, ())

variable {config : EventBufferConfig} {lists : EventLists}

theorem Valid.step {after : EventLists} {operation : Operation} {output : Unit}
    (valid : lists.Valid config) (success : machine.step lists operation = some (after, output)) :
    after.Valid config := by
  cases operation with
  | update event =>
      simp only [machine, Option.map_eq_some_iff, Prod.mk.injEq] at success
      obtain ⟨⟨overflow, _⟩, stored, rfl, _⟩ := success
      exact valid.update stored
  | selectByType type chosen max =>
      obtain ⟨rfl, _⟩ := Prod.mk.inj (Option.some.inj success)
      exact valid.selectByType type chosen max
  | selectByClass clazz max =>
      obtain ⟨rfl, _⟩ := Prod.mk.inj (Option.some.inj success)
      exact valid.selectByClass clazz max
  | write handler state =>
      obtain ⟨rfl, _⟩ := Prod.mk.inj (Option.some.inj success)
      obtain ⟨_, after, _⟩ := valid.write handler state
      exact after
  | clearWritten =>
      obtain ⟨rfl, _⟩ := Prod.mk.inj (Option.some.inj success)
      exact valid.clearWritten.1
  | unselect =>
      obtain ⟨rfl, _⟩ := Prod.mk.inj (Option.some.inj success)
      exact valid.unselect

theorem Valid.of_reaches (reached : machine.Reaches (empty config) lists) :
    lists.Valid config :=
  reached.invariant (valid_empty config) fun valid _ success => valid.step success

/-- Records of a class are the written ones and the others. -/
private theorem countP_clazz_split (clazz : EventClass) (records : List EventRecord) :
    records.countP (fun record => decide (record.clazz = clazz)) =
      records.countP (fun record => decide (record.clazz = clazz ∧ record.state = .written)) +
        records.countP (fun record => decide (record.clazz = clazz ∧ record.state ≠ .written)) := by
  induction records with
  | nil => rfl
  | cons record rest ih =>
      simp only [List.countP_cons, ih, decide_eq_true_eq]
      by_cases same : record.clazz = clazz <;> by_cases written : record.state = .written <;>
        simp [same, written] <;> omega

namespace Valid

/-- A class has unwritten events when some record of the class is not written. -/
theorem numUnwritten_pos (valid : lists.Valid config) (clazz : EventClass) :
    0 < lists.numUnwritten clazz ↔
      ∃ record ∈ lists.events.values, record.clazz = clazz ∧ record.state ≠ .written := by
  have total := valid.counts.total clazz
  have written := valid.counts.written clazz
  have split := countP_clazz_split clazz lists.events.values
  have bound := (lists.counters.total.get clazz).toNat_lt
  rw [UInt32.lt_iff_toNat_lt, numUnwritten, UInt32.toNat_sub, UInt32.toNat_zero]
  trans 0 < lists.events.values.countP
    (fun record => decide (record.clazz = clazz ∧ record.state ≠ .written))
  · omega
  · simp [List.countP_pos_iff]

theorem hasEventType_unwrittenClassField (valid : lists.Valid config) (clazz : EventClass) :
    lists.unwrittenClassField.hasEventType clazz = true ↔
      ∃ record ∈ lists.events.values, record.clazz = clazz ∧ record.state ≠ .written := by
  rw [← valid.numUnwritten_pos clazz]
  cases clazz <;> simp [unwrittenClassField, ClassField.hasEventType]

end Valid

/-- What the event lists represent, spelled out. -/
structure Represents (config : EventBufferConfig) (lists : EventLists) : Prop where
  /-- Nodes are distinct, and the free nodes are the others. -/
  eventsPool : (lists.events.slots ++ lists.events.free).Perm
    (List.range config.totalEvents.toNat)
  typedPool : ∀ type, ((lists.getList type).slots ++ (lists.getList type).free).Perm
    (List.range (config.maxEvents type).toNat)
  /-- The typed node of a generic record is a node of its type and points back to it. -/
  typedOfRecord : ∀ node record, (node, record) ∈ lists.events.nodes →
    ∃ typed, (lists.getList record.type).get? record.storageNode = some typed ∧
      typed.record = node
  /-- The generic node of a typed record has the type and points back to it. -/
  recordOfTyped : ∀ type node typed, (node, typed) ∈ (lists.getList type).nodes →
    ∃ record, lists.events.get? typed.record = some record ∧ record.type = type ∧
      record.storageNode = node
  /-- A typed list has the order of its records in the master list. -/
  sameOrder : ∀ type, (lists.getList type).nodes.map (fun node => (node.1, node.2.record)) =
    (lists.events.nodes.filter (fun node => decide (node.2.type = type))).map
      (fun node => (node.2.storageNode, node.1))
  eventsSize : lists.events.size ≤ config.totalEvents.toNat
  typedSize : ∀ type, (lists.getList type).size ≤ (config.maxEvents type).toNat
  /-- No `Add` returns null. -/
  addNotNull : ∀ (type : EventType) (event : Event type), (lists.update event).isSome = true
  total : ∀ clazz, (lists.counters.total.get clazz).toNat =
    (lists.events.values.filter (fun record => decide (record.clazz = clazz))).length
  written : ∀ clazz, (lists.counters.written.get clazz).toNat =
    (lists.events.values.filter
      (fun record => decide (record.clazz = clazz ∧ record.state = .written))).length
  selected : lists.counters.selected.toNat =
    (lists.events.values.filter (fun record => decide (record.state = .selected))).length
  classField : ∀ clazz, lists.unwrittenClassField.hasEventType clazz = true ↔
    ∃ record ∈ lists.events.values, record.clazz = clazz ∧ record.state ≠ .written

theorem Valid.represents (valid : lists.Valid config) : lists.Represents config where
  eventsPool := valid.capacity ▸ valid.events.partition
  typedPool type := valid.capacities type ▸ (valid.typed type).partition
  typedOfRecord node record member := by
    obtain ⟨typed, found, back⟩ := valid.typed_of_record member
    exact ⟨typed, NodeList.get?_eq_some_of_mem (valid.typed _) found, back⟩
  recordOfTyped type node typed member := by
    obtain ⟨record, found, kind, back⟩ := valid.record_of_typed member
    exact ⟨record, NodeList.get?_eq_some_of_mem valid.events found, kind, back⟩
  sameOrder type := (valid.links type).symm
  eventsSize := valid.capacity ▸ valid.events.size_le
  typedSize := valid.size_typed_le
  addNotNull type event := by
    obtain ⟨overflow, after, stored⟩ := valid.update_isSome event
    simp [stored]
  total clazz := by rw [valid.counts.total, List.countP_eq_length_filter]
  written clazz := by rw [valid.counts.written, List.countP_eq_length_filter]
  selected := by rw [valid.counts.selected, List.countP_eq_length_filter]
  classField := valid.hasEventType_unwrittenClassField

/-- Every state that operations on an empty event buffer lead to is represented soundly. -/
theorem represents_of_reaches (reached : machine.Reaches (empty config) lists) :
    lists.Represents config :=
  (Valid.of_reaches reached).represents

/-- Two updates of a type that holds one event, then a selection. -/
theorem represents_of_reaches_overflow :
    ∃ lists : EventLists, machine.Reaches (empty (.allTypes 1)) lists ∧
      lists.Represents (.allTypes 1) ∧ lists.events.size = 1 ∧ lists.numSelected = 1 := by
  let event : Event .binary := ⟨⟨true, 0x81, 0⟩, 3, .ec1, .group2Var1⟩
  have stored : machine.Reaches (empty (.allTypes 1)) _ :=
    .step .start trivial (rfl : machine.step _ (.update event) = some _)
  have overflown : machine.Reaches (empty (.allTypes 1)) _ :=
    .step stored trivial (rfl : machine.step _ (.update event) = some _)
  have selected : machine.Reaches (empty (.allTypes 1)) _ :=
    .step overflown trivial (rfl : machine.step _ (.selectByClass .allEventClasses 5) = some _)
  exact ⟨_, selected, represents_of_reaches selected, rfl, rfl⟩

end EventLists

end OpenDnp3.Outstation
