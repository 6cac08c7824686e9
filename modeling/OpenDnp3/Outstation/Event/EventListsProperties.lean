import OpenDnp3.Outstation.Event.EventLists
import Mathlib.Algebra.Order.BigOperators.Group.List
import Mathlib.Algebra.Order.Ring.Nat
import Mathlib.Data.List.Count

/-!
# Representation invariant of the event lists
-/

set_option autoImplicit false

namespace OpenDnp3.Outstation

open OpenDnp3.App OpenDnp3.Library

namespace ClazzCount

theorem get_increment (count : ClazzCount) (clazz other : EventClass) :
    (count.increment clazz).get other =
      if clazz = other then count.get other + 1 else count.get other := by
  cases clazz <;> cases other <;> rfl

theorem get_decrement (count : ClazzCount) (clazz other : EventClass) :
    (count.decrement clazz).get other =
      if clazz = other then count.get other - 1 else count.get other := by
  cases clazz <;> cases other <;> rfl

@[simp] theorem get_zero (clazz : EventClass) : ClazzCount.zero.get clazz = 0 := by
  cases clazz <;> rfl

end ClazzCount

/-- One more does not wrap while there is room for it. -/
private theorem toNat_succ_of_lt {count : UInt32} (room : count.toNat + 1 < 2 ^ 32) :
    (count + 1).toNat = count.toNat + 1 := by
  rw [UInt32.toNat_add]
  exact Nat.mod_eq_of_lt room

/-- One less does not wrap when there is one to take. -/
private theorem toNat_pred_of_pos {count : UInt32} (positive : 0 < count.toNat) :
    (count - 1).toNat = count.toNat - 1 :=
  UInt32.toNat_sub_of_le count 1 (UInt32.le_iff_toNat_le.mpr positive)

namespace EventClassCounters

/-- The counters give the numbers of records: all of them and the written ones for each
class, and the selected ones. -/
structure Counts (counters : EventClassCounters) (records : List EventRecord) : Prop where
  total : ∀ clazz, (counters.total.get clazz).toNat =
    records.countP (fun record => decide (record.clazz = clazz))
  written : ∀ clazz, (counters.written.get clazz).toNat =
    records.countP (fun record => decide (record.clazz = clazz ∧ record.state = .written))
  selected : counters.selected.toNat =
    records.countP (fun record => decide (record.state = .selected))

variable {counters : EventClassCounters} {record : EventRecord} {records others : List EventRecord}

theorem Counts.zero : EventClassCounters.zero.Counts [] :=
  ⟨fun clazz => by simp [EventClassCounters.zero], fun clazz => by simp [EventClassCounters.zero],
    rfl⟩

theorem Counts.perm (counts : counters.Counts records) (same : records.Perm others) :
    counters.Counts others :=
  ⟨fun clazz => (counts.total clazz).trans (same.countP_eq _),
    fun clazz => (counts.written clazz).trans (same.countP_eq _),
    counts.selected.trans (same.countP_eq _)⟩

theorem Counts.onAdd (counts : counters.Counts others) (room : others.length + 1 < 2 ^ 32)
    (record : EventRecord) (unselected : record.state = .unselected) :
    (counters.onAdd record.clazz).Counts (record :: others) := by
  constructor
  · intro clazz
    have before := counts.total clazz
    have bound := List.countP_le_length (p := fun record => decide (record.clazz = clazz))
      (l := others)
    simp only [EventClassCounters.onAdd, ClazzCount.get_increment, List.countP_cons,
      decide_eq_true_eq]
    split
    · rw [toNat_succ_of_lt (by omega), before]
    · rw [before, Nat.add_zero]
  · intro clazz
    simpa [EventClassCounters.onAdd, List.countP_cons, unselected] using counts.written clazz
  · simpa [EventClassCounters.onAdd, List.countP_cons, unselected] using counts.selected

theorem Counts.onSelect (counts : counters.Counts (record :: others))
    (room : others.length + 1 < 2 ^ 32) (unselected : record.state = .unselected) :
    counters.onSelect.Counts ({ record with state := .selected } :: others) := by
  constructor
  · intro clazz
    simpa [EventClassCounters.onSelect, List.countP_cons] using counts.total clazz
  · intro clazz
    simpa [EventClassCounters.onSelect, List.countP_cons, unselected] using counts.written clazz
  · have before := counts.selected
    have bound := List.countP_le_length
      (p := fun record : EventRecord => decide (record.state = .selected)) (l := others)
    simp only [EventClassCounters.onSelect, List.countP_cons, unselected, decide_eq_true_eq,
      reduceCtorEq, if_false, if_true, Nat.add_zero] at before ⊢
    rw [toNat_succ_of_lt (by omega), before]

theorem Counts.onWrite (counts : counters.Counts (record :: others))
    (room : others.length + 1 < 2 ^ 32) (selected : record.state = .selected) :
    (counters.onWrite record.clazz).Counts ({ record with state := .written } :: others) := by
  constructor
  · intro clazz
    simpa [EventClassCounters.onWrite, List.countP_cons] using counts.total clazz
  · intro clazz
    have before := counts.written clazz
    have bound := List.countP_le_length (l := others)
      (p := fun record => decide (record.clazz = clazz ∧ record.state = .written))
    simp only [EventClassCounters.onWrite, ClazzCount.get_increment, List.countP_cons, selected,
      decide_eq_true_eq, reduceCtorEq, and_false, and_true, if_false, Nat.add_zero] at before ⊢
    split
    · rw [toNat_succ_of_lt (by omega), before]
    · rw [before, Nat.add_zero]
  · have before := counts.selected
    simp only [EventClassCounters.onWrite, List.countP_cons, selected, decide_eq_true_eq,
      reduceCtorEq, if_false, if_true, Nat.add_zero] at before ⊢
    rw [toNat_pred_of_pos (by omega), before]
    rfl

theorem Counts.onRemove (counts : counters.Counts (record :: others)) :
    (counters.onRemove record.clazz record.state).Counts others := by
  have keeps : (counters.onRemove record.clazz record.state).total =
      counters.total.decrement record.clazz := by
    cases record.state <;> rfl
  constructor
  · intro clazz
    have before := counts.total clazz
    simp only [keeps, ClazzCount.get_decrement, List.countP_cons, decide_eq_true_eq] at before ⊢
    split at before
    · rename_i same
      rw [if_pos same, toNat_pred_of_pos (by omega), before]
      rfl
    · rename_i different
      rw [if_neg different, before, Nat.add_zero]
  · intro clazz
    have before := counts.written clazz
    simp only [List.countP_cons, decide_eq_true_eq] at before
    cases state : record.state with
    | unselected | selected =>
      simpa [EventClassCounters.onRemove, state] using before
    | written =>
      simp only [EventClassCounters.onRemove, ClazzCount.get_decrement, state, and_true]
        at before ⊢
      split at before
      · rename_i same
        rw [if_pos same, toNat_pred_of_pos (by omega), before]
        rfl
      · rename_i different
        rw [if_neg different, before, Nat.add_zero]
  · have before := counts.selected
    simp only [List.countP_cons, decide_eq_true_eq] at before
    cases state : record.state with
    | unselected | written =>
      simpa [EventClassCounters.onRemove, state] using before
    | selected =>
      simp only [EventClassCounters.onRemove, state, if_true] at before ⊢
      rw [toNat_pred_of_pos (by omega), before]
      rfl

theorem Counts.resetOnFail (counts : counters.Counts records) :
    counters.resetOnFail.Counts
      (records.map (fun record => { record with state := .unselected })) := by
  constructor
  · intro clazz
    simpa [EventClassCounters.resetOnFail, List.countP_map, Function.comp_def] using
      counts.total clazz
  · intro clazz
    simp [EventClassCounters.resetOnFail, List.countP_map, Function.comp_def]
  · simp [EventClassCounters.resetOnFail, List.countP_map, Function.comp_def]

end EventClassCounters

namespace EventLists

variable {config : EventBufferConfig} {lists : EventLists}

@[simp] theorem getList_setList (lists : EventLists) (type : EventType)
    (list : NodeList (TypedEventRecord type)) : (lists.setList type list).getList type = list := by
  simp [setList, getList]

theorem getList_setList_of_ne (lists : EventLists) {type other : EventType}
    (list : NodeList (TypedEventRecord type)) (different : type ≠ other) :
    (lists.setList type list).getList other = lists.getList other := by
  simp [setList, getList, different]

/-- The typed node and the generic node of each event of a type, by the generic records. -/
def recordLinks (lists : EventLists) (type : EventType) : List (Nat × Nat) :=
  (lists.events.nodes.filter (fun node => decide (node.2.type = type))).map
    (fun node => (node.2.storageNode, node.1))

/-- The typed node and the generic node of each event of a type, by the typed records. -/
def typedLinks (lists : EventLists) (type : EventType) : List (Nat × Nat) :=
  (lists.getList type).nodes.map (fun node => (node.1, node.2.record))

/-- The representation invariant: both kinds of list are sound, generic and typed records
point to each other in the same order, and the counters count. -/
structure Valid (config : EventBufferConfig) (lists : EventLists) : Prop where
  events : lists.events.Valid
  typed : ∀ type, (lists.getList type).Valid
  links : ∀ type, lists.recordLinks type = lists.typedLinks type
  counts : lists.counters.Counts lists.events.values
  capacity : lists.events.capacity = config.totalEvents.toNat
  capacities : ∀ type, (lists.getList type).capacity = (config.maxEvents type).toNat
  ordered : (lists.events.values.map (·.serial)).Pairwise (· < ·)
  fresh : ∀ record ∈ lists.events.values, record.serial < lists.nextSerial

theorem valid_empty (config : EventBufferConfig) : (empty config).Valid config where
  events := NodeList.valid_empty _
  typed _ := NodeList.valid_empty _
  links _ := rfl
  counts := EventClassCounters.Counts.zero
  capacity := rfl
  capacities _ := rfl
  ordered := List.Pairwise.nil
  fresh _ member := nomatch member

/-- The pool of generic records has room for every type's capacity. -/
theorem totalEvents_toNat (config : EventBufferConfig) :
    config.totalEvents.toNat =
      (EventType.all.map (fun type => (config.maxEvents type).toNat)).sum := by
  have bound (value : UInt16) : value.toNat < 65536 := value.toNat_lt
  have := bound config.maxBinaryEvents
  have := bound config.maxDoubleBinaryEvents
  have := bound config.maxAnalogEvents
  have := bound config.maxCounterEvents
  have := bound config.maxFrozenCounterEvents
  have := bound config.maxBinaryOutputStatusEvents
  have := bound config.maxAnalogOutputStatusEvents
  have := bound config.maxOctetStringEvents
  simp only [EventBufferConfig.totalEvents, UInt32.toNat_add, UInt16.toNat_toUInt32,
    EventType.all, EventBufferConfig.maxEvents, List.map_cons, List.map_nil, List.sum_cons,
    List.sum_nil]
  omega

/-- Every record is a record of one of the types. -/
private theorem length_eq_sum_types (nodes : List (Nat × EventRecord)) :
    nodes.length = (EventType.all.map (fun type =>
      (nodes.filter (fun node => decide (node.2.type = type))).length)).sum := by
  induction nodes with
  | nil => rfl
  | cons node rest ih =>
      rw [List.length_cons, ih]
      obtain ⟨slot, record⟩ := node
      cases type : record.type <;>
        simp [EventType.all, List.filter_cons, type] <;> omega

namespace Valid

theorem size_typed (valid : lists.Valid config) (type : EventType) :
    (lists.getList type).size =
      (lists.events.nodes.filter (fun node => decide (node.2.type = type))).length := by
  have same := congrArg List.length (valid.links type)
  simpa [recordLinks, typedLinks, NodeList.size] using same.symm

theorem size_events (valid : lists.Valid config) :
    lists.events.size = (EventType.all.map (fun type => (lists.getList type).size)).sum := by
  rw [NodeList.size, length_eq_sum_types]
  exact congrArg List.sum (List.map_congr_left fun type _ => (valid.size_typed type).symm)

theorem size_typed_le (valid : lists.Valid config) (type : EventType) :
    (lists.getList type).size ≤ (config.maxEvents type).toNat := by
  rw [← valid.capacities type]
  exact (valid.typed type).size_le

theorem size_typed_lt (valid : lists.Valid config) (type : EventType) :
    (lists.getList type).size < 65536 :=
  Nat.lt_of_le_of_lt (valid.size_typed_le type) (config.maxEvents type).toNat_lt

/-- The counters are wide enough for every record. -/
theorem size_events_lt (valid : lists.Valid config) : lists.events.size + 1 < 2 ^ 32 := by
  have sizes := valid.size_events
  have bound := valid.size_typed_lt
  simp only [EventType.all, List.map_cons, List.map_nil, List.sum_cons, List.sum_nil] at sizes
  have := bound .binary
  have := bound .analog
  have := bound .counter
  have := bound .frozenCounter
  have := bound .doubleBitBinary
  have := bound .binaryOutputStatus
  have := bound .analogOutputStatus
  have := bound .octetString
  omega

/-- While a type has room for one more record, so has the list of generic records. -/
theorem size_events_lt_capacity (valid : lists.Valid config) {type : EventType}
    (room : (lists.getList type).size < (lists.getList type).capacity) :
    lists.events.size < lists.events.capacity := by
  rw [valid.size_events, valid.capacity, totalEvents_toNat]
  rw [valid.capacities] at room
  have le := valid.size_typed_le
  exact List.sum_lt_sum _ _ (fun other _ => le other) ⟨type, EventType.mem_all type, room⟩

/-- The typed node that a generic record points to points back. -/
theorem typed_of_record (valid : lists.Valid config) {node : Nat} {record : EventRecord}
    (member : (node, record) ∈ lists.events.nodes) :
    ∃ typed, (record.storageNode, typed) ∈ (lists.getList record.type).nodes ∧
      typed.record = node := by
  have linked : (record.storageNode, node) ∈ lists.recordLinks record.type :=
    List.mem_map.mpr ⟨(node, record), List.mem_filter.mpr ⟨member, by simp⟩, rfl⟩
  rw [valid.links, typedLinks, List.mem_map] at linked
  obtain ⟨⟨slot, typed⟩, found, same⟩ := linked
  simp only [Prod.mk.injEq] at same
  obtain ⟨rfl, back⟩ := same
  exact ⟨typed, found, back⟩

/-- The generic node that a typed record points to points back. -/
theorem record_of_typed (valid : lists.Valid config) {type : EventType} {slot : Nat}
    {typed : TypedEventRecord type} (member : (slot, typed) ∈ (lists.getList type).nodes) :
    ∃ record, (typed.record, record) ∈ lists.events.nodes ∧ record.type = type ∧
      record.storageNode = slot := by
  have linked : (slot, typed.record) ∈ lists.typedLinks type :=
    List.mem_map.mpr ⟨(slot, typed), member, rfl⟩
  rw [← valid.links, recordLinks, List.mem_map] at linked
  obtain ⟨⟨node, record⟩, found, same⟩ := linked
  simp only [Prod.mk.injEq] at same
  obtain ⟨rfl, back⟩ := same
  obtain ⟨found, type⟩ := List.mem_filter.mp found
  exact ⟨record, back ▸ found, by simpa using type, rfl⟩

/-- Change one generic record in place. -/
theorem modifyRecord (valid : lists.Valid config) {node : Nat} {record : EventRecord}
    {change : EventRecord → EventRecord} {counters : EventClassCounters}
    (member : (node, record) ∈ lists.events.nodes)
    (keeps : ∀ record, (change record).type = record.type ∧
      (change record).storageNode = record.storageNode ∧ (change record).serial = record.serial)
    (counts : ∀ others : List EventRecord, others.length + 1 < 2 ^ 32 →
      lists.counters.Counts (record :: others) → counters.Counts (change record :: others)) :
    Valid config { lists with events := lists.events.modify node change, counters } := by
  have serials : ((lists.events.modify node change).values.map (·.serial)) =
      lists.events.values.map (·.serial) := by
    simp only [NodeList.values, NodeList.nodes_modify, List.map_map]
    refine List.map_congr_left fun entry _ => ?_
    by_cases same : entry.1 = node <;> simp [same, keeps]
  constructor
  case events => exact valid.events.modify node change
  case typed => exact valid.typed
  case links =>
    intro type
    refine Eq.trans ?_ (valid.links type)
    simp only [recordLinks, NodeList.nodes_modify, List.filter_map, List.map_map]
    have filtered : (fun entry : Nat × EventRecord => decide (entry.2.type = type)) ∘
        (fun entry => if entry.1 = node then (entry.1, change entry.2) else entry) =
        fun entry => decide (entry.2.type = type) := by
      funext entry
      by_cases same : entry.1 = node <;> simp [same, keeps]
    rw [filtered]
    refine List.map_congr_left fun entry _ => ?_
    by_cases same : entry.1 = node <;> simp [same, keeps]
  case counts =>
    obtain ⟨others, whole, _, changed⟩ := valid.events.exists_others member
    have room : others.length + 1 < 2 ^ 32 := by
      have length := whole.length_eq
      have bound := valid.size_events_lt
      simp only [NodeList.values, List.length_map, List.length_cons] at length
      rw [NodeList.size] at bound
      omega
    exact (counts others room (valid.counts.perm whole)).perm (changed change).symm
  case capacity => exact valid.capacity
  case capacities => exact valid.capacities
  case ordered => exact serials ▸ valid.ordered
  case fresh =>
    intro changed found
    have : changed.serial ∈ (lists.events.modify node change).values.map (·.serial) :=
      List.mem_map_of_mem found
    rw [serials] at this
    obtain ⟨original, present, same⟩ := List.mem_map.mp this
    exact same ▸ valid.fresh original present

/-- Change one typed record in place. -/
theorem modifyTyped (valid : lists.Valid config) {type : EventType} (slot : Nat)
    (change : TypedEventRecord type → TypedEventRecord type)
    (keeps : ∀ typed, (change typed).record = typed.record) :
    Valid config (lists.setList type ((lists.getList type).modify slot change)) := by
  constructor
  case events => exact valid.events
  case typed =>
    intro other
    by_cases same : type = other
    · subst same
      simpa using (valid.typed type).modify slot change
    · rw [getList_setList_of_ne _ _ same]
      exact valid.typed other
  case links =>
    intro other
    refine Eq.trans (valid.links other) ?_
    by_cases same : type = other
    · subst same
      simp only [typedLinks, getList_setList, NodeList.nodes_modify, List.map_map]
      refine List.map_congr_left fun entry _ => ?_
      by_cases same : entry.1 = slot <;> simp [same, keeps]
    · rw [typedLinks, typedLinks, getList_setList_of_ne _ _ same]
  case counts => exact valid.counts
  case capacity => exact valid.capacity
  case capacities =>
    intro other
    by_cases same : type = other
    · subst same
      simpa using valid.capacities type
    · rw [getList_setList_of_ne _ _ same]
      exact valid.capacities other
  case ordered => exact valid.ordered
  case fresh => exact valid.fresh

theorem selectTyped (valid : lists.Valid config) {type : EventType} (typedNode : Nat)
    {recordNode : Nat} {record : EventRecord} (variation : type.Variation)
    (member : (recordNode, record) ∈ lists.events.nodes)
    (unselected : record.state = .unselected) :
    Valid config (lists.selectTyped type typedNode recordNode variation) :=
  (valid.modifyTyped typedNode (fun typed => { typed with selectedVariation := variation })
    fun _ => rfl).modifyRecord member (fun _ => ⟨rfl, rfl, rfl⟩)
    (fun _ room counts => counts.onSelect room unselected)

theorem selectRecord (valid : lists.Valid config) {node : Nat} {record : EventRecord}
    (member : (node, record) ∈ lists.events.nodes) (unselected : record.state = .unselected) :
    Valid config (lists.selectRecord node) :=
  valid.modifyRecord member (fun _ => ⟨rfl, rfl, rfl⟩)
    (fun _ room counts => counts.onSelect room unselected)

theorem markWritten (valid : lists.Valid config) {node : Nat} {record : EventRecord}
    (member : (node, record) ∈ lists.events.nodes) (selected : record.state = .selected) :
    Valid config (lists.markWritten node record.clazz) :=
  valid.modifyRecord member (fun _ => ⟨rfl, rfl, rfl⟩)
    (fun _ room counts => counts.onWrite room selected)

theorem unselect (valid : lists.Valid config) : Valid config lists.unselect := by
  constructor
  case events => exact valid.events.mapValues (fun record => { record with state := .unselected })
  case typed => exact valid.typed
  case links =>
    intro type
    refine Eq.trans ?_ (valid.links type)
    simp [recordLinks, EventLists.unselect, List.filter_map, Function.comp_def]
  case counts =>
    simpa [EventLists.unselect, NodeList.values, Function.comp_def] using valid.counts.resetOnFail
  case capacity => exact valid.capacity
  case capacities => exact valid.capacities
  case ordered =>
    simpa [EventLists.unselect, NodeList.values, Function.comp_def] using valid.ordered
  case fresh =>
    intro changed found
    simp only [EventLists.unselect, NodeList.values, NodeList.nodes_mapValues, List.map_map,
      List.mem_map, Function.comp_apply] at found
    obtain ⟨entry, present, rfl⟩ := found
    exact valid.fresh entry.2 (List.mem_map_of_mem present)

end Valid

/-- In a list of pairs without repetition on either side, a pair is found by either side. -/
private theorem filter_left_eq_filter_right {links : List (Nat × Nat)}
    (left : (links.map (·.1)).Nodup) (right : (links.map (·.2)).Nodup) {one two : Nat}
    (member : (one, two) ∈ links) :
    links.filter (fun link => link.1 != one) = links.filter (fun link => link.2 != two) := by
  refine List.filter_congr fun link found => ?_
  have same : link.1 = one ↔ link.2 = two := by
    constructor
    · intro same
      exact congrArg Prod.snd (List.inj_on_of_nodup_map left found member same)
    · intro same
      exact congrArg Prod.fst (List.inj_on_of_nodup_map right found member same)
  by_cases hit : link.1 = one
  · rw [bne_eq_false_iff_eq.mpr hit, bne_eq_false_iff_eq.mpr (same.mp hit)]
  · rw [bne_iff_ne.mpr hit, bne_iff_ne.mpr fun other => hit (same.mpr other)]

theorem getList_release (lists : EventLists) (type : EventType) (typedNode recordNode : Nat)
    (record : EventRecord) :
    (lists.release type typedNode recordNode record).getList type =
      (lists.getList type).remove typedNode :=
  getList_setList lists type _

theorem getList_release_of_ne (lists : EventLists) {type other : EventType}
    (different : type ≠ other) (typedNode recordNode : Nat) (record : EventRecord) :
    (lists.release type typedNode recordNode record).getList other = lists.getList other :=
  getList_setList_of_ne lists _ different

@[simp] theorem nextSerial_release (lists : EventLists) (type : EventType)
    (typedNode recordNode : Nat) (record : EventRecord) :
    (lists.release type typedNode recordNode record).nextSerial = lists.nextSerial := rfl

theorem recordLinks_release (lists : EventLists) (type other : EventType)
    (typedNode recordNode : Nat) (record : EventRecord) :
    (lists.release type typedNode recordNode record).recordLinks other =
      (lists.recordLinks other).filter (fun link => link.2 != recordNode) := by
  simp only [recordLinks, release, NodeList.nodes_remove, List.filter_map, List.filter_filter]
  congr 2
  funext entry
  simp [Bool.and_comm]

namespace Valid

theorem links_nodup_left (valid : lists.Valid config) (type : EventType) :
    ((lists.recordLinks type).map (·.1)).Nodup := by
  rw [valid.links, typedLinks, List.map_map]
  exact (valid.typed type).slots_nodup

theorem links_nodup_right (valid : lists.Valid config) (type : EventType) :
    ((lists.recordLinks type).map (·.2)).Nodup := by
  rw [recordLinks, List.map_map]
  exact valid.events.slots_nodup.sublist (List.filter_sublist.map _)

/-- Removing both records of an event keeps the invariant. -/
theorem release (valid : lists.Valid config) {node : Nat} {record : EventRecord}
    (member : (node, record) ∈ lists.events.nodes) :
    Valid config (lists.release record.type record.storageNode node record) := by
  obtain ⟨typed, typedMember, back⟩ := valid.typed_of_record member
  have usedTyped : record.storageNode ∈ (lists.getList record.type).slots :=
    List.mem_map.mpr ⟨_, typedMember, rfl⟩
  have usedRecord : node ∈ lists.events.slots := List.mem_map.mpr ⟨_, member, rfl⟩
  obtain ⟨others, whole, removed, _⟩ := valid.events.exists_others member
  have remaining : (lists.events.remove node).values.Sublist lists.events.values :=
    List.filter_sublist.map _
  constructor
  case events => exact valid.events.remove usedRecord
  case typed =>
    intro other
    by_cases same : record.type = other
    · subst same
      exact getList_release .. ▸ (valid.typed record.type).remove usedTyped
    · exact getList_release_of_ne lists same .. ▸ valid.typed other
  case links =>
    intro other
    rw [recordLinks_release]
    by_cases same : record.type = other
    · subst same
      have linked : (record.storageNode, node) ∈ lists.recordLinks record.type :=
        List.mem_map.mpr ⟨(node, record), List.mem_filter.mpr ⟨member, by simp⟩, rfl⟩
      rw [← filter_left_eq_filter_right (valid.links_nodup_left _) (valid.links_nodup_right _)
        linked, valid.links, typedLinks, typedLinks, getList_release, NodeList.nodes_remove,
        List.filter_map]
      rfl
    · -- the removed record has another type, so no record of this type is in its node
      have kept : ∀ link ∈ lists.recordLinks other, (link.2 != node) = true := by
        intro link found
        obtain ⟨entry, present, rfl⟩ := List.mem_map.mp found
        obtain ⟨present, type⟩ := List.mem_filter.mp present
        simp only [bne_iff_ne]
        intro hit
        have : entry = (node, record) :=
          List.inj_on_of_nodup_map valid.events.slots_nodup present member hit
        exact same (by simpa [this] using type)
      rw [List.filter_eq_self.mpr kept, valid.links, typedLinks, typedLinks,
        getList_release_of_ne lists same]
  case counts => exact (valid.counts.perm whole).onRemove.perm removed.symm
  case capacity => exact valid.capacity
  case capacities =>
    intro other
    by_cases same : record.type = other
    · subst same
      rw [getList_release]
      exact valid.capacities record.type
    · rw [getList_release_of_ne lists same]
      exact valid.capacities other
  case ordered => exact valid.ordered.sublist (remaining.map _)
  case fresh => exact fun kept found => valid.fresh kept (remaining.subset found)

end Valid

/-- What storing an event creates: a generic and a typed record, each last in its list. -/
theorem append_eq_some {type : EventType} {event : Event type} {after : EventLists}
    (valid : lists.Valid config) (success : lists.append event = some after) :
    ∃ (recordNode typedNode : Nat) (record : EventRecord) (typed : TypedEventRecord type),
      record = ⟨event.index, event.clazz, .unselected, type, typedNode, lists.nextSerial⟩ ∧
      typed = ⟨event.value, event.variation, event.variation, recordNode⟩ ∧
      recordNode ∈ lists.events.free ∧
      after.events.nodes = lists.events.nodes ++ [(recordNode, record)] ∧
      after.events.Valid ∧ after.events.capacity = lists.events.capacity ∧
      (after.getList type).nodes = (lists.getList type).nodes ++ [(typedNode, typed)] ∧
      (after.getList type).Valid ∧
      (after.getList type).capacity = (lists.getList type).capacity ∧
      (∀ other, type ≠ other → after.getList other = lists.getList other) ∧
      after.counters = lists.counters.onAdd event.clazz ∧
      after.nextSerial = lists.nextSerial + 1 := by
  unfold EventLists.append at success
  split at success
  · simp at success
  rename_i recordNode events addedRecord
  split at success
  · simp at success
  rename_i typedNode list addedTyped
  simp only [Option.some.injEq] at success
  subst success
  obtain ⟨unused, capacity, _, _⟩ := NodeList.add_eq_some addedRecord
  obtain ⟨_, typedCapacity, typedNodes, _⟩ := NodeList.add_eq_some addedTyped
  refine ⟨recordNode, typedNode, _, _, rfl, rfl, unused,
    valid.events.nodes_modify_added addedRecord _,
    (valid.events.add addedRecord).modify recordNode
      (fun record => { record with storageNode := typedNode }), capacity, ?_⟩
  have typedAfter : getList { lists.setList type list with
      events := events.modify recordNode
        (fun record => { record with storageNode := typedNode })
      counters := lists.counters.onAdd event.clazz
      nextSerial := lists.nextSerial + 1 } type = list := getList_setList lists type list
  rw [typedAfter]
  exact ⟨typedNodes, (valid.typed type).add addedTyped, typedCapacity,
    fun other different => getList_setList_of_ne lists list different, rfl, rfl⟩

namespace Valid

/-- With room in the type's list, neither node is null. -/
theorem append_isSome (valid : lists.Valid config) {type : EventType} (event : Event type)
    (room : (lists.getList type).size < (lists.getList type).capacity) :
    ∃ after, lists.append event = some after := by
  have addedRecord := valid.events.add_isSome
    ⟨event.index, event.clazz, .unselected, type, 0, lists.nextSerial⟩
    (valid.size_events_lt_capacity room)
  obtain ⟨⟨recordNode, events⟩, addedRecord⟩ := Option.isSome_iff_exists.mp addedRecord
  have addedTyped := (valid.typed type).add_isSome
    ⟨event.value, event.variation, event.variation, recordNode⟩ room
  obtain ⟨⟨typedNode, list⟩, addedTyped⟩ := Option.isSome_iff_exists.mp addedTyped
  unfold EventLists.append
  rw [addedRecord]
  simp only [addedTyped]
  exact ⟨_, rfl⟩

theorem append (valid : lists.Valid config) {type : EventType} {event : Event type}
    {after : EventLists} (success : lists.append event = some after) : after.Valid config := by
  obtain ⟨recordNode, typedNode, record, typed, rfl, rfl, unused, nodes, eventsValid, capacity,
    typedNodes, typedValid, typedCapacity, others, counters, next⟩ :=
    append_eq_some valid success
  have values : after.events.values = lists.events.values ++
      [⟨event.index, event.clazz, .unselected, type, typedNode, lists.nextSerial⟩] := by
    simp [NodeList.values, nodes]
  constructor
  case events => exact eventsValid
  case typed =>
    intro other
    by_cases same : type = other
    · exact same ▸ typedValid
    · exact others other same ▸ valid.typed other
  case links =>
    intro other
    have before := valid.links other
    simp only [recordLinks, typedLinks] at before ⊢
    rw [nodes, List.filter_append, List.map_append, before]
    by_cases same : type = other
    · subst same
      simp [typedNodes]
    · simp [others other same, same]
  case counts =>
    rw [values, counters]
    refine EventClassCounters.Counts.perm ?_ (List.perm_append_singleton _ _).symm
    refine valid.counts.onAdd ?_ ⟨event.index, event.clazz, .unselected, type, typedNode,
      lists.nextSerial⟩ rfl
    simpa [NodeList.values, NodeList.size] using valid.size_events_lt
  case capacity => exact capacity.trans valid.capacity
  case capacities =>
    intro other
    by_cases same : type = other
    · subst same
      exact typedCapacity.trans (valid.capacities type)
    · exact others other same ▸ valid.capacities other
  case ordered =>
    rw [values, List.map_append, List.pairwise_append]
    refine ⟨valid.ordered, List.pairwise_singleton _ _, fun one member two last => ?_⟩
    obtain ⟨record, found, rfl⟩ := List.mem_map.mp member
    simp only [List.map_cons, List.map_nil, List.mem_singleton] at last
    exact last ▸ valid.fresh record found
  case fresh =>
    intro record found
    rw [values, List.mem_append, List.mem_singleton] at found
    rw [next]
    rcases found with found | rfl
    · exact Nat.lt_succ_of_lt (valid.fresh record found)
    · exact Nat.lt_succ_self _

/-- What makes space discards: the oldest record of the type. -/
theorem makeSpace_eq (valid : lists.Valid config) {type : EventType}
    (nonempty : 0 < (lists.getList type).size) :
    ∃ (node : Nat) (record : EventRecord), (node, record) ∈ lists.events.nodes ∧
      record.type = type ∧
      (∀ other ∈ lists.events.values, other.type = type → record.serial ≤ other.serial) ∧
      lists.makeSpace type = lists.release type record.storageNode node record := by
  cases chain : (lists.getList type).nodes with
  | nil => simp [NodeList.size, chain] at nonempty
  | cons entry rest =>
      obtain ⟨typedNode, first⟩ := entry
      have member : (typedNode, first) ∈ (lists.getList type).nodes := by simp [chain]
      obtain ⟨record, present, kind, back⟩ := valid.record_of_typed member
      refine ⟨first.record, record, present, kind, ?_, ?_⟩
      · -- the typed order is the order of the generic records, which is that of the serials
        have links := valid.links type
        rw [recordLinks, typedLinks, chain, List.map_cons] at links
        obtain ⟨head, tail, filtered, headLink, _⟩ := List.map_eq_cons_iff.mp links
        simp only [Prod.mk.injEq] at headLink
        have sorted : (head :: tail).Pairwise
            (fun one two => one.2.serial < two.2.serial) := by
          rw [← filtered]
          have ordered := valid.ordered
          rw [NodeList.values, List.map_map, List.pairwise_map] at ordered
          exact ordered.filter _
        have headMember : head ∈ lists.events.nodes := by
          have : head ∈ head :: tail := List.mem_cons_self
          rw [← filtered] at this
          exact List.mem_of_mem_filter this
        have same : head = (first.record, record) :=
          List.inj_on_of_nodup_map valid.events.slots_nodup headMember present headLink.2
        subst same
        intro other found otherKind
        obtain ⟨entry, entryMember, rfl⟩ := List.mem_map.mp found
        have : entry ∈ (first.record, record) :: tail := by
          rw [← filtered]
          exact List.mem_filter.mpr ⟨entryMember, by simpa using otherKind⟩
        rcases List.mem_cons.mp this with rfl | later
        · exact Nat.le_refl _
        · exact Nat.le_of_lt (List.rel_of_pairwise_cons sorted later)
      · simp [makeSpace, NodeList.head?, chain, NodeList.get?_eq_some_of_mem valid.events present,
          back]

theorem makeSpace (valid : lists.Valid config) (type : EventType) :
    (lists.makeSpace type).Valid config := by
  by_cases nonempty : 0 < (lists.getList type).size
  · obtain ⟨node, record, member, rfl, _, same⟩ := valid.makeSpace_eq nonempty
    exact same ▸ valid.release member
  · have empty : (lists.getList type).nodes = [] := by
      simpa [NodeList.size] using nonempty
    simpa [EventLists.makeSpace, NodeList.head?, empty] using valid

/-- Discarding the oldest event of a full list leaves room for one in it, and the other lists as
they are. -/
theorem makeSpace_full (valid : lists.Valid config) {type : EventType}
    (full : lists.isFullAndCapacityNotZero type = true) :
    ((lists.makeSpace type).getList type).size + 1 =
        ((lists.makeSpace type).getList type).capacity ∧
      ∀ other, type ≠ other → (lists.makeSpace type).getList other = lists.getList other := by
  simp only [isFullAndCapacityNotZero, Bool.and_eq_true, decide_eq_true_eq] at full
  have size := (valid.typed type).isFull_iff.mp full.1
  have nonempty : 0 < (lists.getList type).size := by omega
  obtain ⟨node, record, member, rfl, _, same⟩ := valid.makeSpace_eq nonempty
  obtain ⟨typed, typedMember, _⟩ := valid.typed_of_record member
  rw [same, getList_release]
  have used : record.storageNode ∈ (lists.getList record.type).slots :=
    List.mem_map.mpr ⟨_, typedMember, rfl⟩
  have before := (valid.typed record.type).size_add_free
  have after := ((valid.typed record.type).remove used).size_add_free
  simp only [NodeList.remove, List.length_cons] at after
  refine ⟨?_, fun other different => getList_release_of_ne lists different _ _ _⟩
  simp only [NodeList.remove]
  omega

theorem makeSpace_room (valid : lists.Valid config) {type : EventType}
    (full : lists.isFullAndCapacityNotZero type = true) :
    ((lists.makeSpace type).getList type).size <
      ((lists.makeSpace type).getList type).capacity :=
  Nat.lt_of_succ_le (Nat.le_of_eq (valid.makeSpace_full full).1)

/-- Storing an event never meets a null node. -/
theorem update_isSome (valid : lists.Valid config) {type : EventType} (event : Event type) :
    ∃ overflow after, lists.update event = some (overflow, after) := by
  unfold EventLists.update
  split
  · exact ⟨_, _, rfl⟩
  split
  · rename_i full
    obtain ⟨after, success⟩ :=
      (valid.makeSpace type).append_isSome event (valid.makeSpace_room full)
    exact ⟨true, after, by rw [success]; rfl⟩
  · rename_i positive notFull
    have room : (lists.getList type).size < (lists.getList type).capacity := by
      have := (valid.typed type).size_le
      have := (valid.typed type).isFull_iff
      simp only [isFullAndCapacityNotZero, Bool.and_eq_true, decide_eq_true_eq, not_and] at notFull
      by_contra none
      exact notFull (this.mpr (by omega)) (by omega)
    obtain ⟨after, success⟩ := valid.append_isSome event room
    exact ⟨false, after, by rw [success]; rfl⟩

theorem update (valid : lists.Valid config) {type : EventType} {event : Event type}
    {overflow : Bool} {after : EventLists}
    (success : lists.update event = some (overflow, after)) : after.Valid config := by
  unfold EventLists.update at success
  split at success
  · simp only [Option.some.injEq, Prod.mk.injEq] at success
    exact success.2 ▸ valid
  split at success
  · simp only [Option.map_eq_some_iff, Prod.mk.injEq] at success
    obtain ⟨_, success, _, rfl⟩ := success
    exact (valid.makeSpace type).append success
  · simp only [Option.map_eq_some_iff, Prod.mk.injEq] at success
    obtain ⟨_, success, _, rfl⟩ := success
    exact valid.append success

/-- A type that is full stays full. -/
theorem isFull_update (valid : lists.Valid config) {type other : EventType} {event : Event type}
    {overflow : Bool} {after : EventLists}
    (success : lists.update event = some (overflow, after))
    (full : lists.isFullAndCapacityNotZero other = true) :
    after.isFullAndCapacityNotZero other = true := by
  have sound := valid.update success
  unfold EventLists.update at success
  split at success
  · simp only [Option.some.injEq, Prod.mk.injEq] at success
    exact success.2 ▸ full
  split at success
  · next filled =>
      obtain ⟨_, stored, same⟩ := Option.map_eq_some_iff.mp success
      obtain ⟨_, rfl⟩ := Prod.mk.inj same
      obtain ⟨_, _, _, _, _, _, _, _, _, _, nodes, _, capacity, others, _⟩ :=
        append_eq_some (valid.makeSpace type) stored
      obtain ⟨size, kept⟩ := valid.makeSpace_full filled
      by_cases same : type = other
      · subst same
        simp only [isFullAndCapacityNotZero, Bool.and_eq_true, decide_eq_true_eq]
        rw [(sound.typed type).isFull_iff, capacity, ← size, NodeList.size, nodes,
          List.length_append]
        exact ⟨rfl, Nat.succ_pos _⟩
      · rw [isFullAndCapacityNotZero, others other same, kept other same]
        exact full
  · next open_ =>
      obtain ⟨_, stored, same⟩ := Option.map_eq_some_iff.mp success
      obtain ⟨_, rfl⟩ := Prod.mk.inj same
      obtain ⟨_, _, _, _, _, _, _, _, _, _, _, _, _, others, _⟩ := append_eq_some valid stored
      have different : type ≠ other := by
        rintro rfl
        exact open_ full
      rw [isFullAndCapacityNotZero, others other different]
      exact full

/-- An event is only discarded when its type is full. -/
theorem discarded_update (valid : lists.Valid config) {type : EventType} {event : Event type}
    {overflow : Bool} {after : EventLists}
    (success : lists.update event = some (overflow, after)) {record : EventRecord}
    (member : record ∈ lists.events.values) (gone : record ∉ after.events.values) :
    overflow = true ∧ lists.isFullAndCapacityNotZero type = true := by
  unfold EventLists.update at success
  split at success
  · simp only [Option.some.injEq, Prod.mk.injEq] at success
    exact absurd (success.2 ▸ member) gone
  split at success
  · next filled =>
      obtain ⟨_, _, same⟩ := Option.map_eq_some_iff.mp success
      exact ⟨(Prod.mk.inj same).1.symm, filled⟩
  · obtain ⟨_, stored, same⟩ := Option.map_eq_some_iff.mp success
    obtain ⟨_, rfl⟩ := Prod.mk.inj same
    obtain ⟨_, _, _, _, _, _, _, nodes, _⟩ := append_eq_some valid stored
    refine absurd ?_ gone
    rw [NodeList.values, nodes, List.map_append]
    exact List.mem_append_left _ member

/-- What is discarded is the oldest event of the type. -/
theorem oldest_of_discarded (valid : lists.Valid config) {type : EventType} {event : Event type}
    {overflow : Bool} {after : EventLists}
    (success : lists.update event = some (overflow, after)) {record : EventRecord}
    (member : record ∈ lists.events.values) (gone : record ∉ after.events.values) :
    record.type = type ∧
      ∀ other ∈ lists.events.values, other.type = type → record.serial ≤ other.serial := by
  have full := (valid.discarded_update success member gone).2
  have filled := full
  simp only [isFullAndCapacityNotZero, Bool.and_eq_true, decide_eq_true_eq] at filled
  have size := (valid.typed type).isFull_iff.mp filled.1
  obtain ⟨node, oldest, present, kind, least, made⟩ :=
    @makeSpace_eq _ _ valid type (Nat.lt_of_lt_of_eq filled.2 size.symm)
  rw [EventLists.update, if_neg (Nat.ne_of_gt filled.2), if_pos full] at success
  obtain ⟨later, stored, same⟩ := Option.map_eq_some_iff.mp success
  obtain ⟨_, rfl⟩ := Prod.mk.inj same
  obtain ⟨_, _, _, _, _, _, _, nodes, _⟩ := append_eq_some (valid.makeSpace type) stored
  obtain ⟨kept, rest, split⟩ := List.append_of_mem present
  have released : (lists.makeSpace type).events.nodes = kept ++ rest := by
    rw [made]
    exact valid.events.nodes_remove_split split
  -- every other record stays
  obtain ⟨⟨slot, found⟩, entry, rfl⟩ := List.mem_map.mp member
  rw [split, List.mem_append, List.mem_cons] at entry
  have stays (among : (slot, found) ∈ kept ++ rest) : found ∈ later.events.values := by
    rw [NodeList.values, nodes, released]
    exact List.mem_map_of_mem (List.mem_append_left _ among)
  rcases entry with before | same | behind
  · exact absurd (stays (List.mem_append_left _ before)) gone
  · cases same
    exact ⟨kind, least⟩
  · exact absurd (stays (List.mem_append_right _ behind)) gone

theorem nextSerial_update (valid : lists.Valid config) {type : EventType} {event : Event type}
    {overflow : Bool} {after : EventLists}
    (success : lists.update event = some (overflow, after)) :
    lists.nextSerial ≤ after.nextSerial := by
  have appended {first : EventLists} (sound : first.Valid config)
      (stored : first.append event = some after) : first.nextSerial ≤ after.nextSerial := by
    obtain ⟨_, _, _, _, _, _, _, _, _, _, _, _, _, _, _, next⟩ := append_eq_some sound stored
    rw [next]
    exact Nat.le_succ _
  have made : (lists.makeSpace type).nextSerial = lists.nextSerial := by
    rw [EventLists.makeSpace]
    split
    · rfl
    · split <;> rfl
  unfold EventLists.update at success
  split at success
  · obtain ⟨_, rfl⟩ := Prod.mk.inj (Option.some.inj success)
    exact Nat.le_refl _
  split at success
  · obtain ⟨_, stored, same⟩ := Option.map_eq_some_iff.mp success
    obtain ⟨_, rfl⟩ := Prod.mk.inj same
    exact Nat.le_trans (Nat.le_of_eq made.symm) (appended (valid.makeSpace type) stored)
  · obtain ⟨_, stored, same⟩ := Option.map_eq_some_iff.mp success
    obtain ⟨_, rfl⟩ := Prod.mk.inj same
    exact appended valid stored

end Valid

end EventLists

end OpenDnp3.Outstation
