import Mathlib.Data.List.Nodup
import Mathlib.Data.List.Perm.Basic
import Mathlib.Data.List.Perm.Subperm

/-!
# Sequences held in a fixed pool of slots

A `NodeList` is a sequence whose elements each occupy a numbered slot of a
preallocated pool. Slots give elements an identity that other structures may
store. Freed slots are reused, most recently freed first.
-/

set_option autoImplicit false

namespace OpenDnp3.Library

/-- Elements in sequence order, each with its slot, and the chain of unused slots. -/
structure NodeList (α : Type) where
  capacity : Nat
  nodes : List (Nat × α)
  free : List Nat
deriving DecidableEq, Repr

namespace NodeList

variable {α : Type}

/-- A pool with every slot unused. -/
def empty (capacity : Nat) : NodeList α :=
  ⟨capacity, [], List.range capacity⟩

def size (list : NodeList α) : Nat := list.nodes.length

def slots (list : NodeList α) : List Nat := list.nodes.map (·.1)

def values (list : NodeList α) : List α := list.nodes.map (·.2)

def head? (list : NodeList α) : Option (Nat × α) := list.nodes.head?

def isFull (list : NodeList α) : Bool := list.free.isEmpty

/-- The element stored in a slot. -/
def get? (list : NodeList α) (slot : Nat) : Option α :=
  (list.nodes.find? (fun node => node.1 == slot)).map (·.2)

/-- Append an element in the first unused slot. -/
def add (list : NodeList α) (value : α) : Option (Nat × NodeList α) :=
  match list.free with
  | [] => none
  | slot :: free =>
      some (slot, { list with nodes := list.nodes ++ [(slot, value)], free })

/-- Drop the element in a slot and make the slot the next one to be reused. -/
def remove (list : NodeList α) (slot : Nat) : NodeList α :=
  { list with
    nodes := list.nodes.filter (fun node => node.1 != slot)
    free := slot :: list.free }

/-- Change the element in a slot in place. -/
def modify (list : NodeList α) (slot : Nat) (change : α → α) : NodeList α :=
  { list with
    nodes := list.nodes.map
      (fun node => if node.1 = slot then (node.1, change node.2) else node) }

/-- Change every element in place. -/
def mapValues (list : NodeList α) (change : α → α) : NodeList α :=
  { list with nodes := list.nodes.map (fun node => (node.1, change node.2)) }

/-- Used and unused slots together are the pool, each slot once. -/
structure Valid (list : NodeList α) : Prop where
  partition : (list.slots ++ list.free).Perm (List.range list.capacity)

@[simp] theorem capacity_empty (capacity : Nat) :
    (empty capacity : NodeList α).capacity = capacity := rfl

@[simp] theorem nodes_empty (capacity : Nat) :
    (empty capacity : NodeList α).nodes = [] := rfl

@[simp] theorem capacity_remove (list : NodeList α) (slot : Nat) :
    (list.remove slot).capacity = list.capacity := rfl

@[simp] theorem nodes_remove (list : NodeList α) (slot : Nat) :
    (list.remove slot).nodes = list.nodes.filter (fun node => node.1 != slot) := rfl

@[simp] theorem capacity_modify (list : NodeList α) (slot : Nat) (change : α → α) :
    (list.modify slot change).capacity = list.capacity := rfl

@[simp] theorem nodes_modify (list : NodeList α) (slot : Nat) (change : α → α) :
    (list.modify slot change).nodes = list.nodes.map
      (fun node => if node.1 = slot then (node.1, change node.2) else node) := rfl

@[simp] theorem capacity_mapValues (list : NodeList α) (change : α → α) :
    (list.mapValues change).capacity = list.capacity := rfl

@[simp] theorem nodes_mapValues (list : NodeList α) (change : α → α) :
    (list.mapValues change).nodes = list.nodes.map (fun node => (node.1, change node.2)) := rfl

@[simp] theorem slots_modify (list : NodeList α) (slot : Nat) (change : α → α) :
    (list.modify slot change).slots = list.slots := by
  simp only [slots, nodes_modify, List.map_map]
  apply List.map_congr_left
  intro node _
  by_cases same : node.1 = slot <;> simp [same]

@[simp] theorem slots_mapValues (list : NodeList α) (change : α → α) :
    (list.mapValues change).slots = list.slots := by
  simp [slots]

theorem valid_empty (capacity : Nat) : (empty capacity : NodeList α).Valid :=
  ⟨by simp [empty, slots]⟩

theorem Valid.slots_append_free_nodup {list : NodeList α} (valid : list.Valid) :
    (list.slots ++ list.free).Nodup :=
  valid.partition.nodup_iff.mpr List.nodup_range

theorem Valid.slots_nodup {list : NodeList α} (valid : list.Valid) : list.slots.Nodup :=
  (List.nodup_append.mp valid.slots_append_free_nodup).1

theorem Valid.not_mem_slots_of_free {list : NodeList α} (valid : list.Valid) {slot : Nat}
    (unused : slot ∈ list.free) : slot ∉ list.slots := fun used =>
  (List.nodup_append.mp valid.slots_append_free_nodup).2.2 slot used slot unused rfl

/-- The used and unused slots add up to the capacity. -/
theorem Valid.size_add_free {list : NodeList α} (valid : list.Valid) :
    list.size + list.free.length = list.capacity := by
  have lengths := valid.partition.length_eq
  simpa [slots, size] using lengths

theorem Valid.size_le {list : NodeList α} (valid : list.Valid) :
    list.size ≤ list.capacity := by
  have := valid.size_add_free
  omega

theorem Valid.isFull_iff {list : NodeList α} (valid : list.Valid) :
    list.isFull = true ↔ list.size = list.capacity := by
  have := valid.size_add_free
  rw [isFull, List.isEmpty_iff, ← List.length_eq_zero_iff]
  omega

/-- Adding succeeds exactly while a slot is unused. -/
theorem add_isSome_iff (list : NodeList α) (value : α) :
    (list.add value).isSome = true ↔ list.isFull = false := by
  unfold add isFull
  cases list.free <;> simp

theorem Valid.add_isSome {list : NodeList α} (valid : list.Valid) (value : α)
    (room : list.size < list.capacity) : (list.add value).isSome = true := by
  rw [add_isSome_iff]
  cases full : list.isFull with
  | false => rfl
  | true =>
      have := valid.isFull_iff.mp full
      omega

theorem add_eq_some {list after : NodeList α} {value : α} {slot : Nat}
    (added : list.add value = some (slot, after)) :
    slot ∈ list.free ∧ after.capacity = list.capacity ∧
      after.nodes = list.nodes ++ [(slot, value)] ∧ list.free = slot :: after.free := by
  unfold add at added
  cases chain : list.free with
  | nil => simp [chain] at added
  | cons first rest =>
      simp only [chain, Option.some.injEq, Prod.mk.injEq] at added
      obtain ⟨rfl, rfl⟩ := added
      simp

theorem Valid.add {list after : NodeList α} {value : α} {slot : Nat} (valid : list.Valid)
    (added : list.add value = some (slot, after)) : after.Valid := by
  obtain ⟨_, capacity, nodes, chain⟩ := add_eq_some added
  constructor
  have before := valid.partition
  rw [chain] at before
  rw [capacity]
  refine List.Perm.trans ?_ before
  simp only [slots, nodes, List.map_append, List.map_cons, List.map_nil, List.append_assoc,
    List.singleton_append]
  exact List.Perm.refl _

theorem slots_remove (list : NodeList α) (slot : Nat) :
    (list.remove slot).slots = list.slots.filter (fun used => used != slot) := by
  simp [slots, List.filter_map, Function.comp_def]

/-- Removing a node only takes values away. -/
theorem values_remove_subset (list : NodeList α) (slot : Nat) :
    (list.remove slot).values ⊆ list.values := by
  rw [values, nodes_remove]
  exact (List.filter_sublist.map _).subset

theorem Valid.remove {list : NodeList α} (valid : list.Valid) {slot : Nat}
    (used : slot ∈ list.slots) : (list.remove slot).Valid := by
  constructor
  have erased : (list.remove slot).slots = list.slots.erase slot := by
    rw [slots_remove, valid.slots_nodup.erase_eq_filter]
  have moved : (list.slots.erase slot ++ slot :: list.free).Perm (list.slots ++ list.free) :=
    List.perm_middle.trans ((List.perm_cons_erase used).symm.append_right list.free)
  rw [erased, capacity_remove]
  exact moved.trans valid.partition

theorem Valid.modify {list : NodeList α} (valid : list.Valid) (slot : Nat) (change : α → α) :
    (list.modify slot change).Valid :=
  ⟨by simpa [NodeList.modify] using slots_modify list slot change ▸ valid.partition⟩

theorem Valid.mapValues {list : NodeList α} (valid : list.Valid) (change : α → α) :
    (list.mapValues change).Valid :=
  ⟨by simpa [NodeList.mapValues] using slots_mapValues list change ▸ valid.partition⟩

/-- Only the slots and the capacity matter to validity. -/
theorem Valid.of_slots_eq {before after : NodeList α} (valid : before.Valid)
    (slots : after.slots = before.slots) (free : after.free = before.free)
    (capacity : after.capacity = before.capacity) : after.Valid :=
  ⟨by rw [slots, free, capacity]; exact valid.partition⟩

theorem get?_eq_some_of_mem {list : NodeList α} (valid : list.Valid) {slot : Nat} {value : α}
    (member : (slot, value) ∈ list.nodes) : list.get? slot = some value := by
  have unique := valid.slots_nodup
  unfold get? slots at *
  generalize list.nodes = nodes at member unique
  induction nodes with
  | nil => simp at member
  | cons node rest ih =>
      simp only [List.map_cons, List.nodup_cons] at unique
      rcases List.mem_cons.mp member with rfl | later
      · simp
      · have different : node.1 ≠ slot := by
          rintro rfl
          exact unique.1 (List.mem_map.mpr ⟨_, later, rfl⟩)
        simpa [different] using ih later unique.2

theorem mem_of_get?_eq_some {list : NodeList α} {slot : Nat} {value : α}
    (found : list.get? slot = some value) : (slot, value) ∈ list.nodes := by
  simp only [get?, Option.map_eq_some_iff] at found
  obtain ⟨node, first, rfl⟩ := found
  have member := List.mem_of_find?_eq_some first
  have same : node.1 = slot := by simpa using List.find?_some first
  rw [← same]
  exact member

theorem get?_modify (list : NodeList α) (slot other : Nat) (change : α → α) :
    (list.modify slot change).get? other =
      (list.get? other).map fun value => if other = slot then change value else value := by
  have found : (fun node : Nat × α => node.1 == other) ∘
      (fun node => if node.1 = slot then (node.1, change node.2) else node) =
      fun node => node.1 == other := by
    funext node
    by_cases hit : node.1 = slot <;> simp [hit]
  rw [get?, get?, nodes_modify, List.find?_map, found, Option.map_map, Option.map_map]
  refine Option.map_congr fun node member => ?_
  have same : node.1 = other := by simpa using List.find?_some member
  rw [← same]
  by_cases hit : node.1 = slot <;> simp [hit]

theorem modify_eq_self_of_not_mem {nodes : List (Nat × α)} {slot : Nat} (change : α → α)
    (unused : slot ∉ nodes.map (·.1)) :
    nodes.map (fun node => if node.1 = slot then (node.1, change node.2) else node) = nodes := by
  have kept : ∀ node ∈ nodes,
      (if node.1 = slot then (node.1, change node.2) else node) = id node := by
    intro node found
    rw [if_neg fun same => unused (List.mem_map.mpr ⟨node, found, same⟩), id]
  rw [List.map_congr_left kept, List.map_id]

theorem filter_eq_self_of_not_mem {nodes : List (Nat × α)} {slot : Nat}
    (unused : slot ∉ nodes.map (·.1)) : nodes.filter (fun node => node.1 != slot) = nodes := by
  refine List.filter_eq_self.mpr fun node found => bne_iff_ne.mpr fun same => ?_
  exact unused (List.mem_map.mpr ⟨node, found, same⟩)

section split

variable {list : NodeList α} {before after : List (Nat × α)} {slot : Nat} {value : α}

theorem Valid.not_mem_of_split (valid : list.Valid)
    (split : list.nodes = before ++ (slot, value) :: after) :
    slot ∉ before.map (·.1) ∧ slot ∉ after.map (·.1) := by
  have unique := valid.slots_nodup
  simp only [slots, split, List.map_append, List.map_cons, List.nodup_append,
    List.nodup_cons] at unique
  obtain ⟨_, ⟨freshAfter, _⟩, freshBefore⟩ := unique
  exact ⟨fun member => freshBefore slot member slot List.mem_cons_self rfl, freshAfter⟩

theorem Valid.nodes_modify_split (valid : list.Valid)
    (split : list.nodes = before ++ (slot, value) :: after) (change : α → α) :
    (list.modify slot change).nodes = before ++ (slot, change value) :: after := by
  obtain ⟨freshBefore, freshAfter⟩ := valid.not_mem_of_split split
  rw [nodes_modify, split, List.map_append, List.map_cons,
    modify_eq_self_of_not_mem change freshBefore, modify_eq_self_of_not_mem change freshAfter,
    if_pos rfl]

theorem Valid.nodes_remove_split (valid : list.Valid)
    (split : list.nodes = before ++ (slot, value) :: after) :
    (list.remove slot).nodes = before ++ after := by
  obtain ⟨freshBefore, freshAfter⟩ := valid.not_mem_of_split split
  rw [nodes_remove, split, List.filter_append, List.filter_cons_of_neg (by simp),
    filter_eq_self_of_not_mem freshBefore, filter_eq_self_of_not_mem freshAfter]

end split

/-- The element in a slot and the others: what changing or dropping it does to the values. -/
theorem Valid.exists_others {list : NodeList α} (valid : list.Valid) {slot : Nat} {value : α}
    (member : (slot, value) ∈ list.nodes) :
    ∃ others : List α, list.values.Perm (value :: others) ∧
      (list.remove slot).values.Perm others ∧
      ∀ change : α → α, (list.modify slot change).values.Perm (change value :: others) := by
  obtain ⟨before, after, split⟩ := List.append_of_mem member
  refine ⟨before.map (·.2) ++ after.map (·.2), ?_, ?_, fun change => ?_⟩
  · rw [values, split, List.map_append, List.map_cons]
    exact List.perm_middle
  · rw [values, valid.nodes_remove_split split, List.map_append]
  · rw [values, valid.nodes_modify_split split, List.map_append, List.map_cons]
    exact List.perm_middle

/-- Changing the element that was just added changes the last element only. -/
theorem Valid.nodes_modify_added {list after : NodeList α} {value : α} {slot : Nat}
    (valid : list.Valid) (added : list.add value = some (slot, after)) (change : α → α) :
    (after.modify slot change).nodes = list.nodes ++ [(slot, change value)] :=
  (valid.add added).nodes_modify_split (add_eq_some added).2.2.1 change

end NodeList

end OpenDnp3.Library
