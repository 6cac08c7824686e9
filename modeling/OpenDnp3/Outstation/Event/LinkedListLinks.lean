import OpenDnp3.Library.Chains
import OpenDnp3.Library.NodeList
import OpenDnp3.Outstation.Event.LinkedList

/-!
# The links of a linked list

The chain of elements holds the elements of a sequence in their order, linked both ways.
The chain of unused nodes holds the rest of the array.
-/

set_option autoImplicit false

namespace OpenDnp3.Outstation

open OpenDnp3.Library

namespace LinkedList

variable {α σ β : Type} {list : LinkedList α} {sequence : NodeList α}

/-- Both chains of a list and what they hold. -/
structure Represents (list : LinkedList α) (sequence : NodeList α) : Prop where
  valid : sequence.Valid
  capacity : sequence.capacity = list.capacity.toNat
  size : list.size.toNat = sequence.size
  head : list.head = sequence.slots.head?
  tail : list.tail = sequence.slots.getLast?
  forward : Linked list.next sequence.slots
  backward : Linked list.prev sequence.slots.reverse
  values : ∀ node ∈ sequence.nodes, list.value node.1 = node.2
  free : list.free = sequence.free.head?
  spare : Linked list.next sequence.free

/-! ## Construction -/

theorem linked_range' {next : Nat → Option Nat} {start count : Nat}
    (links : ∀ node, start ≤ node → node + 1 < start + count → next node = some (node + 1))
    (last : ∀ node, node + 1 = start + count → next node = none) :
    Linked next (List.range' start count) := by
  induction count generalizing start with
  | zero => trivial
  | succ count ih =>
      rw [List.range'_succ]
      constructor
      · cases count with
        | zero => exact last start rfl
        | succ count =>
            rw [links start (Nat.le_refl start) (by omega), List.range'_succ]
            rfl
      · refine ih (fun node low high => links node (by omega) (by omega)) fun node same => ?_
        exact last node (by omega)

/-- What the loop of the constructor has linked after some of its rounds. -/
theorem next_linkAll (list : LinkedList α) (count node : Nat) :
    ((List.range' 1 count).foldl (fun list i => list.link (some (i - 1)) (some i)) list).next
      node = if node < count then some (node + 1) else list.next node := by
  induction count with
  | zero => simp
  | succ count ih =>
      rw [List.range'_1_concat, List.foldl_append, List.foldl_cons, List.foldl_nil, next_link, ih]
      by_cases here : node = count
      · simp [here, Nat.add_comm]
      · by_cases before : node < count
        · simp [Ne.symm here, before, Nat.lt_succ_of_lt before]
        · have behind : ¬ node < count + 1 := by omega
          simp [Ne.symm here, before, behind]

theorem unlinked_linkAll (list : LinkedList α) (count : Nat) :
    let linked := (List.range' 1 count).foldl
      (fun list i => list.link (some (i - 1)) (some i)) list
    linked.head = list.head ∧ linked.tail = list.tail ∧ linked.free = list.free ∧
      linked.size = list.size ∧ linked.capacity = list.capacity := by
  induction count with
  | zero => simp
  | succ count ih =>
      rw [List.range'_1_concat, List.foldl_append, List.foldl_cons, List.foldl_nil]
      simpa using ih

theorem represents_new [Inhabited α] (maxSize : UInt32) :
    (new maxSize : LinkedList α).Represents (NodeList.empty maxSize.toNat) := by
  unfold new initializeNodes
  split
  · rename_i none
    cases none
    exact ⟨NodeList.valid_empty _, rfl, rfl, rfl, rfl, trivial, trivial, by simp, rfl, trivial⟩
  · rename_i holds
    have positive : 0 < maxSize.toNat := by
      refine Nat.pos_of_ne_zero fun zero => holds ?_
      exact UInt32.toNat_inj.mp zero
    obtain ⟨head, tail, free, size, capacity⟩ := unlinked_linkAll
      ({ capacity := maxSize, underlying := fun _ => { value := default }, free := some 0 } :
        LinkedList α) (maxSize.toNat - 1)
    refine ⟨NodeList.valid_empty _, congrArg UInt32.toNat capacity.symm,
      congrArg UInt32.toNat size, head, tail, trivial, trivial, by simp, ?_, ?_⟩
    · rw [free]
      simp [NodeList.empty, List.head?_range, Nat.ne_of_gt positive]
    · rw [NodeList.empty, List.range_eq_range']
      refine linked_range' (fun node _ high => ?_) fun node last => ?_
      · exact (next_linkAll _ (maxSize.toNat - 1) node).trans (if_pos (by omega))
      · exact (next_linkAll _ (maxSize.toNat - 1) node).trans (if_neg (by omega))

/-! ## Adding and removing -/

section insert

variable {node : Nat} (unused : list.free = some node) (value : α) (left : Option Nat)
  (other : Nat)

include unused

theorem fst_insert : (list.insert value left none).1 = some node := by
  simp only [insert, unused]

theorem next_insert : (list.insert value left none).2.next other =
    if other = node then none else if left = some other then some node else list.next other := by
  have linked : (list.insert value left none).2.next other =
      (((list.setValue node value).link left (some node)).link (some node) none).next other := by
    simp only [insert, unused]
    rfl
  rw [linked, next_link, next_link, next_setValue]
  simp only [Option.some.injEq, eq_comm]

theorem prev_insert : (list.insert value left none).2.prev other =
    if other = node then left else list.prev other := by
  have linked : (list.insert value left none).2.prev other =
      (((list.setValue node value).link left (some node)).link (some node) none).prev other := by
    simp only [insert, unused]
    rfl
  rw [linked, prev_link, prev_link, prev_setValue]
  simp only [Option.some.injEq, eq_comm, reduceCtorEq, if_false]

theorem value_insert : (list.insert value left none).2.value other =
    if other = node then value else list.value other := by
  have linked : (list.insert value left none).2.value other =
      (((list.setValue node value).link left (some node)).link (some node) none).value other := by
    simp only [insert, unused]
    rfl
  rw [linked, value_link, value_link, value_setValue]

theorem fields_insert :
    (list.insert value left none).2.head = (if left = none then some node else list.head) ∧
      (list.insert value left none).2.tail = some node ∧
      (list.insert value left none).2.free = list.next node ∧
      (list.insert value left none).2.size = list.size + 1 ∧
      (list.insert value left none).2.capacity = list.capacity := by
  simp [insert, unused, setValue]

end insert

section remove

variable (list) (node other : Nat)

theorem next_remove : (list.remove node).next other =
    if other = node then list.free
    else if list.prev node = some other then list.next node else list.next other := by
  have linked : (list.remove node).next other = (((list.link (list.prev node)
      (list.next node)).setPrev node none).link (some node) (list.link (list.prev node)
      (list.next node)).free).next other := rfl
  rw [linked, next_link, next_setPrev, next_link, free_link]
  simp only [Option.some.injEq, eq_comm]

theorem prev_remove : (list.remove node).prev other =
    if list.free = some other then some node
    else if other = node then none
    else if list.next node = some other then list.prev node else list.prev other := by
  have linked : (list.remove node).prev other = (((list.link (list.prev node)
      (list.next node)).setPrev node none).link (some node) (list.link (list.prev node)
      (list.next node)).free).prev other := rfl
  rw [linked, prev_link, prev_setPrev, prev_link, free_link]

theorem value_remove : (list.remove node).value other = list.value other := by
  have linked : (list.remove node).value other = (((list.link (list.prev node)
      (list.next node)).setPrev node none).link (some node) (list.link (list.prev node)
      (list.next node)).free).value other := rfl
  rw [linked, value_link, value_setPrev, value_link]

theorem fields_remove :
    (list.remove node).size = list.size - 1 ∧ (list.remove node).capacity = list.capacity := by
  simp [remove, setPrev]

end remove

namespace Represents

theorem size_le (represents : list.Represents sequence) : sequence.size ≤ list.capacity.toNat :=
  represents.capacity ▸ represents.valid.size_le

/-- Nothing is free exactly when the sequence is as long as the array. -/
theorem free_eq_none (represents : list.Represents sequence) :
    list.free = none ↔ sequence.size = list.capacity.toNat := by
  have room := represents.valid.size_add_free
  rw [represents.free, List.head?_eq_none_iff, ← represents.capacity,
    ← List.length_eq_zero_iff]
  omega

theorem size_lt (represents : list.Represents sequence) {node : Nat}
    (unused : node ∈ sequence.free) : sequence.size < list.capacity.toNat := by
  have room := represents.valid.size_add_free
  have := List.length_pos_of_mem unused
  rw [← represents.capacity]
  omega

theorem add (represents : list.Represents sequence) {value : α} {node : Nat}
    {after : NodeList α} (added : sequence.add value = some (node, after)) :
    (list.add value).1 = some node ∧ (list.add value).2.Represents after := by
  obtain ⟨member, kept, nodes, chain⟩ := NodeList.add_eq_some added
  have first : list.free = some node := by rw [represents.free, chain, List.head?_cons]
  have fresh : node ∉ sequence.slots := represents.valid.not_mem_slots_of_free member
  have slots : after.slots = sequence.slots ++ [node] := by simp [NodeList.slots, nodes]
  have valid := represents.valid.add added
  have room := represents.size_lt member
  have bound := list.capacity.toNat_lt
  have spare := represents.spare
  rw [chain] at spare
  have distinct : ∀ other ∈ after.free, other ≠ node ∧ list.tail ≠ some other := by
    intro other free
    have unused : other ∉ sequence.slots :=
      represents.valid.not_mem_slots_of_free (chain ▸ List.mem_cons_of_mem node free)
    constructor
    · rintro rfl
      exact valid.not_mem_slots_of_free free (by simp [slots])
    · intro last
      rw [represents.tail] at last
      exact unused (List.mem_of_getLast? last)
  obtain ⟨head, tail, free, size, capacity⟩ := fields_insert first value list.tail
  refine ⟨fst_insert first value list.tail, valid, ?_, ?_, ?_, ?_, ?_, ?_, ?_, ?_, ?_⟩
  · rw [kept, represents.capacity]
    exact congrArg UInt32.toNat capacity.symm
  · have one : (1 : UInt32).toNat = 1 := rfl
    rw [LinkedList.add, size, UInt32.toNat_add, represents.size, one,
      Nat.mod_eq_of_lt (by omega), NodeList.size, NodeList.size, nodes, List.length_append]
    rfl
  · rw [LinkedList.add, head, slots, represents.head, represents.tail]
    cases sequence.slots <;> simp
  · rw [LinkedList.add, tail, slots, List.getLast?_concat]
  · rw [slots]
    refine represents.forward.append_one (slots ▸ valid.slots_nodup) ?_ fun other used => ?_
    · rw [LinkedList.add, next_insert first, if_pos rfl]
    · have different : other ≠ node := by
        rintro rfl
        exact fresh used
      rw [LinkedList.add, next_insert first, if_neg different, represents.tail]
  · rw [slots, List.reverse_append, List.reverse_singleton, List.singleton_append]
    refine ⟨?_, represents.backward.congr fun other used => ?_⟩
    · rw [LinkedList.add, prev_insert first, if_pos rfl, represents.tail, List.head?_reverse]
    · have different : other ≠ node := by
        rintro rfl
        exact fresh (List.mem_reverse.mp used)
      rw [LinkedList.add, prev_insert first, if_neg different]
  · intro held used
    rw [LinkedList.add, value_insert first]
    rw [nodes] at used
    rcases List.mem_append.mp used with before | last
    · have different : held.1 ≠ node := by
        intro same
        exact fresh (same ▸ List.mem_map_of_mem before)
      rw [if_neg different, represents.values held before]
    · rw [List.mem_singleton.mp last, if_pos rfl]
  · rw [LinkedList.add, free]
    exact spare.1
  · refine spare.2.congr fun other unused => ?_
    obtain ⟨different, notLast⟩ := distinct other unused
    rw [LinkedList.add, next_insert first, if_neg different, if_neg notLast]

theorem add_full (represents : list.Represents sequence) {value : α}
    (full : sequence.add value = none) : list.add value = (none, list) := by
  have nothing : list.free = none := by
    rw [represents.free]
    unfold NodeList.add at full
    cases chain : sequence.free with
    | nil => rfl
    | cons node free => simp [chain] at full
  simp only [LinkedList.add, insert, nothing]

section split

variable {before behind : List (Nat × α)} {node : Nat} {held : α}

theorem slots_split (split : sequence.nodes = before ++ (node, held) :: behind) :
    sequence.slots = before.map (·.1) ++ node :: behind.map (·.1) := by
  rw [NodeList.slots, split, List.map_append, List.map_cons]

theorem reverse_slots_split (split : sequence.nodes = before ++ (node, held) :: behind) :
    sequence.slots.reverse =
      (behind.map (·.1)).reverse ++ node :: (before.map (·.1)).reverse := by
  rw [slots_split split, List.reverse_append, List.reverse_cons, List.append_assoc,
    List.singleton_append]

theorem next_eq (represents : list.Represents sequence)
    (split : sequence.nodes = before ++ (node, held) :: behind) :
    list.next node = (behind.map (·.1)).head? :=
  Linked.link_eq (slots_split split ▸ represents.forward)

theorem prev_eq (represents : list.Represents sequence)
    (split : sequence.nodes = before ++ (node, held) :: behind) :
    list.prev node = (before.map (·.1)).getLast? := by
  have backward := represents.backward
  rw [reverse_slots_split split] at backward
  rw [backward.link_eq, List.head?_reverse]

theorem not_mem_split (represents : list.Represents sequence)
    (split : sequence.nodes = before ++ (node, held) :: behind) :
    node ∉ before.map (·.1) ++ behind.map (·.1) := by
  have unique := represents.valid.slots_nodup
  rw [slots_split split] at unique
  exact (List.nodup_cons.mp (List.nodup_middle.mp unique)).1

theorem head_remove (represents : list.Represents sequence)
    (split : sequence.nodes = before ++ (node, held) :: behind) :
    (list.remove node).head = (before.map (·.1) ++ behind.map (·.1)).head? := by
  have head := represents.head
  have fresh := represents.not_mem_split split
  rw [slots_split split] at head
  cases before with
  | nil => simp [LinkedList.remove, head, represents.next_eq split]
  | cons first before =>
      have different : first.1 ≠ node := by
        intro same
        exact fresh (same ▸ List.mem_cons_self)
      simp [LinkedList.remove, head, different]

theorem tail_remove (represents : list.Represents sequence)
    (split : sequence.nodes = before ++ (node, held) :: behind) :
    (list.remove node).tail = (before.map (·.1) ++ behind.map (·.1)).getLast? := by
  have tail := represents.tail
  have fresh := represents.not_mem_split split
  rw [slots_split split] at tail
  cases lastOf : (behind.map (·.1)).getLast? with
  | none =>
      rw [List.getLast?_eq_none_iff] at lastOf
      rw [lastOf] at tail ⊢
      simp [LinkedList.remove, tail, represents.prev_eq split]
  | some last =>
      have different : last ≠ node := by
        rintro rfl
        exact fresh (List.mem_append_right _ (List.mem_of_getLast? lastOf))
      simp [LinkedList.remove, tail, List.getLast?_cons, lastOf, different]

/-- Removing a node joins the nodes on both sides, and makes it the first unused one. -/
theorem remove (represents : list.Represents sequence)
    (split : sequence.nodes = before ++ (node, held) :: behind) :
    (list.remove node).Represents (sequence.remove node) := by
  have slots := slots_split split
  have next := represents.next_eq split
  have prev := represents.prev_eq split
  have used : node ∈ sequence.slots := slots ▸ List.mem_append_right _ List.mem_cons_self
  have valid := represents.valid.remove used
  have left : (sequence.remove node).nodes = before ++ behind :=
    represents.valid.nodes_remove_split split
  have leftSlots : (sequence.remove node).slots = before.map (·.1) ++ behind.map (·.1) := by
    rw [NodeList.slots, left, List.map_append]
  have unique := represents.valid.slots_nodup
  rw [slots] at unique
  have notSame : ∀ other ∈ (sequence.remove node).slots, other ≠ node := by
    intro other member
    rintro rfl
    exact represents.not_mem_split split (leftSlots ▸ member)
  have notFree : ∀ other ∈ sequence.slots, list.free ≠ some other := by
    intro other member first
    rw [represents.free] at first
    exact represents.valid.not_mem_slots_of_free (List.mem_of_head? first) member
  obtain ⟨size, capacity⟩ := fields_remove list node
  refine ⟨valid, ?_, ?_, ?_, ?_, ?_, ?_, ?_, ?_, ?_⟩
  · rw [capacity]
    exact represents.capacity
  · have one : (1 : UInt32) ≤ list.size := by
      rw [UInt32.le_iff_toNat_le, represents.size, NodeList.size, split, List.length_append,
        List.length_cons]
      exact Nat.le_add_left 1 _
    rw [size, UInt32.toNat_sub_of_le _ _ one, represents.size, NodeList.size, NodeList.size, left,
      split, List.length_append, List.length_append, List.length_cons]
    rfl
  · rw [leftSlots]
    exact represents.head_remove split
  · rw [leftSlots]
    exact represents.tail_remove split
  · rw [leftSlots]
    refine Linked.bypass (slots ▸ represents.forward) unique fun other member => ?_
    rw [next_remove, if_neg (notSame other (leftSlots ▸ member)), prev, next]
  · rw [leftSlots, List.reverse_append]
    have backward := represents.backward
    rw [reverse_slots_split split] at backward
    refine Linked.bypass backward ?_ fun other member => ?_
    · rw [← reverse_slots_split split]
      exact List.nodup_reverse.mpr represents.valid.slots_nodup
    · have remains : other ∈ (sequence.remove node).slots := by
        rw [leftSlots]
        simpa [or_comm] using member
      have held : other ∈ sequence.slots := by
        rw [NodeList.slots_remove] at remains
        exact List.mem_of_mem_filter remains
      rw [prev_remove, if_neg (notFree other held), if_neg (notSame other remains), next, prev,
        List.getLast?_reverse, List.head?_reverse]
  · intro other member
    rw [value_remove]
    exact represents.values other (List.mem_of_mem_filter member)
  · rfl
  · refine ⟨?_, represents.spare.congr fun other free => ?_⟩
    · rw [next_remove, if_pos rfl, represents.free]
    · have unused : other ∉ sequence.slots := represents.valid.not_mem_slots_of_free free
      have different : other ≠ node := by
        rintro rfl
        exact unused used
      have notBefore : list.prev node ≠ some other := by
        rw [prev]
        intro last
        exact unused (slots ▸ List.mem_append_left _ (List.mem_of_getLast? last))
      rw [next_remove, if_neg different, if_neg notBefore]

/-- Assigning to the value of a node changes the element there. -/
theorem setValue (represents : list.Represents sequence)
    (split : sequence.nodes = before ++ (node, held) :: behind) (value : α) :
    (list.setValue node value).Represents
      { sequence with nodes := before ++ (node, value) :: behind } := by
  have slots : ({ sequence with nodes := before ++ (node, value) :: behind } :
      NodeList α).slots = sequence.slots := by
    rw [slots_split split, slots_split rfl]
  have size : ({ sequence with nodes := before ++ (node, value) :: behind } :
      NodeList α).size = sequence.size := by
    rw [NodeList.size, NodeList.size, split, List.length_append, List.length_append,
      List.length_cons, List.length_cons]
  refine ⟨represents.valid.of_slots_eq slots rfl rfl, represents.capacity,
    represents.size.trans size.symm, ?_, ?_, ?_, ?_, ?_, represents.free, ?_⟩
  · rw [slots]
    exact represents.head
  · rw [slots]
    exact represents.tail
  · rw [slots]
    exact represents.forward.congr fun other _ => next_setValue list node other value
  · rw [slots]
    exact represents.backward.congr fun other _ => prev_setValue list node other value
  · have fresh := represents.valid.not_mem_of_split split
    have values := represents.values
    rw [split] at values
    intro other member
    rw [value_setValue]
    rcases List.mem_append.mp member with front | back
    · rw [if_neg fun same : other.1 = node => fresh.1 (same ▸ List.mem_map_of_mem front)]
      exact values other (List.mem_append_left _ front)
    · rcases List.mem_cons.mp back with rfl | rest
      · exact if_pos rfl
      · rw [if_neg fun same : other.1 = node => fresh.2 (same ▸ List.mem_map_of_mem rest)]
        exact values other (List.mem_append_right _ (List.mem_cons_of_mem _ rest))
  · exact represents.spare.congr fun other _ => next_setValue list node other value

end split

end Represents

end LinkedList

end OpenDnp3.Outstation
