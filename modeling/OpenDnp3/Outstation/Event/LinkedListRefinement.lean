import OpenDnp3.Outstation.Event.LinkedListLinks

/-!
# Linked lists refine bounded sequences

Every call on a list returns what the same call on a sequence of at most `capacity`
elements returns, and leaves the list with the elements that the sequence is left with.
-/

set_option autoImplicit false

namespace OpenDnp3.Outstation

open OpenDnp3.Library

variable {α σ β : Type}

/-! ## Bounded sequences -/

namespace BoundedSequence

/-- The node an iterator in front of some elements stands at. -/
def front (nodes : List (Nat × α)) : Option Nat := (nodes.map (·.1)).head?

@[simp] theorem front_nil : front ([] : List (Nat × α)) = none := rfl

@[simp] theorem front_cons (node : Nat × α) (nodes : List (Nat × α)) :
    front (node :: nodes) = some node.1 := rfl

/-- Visit the elements in order, up to the first one that `stop` accepts. -/
def visitUntil (stop : Visitor α σ Bool) : List (Nat × α) → σ → Option Nat × List (Nat × α) × σ
  | [], world => (none, [], world)
  | (node, value) :: rest, world =>
      match stop value world with
      | (true, value, world) => (some node, (node, value) :: rest, world)
      | (false, value, world) =>
          let (found, rest, world) := visitUntil stop rest world
          (found, (node, value) :: rest, world)

/-- Visit every element in order and drop those that `isMatch` accepts. -/
def sweep (isMatch : Visitor α σ Bool) : List (Nat × α) → σ → List Nat × List (Nat × α) × σ
  | [], world => ([], [], world)
  | (node, value) :: rest, world =>
      match isMatch value world with
      | (true, _, world) =>
          let (dropped, rest, world) := sweep isMatch rest world
          (node :: dropped, rest, world)
      | (false, value, world) =>
          let (dropped, rest, world) := sweep isMatch rest world
          (dropped, (node, value) :: rest, world)

/-- A predicate that neither changes values nor anything else. -/
def testing (accepts : α → Bool) : Visitor α σ Bool :=
  fun value world => (accepts value, value, world)

/-- Stop where the other visitor goes on. -/
def negate (select : Visitor α σ Bool) : Visitor α σ Bool :=
  fun value world => (!(select value world).1, (select value world).2)

theorem sweep_testing (accepts : α → Bool) (nodes : List (Nat × α)) (world : σ) :
    sweep (testing accepts) nodes world =
      ((nodes.filter fun node => accepts node.2).map (·.1),
        nodes.filter fun node => !accepts node.2, world) := by
  induction nodes with
  | nil => rfl
  | cons node nodes ih =>
      obtain ⟨node, value⟩ := node
      cases holds : accepts value <;> simp [sweep, testing, holds, ih]

theorem length_sweep (isMatch : Visitor α σ Bool) (nodes : List (Nat × α)) (world : σ) :
    (sweep isMatch nodes world).1.length + (sweep isMatch nodes world).2.1.length =
      nodes.length := by
  induction nodes generalizing world with
  | nil => rfl
  | cons node nodes ih =>
      obtain ⟨node, value⟩ := node
      rcases answer : isMatch value world with ⟨matched, changed, left⟩
      have others := ih left
      rcases swept : sweep isMatch nodes left with ⟨dropped, kept, last⟩
      rw [swept] at others
      cases matched with
      | true =>
          simp only [sweep, answer, swept, List.length_cons] at others ⊢
          omega
      | false =>
          simp only [sweep, answer, swept, List.length_cons] at others ⊢
          omega

/-- What a call does to the elements, kept by a pool that says which nodes they occupy. A node
that holds no element cannot be removed. -/
def call (sequence : NodeList α) (world : σ) :
    LinkedList.Operation α σ → Option ((NodeList α × σ) × LinkedList.Answer α)
  | .add value =>
      match sequence.add value with
      | none => some ((sequence, world), .node none)
      | some (node, sequence) => some ((sequence, world), .node (some node))
  | .remove node =>
      if node ∈ sequence.slots then some ((sequence.remove node, world), .void) else none
  | .removeAll isMatch =>
      let (dropped, nodes, world) := sweep isMatch sequence.nodes world
      some (({ sequence with nodes, free := dropped.reverse ++ sequence.free }, world),
        .count dropped.length)
  | .foreach action =>
      let (_, nodes, world) :=
        visitUntil (fun value world => (false, (action value world).2)) sequence.nodes world
      some (({ sequence with nodes }, world), .void)
  | .foreachWhile select =>
      let (_, nodes, world) := visitUntil (negate select) sequence.nodes world
      some (({ sequence with nodes }, world), .void)
  | .find isMatch =>
      let (found, nodes, world) := visitUntil isMatch sequence.nodes world
      some (({ sequence with nodes }, world), .node found)
  | .iterate => some ((sequence, world), .nodes sequence.nodes)
  | .size => some ((sequence, world), .count sequence.size)
  | .isFullAndCapacityNotZero =>
      some ((sequence, world), .flag (sequence.isFull && decide (0 < sequence.capacity)))

def machine : Machine (NodeList α × σ) (LinkedList.Operation α σ) (LinkedList.Answer α) where
  step := fun (sequence, world) operation => call sequence world operation

end BoundedSequence

namespace LinkedList

open BoundedSequence

variable {list : LinkedList α} {sequence : NodeList α}

namespace Represents

section loops

variable {before rest : List (Nat × α)}

/-- `Iterator::Next` passes the node the iterator stands at. -/
theorem next_at (represents : list.Represents sequence)
    (split : sequence.nodes = before ++ rest) :
    Iterator.next ⟨front rest⟩ list =
      (front rest, ⟨front rest.tail⟩) := by
  cases rest with
  | nil => rfl
  | cons node rest =>
      have behind : list.next node.1 = front rest := represents.next_eq split
      simp only [Iterator.next, front_cons, List.tail_cons, behind]

theorem visit (represents : list.Represents sequence) {node : Nat} {value : α}
    (split : sequence.nodes = before ++ (node, value) :: rest) (visitor : Visitor α σ β)
    (world : σ) :
    list.visit node visitor world = ((visitor value world).1,
      list.setValue node (visitor value world).2.1, (visitor value world).2.2) := by
  have held : list.value node = value :=
    represents.values (node, value) (split ▸ List.mem_append_right _ List.mem_cons_self)
  rw [LinkedList.visit, held]

theorem foreachWhileFrom (select : Visitor α σ Bool) :
    ∀ {rest before : List (Nat × α)} {list : LinkedList α} {sequence : NodeList α} {fuel : Nat}
      (world : σ), list.Represents sequence → sequence.nodes = before ++ rest →
      rest.length < fuel →
      ∃ after, LinkedList.foreachWhileFrom select fuel list ⟨front rest⟩ true world =
          some (after, (visitUntil (negate select) rest world).2.2) ∧
        after.Represents
          { sequence with nodes := before ++ (visitUntil (negate select) rest world).2.1 } := by
  intro rest
  induction rest with
  | nil =>
      intro before list sequence fuel world represents split enough
      cases fuel with
      | zero => cases enough
      | succ fuel =>
          refine ⟨list, rfl, ?_⟩
          simpa only [visitUntil, ← split] using represents
  | cons node rest ih =>
      intro before list sequence fuel world represents split enough
      obtain ⟨node, value⟩ := node
      cases fuel with
      | zero => cases enough
      | succ fuel =>
          have roomLeft : rest.length < fuel := Nat.lt_of_succ_lt_succ enough
          have advanced := represents.next_at split
          have visited := represents.visit split select world
          rcases answer : select value world with ⟨goesOn, changed, left⟩
          rw [answer] at visited
          have stays := represents.setValue split changed
          simp only [LinkedList.foreachWhileFrom, Iterator.hasNext, front_cons, List.tail_cons,
            Option.isSome_some, Bool.and_self, if_true] at advanced ⊢
          rw [advanced]
          simp only [Option.bind_some, visited]
          cases goesOn with
          | true =>
              have apart : before ++ (node, changed) :: rest =
                  (before ++ [(node, changed)]) ++ rest := by simp
              obtain ⟨after, ran, final⟩ := ih left stays apart roomLeft
              refine ⟨after, ?_, ?_⟩
              · simpa [visitUntil, negate, answer] using ran
              · simpa [visitUntil, negate, answer] using final
          | false =>
              refine ⟨list.setValue node changed, ?_, ?_⟩
              · cases fuel with
                | zero => cases roomLeft
                | succ fuel => simp [LinkedList.foreachWhileFrom, visitUntil, negate, answer]
              · simpa [visitUntil, negate, answer] using stays

theorem find (isMatch : Visitor α σ Bool) :
    ∀ {rest before : List (Nat × α)} {list : LinkedList α} {sequence : NodeList α} {fuel : Nat}
      (world : σ), list.Represents sequence → sequence.nodes = before ++ rest →
      rest.length < fuel →
      ∃ after, Iterator.find isMatch fuel ⟨front rest⟩ list world =
          some (⟨(visitUntil isMatch rest world).1⟩, after,
            (visitUntil isMatch rest world).2.2) ∧
        after.Represents
          { sequence with nodes := before ++ (visitUntil isMatch rest world).2.1 } := by
  intro rest
  induction rest with
  | nil =>
      intro before list sequence fuel world represents split enough
      cases fuel with
      | zero => cases enough
      | succ fuel =>
          refine ⟨list, rfl, ?_⟩
          simpa only [visitUntil, ← split] using represents
  | cons node rest ih =>
      intro before list sequence fuel world represents split enough
      obtain ⟨node, value⟩ := node
      cases fuel with
      | zero => cases enough
      | succ fuel =>
          have visited := represents.visit split isMatch world
          rcases answer : isMatch value world with ⟨found, changed, left⟩
          rw [answer] at visited
          have stays := represents.setValue split changed
          have behind : (list.setValue node changed).next node = front rest := stays.next_eq rfl
          cases found with
          | true =>
              refine ⟨list.setValue node changed, ?_, ?_⟩
              · simp [Iterator.find, visitUntil, answer, visited]
              · simpa [visitUntil, answer] using stays
          | false =>
              have apart : before ++ (node, changed) :: rest =
                  (before ++ [(node, changed)]) ++ rest := by simp
              obtain ⟨after, ran, final⟩ := ih left stays apart (Nat.lt_of_succ_lt_succ enough)
              refine ⟨after, ?_, ?_⟩
              · simpa [Iterator.find, visitUntil, answer, visited, behind] using ran
              · simpa [visitUntil, answer] using final

theorem removeAllFrom (isMatch : Visitor α σ Bool) :
    ∀ {rest before : List (Nat × α)} {list : LinkedList α} {sequence : NodeList α} {fuel : Nat}
      (count : UInt32) (world : σ), list.Represents sequence → sequence.nodes = before ++ rest →
      rest.length < fuel →
      ∃ after, LinkedList.removeAllFrom isMatch fuel list (front rest)
          ⟨front rest.tail⟩ count world =
          some (count + UInt32.ofNat (sweep isMatch rest world).1.length, after,
            (sweep isMatch rest world).2.2) ∧
        after.Represents
          { sequence with
            nodes := before ++ (sweep isMatch rest world).2.1
            free := (sweep isMatch rest world).1.reverse ++ sequence.free } := by
  intro rest
  induction rest with
  | nil =>
      intro before list sequence fuel count world represents split enough
      cases fuel with
      | zero => cases enough
      | succ fuel =>
          refine ⟨list, ?_, ?_⟩
          · simp [LinkedList.removeAllFrom, sweep]
          · simpa [sweep, ← split] using represents
  | cons node rest ih =>
      intro before list sequence fuel count world represents split enough
      obtain ⟨node, value⟩ := node
      cases fuel with
      | zero => cases enough
      | succ fuel =>
          have roomLeft : rest.length < fuel := Nat.lt_of_succ_lt_succ enough
          have visited := represents.visit split isMatch world
          rcases answer : isMatch value world with ⟨matched, changed, left⟩
          rw [answer] at visited
          have stays := represents.setValue split changed
          have apart : before ++ (node, changed) :: rest =
              (before ++ [(node, changed)]) ++ rest := by simp
          have advanced := stays.next_at apart
          cases matched with
          | true =>
              have removed := stays.remove rfl
              have remains := stays.valid.nodes_remove_split rfl
              obtain ⟨after, ran, final⟩ := ih (count + 1) left removed remains roomLeft
              refine ⟨after, ?_, ?_⟩
              · simpa [LinkedList.removeAllFrom, sweep, answer, visited, advanced,
                  UInt32.add_assoc, UInt32.add_comm 1] using ran
              · simpa [sweep, answer, NodeList.remove] using final
          | false =>
              obtain ⟨after, ran, final⟩ := ih count left stays apart roomLeft
              refine ⟨after, ?_, ?_⟩
              · simpa [LinkedList.removeAllFrom, sweep, answer, visited, advanced] using ran
              · simpa [sweep, answer] using final

theorem passed (represents : list.Represents sequence) :
    ∀ {rest before : List (Nat × α)} {fuel : Nat}, sequence.nodes = before ++ rest →
      rest.length < fuel →
      Iterator.passed list fuel ⟨front rest⟩ = some rest := by
  intro rest
  induction rest with
  | nil =>
      intro before fuel split enough
      cases fuel with
      | zero => cases enough
      | succ fuel => rfl
  | cons node rest ih =>
      intro before fuel split enough
      obtain ⟨node, value⟩ := node
      cases fuel with
      | zero => cases enough
      | succ fuel =>
          have apart : sequence.nodes = (before ++ [(node, value)]) ++ rest := by simp [split]
          have held : list.value node = value :=
            represents.values (node, value) (split ▸ List.mem_append_right _ List.mem_cons_self)
          have advanced := represents.next_at split
          have others := ih apart (Nat.lt_of_succ_lt_succ enough)
          rw [front_cons, List.tail_cons] at advanced
          simp [Iterator.passed, Iterator.hasNext, advanced, others, held]

end loops

theorem split_of_mem_slots {node : Nat} (used : node ∈ sequence.slots) :
    ∃ before value behind, sequence.nodes = before ++ (node, value) :: behind := by
  obtain ⟨⟨_, value⟩, member, rfl⟩ := List.mem_map.mp used
  obtain ⟨before, behind, split⟩ := List.append_of_mem member
  exact ⟨before, value, behind, split⟩

theorem isFullAndCapacityNotZero (represents : list.Represents sequence) :
    list.isFullAndCapacityNotZero = (sequence.isFull && decide (0 < sequence.capacity)) := by
  have positive : list.capacity > 0 ↔ 0 < sequence.capacity := by
    rw [represents.capacity]
    exact UInt32.lt_iff_toNat_lt
  rw [LinkedList.isFullAndCapacityNotZero, represents.free]
  cases free : sequence.free <;> simp [NodeList.isFull, free, positive]

variable {fuel : Nat}

theorem lt_fuel (represents : list.Represents sequence) (enough : sequence.capacity < fuel) :
    sequence.nodes.length < fuel :=
  Nat.lt_of_le_of_lt represents.valid.size_le enough

theorem removeAll (represents : list.Represents sequence) (enough : sequence.capacity < fuel)
    (isMatch : Visitor α σ Bool) (world : σ) :
    ∃ after, list.removeAll fuel isMatch world =
        some (UInt32.ofNat (sweep isMatch sequence.nodes world).1.length, after,
          (sweep isMatch sequence.nodes world).2.2) ∧
      after.Represents
        { sequence with
          nodes := (sweep isMatch sequence.nodes world).2.1
          free := (sweep isMatch sequence.nodes world).1.reverse ++ sequence.free } := by
  have whole : sequence.nodes = [] ++ sequence.nodes := rfl
  obtain ⟨after, ran, final⟩ :=
    removeAllFrom isMatch 0 world represents whole (represents.lt_fuel enough)
  refine ⟨after, ?_, final⟩
  have start : list.iterate = ⟨front sequence.nodes⟩ := congrArg Iterator.mk represents.head
  simpa [LinkedList.removeAll, start, represents.next_at whole] using ran

end Represents

theorem toNat_length_sweep (represents : list.Represents sequence) (isMatch : Visitor α σ Bool)
    (world : σ) :
    (UInt32.ofNat (sweep isMatch sequence.nodes world).1.length).toNat =
      (sweep isMatch sequence.nodes world).1.length := by
  have all := length_sweep isMatch sequence.nodes world
  have bounded := represents.size_le
  have bound := list.capacity.toNat_lt
  rw [NodeList.size] at bounded
  rw [UInt32.toNat_ofNat']
  exact Nat.mod_eq_of_lt (by omega)

/-- A list with enough fuel for its loops stands for a sequence. -/
structure Refines (fuel : Nat) (state : LinkedList α × σ) (other : NodeList α × σ) : Prop where
  represents : state.1.Represents other.1
  world : state.2 = other.2
  enough : other.1.capacity < fuel

theorem refinement (fuel : Nat) :
    Machine.Refinement (LinkedList.machine fuel) (BoundedSequence.machine (α := α) (σ := σ))
      (Refines fuel) := by
  constructor
  intro state other next operation answer refines called
  obtain ⟨list, world⟩ := state
  obtain ⟨sequence, _⟩ := other
  obtain ⟨represents, rfl, enough⟩ := refines
  have start : list.iterate = ⟨front sequence.nodes⟩ := congrArg Iterator.mk represents.head
  have within : sequence.nodes.length < fuel := represents.lt_fuel enough
  have whole : sequence.nodes = [] ++ sequence.nodes := rfl
  cases operation with
  | add value =>
      cases added : sequence.add value with
      | none =>
          simp only [BoundedSequence.machine, BoundedSequence.call, added] at called
          cases called
          exact ⟨_, by simp only [LinkedList.machine, call, represents.add_full added],
            represents, rfl, enough⟩
      | some result =>
          obtain ⟨node, after⟩ := result
          simp only [BoundedSequence.machine, BoundedSequence.call, added] at called
          cases called
          obtain ⟨returned, final⟩ := represents.add added
          refine ⟨((list.add value).2, world), ?_, final, rfl, ?_⟩
          · simp only [LinkedList.machine, call, returned]
          · rw [(NodeList.add_eq_some added).2.1]
            exact enough
  | remove node =>
      simp only [BoundedSequence.machine, BoundedSequence.call] at called
      split at called
      · rename_i used
        cases called
        obtain ⟨before, value, behind, split⟩ := Represents.split_of_mem_slots used
        exact ⟨_, rfl, represents.remove split, rfl, enough⟩
      · cases called
  | removeAll isMatch =>
      obtain ⟨after, ran, final⟩ := represents.removeAll enough isMatch world
      simp only [BoundedSequence.machine, BoundedSequence.call] at called
      cases called
      refine ⟨(after, _), ?_, final, rfl, enough⟩
      simp only [LinkedList.machine, call, ran, Option.map_some,
        toNat_length_sweep represents]
  | foreach action =>
      obtain ⟨after, ran, final⟩ := Represents.foreachWhileFrom
        (fun value world => (true, (action value world).2)) world represents whole within
      simp only [BoundedSequence.machine, BoundedSequence.call] at called
      cases called
      refine ⟨(after, _), ?_, final, rfl, enough⟩
      simp only [LinkedList.machine, call, foreach, foreachWhile, start, ran, Option.map_some]
      rfl
  | foreachWhile select =>
      obtain ⟨after, ran, final⟩ :=
        Represents.foreachWhileFrom select world represents whole within
      simp only [BoundedSequence.machine, BoundedSequence.call] at called
      cases called
      refine ⟨(after, _), ?_, final, rfl, enough⟩
      simp only [LinkedList.machine, call, foreachWhile, start, ran, Option.map_some]
  | find isMatch =>
      obtain ⟨after, ran, final⟩ := Represents.find isMatch world represents whole within
      simp only [BoundedSequence.machine, BoundedSequence.call] at called
      cases called
      refine ⟨(after, _), ?_, final, rfl, enough⟩
      simp only [LinkedList.machine, call, start, ran, Option.map_some]
  | iterate =>
      have passed := represents.passed whole within
      simp only [BoundedSequence.machine, BoundedSequence.call] at called
      cases called
      refine ⟨(list, world), ?_, represents, rfl, enough⟩
      simp only [LinkedList.machine, call, start, passed, Option.map_some]
  | size =>
      simp only [BoundedSequence.machine, BoundedSequence.call] at called
      cases called
      refine ⟨(list, world), ?_, represents, rfl, enough⟩
      simp only [LinkedList.machine, call, represents.size]
  | isFullAndCapacityNotZero =>
      simp only [BoundedSequence.machine, BoundedSequence.call] at called
      cases called
      refine ⟨(list, world), ?_, represents, rfl, enough⟩
      simp only [LinkedList.machine, call, represents.isFullAndCapacityNotZero]

/-- What the next call on a list does, in terms of the elements it holds. -/
structure BehavesAs (fuel : Nat) (list : LinkedList α) (sequence : NodeList α) : Prop where
  size_le : sequence.nodes.length ≤ list.capacity.toNat
  size : list.size.toNat = sequence.nodes.length
  add_null : ∀ value, (list.add value).1 = none ↔ list.size = list.capacity
  add : ∀ value node, (list.add value).1 = some node →
    ∃ after, (list.add value).2.Represents after ∧
      after.nodes = sequence.nodes ++ [(node, value)]
  remove : ∀ before node value behind, sequence.nodes = before ++ (node, value) :: behind →
    ∃ after, (list.remove node).Represents after ∧ after.nodes = before ++ behind
  removeAll : ∀ (accepts : α → Bool), ∃ next after,
    list.removeAll fuel (testing accepts) () =
      some (UInt32.ofNat (sequence.nodes.countP fun node => accepts node.2), next, ()) ∧
    next.Represents after ∧ after.nodes = sequence.nodes.filter fun node => !accepts node.2
  iterate : list.iterate.passed list fuel = some sequence.nodes
  partition : (sequence.slots ++ sequence.free).Perm (List.range list.capacity.toNat)

theorem Represents.behavesAs {fuel : Nat} (represents : list.Represents sequence)
    (enough : sequence.capacity < fuel) : list.BehavesAs fuel sequence := by
  have full : ∀ value, sequence.add value = none ↔ list.size = list.capacity := by
    intro value
    rw [← UInt32.toNat_inj, represents.size, ← represents.free_eq_none, represents.free]
    unfold NodeList.add
    cases sequence.free <;> simp
  refine ⟨represents.size_le, represents.size, ?_, ?_, ?_, ?_, ?_, ?_⟩
  · intro value
    rw [← full value]
    cases added : sequence.add value with
    | none => simp [represents.add_full added]
    | some result => simp [(represents.add added).1]
  · intro value node returned
    cases added : sequence.add value with
    | none => simp [represents.add_full added] at returned
    | some result =>
        obtain ⟨slot, after⟩ := result
        obtain ⟨slotReturned, final⟩ := represents.add added
        rw [slotReturned] at returned
        cases returned
        exact ⟨after, final, (NodeList.add_eq_some added).2.2.1⟩
  · intro before node value behind split
    exact ⟨_, represents.remove split, represents.valid.nodes_remove_split split⟩
  · intro accepts
    obtain ⟨next, ran, final⟩ := represents.removeAll enough (testing accepts) ()
    rw [sweep_testing] at ran final
    refine ⟨next, _, ?_, final, rfl⟩
    rw [ran, List.length_map, List.countP_eq_length_filter]
  · have start : list.iterate = ⟨front sequence.nodes⟩ := congrArg Iterator.mk represents.head
    have whole : sequence.nodes = [] ++ sequence.nodes := rfl
    rw [start]
    exact represents.passed whole (represents.lt_fuel enough)
  · rw [← represents.capacity]
    exact represents.valid.partition

/-- Any calls on a list of any capacity return what they return on a sequence, provided that only
nodes which hold an element are removed. The list is left with the links and the behavior of
the sequence that is left. -/
theorem behavesAs_of_run [Inhabited α] (maxSize : UInt32) {fuel : Nat}
    (enough : maxSize.toNat < fuel) (world : σ) (operations : List (Operation α σ))
    {sequence : NodeList α} {last : σ} {answers : List (Answer α)}
    (ran : BoundedSequence.machine.run (NodeList.empty maxSize.toNat, world) operations =
      some ((sequence, last), answers)) :
    ∃ list, (machine fuel).run (new maxSize, world) operations =
        some ((list, last), answers) ∧
      list.Represents sequence ∧ list.BehavesAs fuel sequence := by
  have start : Refines fuel ((new maxSize : LinkedList α), world)
      (NodeList.empty maxSize.toNat, world) := ⟨represents_new maxSize, rfl, enough⟩
  obtain ⟨⟨list, _⟩, matched, represents, rfl, within⟩ := (refinement fuel).run start ran
  exact ⟨list, matched, represents, represents.behavesAs within⟩

/-- Two nodes: a third value finds no room, even values go, and their node is used again. -/
theorem behavesAs_twoNodes :
    ∃ list, (machine 3).run ((new 2 : LinkedList Nat), ())
        [.add 4, .add 5, .add 6, .removeAll (testing fun value => value % 2 == 0), .add 7, .remove 1,
          .iterate] =
        some ((list, ()), [.node (some 0), .node (some 1), .node none, .count 1, .node (some 0),
          .void, .nodes [(0, 7)]]) ∧
      list.Represents ⟨2, [(0, 7)], [1]⟩ ∧ list.BehavesAs 3 ⟨2, [(0, 7)], [1]⟩ :=
  behavesAs_of_run 2 (by decide) () _ (by decide +kernel)

end LinkedList

end OpenDnp3.Outstation
