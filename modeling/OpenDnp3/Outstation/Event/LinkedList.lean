import Mathlib.Logic.Function.Basic
import OpenDnp3.Library.Machine

/-!
# Linked lists in an array

The container under the event storage. The nodes of an array form two chains, the
elements in order and the unused nodes. Node pointers are positions in the array.
-/

set_option autoImplicit false

namespace OpenDnp3.Outstation

open OpenDnp3.Library

/-- A value and the nodes on both sides. -/
structure Node (α : Type) where
  value : α
  prev : Option Nat := none
  next : Option Nat := none

/-- `List<T>`; positions from `capacity` on are outside the array. -/
structure LinkedList (α : Type) where
  capacity : UInt32
  underlying : Nat → Node α
  size : UInt32 := 0
  head : Option Nat := none
  tail : Option Nat := none
  free : Option Nat := none

/-- A function object called with a value, which it may change, and with whatever else
it reads and changes outside the list. -/
abbrev Visitor (α σ β : Type) := α → σ → β × α × σ

namespace LinkedList

variable {α σ β : Type}

def value (list : LinkedList α) (node : Nat) : α := (list.underlying node).value

def prev (list : LinkedList α) (node : Nat) : Option Nat := (list.underlying node).prev

def next (list : LinkedList α) (node : Nat) : Option Nat := (list.underlying node).next

/-! Assignments to a field of a node. -/

def setValue (list : LinkedList α) (node : Nat) (value : α) : LinkedList α :=
  { list with
    underlying := Function.update list.underlying node { list.underlying node with value } }

def setPrev (list : LinkedList α) (node : Nat) (prev : Option Nat) : LinkedList α :=
  { list with
    underlying := Function.update list.underlying node { list.underlying node with prev } }

def setNext (list : LinkedList α) (node : Nat) (next : Option Nat) : LinkedList α :=
  { list with
    underlying := Function.update list.underlying node { list.underlying node with next } }

section fields

variable (list : LinkedList α) (node other : Nat) (content : α) (pointer : Option Nat)

theorem value_setValue : (list.setValue node content).value other =
    if other = node then content else list.value other := by
  by_cases same : other = node <;> simp [value, setValue, same]

@[simp] theorem prev_setValue : (list.setValue node content).prev other = list.prev other := by
  by_cases same : other = node <;> simp [prev, setValue, same]

@[simp] theorem next_setValue : (list.setValue node content).next other = list.next other := by
  by_cases same : other = node <;> simp [next, setValue, same]

@[simp] theorem value_setPrev : (list.setPrev node pointer).value other = list.value other := by
  by_cases same : other = node <;> simp [value, setPrev, same]

theorem prev_setPrev : (list.setPrev node pointer).prev other =
    if other = node then pointer else list.prev other := by
  by_cases same : other = node <;> simp [prev, setPrev, same]

@[simp] theorem next_setPrev : (list.setPrev node pointer).next other = list.next other := by
  by_cases same : other = node <;> simp [next, setPrev, same]

@[simp] theorem value_setNext : (list.setNext node pointer).value other = list.value other := by
  by_cases same : other = node <;> simp [value, setNext, same]

@[simp] theorem prev_setNext : (list.setNext node pointer).prev other = list.prev other := by
  by_cases same : other = node <;> simp [prev, setNext, same]

theorem next_setNext : (list.setNext node pointer).next other =
    if other = node then pointer else list.next other := by
  by_cases same : other = node <;> simp [next, setNext, same]

end fields

def link (list : LinkedList α) (first second : Option Nat) : LinkedList α :=
  let list := match first with
    | some node => list.setNext node second
    | none => list
  match second with
  | some node => list.setPrev node first
  | none => list

section link

variable (list : LinkedList α) (first second : Option Nat) (other : Nat)

theorem next_link : (list.link first second).next other =
    if first = some other then second else list.next other := by
  cases first <;> cases second <;> simp [link, next_setNext, eq_comm]

theorem prev_link : (list.link first second).prev other =
    if second = some other then first else list.prev other := by
  cases first <;> cases second <;> simp [link, prev_setPrev, eq_comm]

@[simp] theorem value_link : (list.link first second).value other = list.value other := by
  cases first <;> cases second <;> simp [link]

@[simp] theorem head_link : (list.link first second).head = list.head := by
  cases first <;> cases second <;> rfl

@[simp] theorem tail_link : (list.link first second).tail = list.tail := by
  cases first <;> cases second <;> rfl

@[simp] theorem free_link : (list.link first second).free = list.free := by
  cases first <;> cases second <;> rfl

@[simp] theorem size_link : (list.link first second).size = list.size := by
  cases first <;> cases second <;> rfl

@[simp] theorem capacity_link : (list.link first second).capacity = list.capacity := by
  cases first <;> cases second <;> rfl

end link

def initializeNodes (list : LinkedList α) : LinkedList α :=
  if list.capacity = 0 then
    list
  else
    (List.range' 1 (list.capacity.toNat - 1)).foldl
      (fun list i => list.link (some (i - 1)) (some i)) { list with free := some 0 }

/-- The constructor. -/
def new [Inhabited α] (maxSize : UInt32) : LinkedList α :=
  initializeNodes { capacity := maxSize, underlying := fun _ => { value := default } }

def insert (list : LinkedList α) (value : α) (left right : Option Nat) :
    Option Nat × LinkedList α :=
  match list.free with
  | none => (none, list)
  | some newNode =>
      let free := list.next newNode
      let list := list.setValue newNode value
      let list := list.link left (some newNode)
      let list := list.link (some newNode) right
      (some newNode,
        { list with
          size := list.size + 1
          head := if left = none then some newNode else list.head
          tail := if right = none then some newNode else list.tail
          free })

def add (list : LinkedList α) (value : α) : Option Nat × LinkedList α :=
  list.insert value list.tail none

def remove (list : LinkedList α) (node : Nat) : LinkedList α :=
  let head := if list.head = some node then list.next node else list.head
  let tail := if list.tail = some node then list.tail.bind list.prev else list.tail
  let list := list.link (list.prev node) (list.next node)
  let list := list.setPrev node none
  let list := list.link (some node) list.free
  { list with size := list.size - 1, head, tail, free := some node }

def isFullAndCapacityNotZero (list : LinkedList α) : Bool :=
  list.free.isNone && decide (list.capacity > 0)

/-- `List<T>::Iterator` -/
structure Iterator where
  current : Option Nat
deriving DecidableEq, Repr

def iterate (list : LinkedList α) : Iterator := ⟨list.head⟩

namespace Iterator

def hasNext (iter : Iterator) : Bool := iter.current.isSome

def next (iter : Iterator) (list : LinkedList α) : Option Nat × Iterator :=
  match iter.current with
  | none => (none, iter)
  | some node => (some node, ⟨list.next node⟩)

end Iterator

/-- Call a function object with the value of a node. -/
def visit (list : LinkedList α) (node : Nat) (visitor : Visitor α σ β) (world : σ) :
    β × LinkedList α × σ :=
  let (answer, value, world) := visitor (list.value node) world
  (answer, list.setValue node value, world)

/-!
## Loops

A loop that has used up its fuel gives nothing, and neither does one that reads through a
null pointer.
-/

def foreachWhileFrom (select : Visitor α σ Bool) :
    Nat → LinkedList α → Iterator → Bool → σ → Option (LinkedList α × σ)
  | 0, _, _, _, _ => none
  | fuel + 1, list, iter, result, world =>
      if result && iter.hasNext then
        let (node, iter) := iter.next list
        node.bind fun node =>
          let (result, list, world) := list.visit node select world
          foreachWhileFrom select fuel list iter result world
      else
        some (list, world)

def foreachWhile (fuel : Nat) (list : LinkedList α) (select : Visitor α σ Bool) (world : σ) :
    Option (LinkedList α × σ) :=
  foreachWhileFrom select fuel list list.iterate true world

/-- The loop of `foreachWhile`, which nothing stops before the end. -/
def foreach (fuel : Nat) (list : LinkedList α) (action : Visitor α σ Unit) (world : σ) :
    Option (LinkedList α × σ) :=
  list.foreachWhile fuel (fun value world => (true, (action value world).2)) world

def removeAllFrom (isMatch : Visitor α σ Bool) :
    Nat → LinkedList α → Option Nat → Iterator → UInt32 → σ →
      Option (UInt32 × LinkedList α × σ)
  | 0, _, _, _, _, _ => none
  | _ + 1, list, none, _, count, world => some (count, list, world)
  | fuel + 1, list, some current, iter, count, world =>
      match list.visit current isMatch world with
      | (true, list, world) =>
          let removed := current
          let (current, iter) := iter.next list
          removeAllFrom isMatch fuel (list.remove removed) current iter (count + 1) world
      | (false, list, world) =>
          let (current, iter) := iter.next list
          removeAllFrom isMatch fuel list current iter count world

def removeAll (fuel : Nat) (list : LinkedList α) (isMatch : Visitor α σ Bool) (world : σ) :
    Option (UInt32 × LinkedList α × σ) :=
  let iter := list.iterate
  let (current, iter) := iter.next list
  removeAllFrom isMatch fuel list current iter 0 world

/-- `Iterator::Find`: the iterator stops at the value that is returned. -/
def Iterator.find (isMatch : Visitor α σ Bool) :
    Nat → Iterator → LinkedList α → σ → Option (Iterator × LinkedList α × σ)
  | 0, _, _, _ => none
  | fuel + 1, iter, list, world =>
      match iter.current with
      | none => some (iter, list, world)
      | some node =>
          let (found, list, world) := list.visit node isMatch world
          if found then
            some (iter, list, world)
          else
            find isMatch fuel ⟨list.next node⟩ list world

/-- The nodes, with their values, that `while (iter.HasNext()) iter.Next()` passes. -/
def Iterator.passed (list : LinkedList α) : Nat → Iterator → Option (List (Nat × α))
  | 0, _ => none
  | fuel + 1, iter =>
      if iter.hasNext then
        let (node, iter) := iter.next list
        node.bind fun node => (passed list fuel iter).map ((node, list.value node) :: ·)
      else
        some []

/-! ## Runs of calls -/

inductive Operation (α σ : Type) where
  | add (value : α)
  | remove (node : Nat)
  | removeAll (isMatch : Visitor α σ Bool)
  | foreach (action : Visitor α σ Unit)
  | foreachWhile (select : Visitor α σ Bool)
  | find (isMatch : Visitor α σ Bool)
  | iterate
  | size
  | isFullAndCapacityNotZero

/-- What a call returns; nodes stand for pointers to them. -/
inductive Answer (α : Type) where
  | void
  | node (node : Option Nat)
  | count (count : Nat)
  | flag (flag : Bool)
  | nodes (nodes : List (Nat × α))
deriving DecidableEq, Repr

/-- The list, and what the function objects share, after one call. -/
def call (fuel : Nat) (list : LinkedList α) (world : σ) :
    Operation α σ → Option ((LinkedList α × σ) × Answer α)
  | .add value =>
      let (node, list) := list.add value
      some ((list, world), .node node)
  | .remove node => some ((list.remove node, world), .void)
  | .removeAll isMatch =>
      (list.removeAll fuel isMatch world).map fun (count, list, world) =>
        ((list, world), .count count.toNat)
  | .foreach action => (list.foreach fuel action world).map fun after => (after, .void)
  | .foreachWhile select => (list.foreachWhile fuel select world).map fun after => (after, .void)
  | .find isMatch =>
      (list.iterate.find isMatch fuel list world).map fun (iter, list, world) =>
        ((list, world), .node iter.current)
  | .iterate =>
      (list.iterate.passed list fuel).map fun nodes => ((list, world), .nodes nodes)
  | .size => some ((list, world), .count list.size.toNat)
  | .isFullAndCapacityNotZero => some ((list, world), .flag list.isFullAndCapacityNotZero)

def machine (fuel : Nat) : Machine (LinkedList α × σ) (Operation α σ) (Answer α) where
  step := fun (list, world) operation => list.call fuel world operation

end LinkedList

end OpenDnp3.Outstation
