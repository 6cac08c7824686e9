import OpenDnp3.Outstation.Database.DatabaseMachine
import OpenDnp3.Outstation.Database.StaticLoading

/-!
# Loads of a database

What the fragments of a response say about the points that were selected for
it.
-/

set_option autoImplicit false

namespace OpenDnp3.Outstation

open OpenDnp3.App OpenDnp3.Library

variable {type : StaticType}

/-- The points that were selected before and are not any more. -/
def deselected (before after : List (Cell type)) : List (Cell type) :=
  (before.zip after).filterMap fun (old, new) =>
    if old.selection.selected && !new.selection.selected then some old else none

theorem deselected_append {before after more others : List (Cell type)}
    (length : before.length = after.length) :
    deselected (before ++ more) (after ++ others) =
      deselected before after ++ deselected more others := by
  rw [deselected, List.zip_append length, List.filterMap_append]
  rfl

theorem deselected_self (cells : List (Cell type)) : deselected cells cells = [] := by
  induction cells with
  | nil => rfl
  | cons cell cells ih =>
      rw [deselected, List.zip_cons_cons, List.filterMap_cons_none]
      · exact ih
      · simp

theorem deselected_map_deselect (cells : List (Cell type)) :
    deselected cells (cells.map Cell.deselect) = pending cells := by
  induction cells with
  | nil => rfl
  | cons cell cells ih =>
      rw [List.map_cons, deselected, List.zip_cons_cons, List.filterMap_cons]
      simp only [Cell.selected_deselect, Bool.not_false, Bool.and_true]
      by_cases selected : cell.selection.selected = true
      · rw [if_pos selected, pending_cons_selected selected]
        exact congrArg _ ih
      · rw [if_neg selected, pending_cons_unselected selected]
        exact ih

/-! ## Points of all types -/

theorem ends_of_ne_nil {cells : List (Cell type)} (nonempty : cells ≠ []) :
    ∃ first last, cells.head? = some first ∧ cells.getLast? = some last := by
  cases cells with
  | nil => exact absurd rfl nonempty
  | cons first cells =>
      exact ⟨first, _, rfl, List.getLast?_eq_getLast_of_ne_nil (List.cons_ne_nil first cells)⟩

namespace DatabaseBuffers

/-- The points of a type that are still to be reported. -/
def pendingPoints (db : DatabaseBuffers) (type : StaticType) : List (Cell type) :=
  pending (db.points type).view.elements

/-- The points of a type that have been reported since. -/
def deselectedPoints (db after : DatabaseBuffers) (type : StaticType) : List (Cell type) :=
  deselected (db.points type).view.elements (after.points type).view.elements

/-- The virtual indices of all points are strictly increasing. -/
def Indexed (db : DatabaseBuffers) : Prop := ∀ type, Increasing (db.points type).view.elements

/-- The space for a header with the next point to be reported. -/
def spaceForNext (db : DatabaseBuffers) : List StaticType → Nat
  | [] => 0
  | type :: types =>
      match (db.pendingPoints type).head?, (db.pendingPoints type).getLast? with
      | some first, some last => spaceNeeded first last
      | _, _ => db.spaceForNext types

variable {db : DatabaseBuffers} {types : List StaticType}

theorem spaceForNext_cons {first last : Cell type}
    (isFirst : (db.pendingPoints type).head? = some first)
    (isLast : (db.pendingPoints type).getLast? = some last) :
    db.spaceForNext (type :: types) = spaceNeeded first last := by
  rw [spaceForNext, isFirst, isLast]

theorem spaceForNext_cons_nil (none : db.pendingPoints type = []) :
    db.spaceForNext (type :: types) = db.spaceForNext types := by
  rw [spaceForNext, none]
  rfl

theorem spaceForNext_congr {other : DatabaseBuffers}
    (same : ∀ type ∈ types, other.points type = db.points type) :
    other.spaceForNext types = db.spaceForNext types := by
  induction types with
  | nil => rfl
  | cons type types ih =>
      have first : other.pendingPoints type = db.pendingPoints type := by
        rw [pendingPoints, same type List.mem_cons_self]
        rfl
      rw [spaceForNext, spaceForNext, first,
        ih fun other member => same other (List.mem_cons_of_mem _ member)]

theorem deselectedPoints_of_same {after : DatabaseBuffers}
    (same : after.points type = db.points type) : db.deselectedPoints after type = [] := by
  rw [deselectedPoints, same, deselected_self]

theorem Indexed.congr (indexed : db.Indexed) {other : DatabaseBuffers}
    (indices : ∀ type, (other.points type).view.elements.map Cell.vIndex =
      (db.points type).view.elements.map Cell.vIndex) : other.Indexed := by
  intro type
  rw [Increasing, indices]
  exact indexed type

end DatabaseBuffers

/-! ## Loads of one type -/

/-- What a load of a type delivers of the points that are selected: the first of them, at least
one when there is space for it. -/
structure RangeView.Delivers [FloatOps] (points : RangeView type) (writer : HeaderWriter)
    (load : StaticLoad type) : Prop where
  valid : load.points.Valid
  indices : load.points.view.elements.map Cell.vIndex = points.view.elements.map Cell.vIndex
  split : pending points.view.elements =
    deselected points.view.elements load.points.view.elements ++
      pending load.points.view.elements
  reported : ∃ bytes, load.writer.position.written = writer.position.written ++ bytes ∧
    ((∀ cell ∈ deselected points.view.elements load.points.view.elements,
        cell.hasContents = true) →
      Reported bytes
        ((deselected points.view.elements load.points.view.elements).map Cell.reading))
  complete : load.spaceRemaining = true ↔ pending load.points.view.elements = []
  room : ∀ first last, (pending points.view.elements).head? = some first →
    (pending points.view.elements).getLast? = some last →
    spaceNeeded first last ≤ writer.remaining →
    deselected points.view.elements load.points.view.elements ≠ []
  unused : pending points.view.elements = [] → load.writer = writer

theorem getLast?_pending {cells : List (Cell type)}
    (last : ∀ cell ∈ cells.getLast?, cell.selection.selected = true) :
    (pending cells).getLast? = cells.getLast? := by
  cases cells using List.reverseRecOn with
  | nil => rfl
  | append_singleton cells cell _ =>
      have selected := last cell (by simp)
      rw [pending_append, pending_cons_selected selected, List.getLast?_append,
        List.getLast?_append]
      rfl

variable [FloatOps]

/-- A load of a type succeeds and delivers. -/
theorem RangeView.Valid.delivers {points : RangeView type} (valid : points.Valid)
    (increasing : Increasing points.view.elements) {writer : HeaderWriter}
    (fine : NeverWraps type (pending points.view.elements) writer.remaining) :
    ∃ load, points.loadType (points.range.count + 1) writer = some load ∧
      points.Delivers writer load := by
  obtain ⟨before, active, after, covers⟩ := valid.covers
  have elements := covers.elements
  have pendings := covers.pending
  rw [elements] at increasing
  obtain ⟨load, taken, rest, success, rfl, loads⟩ := loadType_loads
    (points.range.count + 1) writer (by rw [covers.count]; exact Nat.lt_succ_self _)
    covers.toWindow increasing.left (fun _ => by rwa [← pendings])
  have sound : load.points.Valid := valid.advances (loadType_advances success)
  have loaded := loads.window.elements
  have reported : deselected points.view.elements load.points.view.elements = pending taken := by
    rw [elements, loaded, ← List.append_assoc, List.append_assoc _ rest, List.append_assoc _ rest,
      deselected_append (by simp), deselected_self, List.append_nil,
      deselected_append rfl, deselected_self, deselected_map_deselect, List.nil_append]
  have left : pending load.points.view.elements = pending rest := by
    rw [loaded, pending_append, pending_append, pending_append, pending_deselect,
      covers.beforeUnselected, covers.afterUnselected, List.nil_append, List.nil_append,
      List.append_nil]
  refine ⟨load, success, sound, ?_, ?_, ?_, ?_, ?_, ?_⟩
  · rw [elements, loaded]
    simp only [List.map_append, map_vIndex_deselect, List.append_assoc]
  · rw [pendings, reported, left, pending_append]
  · rw [reported]
    exact loads.reported
  · rw [left]
    constructor
    · intro space
      rw [loads.complete space]
      rfl
    · intro none
      cases space : load.spaceRemaining with
      | true => rfl
      | false =>
          obtain ⟨cell, more, rfl, selected⟩ := loads.stopped space
          rw [pending_cons_selected selected] at none
          cases none
  · intro first last isFirst isLast enough
    rw [reported]
    rw [pendings] at isFirst isLast
    rw [getLast?_pending covers.last] at isLast
    exact loads.room first last isFirst isLast enough
  · intro none
    rw [pendings, pending_append] at none
    exact loads.unused (List.append_eq_nil_iff.mp none).1

/-! ## Loads of all types -/

namespace DatabaseBuffers

/-- What a load of some types delivers. -/
structure Delivers (types : List StaticType) (db : DatabaseBuffers) (writer : HeaderWriter)
    (load : Load) : Prop where
  others : ∀ type, type ∉ types → load.buffers.points type = db.points type
  indices : ∀ type, (load.buffers.points type).view.elements.map Cell.vIndex =
    (db.points type).view.elements.map Cell.vIndex
  split : ∀ type, db.pendingPoints type =
    db.deselectedPoints load.buffers type ++ load.buffers.pendingPoints type
  reported : ∃ bytes, load.writer.position.written = writer.position.written ++ bytes ∧
    ((∀ type ∈ types, ∀ cell ∈ db.deselectedPoints load.buffers type, cell.hasContents = true) →
      Reported bytes
        (types.flatMap fun type => (db.deselectedPoints load.buffers type).map Cell.reading))
  complete : load.complete = true ↔ ∀ type ∈ types, load.buffers.pendingPoints type = []
  room : db.spaceForNext types ≤ writer.remaining →
    (∃ type ∈ types, db.pendingPoints type ≠ []) →
    ∃ type ∈ types, db.deselectedPoints load.buffers type ≠ []

variable {db : DatabaseBuffers} {writer : HeaderWriter} {types : List StaticType}

/-- A load that stops at its first type. -/
private theorem Delivers.stop {first : Load} (delivers : db.Delivers [type] writer first)
    (fresh : type ∉ types) (more : first.complete = false) :
    db.Delivers (type :: types) writer first := by
  have untouched : ∀ other ∈ types, first.buffers.points other = db.points other := by
    intro other member
    refine delivers.others other ?_
    rw [List.mem_singleton]
    rintro rfl
    exact fresh member
  have left : first.buffers.pendingPoints type ≠ [] := by
    intro none
    have complete := delivers.complete.mpr (by simpa using none)
    rw [more] at complete
    cases complete
  have nonempty : db.pendingPoints type ≠ [] := by
    rw [delivers.split type]
    exact List.append_ne_nil_of_right_ne_nil _ left
  refine ⟨?_, delivers.indices, delivers.split, ?_, ?_, ?_⟩
  · intro other absent
    exact delivers.others other fun member =>
      absent (List.mem_cons.mpr (.inl (List.mem_singleton.mp member)))
  · obtain ⟨bytes, written, reported⟩ := delivers.reported
    refine ⟨bytes, written, fun contents => ?_⟩
    have rest : (types.flatMap fun type =>
        (db.deselectedPoints first.buffers type).map Cell.reading) = [] := by
      rw [List.flatMap_eq_nil_iff]
      intro other member
      rw [deselectedPoints_of_same (untouched other member)]
      rfl
    have front := reported fun other member => contents other
      (List.mem_cons.mpr (.inl (List.mem_singleton.mp member)))
    rw [List.flatMap_singleton] at front
    rwa [List.flatMap_cons, rest, List.append_nil]
  · rw [more]
    constructor
    · intro complete
      cases complete
    · exact fun none => absurd (none type List.mem_cons_self) left
  · intro enough _
    obtain ⟨head, last, isFirst, isLast⟩ := ends_of_ne_nil nonempty
    rw [spaceForNext_cons isFirst isLast] at enough
    obtain ⟨_, member, progress⟩ := delivers.room
      (by rwa [spaceForNext_cons isFirst isLast]) ⟨type, List.mem_singleton_self _, nonempty⟩
    exact ⟨type, List.mem_cons_self, List.mem_singleton.mp member ▸ progress⟩

/-- A load that goes on after its first type. -/
private theorem Delivers.goOn {first load : Load} (delivers : db.Delivers [type] writer first)
    (fresh : type ∉ types) (more : first.complete = true)
    (kept : ∀ other ∈ types, first.buffers.points other = db.points other)
    (unused : db.pendingPoints type = [] → first.writer = writer)
    (behind : first.buffers.Delivers types first.writer load) :
    db.Delivers (type :: types) writer load := by
  have same : load.buffers.points type = first.buffers.points type := behind.others type fresh
  have here : db.deselectedPoints load.buffers type = db.deselectedPoints first.buffers type := by
    rw [deselectedPoints, same]
    rfl
  have there : ∀ other ∈ types,
      db.deselectedPoints load.buffers other = first.buffers.deselectedPoints load.buffers other := by
    intro other member
    rw [deselectedPoints, deselectedPoints, kept other member]
  refine ⟨?_, ?_, ?_, ?_, ?_, ?_⟩
  · intro other absent
    obtain ⟨different, absent⟩ := not_or.mp fun member => absent (List.mem_cons.mpr member)
    rw [behind.others other absent]
    exact delivers.others other (by rwa [List.mem_singleton])
  · exact fun other => (behind.indices other).trans (delivers.indices other)
  · intro other
    by_cases equal : other = type
    · subst equal
      rw [here, pendingPoints, pendingPoints, same]
      exact delivers.split other
    · have untouched := delivers.others other (by rwa [List.mem_singleton])
      have split := behind.split other
      rw [pendingPoints, deselectedPoints, untouched] at split
      exact split
  · obtain ⟨bytes, written, reported⟩ := delivers.reported
    obtain ⟨others, after, reports⟩ := behind.reported
    refine ⟨bytes ++ others, by rw [after, written, List.append_assoc], fun contents => ?_⟩
    have front := reported (by
      intro other member cell inside
      obtain rfl := List.mem_singleton.mp member
      rw [← here] at inside
      exact contents other List.mem_cons_self cell inside)
    have back := reports fun other member cell inside =>
      contents other (List.mem_cons_of_mem _ member) cell (by rwa [there other member])
    rw [List.flatMap_singleton] at front
    rw [List.flatMap_cons, here]
    refine front.append ?_
    rwa [show (types.flatMap fun type => (db.deselectedPoints load.buffers type).map Cell.reading) =
      types.flatMap fun type => (first.buffers.deselectedPoints load.buffers type).map Cell.reading
      from List.flatMap_congr fun other member => by rw [there other member]]
  · rw [behind.complete, List.forall_mem_cons, pendingPoints, same]
    exact ⟨fun none => ⟨delivers.complete.mp more type (List.mem_singleton_self _), none⟩,
      fun none => none.2⟩
  · intro enough some
    by_cases none : db.pendingPoints type = []
    · rw [spaceForNext_cons_nil none] at enough
      have next : ∃ type ∈ types, first.buffers.pendingPoints type ≠ [] := by
        obtain ⟨other, member, nonempty⟩ := some
        rcases List.mem_cons.mp member with rfl | member
        · exact absurd none nonempty
        · refine ⟨other, member, ?_⟩
          rwa [pendingPoints, kept other member]
      obtain ⟨other, member, progress⟩ := behind.room
        (by rwa [spaceForNext_congr kept, unused none]) next
      exact ⟨other, List.mem_cons_of_mem _ member, by rwa [there other member]⟩
    · obtain ⟨head, last, isFirst, isLast⟩ := ends_of_ne_nil none
      rw [spaceForNext_cons isFirst isLast] at enough
      obtain ⟨_, member, progress⟩ := delivers.room
        (by rwa [spaceForNext_cons isFirst isLast]) ⟨type, List.mem_singleton_self _, none⟩
      obtain rfl := List.mem_singleton.mp member
      exact ⟨_, List.mem_cons_self, by rwa [here]⟩

/-- A load of the points of one type delivers them. -/
theorem Valid.loadPoints_delivers {db : DatabaseBuffers} (valid : db.Valid) (indexed : db.Indexed)
    (type : StaticType) {writer : HeaderWriter}
    (fine : NeverWraps type (db.pendingPoints type) writer.remaining) :
    ∃ load, db.loadPoints type writer = some load ∧ db.Delivers [type] writer load ∧
      (db.pendingPoints type = [] → load.writer = writer) := by
  obtain ⟨load, success, delivers⟩ := (valid type).delivers (indexed type) fine
  have same : (db.setPoints type load.points).points type = load.points := points_setPoints_self ..
  have deselects : db.deselectedPoints (db.setPoints type load.points) type =
      deselected (db.points type).view.elements load.points.view.elements := by
    rw [deselectedPoints, same]
  have pendings : (db.setPoints type load.points).pendingPoints type =
      pending load.points.view.elements := by
    rw [pendingPoints, same]
  refine ⟨⟨load.spaceRemaining, load.writer, db.setPoints type load.points⟩, ?_,
    ⟨?_, ?_, ?_, ?_, ?_, ?_⟩, delivers.unused⟩
  · rw [DatabaseBuffers.loadPoints, success]
    rfl
  · intro other different
    exact points_setPoints_of_ne db _ (by simpa using different)
  · intro other
    by_cases equal : other = type
    · subst equal
      rw [same]
      exact delivers.indices
    · rw [points_setPoints_of_ne db _ equal]
  · intro other
    by_cases equal : other = type
    · subst equal
      rw [deselects, pendings]
      exact delivers.split
    · rw [deselectedPoints, pendingPoints, pendingPoints, points_setPoints_of_ne db _ equal,
        deselected_self, List.nil_append]
  · obtain ⟨bytes, written, reported⟩ := delivers.reported
    refine ⟨bytes, written, fun contents => ?_⟩
    rw [List.flatMap_singleton, deselects]
    refine reported fun cell member => contents type (List.mem_singleton_self _) cell ?_
    rwa [deselects]
  · rw [delivers.complete]
    simp only [List.mem_singleton, forall_eq, pendings]
  · intro enough some
    refine ⟨type, List.mem_singleton_self _, ?_⟩
    obtain ⟨_, member, nonempty⟩ := some
    obtain rfl := List.mem_singleton.mp member
    obtain ⟨first, last, isFirst, isLast⟩ := ends_of_ne_nil nonempty
    rw [spaceForNext_cons isFirst isLast] at enough
    rw [deselects]
    exact delivers.room first last isFirst isLast enough

/-- A load of types in any order delivers, unless a count wraps. -/
theorem Valid.loadTypes_delivers {types : List StaticType} (distinct : types.Nodup) :
    ∀ {db : DatabaseBuffers}, db.Valid → db.Indexed → ∀ {writer : HeaderWriter},
      (∀ type ∈ types, ∀ space, NeverWraps type (db.pendingPoints type) space) →
      ∃ load, DatabaseBuffers.loadTypes types writer db = some load ∧ db.Delivers types writer load := by
  induction types with
  | nil =>
      intro db valid indexed writer _
      refine ⟨⟨true, writer, db⟩, rfl, fun _ _ => rfl, fun _ => rfl, ?_, ⟨[], by simp, fun _ => .nil⟩,
        by simp, by simp⟩
      intro type
      rw [deselectedPoints_of_same rfl, List.nil_append]
  | cons type types ih =>
      intro db valid indexed writer fine
      obtain ⟨fresh, distinct⟩ := List.nodup_cons.mp distinct
      obtain ⟨first, success, delivers, unused⟩ :=
        valid.loadPoints_delivers indexed type (fine type List.mem_cons_self writer.remaining)
      rw [DatabaseBuffers.loadTypes, success, Option.bind_some]
      cases more : first.complete with
      | false => exact ⟨first, rfl, delivers.stop fresh more⟩
      | true =>
          have kept : ∀ other ∈ types, first.buffers.points other = db.points other := by
            intro other member
            refine delivers.others other ?_
            rw [List.mem_singleton]
            rintro rfl
            exact fresh member
          obtain ⟨load, loaded, behind⟩ := ih distinct (valid.loadPoints success)
            (indexed.congr delivers.indices) (fun other member space => by
              rw [pendingPoints, kept other member]
              exact fine other (List.mem_cons_of_mem _ member) space)
          exact ⟨load, loaded, delivers.goOn fresh more kept unused behind⟩

end DatabaseBuffers

end OpenDnp3.Outstation
