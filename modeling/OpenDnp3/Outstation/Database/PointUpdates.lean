import OpenDnp3.Outstation.Database.SelectionFrame

/-!
# Updates of points

An update and a change of flags both hand a point a value in some mode. What an
input leaves of the value and the last event of a point is what that leaves, and
the events of an input are those of its points in the order of their positions.
-/

set_option autoImplicit false

namespace OpenDnp3.Outstation

open OpenDnp3.App OpenDnp3.Library

variable {type : StaticType}

/-- The value of a point and what it remembers of its events, without their class. -/
def Cell.content (cell : Cell type) :
    type.Meas × Option (type.EventVariation × type.Deadband × type.Meas) :=
  (cell.value, cell.event.map fun event => (event.evariation, event.deadband, event.lastEvent))

theorem Cell.ignoresSelection_content : Cell.IgnoresSelection @Cell.content :=
  fun _ _ _ => rfl

theorem Cell.content_assignClass (clazz : PointClass) (cell : Cell type) :
    (cell.assignClass clazz).content = cell.content := by
  obtain ⟨_, _, _, event, _⟩ := cell
  cases event <;> rfl

theorem DatabaseBuffers.sameContents_assignClassToRange (db : DatabaseBuffers)
    (type : AssignClassType) (clazz : PointClass) (range : Range) :
    db.SameLook @Cell.content (db.assignClassToRange type clazz range).2 :=
  .setPoints (ArrayView.map_elements_modifyRange _ _ _ (Cell.content_assignClass clazz))

/-! ## Updates -/

section updates

variable [FloatOps]

theorem get?_modifyFlags (flags : UInt8) {positions : List Nat} (distinct : positions.Nodup)
    (view : ArrayView (Cell type)) (place : Nat) :
    (modifyFlags flags positions view).1.get? place = (view.get? place).map fun cell =>
      if place ∈ positions then (cell.updateAny (setFlags type flags cell.value) .detect).1
      else cell := by
  induction positions generalizing view with
  | nil =>
      rw [modifyFlags]
      simp
  | cons position positions ih =>
      obtain ⟨fresh, distinct⟩ := List.nodup_cons.mp distinct
      rw [modifyFlags]
      cases found : view.get? position with
      | none =>
          refine (ih distinct view).trans ?_
          by_cases here : place = position
          · rw [here, found]
            rfl
          · simp [here]
      | some cell =>
          refine (ih distinct _).trans ?_
          rw [ArrayView.get?_modify, Option.map_map]
          by_cases here : place = position
          · subst here
            rw [found]
            simp [fresh]
          · simp only [List.mem_cons, here, Ne.symm here, if_false, false_or]
            rfl

theorem events_modifyFlags (flags : UInt8) {positions : List Nat} (distinct : positions.Nodup)
    (view : ArrayView (Cell type)) :
    (modifyFlags flags positions view).2 = positions.filterMap fun position =>
      (view.get? position).bind fun cell =>
        (cell.updateAny (setFlags type flags cell.value) .detect).2 := by
  induction positions generalizing view with
  | nil => rfl
  | cons position positions ih =>
      obtain ⟨fresh, distinct⟩ := List.nodup_cons.mp distinct
      rw [modifyFlags]
      cases found : view.get? position with
      | none =>
          rw [List.filterMap_cons, found]
          exact ih distinct view
      | some cell =>
          simp only [ih distinct]
          -- the points behind are not the one that has been updated
          have behind : (positions.filterMap fun place =>
              ((view.modify position fun _ =>
                (cell.updateAny (setFlags type flags cell.value) .detect).1).get? place).bind
                fun cell => (cell.updateAny (setFlags type flags cell.value) .detect).2) =
              positions.filterMap fun place => (view.get? place).bind
                fun cell => (cell.updateAny (setFlags type flags cell.value) .detect).2 := by
            refine List.filterMap_congr fun place member => ?_
            have other : ¬position = place := fun same => fresh (same ▸ member)
            rw [ArrayView.get?_modify]
            simp [other]
          rw [behind, List.filterMap_cons, found, Option.bind_some]
          cases (cell.updateAny (setFlags type flags cell.value) .detect).2 <;> rfl

/-- A point that is handed a value, or is left alone. -/
def Cell.receive (cell : Cell type) :
    Option (type.Meas × EventMode) → Cell type × Option AnyEvent
  | some (value, mode) => cell.updateAny value mode
  | none => (cell, none)

theorem Cell.receive_some (cell : Cell type) (value : type.Meas) (mode : EventMode) :
    cell.receive (some (value, mode)) = cell.updateAny value mode := rfl

end updates

namespace DatabaseBuffers

/-- The positions whose flags are changed. -/
def modified (db : DatabaseBuffers) (type : StaticType) (start stop : UInt16) : List Nat :=
  let first := db.getRawIndex type start
  let last := db.getRawIndex type stop
  if (db.points type).view.contains first && (db.points type).view.contains last &&
      first ≤ last then
    List.range' first (last - first + 1)
  else
    []

theorem nodup_modified (db : DatabaseBuffers) (type : StaticType) (start stop : UInt16) :
    (db.modified type start stop).Nodup := by
  unfold modified
  simp only
  split
  · exact List.nodup_range'
  · exact List.nodup_nil

/-- The positions of a type that an input hands a value. -/
def addressed (db : DatabaseBuffers) (type : StaticType) : DatabaseInput → List Nat
  | .update other _ index _ => if other = type then [db.getRawIndex type index] else []
  | .updateTimeAndInterval _ index =>
      if .timeAndInterval = type then [db.getRawIndex type index] else []
  | .modify flagsType start stop _ =>
      if flagsType.staticType = type then db.modified type start stop else []
  | _ => []

/-- The value that an input hands a point, and the mode. -/
def handed (db : DatabaseBuffers) (type : StaticType) (position : Nat) :
    DatabaseInput → Option (type.Meas × EventMode)
  | .update other value index mode =>
      if same : other = type then
        if position = db.getRawIndex type index then some (same ▸ value, mode) else none
      else
        none
  | .updateTimeAndInterval value index =>
      if same : .timeAndInterval = type then
        if position = db.getRawIndex type index then some (same ▸ value, .suppress) else none
      else
        none
  | .modify flagsType start stop flags =>
      if flagsType.staticType = type ∧ position ∈ db.modified type start stop then
        ((db.points type).view.get? position).map fun cell =>
          (setFlags type flags cell.value, .detect)
      else
        none
  | _ => none

theorem get?_setView_self (db : DatabaseBuffers) (view : ArrayView (Cell type)) :
    ((db.setView type view).points type).view = view := by
  rw [setView, points_setPoints_self]

theorem points_setView_of_ne (db : DatabaseBuffers) {other : StaticType}
    (view : ArrayView (Cell type)) (different : other ≠ type) :
    (db.setView type view).points other = db.points other :=
  points_setPoints_of_ne db _ different

variable [FloatOps]

/-- The event that an input makes a point offer. -/
def offered (db : DatabaseBuffers) (type : StaticType) (position : Nat) (input : DatabaseInput) :
    Option AnyEvent :=
  ((db.points type).view.get? position).bind fun cell =>
    (cell.receive (db.handed type position input)).2

variable {db : DatabaseBuffers}

theorem modify_eq (db : DatabaseBuffers) (flagsType : FlagsType) (start stop : UInt16)
    (flags : UInt8) :
    let type := flagsType.staticType
    let modified := modifyFlags flags (db.modified type start stop) (db.points type).view
    (db.modify flagsType start stop flags).buffers = db.setView type modified.1 ∧
      (db.modify flagsType start stop flags).events = modified.2 := by
  simp only [DatabaseBuffers.modify, modified]
  split
  · exact ⟨rfl, rfl⟩
  · refine ⟨?_, rfl⟩
    change db = db.setPoints _ (db.points _)
    simp [setPoints]

theorem get?_updateEvent (db : DatabaseBuffers) (other type : StaticType) (value : other.Meas)
    (index : UInt16) (mode : EventMode) (position : Nat) :
    ((db.updateEvent other value index mode).buffers.points type).view.get? position =
      ((db.points type).view.get? position).map fun cell =>
        (cell.receive (db.handed type position (.update other value index mode))).1 := by
  simp only [updateEvent, handed]
  by_cases same : other = type
  · subst same
    rw [dif_pos rfl]
    split
    · next missing =>
        by_cases here : position = db.getRawIndex other index
        · rw [here, missing]
          rfl
        · simp only [if_neg here, Cell.receive, Option.map_id']
    · next cell found =>
        rw [get?_setView_self, ArrayView.get?_modify]
        by_cases here : position = db.getRawIndex other index
        · rw [here, found]
          simp [Cell.receive]
        · simp only [if_neg here, if_neg (Ne.symm here), Cell.receive]
  · rw [dif_neg same]
    simp only [Cell.receive, Option.map_id']
    split
    · rfl
    · rw [points_setView_of_ne db _ (Ne.symm same)]

theorem get?_modify (db : DatabaseBuffers) (flagsType : FlagsType) (start stop : UInt16)
    (flags : UInt8) (type : StaticType) (position : Nat) :
    ((db.modify flagsType start stop flags).buffers.points type).view.get? position =
      ((db.points type).view.get? position).map fun cell =>
        (cell.receive (db.handed type position (.modify flagsType start stop flags))).1 := by
  rw [(db.modify_eq flagsType start stop flags).1]
  simp only [handed]
  by_cases same : flagsType.staticType = type
  · subst same
    rw [get?_setView_self, get?_modifyFlags _ (db.nodup_modified _ _ _)]
    refine Option.map_congr fun cell found => ?_
    by_cases here : position ∈ db.modified flagsType.staticType start stop
    · rw [if_pos here, if_pos ⟨rfl, here⟩, found]
      rfl
    · rw [if_neg here, if_neg fun both => here both.2]
      rfl
  · rw [points_setView_of_ne db _ (Ne.symm same), if_neg fun both => same both.1]
    simp only [Cell.receive, Option.map_id']

/-- What becomes of a point, as far as its value and its last event are concerned. -/
theorem content_step {after : DatabaseBuffers} {input : DatabaseInput} {output : DatabaseOutput}
    (success : machine.step db input = some (after, output)) (type : StaticType)
    (position : Nat) :
    ((after.points type).view.get? position).map Cell.content =
      ((db.points type).view.get? position).map fun cell =>
        (cell.receive (db.handed type position input)).1.content := by
  have alone (same : db.SameLook @Cell.content after) :
      ((after.points type).view.get? position).map Cell.content =
        ((db.points type).view.get? position).map Cell.content := by
    have here := congrArg (·[position]?) (same type)
    simp only [List.getElem?_map] at here
    exact here
  cases input with
  | selectAll | selectRange | unselect | load =>
      exact alone (sameLook_of_requests Cell.ignoresSelection_content rfl success)
  | update other value index mode =>
      obtain ⟨rfl, _⟩ := Prod.mk.inj (Option.some.inj success)
      rw [get?_updateEvent, Option.map_map]
      rfl
  | updateTimeAndInterval value index =>
      obtain ⟨rfl, _⟩ := Prod.mk.inj (Option.some.inj success)
      rw [updateTimeAndInterval, get?_updateEvent, Option.map_map]
      rfl
  | modify flagsType start stop flags =>
      obtain ⟨rfl, _⟩ := Prod.mk.inj (Option.some.inj success)
      rw [get?_modify, Option.map_map]
      rfl
  | assignClassToAll type clazz =>
      obtain ⟨rfl, _⟩ := Prod.mk.inj (Option.some.inj success)
      exact alone (db.sameContents_assignClassToRange type clazz _)
  | assignClassToRange type clazz range =>
      obtain ⟨rfl, _⟩ := Prod.mk.inj (Option.some.inj success)
      exact alone (db.sameContents_assignClassToRange type clazz range)

theorem events_updateEvent (db : DatabaseBuffers) (type : StaticType) (value : type.Meas)
    (index : UInt16) (mode : EventMode) :
    (db.updateEvent type value index mode).events =
      [db.getRawIndex type index].filterMap fun position =>
        db.offered type position (.update type value index mode) := by
  simp only [updateEvent, offered, handed, List.filterMap_cons, List.filterMap_nil]
  split
  · next missing => rw [missing]; rfl
  · next cell found =>
      rw [found, Option.bind_some, dif_pos trivial, if_pos trivial]
      simp only [Cell.receive]
      cases (cell.updateAny value mode).2 <;> rfl

/-- The events of an input are what its points offer. -/
theorem events_step {after : DatabaseBuffers} {input : DatabaseInput} {found : Bool}
    {events : List AnyEvent}
    (success : machine.step db input = some (after, .updated found events)) :
    ∃ type, events = (db.addressed type input).filterMap (db.offered type · input) ∧
      ∀ other, other ≠ type → db.addressed other input = [] := by
  cases input with
  | update type value index mode =>
      obtain ⟨_, same⟩ := Prod.mk.inj (Option.some.inj success)
      obtain ⟨_, rfl⟩ := DatabaseOutput.updated.inj same
      refine ⟨type, ?_, fun other different => if_neg (Ne.symm different)⟩
      rw [addressed, if_pos rfl]
      exact db.events_updateEvent type value index mode
  | updateTimeAndInterval value index =>
      obtain ⟨_, same⟩ := Prod.mk.inj (Option.some.inj success)
      obtain ⟨_, rfl⟩ := DatabaseOutput.updated.inj same
      refine ⟨.timeAndInterval, ?_, fun other different => if_neg (Ne.symm different)⟩
      rw [addressed, if_pos rfl]
      exact db.events_updateEvent .timeAndInterval value index .suppress
  | modify flagsType start stop flags =>
      obtain ⟨_, same⟩ := Prod.mk.inj (Option.some.inj success)
      obtain ⟨_, rfl⟩ := DatabaseOutput.updated.inj same
      refine ⟨flagsType.staticType, ?_, fun other different => if_neg (Ne.symm different)⟩
      rw [addressed, if_pos rfl, (db.modify_eq flagsType start stop flags).2,
        events_modifyFlags _ (db.nodup_modified _ _ _)]
      refine List.filterMap_congr fun position member => ?_
      simp only [offered, handed]
      cases found : (db.points flagsType.staticType).view.get? position with
      | none => rfl
      | some cell =>
          rw [if_pos ⟨trivial, member⟩]
          rfl
  | load writer =>
      obtain ⟨load, _, same⟩ := Option.map_eq_some_iff.mp success
      cases (Prod.mk.inj same).2
  | selectAll | selectRange | unselect | assignClassToAll | assignClassToRange =>
      cases (Prod.mk.inj (Option.some.inj success)).2

end DatabaseBuffers

end OpenDnp3.Outstation
