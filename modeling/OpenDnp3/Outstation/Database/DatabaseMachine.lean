import OpenDnp3.Library.Machine
import OpenDnp3.Outstation.Database.Database
import OpenDnp3.Outstation.Database.StaticFormats

/-!
# The database as a machine

Selections, loads, updates and assignments of classes in any order, and what
they keep of the ranges.
-/

set_option autoImplicit false

namespace OpenDnp3.Outstation

open OpenDnp3.App OpenDnp3.Library

variable {type : StaticType}

/-! ## Loads advance -/

/-- How a load moves through a range: it skips points that are not selected, and takes points. -/
inductive RangeView.Advances : RangeView type → RangeView type → Prop
  | refl {points : RangeView type} : Advances points points
  | skip {points after : RangeView type} {cell : Cell type} (front : points.front? = some cell)
      (unselected : ¬cell.selection.selected = true) (rest : Advances points.skip after) :
      Advances points after
  | take {points after : RangeView type} {cell : Cell type} (front : points.front? = some cell)
      (rest : Advances points.take after) : Advances points after

namespace RangeView

theorem Advances.trans {first second third : RangeView type} (before : first.Advances second)
    (behind : second.Advances third) : first.Advances third := by
  induction before with
  | refl => exact behind
  | skip front unselected _ ih => exact .skip front unselected (ih behind)
  | take front _ ih => exact .take front (ih behind)

private theorem Covers.front {points : RangeView type} {before active after : List (Cell type)}
    {cell : Cell type} (covers : points.Covers before active after)
    (front : points.front? = some cell) : ∃ rest, active = cell :: rest := by
  cases active with
  | nil =>
      rw [covers.front?_nil] at front
      cases front
  | cons first rest =>
      rw [covers.front?_cons] at front
      exact ⟨rest, by rw [Option.some.inj front]⟩

private theorem last_of_cons {first : Cell type} {rest : List (Cell type)}
    (last : ∀ cell ∈ (first :: rest).getLast?, cell.selection.selected = true) :
    ∀ cell ∈ rest.getLast?, cell.selection.selected = true := by
  intro cell member
  refine last cell ?_
  cases rest with
  | nil => cases member
  | cons second rest => rwa [List.getLast?_cons_cons]

theorem Covers.skip {points : RangeView type} {before rest after : List (Cell type)}
    {cell : Cell type} (covers : points.Covers before (cell :: rest) after)
    (unselected : ¬cell.selection.selected = true) :
    points.skip.Covers (before ++ [cell]) rest after := by
  refine ⟨covers.toWindow.skip, ?_, covers.afterUnselected, last_of_cons covers.last⟩
  rw [pending_append, covers.beforeUnselected, pending_cons_unselected unselected]
  rfl

theorem Covers.take {points : RangeView type} {before rest after : List (Cell type)}
    {cell : Cell type} (covers : points.Covers before (cell :: rest) after) :
    points.take.Covers (before ++ [cell.deselect]) rest after := by
  refine ⟨covers.toWindow.take, ?_, covers.afterUnselected, last_of_cons covers.last⟩
  rw [pending_append, covers.beforeUnselected]
  rfl

theorem Valid.advances {points after : RangeView type} (valid : points.Valid)
    (advances : points.Advances after) : after.Valid := by
  induction advances with
  | refl => exact valid
  | skip front unselected _ ih =>
      obtain ⟨_, _, _, covers⟩ := valid.covers
      obtain ⟨_, rfl⟩ := covers.front front
      exact ih (covers.skip unselected).valid
  | take front _ ih =>
      obtain ⟨_, _, _, covers⟩ := valid.covers
      obtain ⟨_, rfl⟩ := covers.front front
      exact ih covers.take.valid

end RangeView

theorem writeRun_advances {Iterator : Type}
    (write : Iterator → Cursor → type.Meas → Option (Iterator × Cursor))
    (goesOn : Cell type → Bool) (fuel : Nat) (next : UInt16) (iterator : Iterator)
    (position : Cursor) (points : RangeView type) :
    points.Advances (writeRun write goesOn fuel next iterator position points).points := by
  induction fuel generalizing next iterator position points with
  | zero => exact .refl
  | succ fuel ih =>
      rw [writeRun]
      split
      · exact .refl
      · rename_i cell front
        split
        · split
          · exact .refl
          · exact .take front (ih _ _ _ _)
        · exact .refl

section loading

variable [FloatOps]

theorem StaticWriters.get_advances (variation : type.Variation) (cell : Cell type)
    (writer : HeaderWriter) (points : RangeView type) :
    points.Advances (StaticWriters.get type variation cell writer points).points := by
  by_cases octets : type = .octetString
  · subst octets
    cases variation with
    | group110Var0 =>
        change points.Advances (writeOctetStrings cell writer points).points
        unfold writeOctetStrings
        split
        · exact writeRun_advances ..
        · exact .refl
  · cases packed : isPacked type variation with
    | false =>
        obtain ⟨descriptor, fixed⟩ := exists_isFixedSize type variation octets packed
        rw [fixed.write]
        exact writeRun_advances ..
    | true =>
        cases type with
        | binary =>
            cases variation with
            | group1Var1 => exact writeRun_advances ..
            | group1Var2 => cases packed
        | doubleBitBinary | counter | frozenCounter | analog | binaryOutputStatus
        | analogOutputStatus | timeAndInterval | octetString => cases packed

theorem RangeView.loadType_advances {fuel : Nat} {writer : HeaderWriter}
    {points : RangeView type} {load : StaticLoad type}
    (success : points.loadType fuel writer = some load) : points.Advances load.points := by
  induction fuel generalizing writer points with
  | zero => cases success
  | succ fuel ih =>
      rw [RangeView.loadType] at success
      split at success
      · obtain rfl := Option.some.inj success
        exact .refl
      · rename_i cell front
        split at success
        · simp only at success
          have moved := StaticWriters.get_advances cell.selection.variation cell writer points
          split at success
          · exact moved.trans (ih success)
          · obtain rfl := Option.some.inj success
            exact moved
        · rename_i unselected
          exact .skip front unselected (ih success)

end loading

/-! ## The machine -/

inductive DatabaseInput where
  | selectAll (gv : GroupVariation)
  | selectRange (gv : GroupVariation) (range : Range)
  | unselect
  | load (writer : HeaderWriter)
  | update (type : StaticType) (value : type.Meas) (index : UInt16) (mode : EventMode)
  | updateTimeAndInterval (value : TimeAndInterval) (index : UInt16)
  | modify (flagsType : FlagsType) (start stop : UInt16) (flags : UInt8)
  | assignClassToAll (type : AssignClassType) (clazz : PointClass)
  | assignClassToRange (type : AssignClassType) (clazz : PointClass) (range : Range)

inductive DatabaseOutput where
  | selected (iin : IINField)
  | unselected
  | loaded (complete : Bool) (writer : HeaderWriter)
  | updated (found : Bool) (events : List AnyEvent)
  | assigned (range : Range)

namespace DatabaseBuffers

/-- A load that goes on forever has no step. -/
def machine [FloatOps] : Machine DatabaseBuffers DatabaseInput DatabaseOutput where
  step db
    | .selectAll gv =>
        let (iin, db) := db.selectAll gv
        some (db, .selected iin)
    | .selectRange gv range =>
        let (iin, db) := db.selectRange gv range
        some (db, .selected iin)
    | .unselect => some (db.unselect, .unselected)
    | .load writer =>
        (db.load writer).map fun load => (load.buffers, .loaded load.complete load.writer)
    | .update type value index mode =>
        let updated := db.updateEvent type value index mode
        some (updated.buffers, .updated updated.found updated.events)
    | .updateTimeAndInterval value index =>
        let updated := db.updateTimeAndInterval value index
        some (updated.buffers, .updated updated.found updated.events)
    | .modify flagsType start stop flags =>
        let updated := db.modify flagsType start stop flags
        some (updated.buffers, .updated updated.found updated.events)
    | .assignClassToAll type clazz =>
        let (range, db) := db.assignClassToAll type clazz
        some (db, .assigned range)
    | .assignClassToRange type clazz range =>
        let (range, db) := db.assignClassToRange type clazz range
        some (db, .assigned range)

theorem step_selectAll [FloatOps] (db : DatabaseBuffers) (gv : GroupVariation) :
    machine.step db (.selectAll gv) = some ((db.selectAll gv).2, .selected (db.selectAll gv).1) :=
  rfl

/-- Nothing has ever been selected of these points. -/
structure NeverSelected (db : DatabaseBuffers) : Prop where
  ranges : ∀ type, (db.points type).range = .invalid
  cells : ∀ type, ∀ cell ∈ (db.points type).view.elements, cell.selection = .none type

/-- The ranges of all types are sound. -/
def Valid (db : DatabaseBuffers) : Prop := ∀ type, (db.points type).Valid

theorem NeverSelected.valid {db : DatabaseBuffers} (never : db.NeverSelected) : db.Valid := by
  intro type
  refine RangeView.valid_of_pending_eq_nil (never.ranges type) ?_
  rw [pending, List.filter_eq_nil_iff]
  intro cell member
  rw [never.cells type cell member]
  exact Bool.false_ne_true

variable {db : DatabaseBuffers}

@[simp] theorem points_setPoints_self (db : DatabaseBuffers) (points : RangeView type) :
    (db.setPoints type points).points type = points :=
  Function.update_self ..

theorem points_setPoints_of_ne (db : DatabaseBuffers) (points : RangeView type)
    {other : StaticType} (different : other ≠ type) :
    (db.setPoints type points).points other = db.points other :=
  Function.update_of_ne different ..

theorem Valid.setPoints (valid : db.Valid) {points : RangeView type} (changed : points.Valid) :
    (db.setPoints type points).Valid := by
  intro other
  by_cases same : other = type
  · subst same
    rwa [points_setPoints_self]
  · rw [points_setPoints_of_ne db points same]
    exact valid other

/-- A database with points of one type only. -/
def ofType (type : StaticType) (points : RangeView type) : DatabaseBuffers where
  points := Function.update (fun _ => ⟨⟨[], ArrayView.none_fits⟩, .invalid⟩) type points
  class0 _ := true
  indexMode := .contiguous

@[simp] theorem points_ofType_self (points : RangeView type) :
    (ofType type points).points type = points := by
  simp only [ofType, Function.update_self]

theorem elements_ofType_of_ne (points : RangeView type) {other : StaticType}
    (different : other ≠ type) :
    (ofType type points).points other = ⟨⟨[], ArrayView.none_fits⟩, .invalid⟩ := by
  simp only [ofType, Function.update_of_ne different]

theorem setPoints_ofType (points after : RangeView type) :
    (ofType type points).setPoints type after = ofType type after := by
  simp only [ofType, setPoints, Function.update_idem]

theorem neverSelected_ofType {points : RangeView type} (range : points.range = .invalid)
    (cells : ∀ cell ∈ points.view.elements, cell.selection = .none type) :
    (ofType type points).NeverSelected := by
  constructor
  · intro other
    by_cases same : other = type
    · subst same
      rw [points_ofType_self, range]
    · rw [elements_ofType_of_ne points same]
  · intro other cell member
    by_cases same : other = type
    · subst same
      rw [points_ofType_self] at member
      exact cells cell member
    · rw [elements_ofType_of_ne points same] at member
      cases member

/-- A single point of a type, of which nothing has been selected. -/
def single (type : StaticType) (value : type.Meas) : DatabaseBuffers :=
  ofType type
    ⟨⟨[⟨value, 0, type.defaultStaticVariation, none, .none type⟩], ArrayView.one_fits⟩, .invalid⟩

theorem neverSelected_single (type : StaticType) (value : type.Meas) :
    (single type value).NeverSelected := by
  refine neverSelected_ofType rfl fun cell member => ?_
  rw [List.mem_singleton.mp member]

/-! ## Selections -/

theorem Valid.selectAll (valid : db.Valid) (gv : GroupVariation) : (db.selectAll gv).2.Valid := by
  unfold DatabaseBuffers.selectAll
  split
  · have all : ∀ (types : List StaticType) {db : DatabaseBuffers}, db.Valid →
        (types.foldl selectAllClass0 db).Valid := by
      intro types
      induction types with
      | nil => exact fun valid => valid
      | cons type types ih =>
          intro db valid
          rw [List.foldl_cons]
          apply ih
          unfold selectAllClass0
          split
          · exact valid.setPoints ((valid type).genericSelect _ _)
          · exact valid
    exact all _ valid
  · split
    · exact valid.setPoints ((valid _).genericSelect _ _)
    · exact valid

theorem Valid.selectRange (valid : db.Valid) (gv : GroupVariation) (range : Range) :
    (db.selectRange gv range).2.Valid := by
  unfold DatabaseBuffers.selectRange
  simp only
  split
  · exact valid.setPoints ((valid _).selectVirtualRange _ _ _)
  · exact valid

private theorem points_foldl_deselect {types : List StaticType} (distinct : types.Nodup)
    (db : DatabaseBuffers) (other : StaticType) :
    (types.foldl (fun db type => db.setPoints type (db.points type).deselect) db).points other =
      if other ∈ types then (db.points other).deselect else db.points other := by
  induction types generalizing db with
  | nil => rfl
  | cons type types ih =>
      obtain ⟨fresh, distinct⟩ := List.nodup_cons.mp distinct
      rw [List.foldl_cons, ih distinct]
      by_cases same : other = type
      · subst same
        rw [if_neg fresh, if_pos List.mem_cons_self, points_setPoints_self]
      · rw [points_setPoints_of_ne db _ same]
        exact if_congr (by simp [same]) rfl rfl

/-- All types are deselected but octet strings. -/
theorem points_unselect (db : DatabaseBuffers) (type : StaticType) :
    db.unselect.points type =
      if type = .octetString then db.points type else (db.points type).deselect := by
  rw [unselect, points_foldl_deselect (by decide)]
  cases type <;> rfl

theorem Valid.unselect (valid : db.Valid) : db.unselect.Valid := by
  intro type
  rw [points_unselect]
  split
  · exact valid type
  · obtain ⟨invalid, none⟩ := (valid type).deselect
    exact RangeView.valid_of_pending_eq_nil invalid none

section loading

variable [FloatOps]

theorem Valid.loadPoints (valid : db.Valid) {type : StaticType} {writer : HeaderWriter}
    {load : Load} (success : db.loadPoints type writer = some load) : load.buffers.Valid := by
  obtain ⟨loaded, made, rfl⟩ := Option.map_eq_some_iff.mp success
  exact valid.setPoints ((valid type).advances (RangeView.loadType_advances made))

theorem Valid.loadTypes {types : List StaticType} (valid : db.Valid) {writer : HeaderWriter}
    {load : Load} (success : loadTypes types writer db = some load) : load.buffers.Valid := by
  induction types generalizing db writer with
  | nil =>
      obtain rfl := Option.some.inj success
      exact valid
  | cons type types ih =>
      obtain ⟨first, made, rest⟩ := Option.bind_eq_some_iff.mp success
      split at rest
      · exact ih (valid.loadPoints made) rest
      · obtain rfl := Option.some.inj rest
        exact valid.loadPoints made

end loading

/-! ## Updates -/

/-- The same points are asked for, with the same values. -/
def SameRequests (db other : DatabaseBuffers) : Prop :=
  ∀ type, (other.points type).range = (db.points type).range ∧
    (other.points type).view.elements.map Cell.request =
      (db.points type).view.elements.map Cell.request

theorem SameRequests.refl (db : DatabaseBuffers) : db.SameRequests db := fun _ => ⟨rfl, rfl⟩

theorem SameRequests.setView {view : ArrayView (Cell type)}
    (same : view.elements.map Cell.request = (db.points type).view.elements.map Cell.request) :
    db.SameRequests (db.setView type view) := by
  intro other
  rw [DatabaseBuffers.setView]
  by_cases equal : other = type
  · subst equal
    rw [points_setPoints_self]
    exact ⟨rfl, same⟩
  · rw [points_setPoints_of_ne db _ equal]
    exact ⟨rfl, rfl⟩

theorem Valid.of_sameRequests (valid : db.Valid) {other : DatabaseBuffers}
    (same : db.SameRequests other) : other.Valid := by
  intro type
  obtain ⟨range, requests⟩ := same type
  have changed := (valid type).congr requests
  rwa [← range] at changed

theorem sameRequests_assignClassToRange (db : DatabaseBuffers) (type : AssignClassType)
    (clazz : PointClass) (range : Range) :
    db.SameRequests (db.assignClassToRange type clazz range).2 :=
  .setView (ArrayView.map_elements_modifyRange _ _ _ fun _ => rfl)

end DatabaseBuffers

theorem Cell.request_tryCreateEvent (cell : Cell type) (value : type.Meas) :
    (cell.tryCreateEvent value).1.request = cell.request := by
  unfold Cell.tryCreateEvent
  split
  · rfl
  · split <;> rfl

section updates

variable [FloatOps]

/-- An update leaves what is asked of a point. -/
theorem Cell.request_updateAny (cell : Cell type) (value : type.Meas) (mode : EventMode) :
    (cell.updateAny value mode).1.request = cell.request := by
  cases mode with
  | force => exact cell.request_tryCreateEvent value
  | eventOnly => exact cell.request_tryCreateEvent value
  | detect =>
      simp only [Cell.updateAny]
      split
      · exact cell.request_tryCreateEvent value
      · rfl
  | suppress => rfl

theorem map_request_modifyFlags (flags : UInt8) (positions : List Nat)
    (view : ArrayView (Cell type)) :
    (modifyFlags flags positions view).1.elements.map Cell.request =
      view.elements.map Cell.request := by
  induction positions generalizing view with
  | nil => rfl
  | cons position positions ih =>
      rw [modifyFlags]
      split
      · exact ih view
      · rename_i cell found
        exact (ih _).trans (ArrayView.map_elements_modify found (cell.request_updateAny _ _))

namespace DatabaseBuffers

variable {db : DatabaseBuffers}

theorem sameRequests_updateEvent (db : DatabaseBuffers) (value : type.Meas) (index : UInt16)
    (mode : EventMode) : db.SameRequests (db.updateEvent type value index mode).buffers := by
  unfold updateEvent
  simp only
  split
  · exact .refl db
  · rename_i cell found
    exact .setView (ArrayView.map_elements_modify found (cell.request_updateAny value mode))

theorem sameRequests_modify (db : DatabaseBuffers) (flagsType : FlagsType) (start stop : UInt16)
    (flags : UInt8) : db.SameRequests (db.modify flagsType start stop flags).buffers := by
  unfold modify
  simp only
  split
  · exact .setView (map_request_modifyFlags flags _ _)
  · exact .refl db

/-- The ranges stay sound, whatever the input. -/
theorem Valid.step {after : DatabaseBuffers} {input : DatabaseInput} {output : DatabaseOutput}
    (valid : db.Valid) (success : machine.step db input = some (after, output)) :
    after.Valid := by
  cases input with
  | selectAll gv =>
      obtain ⟨rfl, _⟩ := Prod.mk.inj (Option.some.inj success)
      exact valid.selectAll gv
  | selectRange gv range =>
      obtain ⟨rfl, _⟩ := Prod.mk.inj (Option.some.inj success)
      exact valid.selectRange gv range
  | unselect =>
      obtain ⟨rfl, _⟩ := Prod.mk.inj (Option.some.inj success)
      exact valid.unselect
  | load writer =>
      obtain ⟨load, made, same⟩ := Option.map_eq_some_iff.mp success
      obtain ⟨rfl, _⟩ := Prod.mk.inj same
      exact valid.loadTypes made
  | update type value index mode =>
      obtain ⟨rfl, _⟩ := Prod.mk.inj (Option.some.inj success)
      exact valid.of_sameRequests (db.sameRequests_updateEvent value index mode)
  | updateTimeAndInterval value index =>
      obtain ⟨rfl, _⟩ := Prod.mk.inj (Option.some.inj success)
      exact valid.of_sameRequests (@sameRequests_updateEvent .timeAndInterval _ db value index _)
  | modify flagsType start stop flags =>
      obtain ⟨rfl, _⟩ := Prod.mk.inj (Option.some.inj success)
      exact valid.of_sameRequests (db.sameRequests_modify flagsType start stop flags)
  | assignClassToAll type clazz =>
      obtain ⟨rfl, _⟩ := Prod.mk.inj (Option.some.inj success)
      exact valid.of_sameRequests (db.sameRequests_assignClassToRange type clazz _)
  | assignClassToRange type clazz range =>
      obtain ⟨rfl, _⟩ := Prod.mk.inj (Option.some.inj success)
      exact valid.of_sameRequests (db.sameRequests_assignClassToRange type clazz range)

/-- In every state reached from points of which nothing has ever been selected. -/
theorem Valid.of_reaches {start : DatabaseBuffers} (never : start.NeverSelected)
    (reached : machine.Reaches start db) : db.Valid :=
  reached.invariant never.valid fun valid _ success => valid.step success

end DatabaseBuffers

end updates

end OpenDnp3.Outstation
