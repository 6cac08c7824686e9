import OpenDnp3.Outstation.Database.DatabaseMachine

/-!
# What a selection leaves behind

A point that is no longer selected still holds the value and the variation of
its last selection. Databases that differ in nothing else answer all inputs
alike. Whether an unselected database is like one of which nothing was ever
selected therefore depends on its ranges and its selected points only.
-/

set_option autoImplicit false

namespace OpenDnp3.Outstation

open OpenDnp3.App OpenDnp3.Library

variable {type : StaticType}

/-! ## Points -/

/-- A selection without what is left of it when it has ended. -/
def SelectedValue.normal (selection : SelectedValue type) : SelectedValue type :=
  if selection.selected then selection else .none type

def Cell.normal (cell : Cell type) : Cell type :=
  { cell with selection := cell.selection.normal }

theorem SelectedValue.selected_normal (selection : SelectedValue type) :
    selection.normal.selected = selection.selected := by
  rw [normal]
  split
  · rfl
  · rename_i unselected
    exact (Bool.not_eq_true _ ▸ unselected).symm

theorem Cell.normal_of_selected {cell : Cell type} (selected : cell.selection.selected = true) :
    cell.normal = cell := by
  rw [normal, SelectedValue.normal, if_pos selected]

section alike

variable {one two : Cell type}

theorem Cell.selected_eq_of_normal (same : one.normal = two.normal) :
    one.selection.selected = two.selection.selected := by
  have selections := congrArg (fun cell => cell.selection.selected) same
  simp only [normal, SelectedValue.selected_normal] at selections
  exact selections

theorem Cell.vIndex_eq_of_normal (same : one.normal = two.normal) : one.vIndex = two.vIndex :=
  congrArg (fun cell => cell.vIndex) same

theorem Cell.eq_of_normal (same : one.normal = two.normal)
    (selected : one.selection.selected = true) : one = two := by
  have other := (selected_eq_of_normal same).symm.trans selected
  rwa [normal_of_selected selected, normal_of_selected other] at same

/-- Two points that look the same differ in a selection that has ended. -/
theorem Cell.exists_of_normal (same : one.normal = two.normal) :
    ∃ selection : SelectedValue type, selection.normal = one.selection.normal ∧
      two = { one with selection } := by
  refine ⟨two.selection, (congrArg Cell.selection same).symm, ?_⟩
  rcases one with ⟨value, vIndex, svariation, event, selection⟩
  rcases two with ⟨_, _, _, _, other⟩
  obtain ⟨rfl, rfl, rfl, rfl, _⟩ := (Cell.mk.injEq ..).mp same
  rfl

theorem Cell.normal_deselect (same : one.normal = two.normal) :
    one.deselect.normal = two.deselect.normal := by
  obtain ⟨selection, _, rfl⟩ := exists_of_normal same
  rfl

theorem Cell.normal_select (same : one.normal = two.normal) (variation : Option type.Variation) :
    (one.select variation).normal = (two.select variation).normal := by
  have selected := selected_eq_of_normal same
  unfold Cell.select
  rw [← selected]
  split
  · exact same
  · obtain ⟨selection, _, rfl⟩ := exists_of_normal same
    rfl

theorem Cell.normal_assignClass (same : one.normal = two.normal) (clazz : PointClass) :
    (one.assignClass clazz).normal = (two.assignClass clazz).normal := by
  obtain ⟨selection, normal, rfl⟩ := exists_of_normal same
  simp only [Cell.normal, Cell.assignClass, normal]

end alike

theorem pending_eq_pending_normal (cells : List (Cell type)) :
    pending cells = pending (cells.map Cell.normal) := by
  induction cells with
  | nil => rfl
  | cons cell cells ih =>
      by_cases selected : cell.selection.selected = true
      · rw [List.map_cons, Cell.normal_of_selected selected, pending_cons_selected selected,
          pending_cons_selected selected, ih]
      · have unselected : ¬cell.normal.selection.selected = true := by
          rwa [Cell.normal, SelectedValue.selected_normal]
        rw [List.map_cons, pending_cons_unselected selected, pending_cons_unselected unselected, ih]

/-! ## Points of one type -/

/-- Points that differ only in selections that have ended. -/
structure RangeView.Alike (points other : RangeView type) : Prop where
  range : points.range = other.range
  view : points.view.Alike Cell.normal other.view

namespace RangeView

variable {points other : RangeView type}

theorem Alike.front? (alike : points.Alike other) :
    (points.front? = none ∧ other.front? = none) ∨
      ∃ one two, points.front? = some one ∧ other.front? = some two ∧
        one.normal = two.normal := by
  unfold RangeView.front?
  rw [← alike.range]
  split
  · exact alike.view.get? _
  · exact .inl ⟨rfl, rfl⟩

theorem Alike.skip (alike : points.Alike other) : points.skip.Alike other.skip :=
  ⟨congrArg Range.advance alike.range, alike.view⟩

theorem Alike.take (alike : points.Alike other) : points.take.Alike other.take := by
  refine ⟨congrArg Range.advance alike.range, ?_⟩
  unfold RangeView.take
  rw [← alike.range]
  exact alike.view.modify _ fun _ _ _ same => Cell.normal_deselect same

theorem Alike.mapped (alike : points.Alike other) : points.mapped = other.mapped := by
  have index : ∀ position : UInt16,
      ((points.view.get? position.toNat).map Cell.vIndex).getD 0 =
        ((other.view.get? position.toNat).map Cell.vIndex).getD 0 := by
    intro position
    rcases alike.view.get? position.toNat with ⟨absent, missing⟩ | ⟨one, two, found, present, same⟩
    · rw [absent, missing]
    · rw [found, present]
      exact Cell.vIndex_eq_of_normal same
  simp only [RangeView.mapped, ← alike.range, index]

theorem Alike.anySelected (alike : points.Alike other) (range : Range) :
    points.anySelected range = other.anySelected range := by
  have any : ∀ points : RangeView type, points.anySelected range =
      (((points.view.elements.map Cell.normal).take (range.stop.toNat + 1)).drop
        range.start.toNat).any fun cell => cell.selection.selected := by
    intro points
    rw [← List.map_take, ← List.map_drop, List.any_map]
    refine congrArg (List.any _) (funext fun cell => ?_)
    exact (SelectedValue.selected_normal cell.selection).symm
  rw [any, any, alike.view]

theorem Alike.genericSelect (alike : points.Alike other) (range : Range)
    (variation : Option type.Variation) :
    (points.genericSelect range variation).1 = (other.genericSelect range variation).1 ∧
      (points.genericSelect range variation).2.Alike (other.genericSelect range variation).2 := by
  unfold RangeView.genericSelect
  rw [← alike.view.size]
  split
  · simp only
    split
    · rw [alike.anySelected, ← alike.range]
      exact ⟨rfl, rfl, alike.view.modifyRange _ _ fun _ _ same => Cell.normal_select same variation⟩
    · exact ⟨rfl, alike⟩
  · exact ⟨rfl, alike⟩

end RangeView

theorem IndexSearch.search_alike {view other : ArrayView (Cell type)}
    (alike : view.Alike Cell.normal other) (vIndex : UInt16) (fuel lower upper midpoint : Nat) :
    search view vIndex fuel lower upper midpoint = search other vIndex fuel lower upper midpoint := by
  induction fuel generalizing lower upper midpoint with
  | zero => rfl
  | succ fuel ih =>
      rw [search, search]
      split
      · rcases alike.get? (getMidpoint lower upper) with
          ⟨absent, missing⟩ | ⟨one, two, found, present, same⟩
        · simp only [absent, missing]
        · have index : one.vIndex = two.vIndex := Cell.vIndex_eq_of_normal same
          simp only [found, present, index, ih]
      · rfl

theorem IndexSearch.findClosestRawIndex_alike {view other : ArrayView (Cell type)}
    (alike : view.Alike Cell.normal other) (vIndex : UInt16) :
    findClosestRawIndex view vIndex = findClosestRawIndex other vIndex := by
  rw [findClosestRawIndex, findClosestRawIndex, alike.size, search_alike alike]

theorem IndexSearch.findRawRange_alike {view other : ArrayView (Cell type)}
    (alike : view.Alike Cell.normal other) (range : Range) :
    findRawRange view range = findRawRange other range := by
  have any : ∀ (position : Nat) (holds : UInt16 → Bool),
      ((view.get? position).any fun cell => holds cell.vIndex) =
        (other.get? position).any fun cell => holds cell.vIndex := by
    intro position holds
    rcases alike.get? position with ⟨absent, missing⟩ | ⟨one, two, found, present, same⟩
    · rw [absent, missing]
    · rw [found, present]
      exact congrArg holds (Cell.vIndex_eq_of_normal same)
  have below := any (findClosestRawIndex other range.start).index
    fun index => decide (index < range.start)
  have above := any (findClosestRawIndex other range.stop).index
    fun index => decide (range.stop < index)
  unfold findRawRange
  simp only [findClosestRawIndex_alike alike, ArrayView.contains]
  rw [alike.size, below, above]
  -- what is left are the instances that decide the conditions
  congr

theorem RangeView.Alike.selectVirtualRange {points other : RangeView type}
    (alike : points.Alike other) (indexMode : IndexMode) (range : Range)
    (variation : Option type.Variation) :
    (points.selectVirtualRange indexMode range variation).1 =
        (other.selectVirtualRange indexMode range variation).1 ∧
      (points.selectVirtualRange indexMode range variation).2.Alike
        (other.selectVirtualRange indexMode range variation).2 := by
  cases indexMode with
  | contiguous => exact alike.genericSelect range variation
  | discontiguous =>
      simp only [RangeView.selectVirtualRange, IndexSearch.findRawRange_alike alike.view]
      split
      · obtain ⟨iin, selected⟩ :=
          alike.genericSelect (IndexSearch.findRawRange other.view range) variation
        exact ⟨congrArg (IINField.or _) iin, selected⟩
      · exact ⟨rfl, alike⟩

theorem RangeView.Alike.deselect {points other : RangeView type} (alike : points.Alike other) :
    points.deselect.Alike other.deselect := by
  unfold RangeView.deselect
  rw [← alike.range]
  split
  · refine ⟨rfl, ?_⟩
    unfold RangeView.modifyRange
    exact alike.view.modifyRange _ _ fun _ _ same => Cell.normal_deselect same
  · exact alike

/-! ## Loads -/

structure StaticRun.Alike {Iterator : Type} (run other : StaticRun type Iterator) : Prop where
  spaceRemaining : run.spaceRemaining = other.spaceRemaining
  numWritten : run.numWritten = other.numWritten
  iterator : run.iterator = other.iterator
  position : run.position = other.position
  points : run.points.Alike other.points

structure StaticLoad.Alike (load other : StaticLoad type) : Prop where
  spaceRemaining : load.spaceRemaining = other.spaceRemaining
  writer : load.writer = other.writer
  points : load.points.Alike other.points

theorem writeRun_alike {Iterator : Type}
    (write : Iterator → Cursor → type.Meas → Option (Iterator × Cursor))
    (goesOn : Cell type → Bool) (fuel : Nat) (next : UInt16) (iterator : Iterator)
    (position : Cursor) {points other : RangeView type} (alike : points.Alike other) :
    (writeRun write goesOn fuel next iterator position points).Alike
      (writeRun write goesOn fuel next iterator position other) := by
  induction fuel generalizing next iterator position points other with
  | zero => exact ⟨rfl, rfl, rfl, rfl, alike⟩
  | succ fuel ih =>
      rw [writeRun, writeRun]
      rcases alike.front? with ⟨absent, missing⟩ | ⟨one, two, found, present, same⟩
      · rw [absent, missing]
        exact ⟨rfl, rfl, rfl, rfl, alike⟩
      · simp only [found, present]
        by_cases selected : one.selection.selected = true
        · obtain rfl := Cell.eq_of_normal same selected
          split
          · split
            · exact ⟨rfl, rfl, rfl, rfl, alike⟩
            · rename_i iterator position _
              have run := ih (next + 1) iterator position alike.take
              exact ⟨run.spaceRemaining, congrArg (· + 1) run.numWritten, run.iterator,
                run.position, run.points⟩
          · exact ⟨rfl, rfl, rfl, rfl, alike⟩
        · have unselected := selected
          rw [Cell.selected_eq_of_normal same] at unselected
          simp only [selected, unselected, Bool.false_and, Bool.false_eq_true, if_false]
          exact ⟨rfl, rfl, rfl, rfl, alike⟩

section loading

variable {points other : RangeView type}

theorem writeWithSerializer_alike (serializer : DNP3Serializer type.Meas) (start : Cell type)
    (writer : HeaderWriter) (alike : points.Alike other) :
    (writeWithSerializer serializer start writer points).Alike
      (writeWithSerializer serializer start writer other) := by
  simp only [writeWithSerializer, alike.mapped, loadWithRangeIterator, ← alike.range]
  generalize writer.iterateOverRange _ _ _ _ = made
  have run := writeRun_alike RangeWriteIterator.write
    (fun cell => cell.selection.variation == start.selection.variation) points.range.count
    start.vIndex made.1 made.2.position alike
  exact ⟨run.spaceRemaining, by rw [run.iterator, run.position], run.points⟩

theorem writeOctetStrings_alike {points other : RangeView .octetString}
    (start : Cell .octetString) (writer : HeaderWriter) (alike : points.Alike other) :
    (writeOctetStrings start writer points).Alike (writeOctetStrings start writer other) := by
  simp only [writeOctetStrings, alike.mapped, writeSomeOctetString, ← alike.range]
  split
  · generalize writer.iterateOverRange _ _ _ _ = made
    have run := writeRun_alike RangeWriteIterator.write
      (fun cell : Cell .octetString =>
        cell.selection.value.size == (UInt8.ofNat start.selection.value.size).toNat &&
          cell.selection.variation == start.selection.variation)
      points.range.count start.vIndex made.1 made.2.position alike
    exact ⟨by simp only [run.spaceRemaining, run.numWritten],
      by simp only [run.iterator, run.position], run.points⟩
  · exact ⟨rfl, rfl, alike⟩

theorem writeSingleBitfield_alike {points other : RangeView .binary} {id : GroupVariationID}
    (start : Cell .binary) (writer : HeaderWriter) (alike : points.Alike other) :
    (writeSingleBitfield id start writer points).Alike
      (writeSingleBitfield id start writer other) := by
  simp only [writeSingleBitfield, alike.mapped, loadWithBitfieldIterator, ← alike.range]
  generalize writer.iterateOverSingleBitfield _ _ _ _ = made
  have run := writeRun_alike
    (fun (iterator : BitfieldRangeWriteIterator) position (meas : Binary) =>
      iterator.write position meas.value)
    (fun cell => cell.selection.variation == start.selection.variation) points.range.count
    start.vIndex made.1 made.2.position alike
  exact ⟨run.spaceRemaining, by simp only [run.iterator, run.position], run.points⟩

variable [FloatOps]

theorem StaticWriters.get_alike (variation : type.Variation) (start : Cell type)
    (writer : HeaderWriter) (alike : points.Alike other) :
    (StaticWriters.get type variation start writer points).Alike
      (StaticWriters.get type variation start writer other) := by
  by_cases octets : type = .octetString
  · subst octets
    cases variation with
    | group110Var0 => exact writeOctetStrings_alike start writer alike
  · cases packed : isPacked type variation with
    | false =>
        obtain ⟨descriptor, fixed⟩ := exists_isFixedSize type variation octets packed
        rw [fixed.write]
        exact writeWithSerializer_alike descriptor.inst start writer alike
    | true =>
        cases type with
        | binary =>
            cases variation with
            | group1Var1 => exact writeSingleBitfield_alike start writer alike
            | group1Var2 => cases packed
        | doubleBitBinary | counter | frozenCounter | analog | binaryOutputStatus
        | analogOutputStatus | timeAndInterval | octetString => cases packed

theorem RangeView.Alike.loadType (alike : points.Alike other) (fuel : Nat)
    (writer : HeaderWriter) :
    Option.Rel StaticLoad.Alike (points.loadType fuel writer) (other.loadType fuel writer) := by
  induction fuel generalizing points other writer with
  | zero => exact .none
  | succ fuel ih =>
      rw [RangeView.loadType, RangeView.loadType]
      rcases alike.front? with ⟨absent, missing⟩ | ⟨one, two, found, present, same⟩
      · rw [absent, missing]
        exact .some ⟨rfl, rfl, alike⟩
      · simp only [found, present]
        by_cases selected : one.selection.selected = true
        · obtain rfl := Cell.eq_of_normal same selected
          have load := StaticWriters.get_alike one.selection.variation one writer alike
          rw [if_pos selected, if_pos selected, load.spaceRemaining, load.writer]
          split
          · exact ih load.points _
          · exact .some load
        · have unselected := selected
          rw [Cell.selected_eq_of_normal same] at unselected
          rw [if_neg selected, if_neg unselected]
          exact ih alike.skip writer

end loading

/-! ## Updates -/

section updates

variable [FloatOps] {one two : Cell type}

/-- An update of a point does not depend on what is selected of it. -/
theorem Cell.updateAny_selection (cell : Cell type) (selection : SelectedValue type)
    (value : type.Meas) (mode : EventMode) :
    ({ cell with selection } : Cell type).updateAny value mode =
      ({ (cell.updateAny value mode).1 with selection }, (cell.updateAny value mode).2) := by
  have created : ({ cell with selection } : Cell type).tryCreateEvent value =
      ({ (cell.tryCreateEvent value).1 with selection }, (cell.tryCreateEvent value).2) := by
    rcases cell with ⟨_, _, _, event, _⟩
    cases event with
    | none => rfl
    | some event =>
        simp only [Cell.tryCreateEvent]
        split <;> rfl
  cases mode with
  | force => simp only [Cell.updateAny, created]
  | eventOnly => simp only [Cell.updateAny, created]
  | detect =>
      simp only [Cell.updateAny, created]
      split <;> rfl
  | suppress => rfl

theorem Cell.updateAny_alike (same : one.normal = two.normal) (value : type.Meas)
    (mode : EventMode) :
    (one.updateAny value mode).1.normal = (two.updateAny value mode).1.normal ∧
      (one.updateAny value mode).2 = (two.updateAny value mode).2 := by
  obtain ⟨selection, normal, rfl⟩ := Cell.exists_of_normal same
  have kept : (one.updateAny value mode).1.selection = one.selection :=
    congrArg Prod.snd (one.request_updateAny value mode)
  rw [Cell.updateAny_selection one selection]
  exact ⟨by simp only [Cell.normal, normal, kept], rfl⟩

theorem modifyFlags_alike (flags : UInt8) (positions : List Nat)
    {view other : ArrayView (Cell type)} (alike : view.Alike Cell.normal other) :
    (modifyFlags flags positions view).1.Alike Cell.normal (modifyFlags flags positions other).1 ∧
      (modifyFlags flags positions view).2 = (modifyFlags flags positions other).2 := by
  induction positions generalizing view other with
  | nil => exact ⟨alike, rfl⟩
  | cons position positions ih =>
      rw [modifyFlags, modifyFlags]
      rcases alike.get? position with ⟨absent, missing⟩ | ⟨one, two, found, present, same⟩
      · simp only [absent, missing]
        exact ih alike
      · have value : one.value = two.value := congrArg (fun cell => cell.value) same
        have updated := Cell.updateAny_alike same (setFlags type flags one.value) .detect
        simp only [found, present, ← value]
        obtain ⟨views, events⟩ := ih (alike.modify position fun _ _ _ _ => updated.1)
        exact ⟨views, by rw [updated.2, events]⟩

end updates

/-! ## Databases -/

namespace DatabaseBuffers

/-- Databases that differ only in selections that have ended. -/
structure Alike (db other : DatabaseBuffers) : Prop where
  points : ∀ type, (db.points type).Alike (other.points type)
  class0 : db.class0 = other.class0
  indexMode : db.indexMode = other.indexMode

variable {db other : DatabaseBuffers}

theorem Alike.setPoints (alike : db.Alike other) {points replacement : RangeView type}
    (changed : points.Alike replacement) :
    (db.setPoints type points).Alike (other.setPoints type replacement) := by
  refine ⟨fun place => ?_, alike.class0, alike.indexMode⟩
  by_cases same : place = type
  · subst same
    rwa [points_setPoints_self, points_setPoints_self]
  · rw [points_setPoints_of_ne db _ same, points_setPoints_of_ne other _ same]
    exact alike.points place

theorem Alike.setView (alike : db.Alike other) {view replacement : ArrayView (Cell type)}
    (changed : view.Alike Cell.normal replacement) :
    (db.setView type view).Alike (other.setView type replacement) :=
  alike.setPoints ⟨(alike.points type).range, changed⟩

theorem Alike.selectAll (alike : db.Alike other) (gv : GroupVariation) :
    (db.selectAll gv).1 = (other.selectAll gv).1 ∧
      (db.selectAll gv).2.Alike (other.selectAll gv).2 := by
  have ofType : ∀ {db other : DatabaseBuffers}, db.Alike other → ∀ (type : StaticType)
      (variation : Option type.Variation),
      ((db.points type).selectAll variation).1 = ((other.points type).selectAll variation).1 ∧
        (db.setPoints type ((db.points type).selectAll variation).2).Alike
          (other.setPoints type ((other.points type).selectAll variation).2) := by
    intro db other alike type variation
    unfold RangeView.selectAll
    rw [← (alike.points type).view.size]
    obtain ⟨iin, selected⟩ := (alike.points type).genericSelect
      (rangeOf (db.points type).view.size) variation
    exact ⟨iin, alike.setPoints selected⟩
  unfold DatabaseBuffers.selectAll
  split
  · refine ⟨rfl, ?_⟩
    have all : ∀ (types : List StaticType) {db other : DatabaseBuffers}, db.Alike other →
        (types.foldl selectAllClass0 db).Alike (types.foldl selectAllClass0 other) := by
      intro types
      induction types with
      | nil => exact fun alike => alike
      | cons type types ih =>
          intro db other alike
          rw [List.foldl_cons, List.foldl_cons]
          apply ih
          unfold selectAllClass0
          rw [← alike.class0]
          split
          · exact (ofType alike type none).2
          · exact alike
    exact all _ alike
  · split
    · exact ofType alike _ _
    · exact ⟨rfl, alike⟩

theorem Alike.selectRange (alike : db.Alike other) (gv : GroupVariation) (range : Range) :
    (db.selectRange gv range).1 = (other.selectRange gv range).1 ∧
      (db.selectRange gv range).2.Alike (other.selectRange gv range).2 := by
  unfold DatabaseBuffers.selectRange
  simp only [← alike.indexMode]
  split
  · rename_i type variation _
    obtain ⟨iin, selected⟩ :=
      (alike.points type).selectVirtualRange db.indexMode range variation
    exact ⟨iin, alike.setPoints selected⟩
  · exact ⟨rfl, alike⟩

theorem Alike.unselect (alike : db.Alike other) : db.unselect.Alike other.unselect := by
  have all : ∀ (types : List StaticType) {db other : DatabaseBuffers}, db.Alike other →
      (types.foldl (fun db type => db.setPoints type (db.points type).deselect) db).Alike
        (types.foldl (fun db type => db.setPoints type (db.points type).deselect) other) := by
    intro types
    induction types with
    | nil => exact fun alike => alike
    | cons type types ih =>
        intro db other alike
        exact ih (alike.setPoints (alike.points type).deselect)
  exact all _ alike

theorem Alike.getRawIndex (alike : db.Alike other) (type : StaticType) (index : UInt16) :
    db.getRawIndex type index = other.getRawIndex type index := by
  unfold DatabaseBuffers.getRawIndex
  rw [← alike.indexMode, IndexSearch.findClosestRawIndex_alike (alike.points type).view]

theorem Alike.assignClassToRange (alike : db.Alike other) (type : AssignClassType)
    (clazz : PointClass) (range : Range) :
    (db.assignClassToRange type clazz range).1 = (other.assignClassToRange type clazz range).1 ∧
      (db.assignClassToRange type clazz range).2.Alike
        (other.assignClassToRange type clazz range).2 := by
  have points := alike.points type.staticType
  simp only [DatabaseBuffers.assignClassToRange, RangeView.assignClassTo, ← points.view.size]
  refine ⟨trivial, alike.setPoints ⟨points.range, ?_⟩⟩
  exact points.view.modifyRange _ _ fun _ _ same => Cell.normal_assignClass same clazz

/-- The same points, as if nothing had ever been selected of them. -/
def forgetSelections (db : DatabaseBuffers) : DatabaseBuffers :=
  { db with
    points := fun type =>
      ⟨(db.points type).view.map fun cell => { cell with selection := .none type }, .invalid⟩ }

theorem neverSelected_forgetSelections (db : DatabaseBuffers) :
    db.forgetSelections.NeverSelected := by
  refine ⟨fun _ => rfl, fun type cell member => ?_⟩
  obtain ⟨_, _, rfl⟩ := List.mem_map.mp member
  rfl

/-- Points of which none is selected are like points of which none ever was. -/
private theorem alike_forgetSelections {points : RangeView type} (range : points.range = .invalid)
    (none : pending points.view.elements = []) :
    points.Alike ⟨points.view.map fun cell => { cell with selection := .none type }, .invalid⟩ := by
  refine ⟨range, ?_⟩
  change points.view.elements.map Cell.normal = (points.view.elements.map _).map Cell.normal
  rw [List.map_map]
  refine List.map_congr_left fun cell member => ?_
  have unselected := List.filter_eq_nil_iff.mp none cell member
  rw [Function.comp_apply, Cell.normal, SelectedValue.normal, if_neg unselected]
  rfl

section machine

variable [FloatOps]

/-- Updates that leave the same events, and databases that are alike. -/
structure Updated.Alike (updated other : Updated) : Prop where
  found : updated.found = other.found
  buffers : updated.buffers.Alike other.buffers
  events : updated.events = other.events

theorem Alike.updateEvent (alike : db.Alike other) (value : type.Meas) (index : UInt16)
    (mode : EventMode) :
    (db.updateEvent type value index mode).Alike (other.updateEvent type value index mode) := by
  have view := (alike.points type).view
  simp only [DatabaseBuffers.updateEvent, ← alike.getRawIndex]
  rcases view.get? (db.getRawIndex type index) with
    ⟨absent, missing⟩ | ⟨one, two, found, present, same⟩
  · simp only [absent, missing]
    exact ⟨rfl, alike, rfl⟩
  · have updated := Cell.updateAny_alike same value mode
    simp only [found, present]
    exact ⟨rfl, alike.setView (view.modify _ fun _ _ _ _ => updated.1), by rw [updated.2]⟩

theorem Alike.modify (alike : db.Alike other) (flagsType : FlagsType) (start stop : UInt16)
    (flags : UInt8) :
    (db.modify flagsType start stop flags).Alike (other.modify flagsType start stop flags) := by
  have view := (alike.points flagsType.staticType).view
  have contains : ∀ position, (other.points flagsType.staticType).view.contains position =
      (db.points flagsType.staticType).view.contains position := by
    intro position
    rw [ArrayView.contains, ArrayView.contains, view.size]
  simp only [DatabaseBuffers.modify, ← alike.getRawIndex]
  rw [contains, contains]
  split
  · obtain ⟨views, events⟩ := modifyFlags_alike flags (List.range'
      (db.getRawIndex flagsType.staticType start)
      (db.getRawIndex flagsType.staticType stop -
        db.getRawIndex flagsType.staticType start + 1)) view
    exact ⟨rfl, alike.setView views, events⟩
  · exact ⟨rfl, alike, rfl⟩

/-- Loads that leave the same bytes, and databases that are alike. -/
structure Load.Alike (load other : Load) : Prop where
  complete : load.complete = other.complete
  writer : load.writer = other.writer
  buffers : load.buffers.Alike other.buffers

theorem Alike.loadPoints (alike : db.Alike other) (type : StaticType) (writer : HeaderWriter) :
    Option.Rel Load.Alike (db.loadPoints type writer) (other.loadPoints type writer) := by
  unfold DatabaseBuffers.loadPoints
  rw [← (alike.points type).range]
  have loaded := (alike.points type).loadType ((db.points type).range.count + 1) writer
  generalize (db.points type).loadType _ writer = one at loaded ⊢
  generalize (other.points type).loadType _ writer = two at loaded ⊢
  cases loaded with
  | none => exact .none
  | some same => exact .some ⟨same.spaceRemaining, same.writer, alike.setPoints same.points⟩

theorem Alike.loadTypes (alike : db.Alike other) (types : List StaticType)
    (writer : HeaderWriter) :
    Option.Rel Load.Alike (loadTypes types writer db) (loadTypes types writer other) := by
  induction types generalizing db other writer with
  | nil => exact .some ⟨rfl, rfl, alike⟩
  | cons type types ih =>
      have loaded := alike.loadPoints type writer
      unfold DatabaseBuffers.loadTypes
      generalize db.loadPoints type writer = one at loaded ⊢
      generalize other.loadPoints type writer = two at loaded ⊢
      cases loaded with
      | none => exact .none
      | some same =>
          simp only [Option.bind_some, same.complete, same.writer]
          split
          · exact ih same.buffers _
          · exact .some same

/-- Databases that are alike answer every input alike. -/
theorem bisimulation_alike : machine.Bisimulation machine Alike where
  step := by
    intro db other input alike
    cases input with
    | selectAll gv =>
        obtain ⟨iin, selected⟩ := alike.selectAll gv
        exact .some ⟨selected, congrArg DatabaseOutput.selected iin⟩
    | selectRange gv range =>
        obtain ⟨iin, selected⟩ := alike.selectRange gv range
        exact .some ⟨selected, congrArg DatabaseOutput.selected iin⟩
    | unselect => exact .some ⟨alike.unselect, rfl⟩
    | load writer =>
        have loaded := alike.loadTypes loadOrder writer
        simp only [machine, load]
        generalize loadTypes loadOrder writer db = one at loaded ⊢
        generalize loadTypes loadOrder writer other = two at loaded ⊢
        cases loaded with
        | none => exact .none
        | some same =>
            exact .some ⟨same.buffers, by simp only [same.complete, same.writer]⟩
    | update type value index mode =>
        have updated := alike.updateEvent value index mode
        exact .some ⟨updated.buffers, by simp only [updated.found, updated.events]⟩
    | updateTimeAndInterval value index =>
        have updated := @Alike.updateEvent .timeAndInterval _ _ _ alike value index .suppress
        exact .some ⟨updated.buffers, by
          simp only [updateTimeAndInterval, updated.found, updated.events]⟩
    | modify flagsType start stop flags =>
        have updated := alike.modify flagsType start stop flags
        exact .some ⟨updated.buffers, by simp only [updated.found, updated.events]⟩
    | assignClassToAll type clazz =>
        have size := (alike.points type.staticType).view.size
        simp only [machine, assignClassToAll, ← size]
        obtain ⟨clipped, assigned⟩ := alike.assignClassToRange type clazz
          (rangeOf (db.points type.staticType).view.size)
        exact .some ⟨assigned, congrArg DatabaseOutput.assigned clipped⟩
    | assignClassToRange type clazz range =>
        obtain ⟨clipped, assigned⟩ := alike.assignClassToRange type clazz range
        exact .some ⟨assigned, congrArg DatabaseOutput.assigned clipped⟩

/-! ## What Unselect leaves -/

/-- Two databases that give the same outputs on all inputs, and have the same points selected
afterwards. -/
def Indistinguishable (db other : DatabaseBuffers) : Prop :=
  ∀ inputs, Option.Rel
    (fun one two => one.2 = two.2 ∧ ∀ type,
      pending (one.1.points type).view.elements = pending (two.1.points type).view.elements)
    (machine.run db inputs) (machine.run other inputs)

theorem Alike.indistinguishable (alike : db.Alike other) : Indistinguishable db other := by
  intro inputs
  have runs := bisimulation_alike.run inputs alike
  generalize machine.run db inputs = one at runs ⊢
  generalize machine.run other inputs = two at runs ⊢
  cases runs with
  | none => exact .none
  | some same =>
      refine .some ⟨same.2, fun type => ?_⟩
      exact (pending_eq_pending_normal _).trans
        ((congrArg pending (same.1.points type).view).trans (pending_eq_pending_normal _).symm)

/-- After Unselect, a database answers like one of which nothing was ever selected exactly when
no octet string was still selected. -/
theorem indistinguishable_unselect_iff {start : DatabaseBuffers} (never : start.NeverSelected)
    (reached : machine.Reaches start db) :
    Indistinguishable db.unselect db.unselect.forgetSelections ↔
      pending (db.points .octetString).view.elements = [] := by
  have valid := Valid.of_reaches never reached
  constructor
  · intro same
    have now := same []
    cases now with
    | some same =>
        have octets := same.2 .octetString
        rw [points_unselect, if_pos rfl] at octets
        rw [octets, pending, List.filter_eq_nil_iff]
        intro cell member
        rw [(neverSelected_forgetSelections db.unselect).cells .octetString cell member]
        exact Bool.false_ne_true
  · intro none
    refine Alike.indistinguishable ⟨fun type => ?_, rfl, rfl⟩
    refine alike_forgetSelections ?_ ?_
    · rw [points_unselect]
      split
      · rename_i octets
        subst octets
        refine (valid .octetString).empty ?_
        cases isValid : (db.points .octetString).range.isValid with
        | false => rfl
        | true =>
            obtain ⟨cell, found, selected⟩ := (valid .octetString).last isValid
            exact absurd selected (List.filter_eq_nil_iff.mp none cell (List.mem_of_getElem? found))
      · exact (valid type).deselect.1
    · rw [points_unselect]
      split
      · rename_i octets
        subst octets
        exact none
      · exact (valid type).deselect.2

end machine

/-- A binary that was read is like one that never was. -/
theorem indistinguishable_unselect_binary :
    @Indistinguishable .atZero ((single .binary ⟨true, 1, 0⟩).selectAll .group1Var0).2.unselect
      ((single .binary ⟨true, 1, 0⟩).selectAll .group1Var0).2.unselect.forgetSelections :=
  (@indistinguishable_unselect_iff _ .atZero _ (neverSelected_single .binary ⟨true, 1, 0⟩)
    (.step .start trivial (rfl : (@machine .atZero).step _ (.selectAll .group1Var0) = some _))).mpr rfl

/-- An octet string is still selected after Unselect. -/
theorem octetString_selected_after_unselect :
    ∃ db, (@machine .atZero).Reaches (single .octetString .zero) db ∧
      ¬@Indistinguishable .atZero db.unselect db.unselect.forgetSelections := by
  refine ⟨_, .step .start trivial
    (rfl : (@machine .atZero).step _ (.selectAll .group110Var0) = some _), ?_⟩
  intro same
  have now := same []
  cases now with
  | some same =>
      have octets := congrArg List.length (same.2 .octetString)
      revert octets
      decide

end DatabaseBuffers

end OpenDnp3.Outstation
