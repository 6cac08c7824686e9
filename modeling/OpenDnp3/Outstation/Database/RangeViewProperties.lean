import OpenDnp3.Outstation.Database.DatabaseBuffers

/-!
# The range of the points still to be written

A range splits the points of a type into those before it, those in it and those
after it. The operations of a load move points from the front of the range to
those before it.
-/

set_option autoImplicit false

namespace OpenDnp3.App

namespace Range

theorem isValid_iff (range : Range) :
    range.isValid = true ↔ range.start.toNat ≤ range.stop.toNat := by
  rw [isValid, decide_eq_true_eq, UInt16.le_iff_toNat_le]

theorem start_succ_toNat {range : Range} (less : range.start.toNat < range.stop.toNat) :
    (range.start + 1).toNat = range.start.toNat + 1 := by
  have bound := range.stop.toNat_lt
  rw [UInt16.toNat_add, UInt16.toNat_one, Nat.mod_eq_of_lt (by omega)]

theorem advance_of_lt {range : Range} (less : range.start.toNat < range.stop.toNat) :
    range.advance = ⟨range.start + 1, range.stop⟩ := by
  rw [advance, if_pos ((isValid_iff range).mpr (Nat.le_of_lt less)),
    if_pos (UInt16.lt_iff_toNat_lt.mpr less)]

theorem advance_of_eq {range : Range} (equal : range.start.toNat = range.stop.toNat) :
    range.advance = invalid := by
  rw [advance, if_pos ((isValid_iff range).mpr (Nat.le_of_eq equal)),
    if_neg (fun less => absurd equal (Nat.ne_of_lt (UInt16.lt_iff_toNat_lt.mp less)))]

theorem start_intersection (range other : Range) :
    (range.intersection other).start.toNat = max range.start.toNat other.start.toNat := by
  change (if range.start ≤ other.start then other.start else range.start).toNat = _
  split <;> rename_i order <;> rw [UInt16.le_iff_toNat_le] at order <;> omega

theorem stop_intersection (range other : Range) :
    (range.intersection other).stop.toNat = min range.stop.toNat other.stop.toNat := by
  change (if range.stop ≤ other.stop then range.stop else other.stop).toNat = _
  split <;> rename_i order <;> rw [UInt16.le_iff_toNat_le] at order <;> omega

theorem start_union (range other : Range) :
    (range.union other).start.toNat = min range.start.toNat other.start.toNat := by
  change (if range.start ≤ other.start then range.start else other.start).toNat = _
  split <;> rename_i order <;> rw [UInt16.le_iff_toNat_le] at order <;> omega

theorem stop_union (range other : Range) :
    (range.union other).stop.toNat = max range.stop.toNat other.stop.toNat := by
  change (if range.stop ≤ other.stop then other.stop else range.stop).toNat = _
  split <;> rename_i order <;> rw [UInt16.le_iff_toNat_le] at order <;> omega

end Range

end OpenDnp3.App

namespace OpenDnp3.Outstation

open OpenDnp3.App OpenDnp3.Library

variable {type : StaticType}

/-- The virtual indices of points are strictly increasing. -/
def Increasing (cells : List (Cell type)) : Prop :=
  (cells.map Cell.vIndex).Pairwise (· < ·)

instance (cells : List (Cell type)) : Decidable (Increasing cells) :=
  inferInstanceAs (Decidable ((cells.map Cell.vIndex).Pairwise (· < ·)))

/-- The points of a list that are selected. -/
def pending (cells : List (Cell type)) : List (Cell type) :=
  cells.filter fun cell => cell.selection.selected

theorem pending_append (first second : List (Cell type)) :
    pending (first ++ second) = pending first ++ pending second :=
  List.filter_append ..

theorem pending_of_selected {cells : List (Cell type)}
    (selected : ∀ cell ∈ cells, cell.selection.selected = true) : pending cells = cells :=
  List.filter_eq_self.mpr selected

theorem pending_cons_selected {cell : Cell type} (selected : cell.selection.selected = true)
    (cells : List (Cell type)) : pending (cell :: cells) = cell :: pending cells :=
  List.filter_cons_of_pos selected

theorem pending_cons_unselected {cell : Cell type} (unselected : ¬cell.selection.selected = true)
    (cells : List (Cell type)) : pending (cell :: cells) = pending cells :=
  List.filter_cons_of_neg unselected

theorem pending_deselect (cells : List (Cell type)) :
    pending (cells.map Cell.deselect) = [] := by
  rw [pending, List.filter_eq_nil_iff]
  intro cell member
  obtain ⟨before, _, rfl⟩ := List.mem_map.mp member
  exact Bool.false_ne_true

/-- What is asked of a point: its index and what is selected of it. -/
def Cell.request (cell : Cell type) : UInt16 × SelectedValue type := (cell.vIndex, cell.selection)

theorem Increasing.congr {cells others : List (Cell type)} (increasing : Increasing cells)
    (same : others.map Cell.request = cells.map Cell.request) : Increasing others := by
  have indices := congrArg (List.map Prod.fst) same
  rw [List.map_map, List.map_map] at indices
  rw [Increasing] at increasing ⊢
  rwa [← show cells.map (Prod.fst ∘ Cell.request) = cells.map Cell.vIndex from rfl, ← indices]
    at increasing

theorem map_vIndex_deselect (cells : List (Cell type)) :
    (cells.map Cell.deselect).map Cell.vIndex = cells.map Cell.vIndex := by
  rw [List.map_map]
  rfl

namespace RangeView

/-- The points before the range, in it and after it. -/
structure Window (points : RangeView type) (before active after : List (Cell type)) : Prop where
  elements : points.view.elements = before ++ active ++ after
  covered : if active = [] then points.range = .invalid else
    points.range.start.toNat = before.length ∧
      points.range.stop.toNat + 1 = before.length + active.length

namespace Window

variable {points : RangeView type} {before active after : List (Cell type)} {cell : Cell type}

theorem of_cons (window : points.Window before (cell :: active) after) :
    points.range.start.toNat = before.length ∧
      points.range.stop.toNat = before.length + active.length := by
  have covered := window.covered
  rw [if_neg (List.cons_ne_nil cell active), List.length_cons] at covered
  omega

theorem isValid (window : points.Window before (cell :: active) after) :
    points.range.isValid = true := by
  obtain ⟨start, stop⟩ := window.of_cons
  rw [Range.isValid_iff]
  omega

theorem count (window : points.Window before active after) :
    points.range.count = active.length := by
  cases active with
  | nil =>
      have covered := window.covered
      rw [if_pos rfl] at covered
      rw [covered]
      rfl
  | cons cell active =>
      obtain ⟨start, stop⟩ := window.of_cons
      rw [Range.count, if_pos window.isValid, List.length_cons]
      omega

theorem front?_nil (window : points.Window before [] after) : points.front? = none := by
  have covered := window.covered
  rw [if_pos rfl] at covered
  rw [front?, covered]
  rfl

theorem front?_cons (window : points.Window before (cell :: active) after) :
    points.front? = some cell := by
  have elements := window.elements
  rw [List.append_assoc, List.cons_append] at elements
  rw [front?, if_pos window.isValid, window.of_cons.1, ArrayView.get?_split elements]

/-- Advancing over the first point, changed or not. -/
theorem advance (window : points.Window before (cell :: active) after)
    {view : ArrayView (Cell type)} {changed : Cell type}
    (elements : view.elements = before ++ changed :: (active ++ after)) :
    (⟨view, points.range.advance⟩ : RangeView type).Window (before ++ [changed]) active after := by
  obtain ⟨start, stop⟩ := window.of_cons
  refine ⟨by rw [elements]; simp, ?_⟩
  cases active with
  | nil =>
      rw [if_pos rfl, Range.advance_of_eq (by rw [start, stop]; rfl)]
  | cons next active =>
      have less : points.range.start.toNat < points.range.stop.toNat := by
        rw [start, stop, List.length_cons]
        omega
      rw [if_neg (List.cons_ne_nil next active), Range.advance_of_lt less,
        Range.start_succ_toNat less, start, stop]
      rw [List.length_append, List.length_singleton]
      exact ⟨rfl, Nat.add_right_comm ..⟩

theorem skip (window : points.Window before (cell :: active) after) :
    points.skip.Window (before ++ [cell]) active after :=
  window.advance (by rw [window.elements]; simp)

theorem take (window : points.Window before (cell :: active) after) :
    points.take.Window (before ++ [cell.deselect]) active after := by
  have elements := window.elements
  rw [List.append_assoc, List.cons_append] at elements
  refine window.advance ?_
  rw [window.of_cons.1]
  exact ArrayView.elements_modify_split elements Cell.deselect

/-- The virtual indices of the first point of the range and of the last. -/
theorem mapped (window : points.Window before (cell :: active) after) :
    points.mapped =
      ⟨cell.vIndex, ((cell :: active).getLast (List.cons_ne_nil _ _)).vIndex⟩ := by
  have elements := window.elements
  obtain ⟨start, stop⟩ := window.of_cons
  have first : points.view.get? points.range.start.toNat = some cell := by
    rw [List.append_assoc, List.cons_append] at elements
    rw [start, ArrayView.get?_split elements]
  have last : points.view.get? points.range.stop.toNat =
      some ((cell :: active).getLast (List.cons_ne_nil _ _)) := by
    have split := List.dropLast_append_getLast (List.cons_ne_nil cell active)
    have length : (before ++ (cell :: active).dropLast).length = points.range.stop.toNat := by
      rw [stop, List.length_append, List.length_dropLast, List.length_cons, Nat.add_sub_cancel]
    rw [← split, ← List.append_assoc, List.append_assoc, List.singleton_append] at elements
    rw [← length, ArrayView.get?_split elements]
  simp only [RangeView.mapped, first, last, Option.map_some, Option.getD_some]

end Window

/-- What a range covers: every selected point, and at its end one of them. -/
structure Covers (points : RangeView type) (before active after : List (Cell type)) : Prop
    extends points.Window before active after where
  beforeUnselected : pending before = []
  afterUnselected : pending after = []
  last : ∀ cell ∈ active.getLast?, cell.selection.selected = true

/-- The selected points lie in the range, and the last point of it is one of them. -/
structure Valid (points : RangeView type) : Prop where
  empty : points.range.isValid = false → points.range = .invalid
  selected : ∀ position cell, points.view.get? position = some cell →
    cell.selection.selected = true →
    points.range.start.toNat ≤ position ∧ position ≤ points.range.stop.toNat
  last : points.range.isValid = true → ∃ cell,
    points.view.get? points.range.stop.toNat = some cell ∧ cell.selection.selected = true

theorem Covers.pending {points : RangeView type} {before active after : List (Cell type)}
    (covers : points.Covers before active after) :
    Outstation.pending points.view.elements = Outstation.pending active := by
  rw [covers.elements, pending_append, pending_append, covers.beforeUnselected,
    covers.afterUnselected, List.nil_append, List.append_nil]

private theorem pending_eq_nil_of {cells : List (Cell type)}
    (unselected : ∀ (position : Nat) (cell : Cell type), cells[position]? = some cell →
      cell.selection.selected = true → False) : Outstation.pending cells = [] := by
  rw [Outstation.pending, List.filter_eq_nil_iff]
  intro cell member selected
  obtain ⟨position, found⟩ := List.mem_iff_getElem?.mp member
  exact unselected position cell found selected

theorem Valid.covers {points : RangeView type} (valid : points.Valid) :
    ∃ before active after, points.Covers before active after := by
  cases isValid : points.range.isValid with
  | false =>
      refine ⟨points.view.elements, [], [],
        ⟨by simp, by rw [if_pos rfl]; exact valid.empty isValid⟩, ?_, rfl, by simp⟩
      refine pending_eq_nil_of fun position cell found selected => ?_
      obtain ⟨above, below⟩ := valid.selected position cell found selected
      have ordered := (Range.isValid_iff points.range).mpr (Nat.le_trans above below)
      rw [isValid] at ordered
      cases ordered
  | true =>
      obtain ⟨last, found, selected⟩ := valid.last isValid
      have ordered := (Range.isValid_iff points.range).mp isValid
      obtain ⟨inside, value⟩ := List.getElem?_eq_some_iff.mp found
      let start := points.range.start.toNat
      let stop := points.range.stop.toNat
      have behind : points.view.elements.drop start =
          (points.view.elements.drop start).take (stop + 1 - start) ++
            points.view.elements.drop (stop + 1) := by
        have split := (List.take_append_drop (stop + 1 - start)
          (points.view.elements.drop start)).symm
        rwa [List.drop_drop, Nat.add_sub_cancel' (Nat.le_succ_of_le ordered)] at split
      have length : ((points.view.elements.drop start).take (stop + 1 - start)).length =
          stop + 1 - start := by
        rw [List.length_take, List.length_drop]
        omega
      refine ⟨points.view.elements.take start,
        (points.view.elements.drop start).take (stop + 1 - start),
        points.view.elements.drop (stop + 1), ⟨?_, ?_⟩, ?_, ?_, ?_⟩
      · rw [List.append_assoc, ← behind, List.take_append_drop]
      · rw [if_neg (List.ne_nil_of_length_pos (by omega)), length, List.length_take]
        omega
      · refine pending_eq_nil_of fun position cell found selected => ?_
        have bound := (List.getElem?_eq_some_iff.mp found).1
        rw [List.length_take] at bound
        rw [List.getElem?_take_of_lt (by omega)] at found
        have := (valid.selected position cell found selected).1
        omega
      · refine pending_eq_nil_of fun position cell found selected => ?_
        rw [List.getElem?_drop] at found
        have := (valid.selected _ cell found selected).2
        omega
      · intro cell member
        have final : ((points.view.elements.drop start).take (stop + 1 - start)).getLast? =
            some last := by
          rw [List.getLast?_eq_getElem?, length, List.getElem?_take_of_lt (by omega),
            List.getElem?_drop, ← found]
          exact congrArg (points.view.elements[·]?) (by omega)
        rw [Option.mem_def, final] at member
        rwa [← Option.some.inj member]

/-- A range that covers its points again is sound. -/
theorem Covers.valid {points : RangeView type} {before active after : List (Cell type)}
    (covers : points.Covers before active after) : points.Valid := by
  have elements := covers.elements
  have unselected : ∀ cells : List (Cell type), Outstation.pending cells = [] →
      ∀ cell ∈ cells, cell.selection.selected = true → False := by
    intro cells none cell member selected
    rw [Outstation.pending, List.filter_eq_nil_iff] at none
    exact none cell member selected
  refine ⟨?_, ?_, ?_⟩
  · intro isValid
    cases active with
    | nil =>
        have covered := covers.covered
        rwa [if_pos rfl] at covered
    | cons first active =>
        rw [covers.isValid] at isValid
        cases isValid
  · intro position cell found selected
    rw [ArrayView.get?, elements] at found
    by_cases inBefore : position < before.length
    · rw [List.append_assoc, List.getElem?_append_left inBefore] at found
      exact (unselected before covers.beforeUnselected cell (List.mem_of_getElem? found)
        selected).elim
    · by_cases inActive : position < before.length + active.length
      · cases active with
        | nil => exact absurd inActive inBefore
        | cons first active =>
            obtain ⟨start, stop⟩ := covers.of_cons
            rw [List.length_cons] at inActive
            omega
      · rw [List.getElem?_append_right (by rw [List.length_append]; omega)] at found
        exact (unselected after covers.afterUnselected cell (List.mem_of_getElem? found)
          selected).elim
  · intro isValid
    cases active with
    | nil =>
        have covered := covers.covered
        rw [if_pos rfl] at covered
        rw [covered] at isValid
        cases isValid
    | cons first active =>
        obtain ⟨start, stop⟩ := covers.of_cons
        have last := List.getLast?_eq_getLast_of_ne_nil (List.cons_ne_nil first active)
        refine ⟨_, ?_, covers.last _ last⟩
        rw [List.getLast?_eq_getElem?, List.length_cons, Nat.add_sub_cancel] at last
        rw [ArrayView.get?, elements, List.append_assoc,
          List.getElem?_append_right (by omega), stop, Nat.add_sub_cancel_left,
          List.getElem?_append_left (by rw [List.length_cons]; omega), last]

/-! ## Operations keep a range sound -/

/-- Points that are asked for as before. -/
theorem Valid.congr {points : RangeView type} (valid : points.Valid)
    {view : ArrayView (Cell type)}
    (same : view.elements.map Cell.request = points.view.elements.map Cell.request) :
    (⟨view, points.range⟩ : RangeView type).Valid := by
  have selected : ∀ position, (view.get? position).map Cell.request =
      (points.view.get? position).map Cell.request := by
    intro position
    have found := congrArg (·[position]?) same
    rwa [List.getElem?_map, List.getElem?_map] at found
  refine ⟨valid.empty, ?_, ?_⟩
  · intro position cell found chosen
    have other := selected position
    rw [show view.get? position = some cell from found, Option.map_some] at other
    obtain ⟨before, found, equal⟩ := Option.map_eq_some_iff.mp other.symm
    refine valid.selected position before found ?_
    rwa [show before.selection = cell.selection from congrArg Prod.snd equal]
  · intro isValid
    obtain ⟨cell, found, chosen⟩ := valid.last isValid
    have other := selected points.range.stop.toNat
    rw [found, Option.map_some] at other
    obtain ⟨after, found, equal⟩ := Option.map_eq_some_iff.mp other
    refine ⟨after, found, ?_⟩
    rwa [show after.selection = cell.selection from congrArg Prod.snd equal]

theorem stop_rangeOf_lt {size : Nat} (fits : size < 65536) {range : Range}
    (isValid : (range.intersection (rangeOf size)).isValid = true) :
    (range.intersection (rangeOf size)).stop.toNat < size := by
  rw [Range.isValid_iff, Range.start_intersection, Range.stop_intersection] at isValid
  rw [Range.stop_intersection]
  unfold rangeOf at isValid ⊢
  split at isValid
  · rename_i positive
    rw [if_pos positive]
    have stop : (UInt16.ofNat (size - 1)).toNat = size - 1 := by
      rw [UInt16.toNat_ofNat', Nat.mod_eq_of_lt (by omega)]
    simp only [stop]
    omega
  · have start : Range.invalid.start.toNat = 1 := rfl
    have stop : Range.invalid.stop.toNat = 0 := rfl
    rw [start, stop] at isValid
    omega

@[simp] theorem selected_select (variation : Option type.Variation) (cell : Cell type) :
    (cell.select variation).selection.selected = true := by
  unfold Cell.select
  split
  · assumption
  · rfl

theorem Valid.genericSelect {points : RangeView type} (valid : points.Valid) (range : Range)
    (variation : Option type.Variation) : (points.genericSelect range variation).2.Valid := by
  unfold RangeView.genericSelect
  split
  · simp only
    split
    · rename_i allowed
      have inside : (range.intersection (rangeOf points.view.size)).stop.toNat < points.view.size :=
        stop_rangeOf_lt points.view.fits allowed
      have ordered := (Range.isValid_iff _).mp allowed
      change (⟨points.modifyRange (range.intersection (rangeOf points.view.size))
        (Cell.select variation), points.range.union
          (range.intersection (rangeOf points.view.size))⟩ : RangeView type).Valid
      generalize range.intersection (rangeOf points.view.size) = allowed at inside ordered
      have start := Range.start_union points.range allowed
      have stop := Range.stop_union points.range allowed
      refine ⟨?_, ?_, ?_⟩
      · intro invalid
        have isValid : (points.range.union allowed).isValid = true := by
          rw [Range.isValid_iff]
          omega
        rw [isValid] at invalid
        cases invalid
      · intro position cell found selected
        change (points.view.modifyRange _ _ _).get? position = _ at found
        rw [ArrayView.get?_modifyRange] at found
        obtain ⟨before, present, rfl⟩ := Option.map_eq_some_iff.mp found
        by_cases chosen : allowed.start.toNat ≤ position ∧ position ≤ allowed.stop.toNat
        · dsimp only
          omega
        · rw [if_neg chosen] at selected
          have := valid.selected position before present selected
          dsimp only
          omega
      · intro _
        change ∃ cell, (points.view.modifyRange _ _ _).get? _ = _ ∧ _
        rw [ArrayView.get?_modifyRange, stop]
        by_cases beyond : points.range.stop.toNat ≤ allowed.stop.toNat
        · obtain ⟨cell, found⟩ : ∃ cell, points.view.get? allowed.stop.toNat = some cell :=
            ⟨_, List.getElem?_eq_getElem inside⟩
          refine ⟨cell.select variation, ?_, selected_select ..⟩
          rw [Nat.max_eq_right beyond, found, Option.map_some, if_pos ⟨ordered, Nat.le_refl _⟩]
        · have isValid : points.range.isValid = true := by
            cases isValid : points.range.isValid with
            | true => rfl
            | false =>
                rw [valid.empty isValid] at beyond
                exact absurd (Nat.zero_le _) beyond
          obtain ⟨cell, found, selected⟩ := valid.last isValid
          refine ⟨cell, ?_, selected⟩
          rw [Nat.max_eq_left (by omega), found, Option.map_some, if_neg (by omega)]
    · exact valid
  · exact valid

theorem Valid.selectVirtualRange {points : RangeView type} (valid : points.Valid)
    (indexMode : IndexMode) (range : Range) (variation : Option type.Variation) :
    (points.selectVirtualRange indexMode range variation).2.Valid := by
  cases indexMode with
  | contiguous => exact valid.genericSelect range variation
  | discontiguous =>
      simp only [RangeView.selectVirtualRange]
      split
      · exact valid.genericSelect _ variation
      · exact valid

/-- Deselecting the range deselects every point. -/
theorem Valid.deselect {points : RangeView type} (valid : points.Valid) :
    points.deselect.range = .invalid ∧ Outstation.pending points.deselect.view.elements = [] := by
  unfold RangeView.deselect
  split
  · refine ⟨rfl, pending_eq_nil_of fun position cell found selected => ?_⟩
    change (points.view.modifyRange _ _ _).get? position = some cell at found
    rw [ArrayView.get?_modifyRange] at found
    obtain ⟨before, present, rfl⟩ := Option.map_eq_some_iff.mp found
    by_cases covered : points.range.start.toNat ≤ position ∧ position ≤ points.range.stop.toNat
    · rw [if_pos covered] at selected
      cases selected
    · rw [if_neg covered] at selected
      exact covered (valid.selected position before present selected)
  · rename_i invalid
    have isValid := Bool.not_eq_true _ ▸ invalid
    refine ⟨valid.empty isValid, pending_eq_nil_of fun position cell found selected => ?_⟩
    obtain ⟨above, below⟩ := valid.selected position cell found selected
    exact invalid ((Range.isValid_iff _).mpr (Nat.le_trans above below))

/-- A range without points is sound when none is selected. -/
theorem valid_of_pending_eq_nil {points : RangeView type} (invalid : points.range = .invalid)
    (none : Outstation.pending points.view.elements = []) : points.Valid := by
  have isValid : points.range.isValid = false := by
    rw [invalid]
    rfl
  refine ⟨fun _ => invalid, ?_, ?_⟩
  · intro position cell found selected
    rw [Outstation.pending, List.filter_eq_nil_iff] at none
    exact (none cell (List.mem_of_getElem? found) selected).elim
  · rw [isValid]
    intro contradiction
    cases contradiction

end RangeView

end OpenDnp3.Outstation
