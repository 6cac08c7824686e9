import OpenDnp3.Library.Bisection
import OpenDnp3.Outstation.Database.RangeViewProperties

/-!
# Properties of the index search

The search ends at a point whose index is closest, and the range that is found
holds the points whose indices were asked for. On 16 bit bounds nothing wraps.
-/

set_option autoImplicit false

namespace OpenDnp3.Outstation

open OpenDnp3.App OpenDnp3.Library

/-- Whether an index is asked for. -/
def Holds (range : Range) (index : Nat) : Prop :=
  range.start.toNat ≤ index ∧ index ≤ range.stop.toNat

instance (range : Range) (index : Nat) : Decidable (Holds range index) :=
  inferInstanceAs (Decidable (_ ∧ _))

variable {type : StaticType}

/-- The virtual indices of points. -/
def keys (view : ArrayView (Cell type)) : List Nat :=
  view.elements.map fun cell => cell.vIndex.toNat

theorem length_keys (view : ArrayView (Cell type)) : (keys view).length = view.size :=
  List.length_map ..

theorem getElem?_keys {view : ArrayView (Cell type)} {position : Nat} {cell : Cell type}
    (found : view.get? position = some cell) : (keys view)[position]? = some cell.vIndex.toNat := by
  rw [keys, List.getElem?_map]
  exact congrArg (Option.map _) found

theorem increasing_keys {view : ArrayView (Cell type)} (increasing : Increasing view.elements) :
    (keys view).Pairwise (· < ·) := by
  rw [keys, List.pairwise_map]
  exact (List.pairwise_map.mp increasing).imp UInt16.lt_iff_toNat_lt.mp

theorem exists_get? {view : ArrayView (Cell type)} {position : Nat}
    (inside : position < view.size) : ∃ cell, view.get? position = some cell :=
  ⟨_, List.getElem?_eq_getElem inside⟩

namespace IndexSearch

theorem le_getMidpoint {lower upper : Nat} : lower ≤ getMidpoint lower upper := by
  rw [getMidpoint]
  omega

theorem getMidpoint_le {lower upper : Nat} (within : lower ≤ upper) :
    getMidpoint lower upper ≤ upper := by
  rw [getMidpoint]
  omega

/-! ## The closest point -/

theorem search_closest {view : ArrayView (Cell type)} (increasing : Increasing view.elements)
    (vIndex : UInt16) {fuel lower upper midpoint : Nat}
    (brackets : Brackets (keys view) vIndex.toNat lower upper) (enough : upper + 1 - lower ≤ fuel)
    (crossed : upper < lower → midpoint < view.size ∧ (midpoint = upper ∨ midpoint = lower)) :
    Closest (keys view) vIndex.toNat (search view vIndex fuel lower upper midpoint).index := by
  have sorted := increasing_keys increasing
  induction fuel generalizing lower upper midpoint with
  | zero =>
      have past : upper < lower := by omega
      obtain ⟨inside, last⟩ := crossed past
      exact brackets.closest past (by rwa [length_keys]) last
  | succ fuel ih =>
      unfold search
      split
      · rename_i within
        have least := @le_getMidpoint lower upper
        have most := getMidpoint_le within
        have inside := brackets.inside
        rw [length_keys] at inside
        obtain ⟨cell, found⟩ := exists_get? (show getMidpoint lower upper < view.size by omega)
        have key := getElem?_keys found
        have fits := view.fits
        change view.size < 65536 at fits
        simp only [found]
        split
        · rename_i same
          rw [same] at key
          exact .of_found sorted key
        · rename_i different
          split
          · rename_i less
            rw [if_pos (by omega)]
            have raised := brackets.raise sorted key (UInt16.lt_iff_toNat_lt.mp less) most
            refine ih raised (by omega) ?_
            intro past
            exact ⟨by omega, .inl (by omega)⟩
          · rename_i notLess
            have more : vIndex.toNat < cell.vIndex.toNat := by
              have unequal : vIndex.toNat ≠ cell.vIndex.toNat :=
                fun same => different (UInt16.toNat_inj.mp same.symm)
              have least := UInt16.not_lt.mp notLess
              rw [UInt16.le_iff_toNat_le] at least
              omega
            split
            · rename_i positive
              refine ih (brackets.descend sorted key more least positive.2) (by omega) ?_
              intro past
              exact ⟨by omega, .inr (by omega)⟩
            · rename_i first
              have zero : getMidpoint lower upper = 0 := by omega
              rw [zero] at key ⊢
              exact .of_first sorted key more
      · rename_i past
        obtain ⟨inside, last⟩ := crossed (by omega)
        exact brackets.closest (by omega) (by rwa [length_keys]) last

theorem findClosestRawIndex_closest {view : ArrayView (Cell type)}
    (increasing : Increasing view.elements) (nonempty : 0 < view.size) (vIndex : UInt16) :
    Closest (keys view) vIndex.toNat (findClosestRawIndex view vIndex).index := by
  have whole : Brackets (keys view) vIndex.toNat 0 (view.size - 1) := by
    rw [← length_keys]
    exact .whole (by rwa [length_keys])
  rw [findClosestRawIndex, if_neg (by omega)]
  exact search_closest increasing vIndex whole (by omega) (by omega)

/-! ## The range that is found -/

theorem not_holds_invalid (index : Nat) : ¬Holds .invalid index := by
  rintro ⟨least, most⟩
  simp only [Range.invalid, UInt16.reduceToNat] at least most
  omega

theorem findRawRange_of_empty {view : ArrayView (Cell type)} {range : Range}
    (empty : range.isValid = false ∨ view.size = 0) : findRawRange view range = .invalid := by
  rw [findRawRange, if_neg]
  rintro both
  obtain ⟨valid, nonempty⟩ := Bool.and_eq_true_iff.mp both
  obtain invalid | none := empty
  · cases invalid.symm.trans valid
  · simp [none] at nonempty

/-- Both ends of the range are found from the closest points. -/
theorem findRawRange_cases {view : ArrayView (Cell type)} (increasing : Increasing view.elements)
    {range : Range} (valid : range.isValid = true) (nonempty : 0 < view.size) :
    ∃ start stop, (∀ {position cell}, view.get? position = some cell →
        (start ≤ position ↔ range.start.toNat ≤ cell.vIndex.toNat)) ∧
      (∀ {position cell}, view.get? position = some cell →
        (position < stop ↔ cell.vIndex.toNat ≤ range.stop.toNat)) ∧
      stop ≤ view.size ∧
      findRawRange view range =
        if start < view.size ∧ 0 < stop then ⟨UInt16.ofNat start, UInt16.ofNat (stop - 1)⟩
        else .invalid := by
  have first := findClosestRawIndex_closest increasing nonempty range.start
  have last := findClosestRawIndex_closest increasing nonempty range.stop
  have fits := view.fits
  change view.size < 65536 at fits
  rw [findRawRange, if_pos (by simp [valid]; omega)]
  dsimp only
  generalize (findClosestRawIndex view range.start).index = start at first ⊢
  generalize (findClosestRawIndex view range.stop).index = stop at last ⊢
  have startInside := first.inside
  have stopInside := last.inside
  rw [length_keys] at startInside stopInside
  obtain ⟨low, foundLow⟩ := exists_get? startInside
  obtain ⟨high, foundHigh⟩ := exists_get? stopInside
  have startIff := fun {position : Nat} {cell : Cell type}
    (found : view.get? position = some cell) =>
      first.first_iff (getElem?_keys foundLow) (getElem?_keys found)
  have stopIff := fun {position : Nat} {cell : Cell type}
    (found : view.get? position = some cell) =>
      last.last_iff (getElem?_keys foundHigh) (getElem?_keys found)
  refine ⟨_, _, startIff, stopIff, ?_, ?_⟩
  · split <;> omega
  simp only [foundLow, foundHigh, Option.any_some, UInt16.lt_iff_toNat_lt]
  have low : (decide (low.vIndex.toNat < range.start.toNat) && decide (65535 ≤ start)) = false := by
    simp
    omega
  rw [low, if_neg Bool.false_ne_true]
  by_cases above : range.stop.toNat < high.vIndex.toNat
  · by_cases zero : stop = 0
    · subst zero
      simp [above]
    · have stays : (decide (range.stop.toNat < high.vIndex.toNat) && decide (stop = 0)) = false := by
        simp [zero]
      rw [stays, if_neg Bool.false_ne_true, if_pos above]
      simp only [above, decide_true, if_true, decide_eq_true_eq, ArrayView.contains,
        Bool.and_eq_true]
      refine if_congr ?_ rfl rfl
      omega
  · have stays : (decide (range.stop.toNat < high.vIndex.toNat) && decide (stop = 0)) = false := by
      simp [above]
    rw [stays, if_neg Bool.false_ne_true, if_neg above]
    simp only [above, decide_false, Bool.false_eq_true, if_false, decide_eq_true_eq,
      ArrayView.contains, Bool.and_eq_true, Nat.add_sub_cancel]
    refine if_congr ?_ rfl rfl
    omega

/-- The points that are found are those whose indices are asked for. -/
theorem holds_findRawRange {view : ArrayView (Cell type)} (increasing : Increasing view.elements)
    (range : Range) {position : Nat} {cell : Cell type} (found : view.get? position = some cell) :
    Holds (findRawRange view range) position ↔ Holds range cell.vIndex.toNat := by
  have inside : position < view.size := (List.getElem?_eq_some_iff.mp found).1
  have fits := view.fits
  change view.size < 65536 at fits
  cases valid : range.isValid with
  | false =>
      rw [findRawRange_of_empty (.inl valid)]
      refine iff_of_false (not_holds_invalid position) ?_
      rintro ⟨least, most⟩
      have ordered := (Range.isValid_iff range).mpr (least.trans most)
      cases valid.symm.trans ordered
  | true =>
      obtain ⟨start, stop, startIff, stopIff, most, same⟩ :=
        findRawRange_cases increasing valid (by omega)
      change _ ↔ range.start.toNat ≤ cell.vIndex.toNat ∧ cell.vIndex.toNat ≤ range.stop.toNat
      rw [same, ← startIff found, ← stopIff found]
      split
      · rename_i both
        rw [Holds, UInt16.toNat_ofNat', UInt16.toNat_ofNat', Nat.mod_eq_of_lt (by omega),
          Nat.mod_eq_of_lt (by omega)]
        omega
      · refine iff_of_false (not_holds_invalid position) ?_
        omega

/-- Only points are found. -/
theorem lt_size_of_holds_findRawRange {view : ArrayView (Cell type)}
    (increasing : Increasing view.elements) {range : Range} {position : Nat}
    (holds : Holds (findRawRange view range) position) : position < view.size := by
  have fits := view.fits
  change view.size < 65536 at fits
  by_cases empty : range.isValid = false ∨ view.size = 0
  · rw [findRawRange_of_empty empty] at holds
    exact absurd holds (not_holds_invalid position)
  · obtain ⟨valid, nonempty⟩ := not_or.mp empty
    obtain ⟨start, stop, _, _, most, same⟩ :=
      findRawRange_cases increasing (by simpa using valid) (Nat.pos_of_ne_zero nonempty)
    rw [same] at holds
    split at holds
    · rename_i both
      have last := holds.2
      rw [UInt16.toNat_ofNat', Nat.mod_eq_of_lt (by omega)] at last
      omega
    · exact absurd holds (not_holds_invalid position)

theorem isValid_findRawRange {view : ArrayView (Cell type)} (increasing : Increasing view.elements)
    (range : Range) :
    (findRawRange view range).isValid = true ↔
      ∃ position cell, view.get? position = some cell ∧ Holds range cell.vIndex.toNat := by
  constructor
  · intro valid
    have here : Holds (findRawRange view range) (findRawRange view range).start.toNat :=
      ⟨Nat.le_refl _, (Range.isValid_iff _).mp valid⟩
    obtain ⟨cell, found⟩ := exists_get? (lt_size_of_holds_findRawRange increasing here)
    exact ⟨_, cell, found, (holds_findRawRange increasing range found).mp here⟩
  · rintro ⟨position, cell, found, holds⟩
    obtain ⟨least, most⟩ := (holds_findRawRange increasing range found).mpr holds
    exact (Range.isValid_iff _).mpr (least.trans most)

/-! ## Bounds of 16 bits -/

/-- The loop of the search on bounds of 16 bits. There is no result when it goes on after so many
iterations, or looks outside the points. -/
def loop (view : ArrayView (Cell type)) (vIndex : UInt16) :
    Nat → UInt16 → UInt16 → UInt16 → Option Result
  | 0, _, _, _ => none
  | iterations + 1, lower, upper, midpoint =>
      if lower ≤ upper then
        let midpoint := (upper - lower) / 2 + lower
        (view.get? midpoint.toNat).bind fun cell =>
          if cell.vIndex = vIndex then
            some ⟨true, midpoint.toNat⟩
          else if cell.vIndex < vIndex then
            if lower < 65535 then loop view vIndex iterations (midpoint + 1) upper midpoint
            else some ⟨false, midpoint.toNat⟩
          else
            if 0 < upper ∧ 0 < midpoint then
              loop view vIndex iterations lower (midpoint - 1) midpoint
            else some ⟨false, midpoint.toNat⟩
      else
        some ⟨false, midpoint.toNat⟩

/-- The search on bounds of 16 bits. -/
def findClosest (view : ArrayView (Cell type)) (vIndex : UInt16) (iterations : Nat) :
    Option Result :=
  if view.size = 0 then some ⟨false, 0⟩
  else loop view vIndex iterations 0 (UInt16.ofNat view.size - 1) 0

theorem toNat_midpoint {lower upper : UInt16} (within : lower ≤ upper) :
    ((upper - lower) / 2 + lower).toNat = getMidpoint lower.toNat upper.toNat := by
  have bound := upper.toNat_lt
  rw [UInt16.le_iff_toNat_le] at within
  have difference := UInt16.toNat_sub_of_le _ _ (UInt16.le_iff_toNat_le.mpr within)
  rw [UInt16.toNat_add, UInt16.toNat_div, difference, getMidpoint]
  exact Nat.mod_eq_of_lt (by simp; omega)

/-- The bounds do not wrap: the loop computes what the search on unbounded bounds computes. -/
theorem loop_eq {view : ArrayView (Cell type)} (vIndex : UInt16) {fuel iterations : Nat}
    {lower upper midpoint : UInt16} (inside : upper.toNat < view.size)
    (enough : upper.toNat + 1 - lower.toNat ≤ fuel)
    (many : upper.toNat + 1 - lower.toNat < iterations) :
    loop view vIndex iterations lower upper midpoint =
      some (search view vIndex fuel lower.toNat upper.toNat midpoint.toNat) := by
  induction fuel generalizing iterations lower upper midpoint with
  | zero =>
      obtain ⟨iterations, rfl⟩ := Nat.exists_eq_succ_of_ne_zero (show iterations ≠ 0 by omega)
      have past : ¬lower ≤ upper := by
        rw [UInt16.le_iff_toNat_le]
        omega
      rw [loop, if_neg past, search]
  | succ fuel ih =>
      obtain ⟨iterations, rfl⟩ := Nat.exists_eq_succ_of_ne_zero (show iterations ≠ 0 by omega)
      unfold loop search
      simp only [UInt16.le_iff_toNat_le]
      split
      · rename_i within
        have middle := toNat_midpoint (UInt16.le_iff_toNat_le.mpr within)
        have least := @le_getMidpoint lower.toNat upper.toNat
        have most := getMidpoint_le within
        have fits := view.fits
        change view.size < 65536 at fits
        generalize (upper - lower) / 2 + lower = center at middle
        rw [← middle] at least most
        obtain ⟨cell, found⟩ := exists_get? (show center.toNat < view.size by omega)
        rw [← middle]
        simp only [found, Option.bind_some, UInt16.lt_iff_toNat_lt]
        split
        · rfl
        split
        · rw [if_pos (show lower.toNat < UInt16.toNat 65535 from by simp; omega),
            if_pos (show lower.toNat < 65535 by omega)]
          have next : (center + 1).toNat = center.toNat + 1 := by
            rw [UInt16.toNat_add]
            exact Nat.mod_eq_of_lt (by simp; omega)
          rw [ih inside (by omega) (by omega), next]
        · simp only [UInt16.toNat_zero]
          split
          · rename_i positive
            have next : (center - 1).toNat = center.toNat - 1 := by
              rw [UInt16.toNat_sub_of_le _ _ (by rw [UInt16.le_iff_toNat_le]; simp; omega)]
              rfl
            rw [ih (by omega) (by omega) (by omega), next]
          · rfl
      · rfl

theorem findClosest_eq (view : ArrayView (Cell type)) (vIndex : UInt16) {iterations : Nat}
    (many : view.size < iterations) :
    findClosest view vIndex iterations = some (findClosestRawIndex view vIndex) := by
  unfold findClosest findClosestRawIndex
  split
  · rfl
  · have fits := view.fits
    change view.size < 65536 at fits
    have last : (UInt16.ofNat view.size - 1).toNat = view.size - 1 := by
      rw [UInt16.toNat_sub_of_le, UInt16.toNat_ofNat', Nat.mod_eq_of_lt (by omega)]
      · rfl
      · rw [UInt16.le_iff_toNat_le, UInt16.toNat_ofNat', Nat.mod_eq_of_lt (by omega)]
        exact Nat.pos_of_ne_zero ‹_›
    rw [@loop_eq _ view vIndex view.size _ 0 _ 0 (by omega) (by rw [last]; omega)
      (by rw [last, UInt16.toNat_zero]; omega), last]
    rfl

/-- The range that is found holds exactly the points that were asked for, and the search for its
ends comes to an end without wrapping, whatever the points are. -/
theorem findRawRange_exact (view : ArrayView (Cell type)) (range : Range) :
    (Increasing view.elements →
      (∀ position, Holds (findRawRange view range) position ↔
        ∃ cell, view.get? position = some cell ∧ Holds range cell.vIndex.toNat) ∧
      ((findRawRange view range).isValid = false ↔
        ¬∃ position cell, view.get? position = some cell ∧ Holds range cell.vIndex.toNat)) ∧
    ∀ vIndex iterations, view.size < iterations →
      findClosest view vIndex iterations = some (findClosestRawIndex view vIndex) := by
  refine ⟨?_, fun vIndex iterations many => findClosest_eq view vIndex many⟩
  intro increasing
  constructor
  · intro position
    constructor
    · intro holds
      obtain ⟨cell, found⟩ := exists_get? (lt_size_of_holds_findRawRange increasing holds)
      exact ⟨cell, found, (holds_findRawRange increasing range found).mp holds⟩
    · rintro ⟨cell, found, holds⟩
      exact (holds_findRawRange increasing range found).mpr holds
  · rw [← isValid_findRawRange increasing range, Bool.not_eq_true]

/-- Points 2, 5 and 9. -/
def gapped : ArrayView (Cell .binary) where
  elements := [2, 5, 9].map fun vIndex => ⟨default, vIndex, .group1Var2, none, .none _⟩
  fits := by decide

theorem findRawRange_exact_gapped :
    ((∀ position, Holds (findRawRange gapped ⟨3, 9⟩) position ↔
        ∃ cell, gapped.get? position = some cell ∧ Holds ⟨3, 9⟩ cell.vIndex.toNat) ∧
      ((findRawRange gapped ⟨3, 9⟩).isValid = false ↔
        ¬∃ position cell, gapped.get? position = some cell ∧ Holds ⟨3, 9⟩ cell.vIndex.toNat)) ∧
    findClosest gapped 3 4 = some (findClosestRawIndex gapped 3) :=
  ⟨(findRawRange_exact gapped ⟨3, 9⟩).1 (by decide),
    (findRawRange_exact gapped ⟨3, 9⟩).2 3 4 (by decide)⟩

example : IndexSearch.findRawRange gapped ⟨3, 9⟩ = ⟨1, 2⟩ := by decide

end IndexSearch

end OpenDnp3.Outstation
