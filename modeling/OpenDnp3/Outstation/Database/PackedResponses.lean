import OpenDnp3.Outstation.Database.StaticResponses

/-!
# Responses of single bits

The header of single bits has a count of the width of its indices. When exactly
the indices of one byte are written, the count wraps to zero, and the header is
left without its bits.
-/

set_option autoImplicit false

namespace OpenDnp3.Outstation

open OpenDnp3.App OpenDnp3.Library

/-- A header that ends behind its range has too few bytes. -/
theorem not_parsesTo_of_wrapped [FloatOps] (stop : UInt8) (readings : List Reading) :
    ¬ParsesTo [1, 1, 0, 0, stop] readings := by
  rintro ⟨headers, parsed, _, _⟩
  have known : (⟨1, 1⟩ : GroupVariationID).enumeration ≠ .unknown := by decide
  have bytes : [1, 1, 0, 0, stop] = rangeBytes ⟨1, 1⟩ .uint8 0 (stop.toNat + 1) [] ++ [] := by
    have last : IndexType.uint8.bytes (0 + (stop.toNat + 1) - 1) = [stop] := by
      rw [Nat.zero_add, Nat.add_sub_cancel]
      change [UInt8.ofNat stop.toNat] = [stop]
      rw [UInt8.ofNat_toNat]
    rw [rangeBytes, last]
    rfl
  have positive : 0 < stop.toNat + 1 := Nat.succ_pos _
  have fits : 0 + (stop.toNat + 1) ≤ IndexType.uint8.max + 1 := by
    rw [Nat.zero_add]
    exact stop.toNat_lt
  have count := count_rangeFrom positive (Nat.le_trans fits (by decide))
  have failed : APDUParser.parseHeader true none 0 [1, 1, 0, 0, stop] =
      .error .notEnoughDataForObjects := by
    have objects : (recordOf ⟨1, 1⟩ IndexType.uint8.startStop 0).enumeration.rangeObjects =
        some (.bitfield .binary BinaryFactory.ofBool) := rfl
    have needed : ([] : List UInt8).length < numBytesInBits (stop.toNat + 1) := by
      have enough := le_numBytesInBits (stop.toNat + 1)
      rw [List.length_nil]
      omega
    rw [bytes, parseHeader_range known .uint8 positive fits]
    simp only [RangeParser.parseRangeOfObjects, objects, RangeParser.fromBitfieldType, process,
      count, List.append_nil, if_pos needed]
  have pass : APDUParser.parseSinglePass true (some fun _ _ _ => true) [1, 1, 0, 0, stop] =
      .error .notEnoughDataForObjects := by
    rw [APDUParser.parseSinglePass, parseHeaders_allowAll]
    simp only [List.length_cons, APDUParser.parseHeaders, failed, List.isEmpty_cons]
    rfl
  rw [APDUParser.parse, pass] at parsed
  cases parsed

/-- The points of a range whose count wraps are all selected. -/
theorem pending_eq_of_wraps {active : List (Cell .binary)} {space : Nat}
    (wraps : Wraps (pending active) space) (increasing : Increasing active)
    (last : ∀ cell ∈ active.getLast?, cell.selection.selected = true) :
    pending active = active := by
  have length := congrArg List.length wraps.indices
  rw [List.length_map, List.length_map, List.length_range] at length
  have most : active.length ≤ 256 := by
    cases active with
    | nil => exact Nat.zero_le _
    | cons first active =>
        have isLast := List.getLast?_eq_getLast_of_ne_nil (List.cons_ne_nil first active)
        have total := increasing.length_le isLast
        have final : ((first :: active).getLast (List.cons_ne_nil _ _)).vIndex = 255 := by
          have ends := isLast
          rw [← getLast?_pending last] at ends
          obtain ⟨front, split⟩ := List.getLast?_eq_some_iff.mp ends
          have count := congrArg List.length split
          rw [length, List.length_append, List.length_singleton] at count
          rw [(wraps.vIndex_eq split).1, show front.length = 255 by omega]
          rfl
        rw [final] at total
        change _ ≤ 255 at total
        rw [List.length_cons]
        omega
  refine List.filter_eq_self.mpr (List.length_filter_eq_length_iff.mp ?_)
  have fewer := List.length_filter_le (fun cell : Cell .binary => cell.selection.selected) active
  change (pending active).length = active.length
  change (pending active).length ≤ active.length at fewer
  omega

theorem neverWraps_of_ne {type : StaticType} (different : type ≠ .binary)
    (cells : List (Cell type)) (space : Nat) : NeverWraps type cells space := by
  cases type with
  | binary => exact absurd rfl different
  | doubleBitBinary | counter | frozenCounter | analog | binaryOutputStatus
  | analogOutputStatus | timeAndInterval | octetString => trivial

section wraps

variable [FloatOps]

/-- What a load leaves of binary points whose count wraps. -/
structure RangeView.Wrapped (points : RangeView .binary) (writer : HeaderWriter)
    (load : StaticLoad .binary) : Prop where
  spaceRemaining : load.spaceRemaining = true
  indices : load.points.view.elements.map Cell.vIndex = points.view.elements.map Cell.vIndex
  written : ∃ stop, load.writer.position.written = writer.position.written ++ [1, 1, 0, 0, stop]

theorem RangeView.Valid.loadType_wraps {points : RangeView .binary} (valid : points.Valid)
    (increasing : Increasing points.view.elements) {writer : HeaderWriter}
    (wraps : Wraps (pending points.view.elements) writer.remaining) :
    ∃ load, points.loadType (points.range.count + 1) writer = some load ∧
      points.Wrapped writer load := by
  obtain ⟨before, active, after, covers⟩ := valid.covers
  have elements := covers.elements
  rw [covers.pending] at wraps
  rw [elements] at increasing
  have all := pending_eq_of_wraps wraps increasing.left.right covers.last
  rw [all] at wraps
  cases active with
  | nil => exact absurd wraps.indices (by simp)
  | cons first active =>
      have selected := wraps.selected first List.mem_cons_self
      have leaves := writeSingleBitfield_wraps covers.toWindow increasing.left.right writer wraps
      have chosen : StaticWriters.get .binary first.selection.variation first writer points =
          writeSingleBitfield ⟨1, 1⟩ first writer points := by
        rw [wraps.packed first List.mem_cons_self]
        rfl
      refine ⟨⟨true, (writeSingleBitfield ⟨1, 1⟩ first writer points).writer,
        (writeSingleBitfield ⟨1, 1⟩ first writer points).points⟩, ?_, rfl, ?_, leaves.written⟩
      · rw [covers.count, List.length_cons, RangeView.loadType, covers.front?_cons]
        simp only [selected, chosen, leaves.spaceRemaining, if_true]
        rw [RangeView.loadType, leaves.window.front?_nil]
      · simp only [leaves.window.elements, elements, List.map_append, map_vIndex_deselect,
          List.append_nil]

end wraps

namespace DatabaseBuffers

section load

variable [FloatOps] {db : DatabaseBuffers}

/-- What binary points leave to the types behind them. -/
structure LeavesBinaries (db : DatabaseBuffers) (writer : HeaderWriter) (binaries : Load)
    (bytes : List UInt8) : Prop where
  success : db.loadPoints .binary writer = some binaries
  indexed : binaries.buffers.Indexed
  written : binaries.writer.position.written = writer.position.written ++ bytes

/-- The types behind the binary points do not touch them. -/
theorem LeavesBinaries.load {writer : HeaderWriter} {binaries : Load} {bytes : List UInt8}
    (valid : db.Valid) (leaves : db.LeavesBinaries writer binaries bytes) :
    ∃ load others, db.load writer = some load ∧
      load.buffers.points .binary = binaries.buffers.points .binary ∧
      load.writer.position.written = writer.position.written ++ bytes ++ others := by
  have whole : db.load writer = if binaries.complete then
      loadTypes loadOrder.tail binaries.writer binaries.buffers else some binaries := by
    change (db.loadPoints .binary writer).bind _ = _
    rw [leaves.success]
    rfl
  rw [whole]
  cases binaries.complete with
  | false => exact ⟨binaries, [], rfl, rfl, by rw [leaves.written, List.append_nil]⟩
  | true =>
      obtain ⟨load, success, delivers⟩ := @Valid.loadTypes_delivers _ loadOrder.tail (by decide) _
        (valid.loadPoints leaves.success) leaves.indexed binaries.writer
        (fun type member space => neverWraps_of_ne (by rintro rfl; revert member; decide) _ space)
      obtain ⟨others, written, _⟩ := delivers.reported
      exact ⟨load, others, success, delivers.others .binary (by decide),
        by rw [written, leaves.written]⟩

/-- A count that wraps leaves a header without its bits. -/
theorem Valid.loadPoints_wraps (valid : db.Valid) (indexed : db.Indexed) {writer : HeaderWriter}
    (wraps : Wraps (db.pendingPoints .binary) writer.remaining) :
    ∃ binaries stop, db.LeavesBinaries writer binaries [1, 1, 0, 0, stop] := by
  obtain ⟨loaded, success, wrapped⟩ := (valid .binary).loadType_wraps (indexed .binary) wraps
  obtain ⟨stop, written⟩ := wrapped.written
  refine ⟨⟨loaded.spaceRemaining, loaded.writer, db.setPoints .binary loaded.points⟩, stop,
    by rw [DatabaseBuffers.loadPoints, success]; rfl, indexed.congr fun type => ?_, written⟩
  by_cases binary : type = .binary
  · subst binary
    rw [points_setPoints_self]
    exact wrapped.indices
  · rw [points_setPoints_of_ne db _ binary]

/-- The bytes that a load writes for binary points, in single bits or with flags, read as the
points that it deselects, unless they are exactly the indices of one byte as single bits with
space for all of these. -/
theorem load_binary_parses_iff {start : DatabaseBuffers} (never : start.NeverSelected)
    (reached : machine.Reaches start db) (indexed : db.Indexed) (writer : HeaderWriter) :
    ∃ binaries load bytes others,
      db.loadPoints .binary writer = some binaries ∧
      binaries.writer.position.written = writer.position.written ++ bytes ∧
      db.load writer = some load ∧
      load.buffers.points .binary = binaries.buffers.points .binary ∧
      load.writer.position.written = writer.position.written ++ bytes ++ others ∧
      (ParsesTo bytes ((db.deselectedPoints load.buffers .binary).map Cell.reading) ↔
        ¬Wraps (db.pendingPoints .binary) writer.remaining) := by
  have valid := Valid.of_reaches never reached
  by_cases wraps : Wraps (db.pendingPoints .binary) writer.remaining
  · obtain ⟨binaries, stop, leaves⟩ := valid.loadPoints_wraps indexed wraps
    obtain ⟨load, others, all, points, behind⟩ := leaves.load valid
    exact ⟨_, load, _, others, leaves.success, leaves.written, all, points, behind,
      fun parses => absurd parses (not_parsesTo_of_wrapped stop _), fun not => absurd wraps not⟩
  · obtain ⟨binaries, success, delivers, _⟩ := @Valid.loadPoints_delivers _ _ valid indexed .binary
      writer wraps
    obtain ⟨bytes, written, reported⟩ := delivers.reported
    have leaves : db.LeavesBinaries writer binaries bytes :=
      ⟨success, indexed.congr delivers.indices, written⟩
    obtain ⟨load, others, all, points, behind⟩ := leaves.load valid
    have parses : ParsesTo bytes ((db.deselectedPoints load.buffers .binary).map Cell.reading) := by
      rw [deselectedPoints, points]
      have read := (reported fun type member cell _ => by
        obtain rfl := List.mem_singleton.mp member
        rfl).parsesTo
      rwa [List.flatMap_singleton] at read
    exact ⟨binaries, load, bytes, others, success, written, all, points, behind,
      fun _ => wraps, fun _ => parses⟩

end load

/-- Points that alternate, ten of them in a row. -/
def gappedRow : List (Cell .binary) :=
  [0, 1, 2, 3, 4, 5, 6, 7, 8, 9, 20, 30].map fun index =>
    ⟨⟨index % 2 == 0, 1, 0⟩, UInt16.ofNat index, .group1Var1, none, .none .binary⟩

def gapped : DatabaseBuffers := ofType .binary ⟨⟨gappedRow, by decide⟩, .invalid⟩

theorem neverSelected_gapped : gapped.NeverSelected :=
  neverSelected_ofType rfl fun cell member => by
    obtain ⟨_, _, rfl⟩ := List.mem_map.mp member
    rfl

/-- Ten single bits in a row and one behind a gap are read, and one more has no space. -/
theorem load_binary_parses_gap :
    ∃ db load bytes others, (@machine .atZero).Reaches gapped db ∧
      @DatabaseBuffers.load .atZero db ⟨⟨[], .replicate 16 0⟩, none⟩ = some load ∧
      load.writer.position.written = bytes ++ others ∧
      @ParsesTo .atZero bytes
        ((db.deselectedPoints load.buffers .binary).map (@Cell.reading .atZero .binary)) ∧
      (db.deselectedPoints load.buffers .binary).map Cell.vIndex =
        [0, 1, 2, 3, 4, 5, 6, 7, 8, 9, 20] ∧
      (load.buffers.pendingPoints .binary).map Cell.vIndex = [30] := by
  have reached : (@machine .atZero).Reaches gapped (gapped.selectAll .group1Var1).2 :=
    .step .start trivial (@step_selectAll .atZero gapped .group1Var1)
  obtain ⟨_, load, bytes, others, _, _, success, _, written, parses⟩ :=
    @load_binary_parses_iff .atZero _ _ neverSelected_gapped reached
      (fun type => by cases type <;> decide +kernel) ⟨⟨[], .replicate 16 0⟩, none⟩
  rw [List.nil_append] at written
  have known : (@DatabaseBuffers.load .atZero (gapped.selectAll .group1Var1).2
      ⟨⟨[], .replicate 16 0⟩, none⟩).any (fun load =>
        ((gapped.selectAll .group1Var1).2.deselectedPoints load.buffers .binary).map Cell.vIndex =
          [0, 1, 2, 3, 4, 5, 6, 7, 8, 9, 20] ∧
        (load.buffers.pendingPoints .binary).map Cell.vIndex = [30]) = true := by
    decide +kernel
  rw [success, Option.any_some] at known
  obtain ⟨deselected, left⟩ := of_decide_eq_true known
  refine ⟨_, load, bytes, others, reached, success, written, parses.mpr fun wraps => ?_,
    deselected, left⟩
  have length := congrArg List.length wraps.indices
  rw [List.length_map, List.length_map, List.length_range] at length
  exact absurd length (by decide +kernel)

/-- The binary points of the indices of one byte, reported as single bits. -/
def binaryRow (selection : SelectedValue .binary) : List (Cell .binary) :=
  (List.range 256).map fun index => ⟨⟨true, 1, 0⟩, UInt16.ofNat index, .group1Var1, none, selection⟩

theorem length_binaryRow (selection : SelectedValue .binary) :
    (binaryRow selection).length = 256 := by
  rw [binaryRow, List.length_map, List.length_range]

theorem map_vIndex_binaryRow (selection : SelectedValue .binary) :
    (binaryRow selection).map Cell.vIndex = (List.range 256).map UInt16.ofNat := by
  rw [binaryRow, List.map_map]
  rfl

theorem selection_of_mem_binaryRow {selection : SelectedValue .binary} {cell : Cell .binary}
    (member : cell ∈ binaryRow selection) : cell.selection = selection := by
  obtain ⟨_, _, rfl⟩ := List.mem_map.mp member
  rfl

theorem increasing_binaryRow (selection : SelectedValue .binary) :
    Increasing (binaryRow selection) := by
  rw [Increasing, map_vIndex_binaryRow, List.pairwise_map]
  refine List.pairwise_lt_range.imp_of_mem fun first second less => ?_
  have one := List.mem_range.mp first
  have two := List.mem_range.mp second
  rw [UInt16.lt_iff_toNat_lt, UInt16.toNat_ofNat', UInt16.toNat_ofNat', Nat.mod_eq_of_lt (by omega),
    Nat.mod_eq_of_lt (by omega)]
  exact less

/-- The range of these points. -/
def rangeOfRow (selection : SelectedValue .binary) (range : Range) : RangeView .binary :=
  ⟨⟨binaryRow selection, by rw [length_binaryRow]; decide⟩, range⟩

/-- All of these points are selected. -/
theorem selectAll_rangeOfRow :
    (rangeOfRow (.none .binary) .invalid).selectAll none =
      (.empty, rangeOfRow ⟨true, ⟨true, 1, 0⟩, .group1Var1⟩ ⟨0, 255⟩) := by
  have size : (rangeOfRow (.none .binary) .invalid).view.size = 256 := length_binaryRow _
  have unselected : (rangeOfRow (.none .binary) .invalid).anySelected ⟨0, 255⟩ = false := by
    rw [RangeView.anySelected, List.any_eq_false]
    intro cell member
    have inside := List.mem_of_mem_take (List.mem_of_mem_drop member)
    rw [selection_of_mem_binaryRow inside]
    exact Bool.false_ne_true
  have selected : (rangeOfRow (.none .binary) .invalid).modifyRange ⟨0, 255⟩ (Cell.select none) =
      (rangeOfRow ⟨true, ⟨true, 1, 0⟩, .group1Var1⟩ ⟨0, 255⟩).view := by
    refine ArrayView.ext (List.ext_getElem? fun position => ?_)
    have changed := ArrayView.get?_modifyRange (rangeOfRow (.none .binary) .invalid).view
      0 255 position (Cell.select none)
    change ((rangeOfRow (.none .binary) .invalid).view.modifyRange 0 255
      (Cell.select none)).elements[position]? = (binaryRow _)[position]?
    rw [ArrayView.get?, ArrayView.get?] at changed
    rw [changed]
    change Option.map _ (binaryRow _)[position]? = _
    rw [binaryRow, binaryRow, List.getElem?_map, List.getElem?_map]
    by_cases inside : position < 256
    · rw [List.getElem?_range inside, Option.map_some, Option.map_some, Option.map_some,
        if_pos (by omega)]
      have promoted : checkForPromotion .binary ⟨true, 1, 0⟩ .group1Var1 = .group1Var1 := by decide
      simp [Cell.select, SelectedValue.none, promoted]
    · rw [List.getElem?_eq_none (by rw [List.length_range]; omega)]
      rfl
  have whole : (rangeOf 256).intersection (rangeOf 256) = ⟨0, 255⟩ := by decide
  have valid : (rangeOf 256).isValid = true := by decide
  rw [RangeView.selectAll, RangeView.genericSelect, size, if_pos valid]
  simp only [whole, unselected, selected]
  rfl

theorem selectAll_group1Var0 (db : DatabaseBuffers) :
    db.selectAll .group1Var0 = (((db.points .binary).selectAll none).1,
      db.setPoints .binary ((db.points .binary).selectAll none).2) :=
  rfl

/-- The bytes of 256 points cannot be read. -/
theorem load_binary_wrapped :
    ∃ db load stop others,
      (@machine .atZero).Reaches (ofType .binary (rangeOfRow (.none .binary) .invalid)) db ∧
      db.Indexed ∧ (db.pendingPoints .binary).length = 256 ∧
      @DatabaseBuffers.load .atZero db ⟨⟨[], .replicate 40 0⟩, none⟩ = some load ∧
      load.writer.position.written = [1, 1, 0, 0, stop] ++ others ∧
      ∀ readings, ¬@ParsesTo .atZero [1, 1, 0, 0, stop] readings := by
  have selected := @step_selectAll .atZero (ofType .binary (rangeOfRow (.none .binary) .invalid))
    .group1Var0
  have made : ((ofType .binary (rangeOfRow (.none .binary) .invalid)).selectAll .group1Var0).2 =
      ofType .binary (rangeOfRow ⟨true, ⟨true, 1, 0⟩, .group1Var1⟩ ⟨0, 255⟩) := by
    rw [selectAll_group1Var0, points_ofType_self, selectAll_rangeOfRow, setPoints_ofType]
  rw [made] at selected
  have never : (ofType .binary (rangeOfRow (.none .binary) .invalid)).NeverSelected :=
    neverSelected_ofType rfl fun cell member => selection_of_mem_binaryRow member
  have reached : (@machine .atZero).Reaches (ofType .binary (rangeOfRow (.none .binary) .invalid))
      (ofType .binary (rangeOfRow ⟨true, ⟨true, 1, 0⟩, .group1Var1⟩ ⟨0, 255⟩)) :=
    .step .start trivial selected
  have pendings : (ofType .binary
      (rangeOfRow ⟨true, ⟨true, 1, 0⟩, .group1Var1⟩ ⟨0, 255⟩)).pendingPoints .binary =
        binaryRow ⟨true, ⟨true, 1, 0⟩, .group1Var1⟩ := by
    rw [pendingPoints, points_ofType_self]
    exact pending_of_selected fun cell member => by rw [selection_of_mem_binaryRow member]
  have indexed : (ofType .binary
      (rangeOfRow ⟨true, ⟨true, 1, 0⟩, .group1Var1⟩ ⟨0, 255⟩)).Indexed := by
    intro type
    by_cases binary : type = .binary
    · subst binary
      rw [points_ofType_self]
      exact increasing_binaryRow _
    · rw [elements_ofType_of_ne _ binary]
      exact List.Pairwise.nil
  have wraps : Wraps (binaryRow ⟨true, ⟨true, 1, 0⟩, .group1Var1⟩) 40 := by
    refine ⟨map_vIndex_binaryRow _, fun cell member => ?_, fun cell member => ?_, by decide⟩
    · rw [selection_of_mem_binaryRow member]
    · rw [selection_of_mem_binaryRow member]
  rw [← pendings] at wraps
  have valid := @Valid.of_reaches .atZero _ _ never reached
  obtain ⟨binaries, stop, leaves⟩ := @Valid.loadPoints_wraps .atZero _ valid indexed
    ⟨⟨[], .replicate 40 0⟩, none⟩ wraps
  obtain ⟨load, others, success, _, written⟩ := @LeavesBinaries.load .atZero _ _ _ _ valid leaves
  exact ⟨_, load, stop, others, reached, indexed, by rw [pendings, length_binaryRow], success, written,
    fun readings => @not_parsesTo_of_wrapped .atZero stop readings⟩

end DatabaseBuffers

end OpenDnp3.Outstation
