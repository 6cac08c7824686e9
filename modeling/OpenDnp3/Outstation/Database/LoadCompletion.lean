import OpenDnp3.Outstation.Database.PackedResponses
import OpenDnp3.Outstation.Database.SelectionFrame

/-!
# Load completion

A load is complete when nothing is selected any more. A load of points that have
increasing indices ends, and the indices stay what they are.
-/

set_option autoImplicit false

namespace OpenDnp3.Outstation

open OpenDnp3.App OpenDnp3.Library

/-! ## Complete loads -/

section loads

variable {type : StaticType}

theorem RangeView.Valid.front?_eq_none {points : RangeView type} (valid : points.Valid) :
    points.front? = none ↔ points.range.isValid = false := by
  obtain ⟨before, active, after, covers⟩ := valid.covers
  cases active with
  | nil =>
      have invalid : points.range = .invalid := covers.covered
      rw [covers.front?_nil, invalid]
      exact iff_of_true rfl rfl
  | cons cell active => simp [covers.front?_cons, covers.isValid]

/-- A run of writes stops at a point that there is no space for, or before it has written any. -/
theorem writeRun_stops {Iterator : Type}
    (write : Iterator → Cursor → type.Meas → Option (Iterator × Cursor))
    (goesOn : Cell type → Bool) (fuel : Nat) (next : UInt16) (iterator : Iterator)
    (position : Cursor) (points : RangeView type) :
    let run := writeRun write goesOn fuel next iterator position points
    (run.numWritten = 0 → run.points = points) ∧
      (run.spaceRemaining = false → run.points.front? ≠ none) := by
  induction fuel generalizing next iterator position points with
  | zero => exact ⟨fun _ => rfl, by rintro ⟨⟩⟩
  | succ fuel ih =>
      rw [writeRun]
      split
      · exact ⟨fun _ => rfl, by rintro ⟨⟩⟩
      · next cell front =>
          split
          · split
            · refine ⟨fun _ => rfl, fun _ none => ?_⟩
              cases front.symm.trans none
            · exact ⟨fun none => absurd none (Nat.succ_ne_zero _), (ih _ _ _ _).2⟩
          · exact ⟨fun _ => rfl, by rintro ⟨⟩⟩

theorem writeOctetStrings_stops {cell : Cell .octetString} {writer : HeaderWriter}
    {points : RangeView .octetString} (front : points.front? = some cell)
    (full : (writeOctetStrings cell writer points).spaceRemaining = false) :
    (writeOctetStrings cell writer points).points.front? ≠ none := by
  have stops (iterator : RangeWriteIterator OctetString) (position : Cursor) (size : UInt8) :
      let run := writeSomeOctetString cell iterator position points size
      (run.numWritten = 0 → run.points = points) ∧
        (run.spaceRemaining = false → run.points.front? ≠ none) :=
    writeRun_stops ..
  unfold writeOctetStrings at full ⊢
  split at full
  · next ordered =>
      rw [if_pos ordered]
      rcases Bool.and_eq_false_iff.mp full with space | none
      · exact (stops _ _ _).2 space
      · have same := (stops _ _ _).1 (bne_eq_false_iff_eq.mp none)
        intro gone
        cases front.symm.trans ((congrArg RangeView.front? same).symm.trans gone)
  · cases full

variable [FloatOps]

theorem StaticWriters.get_stops {variation : type.Variation} {cell : Cell type}
    {writer : HeaderWriter} {points : RangeView type} (front : points.front? = some cell)
    (full : (StaticWriters.get type variation cell writer points).spaceRemaining = false) :
    (StaticWriters.get type variation cell writer points).points.front? ≠ none := by
  by_cases octets : type = .octetString
  · subst octets
    cases variation with
    | group110Var0 =>
        exact writeOctetStrings_stops front full
  · cases packed : isPacked type variation with
    | false =>
        obtain ⟨descriptor, fixed⟩ := exists_isFixedSize type variation octets packed
        rw [fixed.write] at full ⊢
        exact (writeRun_stops ..).2 full
    | true =>
        cases type with
        | binary =>
            cases variation with
            | group1Var1 => exact (writeRun_stops ..).2 full
            | group1Var2 => cases packed
        | doubleBitBinary | counter | frozenCounter | analog | binaryOutputStatus
        | analogOutputStatus | timeAndInterval | octetString => cases packed

theorem RangeView.loadType_complete {fuel : Nat} {writer : HeaderWriter}
    {points : RangeView type} {load : StaticLoad type}
    (success : points.loadType fuel writer = some load) :
    load.spaceRemaining = true ↔ load.points.front? = none := by
  induction fuel generalizing writer points with
  | zero => cases success
  | succ fuel ih =>
      rw [RangeView.loadType] at success
      split at success
      · next front =>
          obtain rfl := Option.some.inj success
          exact iff_of_true rfl front
      · next cell front =>
          split at success
          · simp only at success
            split at success
            · exact ih success
            · next full =>
                obtain rfl := Option.some.inj success
                exact iff_of_false full
                  (StaticWriters.get_stops front (Bool.eq_false_of_not_eq_true full))
          · exact ih success

end loads

namespace DatabaseBuffers

variable [FloatOps] {db : DatabaseBuffers} {types : List StaticType} {writer : HeaderWriter}
  {load : Load}

theorem points_loadTypes_of_not_mem {type : StaticType} (other : type ∉ types)
    (success : loadTypes types writer db = some load) :
    load.buffers.points type = db.points type := by
  induction types generalizing db writer with
  | nil =>
      obtain rfl := Option.some.inj success
      rfl
  | cons first types ih =>
      rw [List.mem_cons, not_or] at other
      obtain ⟨loaded, made, rest⟩ := Option.bind_eq_some_iff.mp success
      have kept : loaded.buffers.points type = db.points type := by
        obtain ⟨points, _, rfl⟩ := Option.map_eq_some_iff.mp made
        exact points_setPoints_of_ne db _ other.1
      split at rest
      · exact (ih other.2 rest).trans kept
      · obtain rfl := Option.some.inj rest
        exact kept

theorem loadPoints_complete {type : StaticType} (valid : db.Valid)
    (success : db.loadPoints type writer = some load) :
    load.complete = true ↔ (load.buffers.points type).range.isValid = false := by
  have sound := valid.loadPoints success type
  obtain ⟨points, made, rfl⟩ := Option.map_eq_some_iff.mp success
  rw [← sound.front?_eq_none, points_setPoints_self]
  exact RangeView.loadType_complete made

theorem loadTypes_complete (valid : db.Valid) (distinct : types.Nodup)
    (success : loadTypes types writer db = some load) :
    load.complete = true ↔
      ∀ type ∈ types, (load.buffers.points type).range.isValid = false := by
  induction types generalizing db writer with
  | nil =>
      obtain rfl := Option.some.inj success
      exact iff_of_true rfl (by simp)
  | cons first types ih =>
      obtain ⟨fresh, distinct⟩ := List.nodup_cons.mp distinct
      obtain ⟨loaded, made, rest⟩ := Option.bind_eq_some_iff.mp success
      have complete := loadPoints_complete valid made
      rw [List.forall_mem_cons]
      split at rest
      · next done =>
          rw [ih (valid.loadPoints made) distinct rest, points_loadTypes_of_not_mem fresh rest]
          exact (and_iff_right (complete.mp done)).symm
      · next more =>
          obtain rfl := Option.some.inj rest
          exact iff_of_false more fun none => more (complete.mpr none.1)

/-- A load is complete when nothing is selected any more. -/
theorem load_complete (valid : db.Valid) (success : db.load writer = some load) :
    load.complete = !load.buffers.hasAnySelection := by
  rw [Bool.eq_iff_iff, loadTypes_complete valid (by decide) success, Bool.not_eq_true',
    hasAnySelection, List.any_eq_false]
  simp

end DatabaseBuffers

/-! ## Indices -/

theorem Cell.ignoresSelection_vIndex : Cell.IgnoresSelection fun _ => Cell.vIndex :=
  fun _ _ _ => rfl

namespace DatabaseBuffers

variable {db after : DatabaseBuffers} {type : StaticType}

theorem SameRequests.sameIndices (same : db.SameRequests after) :
    db.SameLook (fun _ => Cell.vIndex) after := by
  intro type
  have indices := congrArg (List.map Prod.fst) (same type).2
  rwa [List.map_map, List.map_map] at indices

theorem Indexed.unselect (indexed : db.Indexed) : db.unselect.Indexed :=
  indexed.congr (sameLook_unselect Cell.ignoresSelection_vIndex db)

variable [FloatOps]

theorem sameIndices_of_step {input : DatabaseInput} {output : DatabaseOutput}
    (success : machine.step db input = some (after, output)) :
    db.SameLook (fun _ => Cell.vIndex) after := by
  cases input with
  | selectAll | selectRange | unselect | load =>
      exact sameLook_of_requests Cell.ignoresSelection_vIndex rfl success
  | update type value index mode =>
      obtain ⟨rfl, _⟩ := Prod.mk.inj (Option.some.inj success)
      exact (db.sameRequests_updateEvent value index mode).sameIndices
  | updateTimeAndInterval value index =>
      obtain ⟨rfl, _⟩ := Prod.mk.inj (Option.some.inj success)
      exact (@sameRequests_updateEvent .timeAndInterval _ db value index _).sameIndices
  | modify flagsType start stop flags =>
      obtain ⟨rfl, _⟩ := Prod.mk.inj (Option.some.inj success)
      exact (db.sameRequests_modify flagsType start stop flags).sameIndices
  | assignClassToAll type clazz =>
      obtain ⟨rfl, _⟩ := Prod.mk.inj (Option.some.inj success)
      exact (db.sameRequests_assignClassToRange type clazz _).sameIndices
  | assignClassToRange type clazz range =>
      obtain ⟨rfl, _⟩ := Prod.mk.inj (Option.some.inj success)
      exact (db.sameRequests_assignClassToRange type clazz range).sameIndices

theorem Valid.behind (valid : db.Valid) (reached : machine.Reaches db after) : after.Valid :=
  reached.invariant valid fun valid _ success => valid.step success

theorem Indexed.of_reaches {start : DatabaseBuffers} (indexed : start.Indexed)
    (reached : machine.Reaches start db) : db.Indexed :=
  reached.invariant indexed fun indexed _ success => indexed.congr (sameIndices_of_step success)

/-- Points with increasing indices can always be loaded. -/
theorem exists_load (valid : db.Valid) (indexed : db.Indexed) (writer : HeaderWriter) :
    ∃ load, db.load writer = some load := by
  by_cases wraps : Wraps (db.pendingPoints .binary) writer.remaining
  · obtain ⟨_, _, leaves⟩ := valid.loadPoints_wraps indexed wraps
    obtain ⟨load, _, success, _⟩ := leaves.load valid
    exact ⟨load, success⟩
  · obtain ⟨_, success, delivers, _⟩ := @Valid.loadPoints_delivers _ _ valid indexed .binary
      writer wraps
    obtain ⟨_, written, _⟩ := delivers.reported
    obtain ⟨load, _, success, _⟩ := LeavesBinaries.load valid
      ⟨success, indexed.congr delivers.indices, written⟩
    exact ⟨load, success⟩

end DatabaseBuffers

end OpenDnp3.Outstation
