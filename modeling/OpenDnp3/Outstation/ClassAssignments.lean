import OpenDnp3.Outstation.Database.IndexSearchProperties
import OpenDnp3.Outstation.OutstationContext

/-!
# Class assignments

Which points a request assigns to a class, and which the application is told. The
points are found by their positions, and not by their indices.
-/

set_option autoImplicit false

namespace OpenDnp3.Outstation

open OpenDnp3.App OpenDnp3.Library

variable {type : StaticType}

/-- Whether a header names a number: all of them, or those of its range. -/
def Names : Header → Nat → Prop
  | .allObjects _, _ => True
  | .range _ range, number => Holds range number
  | _, _ => False

instance : (header : Header) → (number : Nat) → Decidable (Names header number)
  | .allObjects _, _ => isTrue trivial
  | .range _ range, number => inferInstanceAs (Decidable (Holds range number))
  | .count _ _, _ | .rangeOf _ _ _ _, _ | .countOf _ _ _ _, _ | .prefixOf _ _ _ _, _
  | .freeFormat _ _, _ => isFalse id

/-- A header that assigns points of a type. -/
inductive Assigned : Header → AssignClassType → Prop where
  | all {record : HeaderRecord} {type : AssignClassType}
      (known : AssignClassHandler.assignClassType record.enumeration = some type) :
      Assigned (.allObjects record) type
  | range {record : HeaderRecord} {type : AssignClassType} {range : Range}
      (known : AssignClassHandler.assignClassType record.enumeration = some type) :
      Assigned (.range record range) type

/-- The range of positions that a header asks for. -/
def requestedRange (size : Nat) : Header → Range
  | .range _ range => range
  | _ => rangeOf size

theorem holds_rangeOf {size : Nat} (fits : size < 65536) (position : Nat) :
    Holds (rangeOf size) position ↔ position < size := by
  rw [rangeOf]
  split
  · change 0 ≤ position ∧ position ≤ (UInt16.ofNat (size - 1)).toNat ↔ _
    rw [UInt16.toNat_ofNat', Nat.mod_eq_of_lt (by omega)]
    omega
  · exact iff_of_false (IndexSearch.not_holds_invalid position) (by omega)

theorem holds_intersection (range other : Range) (number : Nat) :
    Holds (range.intersection other) number ↔ Holds range number ∧ Holds other number := by
  simp only [Holds, Range.start_intersection, Range.stop_intersection]
  omega

theorem isValid_of_holds {range : Range} {number : Nat} (holds : Holds range number) :
    range.isValid = true :=
  (Range.isValid_iff range).mpr (holds.1.trans holds.2)

/-- The header is applied to the positions it names, as far as there are points. -/
theorem holds_clipped {header : Header} {assigned : AssignClassType} {size : Nat}
    (assigns : Assigned header assigned) (fits : size < 65536) (number : Nat) :
    Holds ((requestedRange size header).intersection (rangeOf size)) number ↔
      Names header number ∧ number < size := by
  rw [holds_intersection, holds_rangeOf fits]
  cases assigns with
  | all known =>
      rw [requestedRange, holds_rangeOf fits, and_self, Names, true_and]
      rintro _ _ ⟨⟩
  | range known => rw [requestedRange, Names]

/-- What the application is told of a range. -/
def reportOf (range : Range) : Option Range := if range.isValid then some range else none

theorem exists_mem_reportOf (range : Range) (number : Nat) :
    (∃ told ∈ reportOf range, Holds told number) ↔ Holds range number := by
  rw [reportOf]
  split
  · simp
  · rename_i invalid
    refine iff_of_false (by simp) ?_
    intro holds
    exact invalid (isValid_of_holds holds)

namespace AssignClassHandler

variable {environment : Environment} {handler : AssignClassHandler} {record : HeaderRecord}
  {clazz : PointClass} {header : Header} {assigned : AssignClassType}

/-- A first header that names a class. -/
theorem onHeader_class (named : pointClass record.enumeration = some clazz)
    (first : handler.numTotalHeaders = 0) :
    handler.onHeader environment (.allObjects record) =
      { handler with
        classHeader := some 0, clazz, numTotalHeaders := 1
        errors := handler.errors.or .empty } := by
  simp [onHeader, processHeader, isExpectingAssignment, first, recordClass, named]

/-- The assignment that follows it. -/
theorem onHeader_assignment (assigns : Assigned header assigned)
    (expecting : handler.classHeader = some 0) (second : handler.numTotalHeaders = 1) :
    let size := (handler.database.points assigned.staticType).view.size
    let (clipped, database) := handler.database.assignClassToRange assigned handler.clazz
      (requestedRange size header)
    (handler.onHeader environment header).database = database ∧
      (handler.onHeader environment header).log = handler.log ++
        (reportOf clipped).toList.map fun range =>
          .call (.recordClassAssignment assigned handler.clazz range) := by
  cases assigns with
  | all known =>
      simp only [onHeader, processHeader, isExpectingAssignment, second, expecting, known,
        processAssignAll, DatabaseBuffers.assignClassToAll, notifyApplicationOfAssignment,
        requestedRange, Environment.ask, Nat.one_pos, Nat.sub_self, and_self, if_true]
      refine ⟨by split <;> rfl, ?_⟩
      rw [reportOf]
      split
      · rfl
      · exact (List.append_nil _).symm
  | range known =>
      simp only [onHeader, processHeader, isExpectingAssignment, second, expecting, known,
        processAssignRange, notifyApplicationOfAssignment, requestedRange, Environment.ask,
        Nat.one_pos, Nat.sub_self, and_self, if_true]
      refine ⟨by split <;> rfl, ?_⟩
      rw [reportOf]
      split
      · rfl
      · exact (List.append_nil _).symm

end AssignClassHandler

/-! ## Requests -/

/-- Whether a point is in a class, or has no events. -/
def Cell.InClass (clazz : PointClass) (cell : Cell type) : Prop :=
  ∀ event ∈ cell.event, event.clazz = clazz

theorem Cell.assignClass_eq_self_iff {clazz : PointClass} {cell : Cell type} :
    cell.assignClass clazz = cell ↔ cell.InClass clazz := by
  obtain ⟨value, vIndex, svariation, event, selection⟩ := cell
  cases event with
  | none => simp [assignClass, InClass]
  | some event =>
      obtain ⟨clazz, evariation, deadband, lastEvent⟩ := event
      simp [assignClass, InClass, eq_comm]

/-- A user's code that supports assignments of classes. -/
def Environment.assigning : Environment where
  now := 0
  application log := fun
    | .supportsAssignClass => true
    | call => Environment.atZero.application log call

namespace OContext

/-- What a request that names a class and then assigns points to it is for. -/
structure Assigns (context after : OContext) (header : Header) (assigned : AssignClassType)
    (clazz : PointClass) : Prop where
  points : ∀ {position : Nat} {cell : Cell assigned.staticType},
    (context.database.points assigned.staticType).view.get? position = some cell →
      (after.database.points assigned.staticType).view.get? position =
        some (if Names header cell.vIndex.toNat then cell.assignClass clazz else cell)
  others : ∀ {type : StaticType}, type ≠ assigned.staticType →
    after.database.points type = context.database.points type
  reported : ∃ report : Option Range,
    after.log = context.log ++ .call .supportsAssignClass ::
        report.toList.map (fun range => .call (.recordClassAssignment assigned clazz range)) ∧
      ∀ {position : Nat} {cell : Cell assigned.staticType},
        (context.database.points assigned.staticType).view.get? position = some cell →
          ((∃ range ∈ report, Holds range cell.vIndex.toNat) ↔ Names header cell.vIndex.toNat)

def supportsAssignClass (context : OContext) (environment : Environment) : Bool :=
  environment.application context.log .supportsAssignClass

/-- The points that are not in the class yet are named by their positions when their indices are,
and no index is named that is not a position. A user's code without support for assignments is
not asked for any. -/
def InPlace (environment : Environment) (context : OContext) (header : Header)
    (assigned : AssignClassType) (clazz : PointClass) : Prop :=
  ∀ {position : Nat} {cell : Cell assigned.staticType},
    (context.database.points assigned.staticType).view.get? position = some cell →
      if context.supportsAssignClass environment then
        (¬cell.InClass clazz → (Names header position ↔ Names header cell.vIndex.toNat)) ∧
          (Names header cell.vIndex.toNat →
            cell.vIndex.toNat < (context.database.points assigned.staticType).view.size)
      else
        ¬Names header cell.vIndex.toNat

section Requests

variable [FloatOps] {environment : Environment} {context : OContext} {header : Header}
  {assigned : AssignClassType} {clazz : PointClass} {objects : List UInt8} {record : HeaderRecord}

omit [FloatOps] in
/-- The log tells what was reported. -/
theorem Assigns.reported_iff {after : OContext} {told : Option Range}
    (log : after.log = context.log ++ .call .supportsAssignClass ::
      told.toList.map fun range => .call (.recordClassAssignment assigned clazz range))
    (fits : Option Range → Prop) :
    (∃ report : Option Range,
      after.log = context.log ++ .call .supportsAssignClass ::
          report.toList.map (fun range => .call (.recordClassAssignment assigned clazz range)) ∧
        fits report) ↔ fits told := by
  constructor
  · rintro ⟨report, same, fitting⟩
    have rest := List.tail_eq_of_cons_eq (List.append_cancel_left (log.symm.trans same))
    cases report <;> cases told <;> simp_all
  · intro fitting
    exact ⟨told, log, fitting⟩

theorem handleAssignClass_of_unsupported
    (unsupported : context.supportsAssignClass environment = false) :
    (context.handleAssignClass environment objects).2 =
      { context with log := context.log ++ [.call .supportsAssignClass] } := by
  rw [supportsAssignClass] at unsupported
  simp only [handleAssignClass, Environment.ask, unsupported]
  rfl

/-- The points at the positions that the header names are assigned, and the application is told
of these positions. -/
theorem handleAssignClass_of_supported
    (supported : context.supportsAssignClass environment = true)
    (parsed : APDUParser.parse false AssignClassHandler.isAllowed objects =
      .ok [.allObjects record, header])
    (named : AssignClassHandler.pointClass record.enumeration = some clazz)
    (assigns : Assigned header assigned) :
    let points := context.database.points assigned.staticType
    let after := (context.handleAssignClass environment objects).2
    (∀ {position : Nat} {cell : Cell assigned.staticType},
      points.view.get? position = some cell →
        (after.database.points assigned.staticType).view.get? position =
          some (if Names header position then cell.assignClass clazz else cell)) ∧
      (∀ {type : StaticType}, type ≠ assigned.staticType →
        after.database.points type = context.database.points type) ∧
      ∃ told : Option Range,
        after.log = context.log ++ .call .supportsAssignClass ::
            told.toList.map (fun range => .call (.recordClassAssignment assigned clazz range)) ∧
          ∀ number, (∃ range ∈ told, Holds range number) ↔
            Names header number ∧ number < points.view.size := by
  rw [supportsAssignClass] at supported
  let handler : AssignClassHandler :=
    { database := context.database
      log := context.log ++ [.call .supportsAssignClass]
      classHeader := some 0, clazz, numTotalHeaders := 1, errors := IINField.empty.or .empty }
  obtain ⟨database, log⟩ :=
    @AssignClassHandler.onHeader_assignment environment handler _ _ assigns rfl rfl
  have fits := (context.database.points assigned.staticType).view.fits
  change (context.database.points assigned.staticType).view.size < 65536 at fits
  have clipped := holds_clipped assigns fits
  simp only [handleAssignClass, Environment.ask, supported, parsed, List.foldl_cons,
    List.foldl_nil, AssignClassHandler.onHeader_class named]
  have told := fun number => (exists_mem_reportOf _ number).trans (clipped number)
  refine ⟨?_, ?_, reportOf _, log.trans ?_, told⟩
  · intro position cell found
    have inside : position < (context.database.points assigned.staticType).view.size :=
      (List.getElem?_eq_some_iff.mp found).1
    refine (congrArg (fun db => (db.points assigned.staticType).view.get? position)
      database).trans ?_
    simp only [DatabaseBuffers.setPoints, Function.update_self]
    refine (ArrayView.get?_modifyRange ..).trans ?_
    rw [found]
    refine congrArg some (if_congr ((clipped position).trans ?_) rfl rfl)
    exact and_iff_left inside
  · intro type different
    refine (congrArg (fun db => db.points type) database).trans ?_
    exact Function.update_of_ne different _ _
  · exact List.append_assoc ..

/-- The request assigns the points that are asked for exactly when positions serve for indices. -/
theorem assigns_handleAssignClass_iff
    (parsed : APDUParser.parse false AssignClassHandler.isAllowed objects =
      .ok [.allObjects record, header])
    (named : AssignClassHandler.pointClass record.enumeration = some clazz)
    (assigns : Assigned header assigned) :
    context.Assigns (context.handleAssignClass environment objects).2 header assigned clazz ↔
      context.InPlace environment header assigned clazz := by
  cases supported : context.supportsAssignClass environment with
  | false =>
      have after := @handleAssignClass_of_unsupported _ environment context objects supported
      have log : (context.handleAssignClass environment objects).2.log = context.log ++
          .call .supportsAssignClass :: (none : Option Range).toList.map fun range =>
            .call (.recordClassAssignment assigned clazz range) := by
        rw [after]
        rfl
      constructor
      · intro right position cell found
        obtain reported := (Assigns.reported_iff log _).mp right.reported found
        rw [supported, if_neg Bool.false_ne_true, ← reported]
        simp
      · intro inPlace
        have unnamed : ∀ {position : Nat} {cell : Cell assigned.staticType},
            (context.database.points assigned.staticType).view.get? position = some cell →
              ¬Names header cell.vIndex.toNat := by
          intro position cell found
          have here := inPlace found
          rwa [supported, if_neg Bool.false_ne_true] at here
        refine ⟨?_, ?_, (Assigns.reported_iff log _).mpr ?_⟩
        · intro position cell found
          rw [after, if_neg (unnamed found)]
          exact found
        · intro type different
          rw [after]
        · intro position cell found
          exact iff_of_false (by simp) (unnamed found)
  | true =>
      obtain ⟨points, others, told, log, reported⟩ :=
        handleAssignClass_of_supported supported parsed named assigns
      constructor
      · intro right position cell found
        rw [supported, if_pos rfl]
        constructor
        · intro elsewhere
          have same := Option.some.inj ((points found).symm.trans (right.points found))
          have changes := mt Cell.assignClass_eq_self_iff.mp elsewhere
          by_cases here : Names header position
          · refine iff_of_true here ?_
            by_contra unnamed
            rw [if_pos here, if_neg unnamed] at same
            exact changes same
          · refine iff_of_false here ?_
            intro names
            rw [if_neg here, if_pos names] at same
            exact changes same.symm
        · have covered := (Assigns.reported_iff log _).mp right.reported found
          rw [reported] at covered
          exact fun names => (covered.mpr names).2
      · intro inPlace
        refine ⟨?_, others, (Assigns.reported_iff log _).mpr ?_⟩
        · intro position cell found
          have here := inPlace found
          rw [supported, if_pos rfl] at here
          rw [points found]
          by_cases already : cell.InClass clazz
          · rw [Cell.assignClass_eq_self_iff.mpr already, ite_self, ite_self]
          · rw [if_congr (here.1 already) rfl rfl]
        · intro position cell found
          have here := inPlace found
          rw [supported, if_pos rfl] at here
          rw [reported]
          exact ⟨And.left, fun names => ⟨names, here.2 names⟩⟩

omit [FloatOps] in
/-- So it does when the positions are the indices. -/
theorem InPlace.of_positions (supported : context.supportsAssignClass environment = true)
    (positions : ∀ {position : Nat} {cell : Cell assigned.staticType},
      (context.database.points assigned.staticType).view.get? position = some cell →
        cell.vIndex.toNat = position) :
    context.InPlace environment header assigned clazz := by
  intro position cell found
  rw [supported, if_pos rfl, positions found]
  exact ⟨fun _ => Iff.rfl, fun _ => (List.getElem?_eq_some_iff.mp found).1⟩

end Requests

/-- The binary points 2, 4 and 5, all of class 1. -/
def threePoints : OContext :=
  initial ⟨1, 1024⟩ {} ⟨2, 2, 2, 2, 2, 2, 2, 2⟩
    { points := fun
        | .binary =>
            ⟨⟨[2, 4, 5].map fun vIndex =>
                ⟨default, vIndex, .group1Var2, some ⟨.class1, .group2Var1, (), default⟩,
                  .none .binary⟩, by decide⟩, .invalid⟩
        | _ => ⟨⟨[], ArrayView.none_fits⟩, .invalid⟩
      class0 := fun _ => true
      indexMode := .discontiguous }

/-- Assign the binary point 2 to class 2. -/
def assignPointTwo : List UInt8 := [0x3C, 0x03, 0x06, 0x01, 0x00, 0x00, 0x02, 0x02]

def pointTwo : Header := .range ⟨.getRecord 1 0, 0x00, 1⟩ ⟨2, 2⟩

theorem parse_assignPointTwo :
    @APDUParser.parse .atZero false AssignClassHandler.isAllowed assignPointTwo =
      .ok [.allObjects ⟨.getRecord 60 3, 0x06, 0⟩, pointTwo] := by
  decide +kernel

/-- The point 5 is assigned in place of the point 2. -/
theorem not_assigns_pointTwo :
    ¬threePoints.Assigns (@handleAssignClass .assigning .atZero threePoints assignPointTwo).2
      pointTwo .binaryInput .class2 := by
  intro assigns
  have first := @Assigns.points _ _ _ _ _ assigns 0 _ rfl
  have unchanged := congrArg (Option.map fun cell => cell.event.map EventCell.clazz) first
  revert unchanged
  decide +kernel

theorem assigns_iff_inPlace_pointTwo :
    threePoints.Assigns (@handleAssignClass .assigning .atZero threePoints assignPointTwo).2
        pointTwo .binaryInput .class2 ↔
      threePoints.InPlace .assigning pointTwo .binaryInput .class2 :=
  @assigns_handleAssignClass_iff .atZero _ _ _ _ _ _ _ parse_assignPointTwo rfl (.range rfl)

end OContext

end OpenDnp3.Outstation
