import OpenDnp3.Outstation.Database.DatabaseLoading
import Mathlib.Algebra.Order.BigOperators.Group.List
import Mathlib.Algebra.Order.Ring.Nat

/-!
# Static responses

The fragments that successive loads make, with updates between them, report
every selected point once. Single bits are reported too, unless the number of
them in a header wraps.
-/

set_option autoImplicit false

namespace OpenDnp3.Outstation

open OpenDnp3.App OpenDnp3.Library

variable {type : StaticType}

/-- What a parser makes of bytes: headers with points in them, and these are the points. -/
def ParsesTo [FloatOps] (bytes : List UInt8) (readings : List Reading) : Prop :=
  ∃ headers, APDUParser.parse true (fun _ _ _ => true) bytes = .ok headers ∧
    (∀ header ∈ headers, header.readings ≠ []) ∧ headers.flatMap Header.readings = readings

theorem Reported.parsesTo [FloatOps] {bytes : List UInt8} {readings : List Reading}
    (reported : Reported bytes readings) : ParsesTo bytes readings := by
  obtain ⟨headers, reports⟩ := reported 0
  exact ⟨headers, reports.parses.parse, reports.nonempty, reports.readings⟩

/-! ## Requests -/

theorem map_request_pending (cells : List (Cell type)) :
    (pending cells).map Cell.request =
      (cells.map Cell.request).filter fun request => request.2.selected := by
  rw [List.filter_map]
  rfl

theorem map_request_pending_congr {cells others : List (Cell type)}
    (same : others.map Cell.request = cells.map Cell.request) :
    (pending others).map Cell.request = (pending cells).map Cell.request := by
  rw [map_request_pending, map_request_pending, same]

/-- What follows from what is asked of a point is the same of points that are asked for alike. -/
theorem map_congr_request {α : Type} {cells others : List (Cell type)}
    (same : others.map Cell.request = cells.map Cell.request)
    (of : UInt16 × SelectedValue type → α) :
    others.map (fun cell => of cell.request) = cells.map fun cell => of cell.request := by
  have both := congrArg (List.map of) same
  rwa [List.map_map, List.map_map] at both

/-- Points that a header with objects of their own reports. -/
def Cell.reportable (cell : Cell type) : Bool :=
  !isPacked type cell.selection.variation && cell.hasContents

theorem forall_reportable_congr {cells others : List (Cell type)}
    (same : others.map Cell.request = cells.map Cell.request)
    (reportable : ∀ cell ∈ cells, cell.reportable = true) :
    ∀ cell ∈ others, cell.reportable = true := by
  have flags : others.map Cell.reportable = cells.map Cell.reportable :=
    map_congr_request same fun request =>
      !isPacked type request.2.variation && type.hasContents request.2.value
  intro cell member
  have flag : cell.reportable ∈ cells.map Cell.reportable := by
    rw [← flags]
    exact List.mem_map_of_mem member
  obtain ⟨other, inside, equal⟩ := List.mem_map.mp flag
  rw [← equal]
  exact reportable other inside

/-- Points without single bits never wrap. -/
theorem neverWraps_of_reportable {cells : List (Cell type)}
    (reportable : ∀ cell ∈ cells, cell.reportable = true) (space : Nat) :
    NeverWraps type cells space := by
  cases type with
  | binary =>
      intro wraps
      cases cells with
      | nil => exact absurd wraps.indices (by simp)
      | cons cell cells =>
          have packed := wraps.packed cell List.mem_cons_self
          have other := reportable cell List.mem_cons_self
          rw [Cell.reportable, packed] at other
          cases other
  | doubleBitBinary | counter | frozenCounter | analog | binaryOutputStatus
  | analogOutputStatus | timeAndInterval | octetString => trivial

/-! ## Fragments -/

namespace DatabaseBuffers

/-- A fragment of a response: the database before the load, its writer, and what it leaves. -/
structure Fragment where
  before : DatabaseBuffers
  writer : HeaderWriter
  load : Load

namespace Fragment

/-- The bytes that the load has written. -/
def bytes (fragment : Fragment) : List UInt8 :=
  fragment.load.writer.position.written.drop fragment.writer.position.written.length

/-- Whether there was space for a header and the next point. -/
def hasSpace (fragment : Fragment) : Prop :=
  fragment.before.spaceForNext loadOrder ≤ fragment.writer.remaining

variable [FloatOps]

/-- What the points of a type said that the load has deselected. -/
def readings (fragment : Fragment) (type : StaticType) : List Reading :=
  (fragment.before.deselectedPoints fragment.load.buffers type).map Cell.reading

end Fragment

variable [FloatOps]

/-- What the points of a type still have to say. -/
def pendingReadings (db : DatabaseBuffers) (type : StaticType) : List Reading :=
  (db.pendingPoints type).map Cell.reading

/-- The fragment that a step makes. -/
def fragmentOf (db : DatabaseBuffers) : DatabaseInput → DatabaseBuffers × DatabaseOutput →
    Option Fragment
  | .load writer, (next, .loaded complete after) => some ⟨db, writer, ⟨complete, after, next⟩⟩
  | _, _ => none

/-- The fragments that inputs make, and the database they leave. -/
def respond : DatabaseBuffers → List DatabaseInput → Option (List Fragment × DatabaseBuffers)
  | db, [] => some ([], db)
  | db, input :: inputs =>
      (machine.step db input).bind fun result =>
        (respond result.1 inputs).map fun (fragments, last) =>
          ((db.fragmentOf input result).toList ++ fragments, last)

/-- The number of points that are still to be reported. -/
def numPending (db : DatabaseBuffers) : Nat :=
  (loadOrder.map fun type => (db.pendingPoints type).length).sum

end DatabaseBuffers

/-- Inputs that come while a response is sent: loads, and changes of points. -/
def DatabaseInput.whileReporting : DatabaseInput → Bool
  | .load _ | .update .. | .updateTimeAndInterval .. | .modify .. => true
  | .assignClassToAll .. | .assignClassToRange .. => true
  | .selectAll _ | .selectRange .. | .unselect => false

namespace DatabaseBuffers

variable {db : DatabaseBuffers}

/-- What a database has to keep for its responses to be whole. -/
structure Reporting (db : DatabaseBuffers) : Prop where
  valid : db.Valid
  indexed : db.Indexed
  reportable : ∀ type, ∀ cell ∈ db.pendingPoints type, cell.reportable = true

theorem mem_loadOrder (type : StaticType) : type ∈ loadOrder := by
  cases type <;> decide

theorem nodup_loadOrder : loadOrder.Nodup := by decide

theorem numPending_eq_zero (db : DatabaseBuffers) :
    db.numPending = 0 ↔ ∀ type, db.pendingPoints type = [] := by
  rw [numPending, List.sum_eq_zero_iff_forall_eq_nat]
  constructor
  · intro all type
    exact List.length_eq_zero_iff.mp (all _ (List.mem_map_of_mem (mem_loadOrder type)))
  · intro none count member
    obtain ⟨type, _, rfl⟩ := List.mem_map.mp member
    rw [none type]
    rfl

section updates

variable {other : DatabaseBuffers}

theorem SameRequests.pendingReadings [FloatOps] (same : db.SameRequests other) (type : StaticType) :
    other.pendingReadings type = db.pendingReadings type :=
  map_congr_request (map_request_pending_congr (same type).2) fun request =>
    (⟨type.reportedAs request.2.variation, type.objectType,
      type.encoded request.2.variation request.2.value, request.1⟩ : Reading)

theorem SameRequests.numPending (same : db.SameRequests other) :
    other.numPending = db.numPending := by
  refine congrArg List.sum (List.map_congr_left fun type _ => ?_)
  have lengths := congrArg List.length (map_request_pending_congr (same type).2)
  rwa [List.length_map, List.length_map] at lengths

theorem Reporting.of_sameRequests (reporting : db.Reporting) (same : db.SameRequests other) :
    other.Reporting where
  valid := reporting.valid.of_sameRequests same
  indexed type := (reporting.indexed type).congr (same type).2
  reportable type :=
    forall_reportable_congr (map_request_pending_congr (same type).2) (reporting.reportable type)

end updates

/-! ## One load -/

section loads

variable [FloatOps]

/-- What a load reports of a database that is being reported. -/
structure Fragment.Reports (fragment : Fragment) : Prop where
  before : fragment.before.Reporting
  after : fragment.load.buffers.Reporting
  parses : ParsesTo fragment.bytes (loadOrder.flatMap fragment.readings)
  complete : fragment.load.complete = true ↔ ∀ type, fragment.load.buffers.pendingReadings type = []
  split : ∀ type, fragment.before.pendingReadings type =
    fragment.readings type ++ fragment.load.buffers.pendingReadings type
  progress : fragment.hasSpace →
    fragment.load.buffers.numPending ≤ fragment.before.numPending - 1

theorem Reporting.load (reporting : db.Reporting) (writer : HeaderWriter) :
    ∃ load, db.load writer = some load ∧ (⟨db, writer, load⟩ : Fragment).Reports := by
  have delivered : ∃ load, db.load writer = some load ∧ db.Delivers loadOrder writer load :=
    Valid.loadTypes_delivers nodup_loadOrder reporting.valid reporting.indexed
      fun type _ space => neverWraps_of_reportable (reporting.reportable type) space
  obtain ⟨load, success, delivers⟩ := delivered
  have among : ∀ type, ∀ cell ∈ db.deselectedPoints load.buffers type, cell.hasContents = true := by
    intro type cell member
    have whole : cell ∈ db.pendingPoints type := by
      rw [delivers.split type]
      exact List.mem_append_left _ member
    exact (Bool.and_eq_true_iff.mp (reporting.reportable type cell whole)).2
  have later : ∀ type, ∀ cell ∈ load.buffers.pendingPoints type, cell.reportable = true := by
    intro type cell member
    refine reporting.reportable type cell ?_
    rw [delivers.split type]
    exact List.mem_append_right _ member
  obtain ⟨bytes, written, reported⟩ := delivers.reported
  refine ⟨load, success, reporting, ⟨reporting.valid.loadTypes success,
    reporting.indexed.congr delivers.indices, later⟩, ?_, ?_, ?_, ?_⟩
  · have appended : (⟨db, writer, load⟩ : Fragment).bytes = bytes := by
      rw [Fragment.bytes, written, List.drop_left]
    rw [appended]
    exact (reported fun type _ => among type).parsesTo
  · rw [delivers.complete]
    constructor
    · intro none type
      rw [pendingReadings, none type (mem_loadOrder type)]
      rfl
    · intro none type _
      exact List.map_eq_nil_iff.mp (none type)
  · intro type
    rw [pendingReadings, delivers.split type, List.map_append]
    rfl
  · intro enough
    have lengths : ∀ type, (load.buffers.pendingPoints type).length +
        (db.deselectedPoints load.buffers type).length = (db.pendingPoints type).length := by
      intro type
      rw [delivers.split type, List.length_append, Nat.add_comm]
    by_cases some : ∃ type ∈ loadOrder, db.pendingPoints type ≠ []
    · obtain ⟨type, member, reported⟩ := delivers.room enough some
      have fewer : load.buffers.numPending < db.numPending := by
        refine List.sum_lt_sum _ _ (fun type _ => by have := lengths type; omega)
          ⟨type, member, ?_⟩
        have here := lengths type
        have positive := List.length_pos_iff.mpr reported
        omega
      exact Nat.le_sub_one_of_lt fewer
    · have none : ∀ type, db.pendingPoints type = [] := fun type =>
        not_not.mp fun nonempty => some ⟨type, mem_loadOrder type, nonempty⟩
      have left : load.buffers.numPending = 0 := by
        rw [numPending_eq_zero]
        intro type
        have split := delivers.split type
        rw [none type] at split
        exact (List.append_eq_nil_iff.mp split.symm).2
      rw [left]
      exact Nat.zero_le _

/-! ## Whole responses -/

/-- What a step does while a response is sent. -/
theorem Reporting.step (reporting : db.Reporting) {input : DatabaseInput}
    (allowed : input.whileReporting = true) :
    ∃ next output, machine.step db input = some (next, output) ∧
      ((db.fragmentOf input (next, output) = none ∧ db.SameRequests next) ∨
        ∃ fragment, db.fragmentOf input (next, output) = some fragment ∧ fragment.Reports ∧
          fragment.before = db ∧ fragment.load.buffers = next) := by
  cases input with
  | selectAll gv => cases allowed
  | selectRange gv range => cases allowed
  | unselect => cases allowed
  | load writer =>
      obtain ⟨load, success, reports⟩ := reporting.load writer
      refine ⟨load.buffers, .loaded load.complete load.writer, ?_, .inr ⟨_, rfl, reports, rfl, rfl⟩⟩
      change (db.load writer).map _ = _
      rw [success]
      rfl
  | update type value index mode =>
      exact ⟨_, _, rfl, .inl ⟨rfl, db.sameRequests_updateEvent value index mode⟩⟩
  | updateTimeAndInterval value index =>
      exact ⟨_, _, rfl, .inl ⟨rfl, @sameRequests_updateEvent .timeAndInterval _ db value index _⟩⟩
  | modify flagsType start stop flags =>
      exact ⟨_, _, rfl, .inl ⟨rfl, db.sameRequests_modify flagsType start stop flags⟩⟩
  | assignClassToAll type clazz =>
      exact ⟨_, _, rfl, .inl ⟨rfl, db.sameRequests_assignClassToRange type clazz _⟩⟩
  | assignClassToRange type clazz range =>
      exact ⟨_, _, rfl, .inl ⟨rfl, db.sameRequests_assignClassToRange type clazz range⟩⟩

/-- What inputs report, and what they leave to be reported. -/
structure Responds (db : DatabaseBuffers) (fragments : List Fragment) (last : DatabaseBuffers) :
    Prop where
  reports : ∀ fragment ∈ fragments, fragment.Reports
  split : ∀ type, db.pendingReadings type =
    fragments.flatMap (fun fragment => fragment.readings type) ++ last.pendingReadings type
  progress : (∀ fragment ∈ fragments, fragment.hasSpace) →
    last.numPending ≤ db.numPending - fragments.length

theorem Reporting.respond {inputs : List DatabaseInput} :
    ∀ {db : DatabaseBuffers}, db.Reporting → (∀ input ∈ inputs, input.whileReporting = true) →
      ∃ fragments last, db.respond inputs = some (fragments, last) ∧
        db.Responds fragments last := by
  induction inputs with
  | nil =>
      intro db reporting _
      exact ⟨[], db, rfl, by simp, fun _ => rfl, fun _ => Nat.le_refl _⟩
  | cons input inputs ih =>
      intro db reporting allowed
      obtain ⟨inputAllowed, allowed⟩ := List.forall_mem_cons.mp allowed
      obtain ⟨next, output, stepped, change⟩ := reporting.step inputAllowed
      rw [DatabaseBuffers.respond, stepped, Option.bind_some]
      rcases change with ⟨quiet, same⟩ | ⟨fragment, made, reports, rfl, rfl⟩
      · obtain ⟨fragments, last, responded, responds⟩ :=
          ih (reporting.of_sameRequests same) allowed
        refine ⟨fragments, last, by rw [responded, quiet]; rfl, responds.reports, ?_, ?_⟩
        · intro type
          rw [← same.pendingReadings type]
          exact responds.split type
        · rw [← same.numPending]
          exact responds.progress
      · obtain ⟨fragments, last, responded, responds⟩ := ih reports.after allowed
        refine ⟨fragment :: fragments, last, by rw [responded, made]; rfl, ?_, ?_, ?_⟩
        · exact List.forall_mem_cons.mpr ⟨reports, responds.reports⟩
        · intro type
          rw [reports.split type, responds.split type, List.flatMap_cons, List.append_assoc]
        · intro enough
          obtain ⟨here, enough⟩ := List.forall_mem_cons.mp enough
          have first := reports.progress here
          have others := responds.progress enough
          rw [List.length_cons]
          omega

theorem Reporting.pairwise_pendingReadings (reporting : db.Reporting) (type : StaticType) :
    ((db.pendingReadings type).map Reading.index).Pairwise (· < ·) := by
  rw [pendingReadings, List.map_map]
  exact (reporting.indexed type).sublist (List.filter_sublist.map Cell.vIndex)

/-- The loads after a selection, with updates between them, report the points that are still
selected: every fragment reads as the points its load deselects, a load is complete when no
point is left, and no point is reported twice or out of order. Loads with space for a header and a
point report all of them. -/
theorem respond_reports {start db : DatabaseBuffers} (never : start.NeverSelected)
    (reached : machine.Reaches start db) (indexed : db.Indexed)
    (reportable : ∀ type, ∀ cell ∈ db.pendingPoints type, cell.reportable = true)
    {inputs : List DatabaseInput} (allowed : ∀ input ∈ inputs, input.whileReporting = true) :
    ∃ fragments last, db.respond inputs = some (fragments, last) ∧
      (∀ fragment ∈ fragments,
        ParsesTo fragment.bytes (loadOrder.flatMap fragment.readings) ∧
        (fragment.load.complete = true ↔
          ∀ type, fragment.load.buffers.pendingReadings type = [])) ∧
      (∀ type, db.pendingReadings type =
        fragments.flatMap (fun fragment => fragment.readings type) ++
          last.pendingReadings type) ∧
      (∀ type, ((db.pendingReadings type).map Reading.index).Pairwise (· < ·)) ∧
      ((∀ fragment ∈ fragments, fragment.hasSpace) → db.numPending ≤ fragments.length →
        ∀ type, last.pendingReadings type = []) := by
  have reporting : db.Reporting := ⟨Valid.of_reaches never reached, indexed, reportable⟩
  obtain ⟨fragments, last, responded, responds⟩ := reporting.respond allowed
  refine ⟨fragments, last, responded, ?_, responds.split, reporting.pairwise_pendingReadings, ?_⟩
  · intro fragment member
    have reports := responds.reports fragment member
    exact ⟨reports.parses, reports.complete⟩
  · intro enough many type
    have left := responds.progress enough
    have none := (numPending_eq_zero last).mp (by omega)
    rw [pendingReadings, none type]
    rfl

end loads

def counterRow : List (Cell .counter) :=
  [(3, 30, .group20Var1), (4, 40, .group20Var1), (5, 50, .group20Var6), (9, 90, .group20Var6)].map
    fun (index, value, variation) => ⟨⟨value, 1, 0⟩, index, variation, none, .none .counter⟩

def counters : DatabaseBuffers := ofType .counter ⟨⟨counterRow, by decide⟩, .invalid⟩

theorem neverSelected_counters : counters.NeverSelected :=
  neverSelected_ofType rfl fun cell member => by
    obtain ⟨_, _, rfl⟩ := List.mem_map.mp member
    rfl

/-- A counter changes between two loads, the first of which has no space for all of them. -/
def counterInputs : List DatabaseInput :=
  [.load ⟨⟨[], .replicate 16 0⟩, none⟩, .update .counter ⟨77, 1, 0⟩ 5 .detect,
    .load ⟨⟨[], .replicate 20 0⟩, none⟩]

def counterReadings : List (List Reading) :=
  [[⟨.group20Var1, .counter, (⟨30, 1, 0⟩ : Counter), 3⟩,
      ⟨.group20Var1, .counter, (⟨40, 1, 0⟩ : Counter), 4⟩],
    [⟨.group20Var6, .counter, (⟨50, 1, 0⟩ : Counter), 5⟩,
      ⟨.group20Var6, .counter, (⟨90, 1, 0⟩ : Counter), 9⟩]]

/-- Four counters in two fragments, with the values that they had when they were selected. -/
theorem respond_reports_counters :
    ∃ db fragments last, (@machine .atZero).Reaches counters db ∧
      @respond .atZero db counterInputs = some (fragments, last) ∧
      (∀ fragment ∈ fragments, @ParsesTo .atZero fragment.bytes
        (loadOrder.flatMap (@Fragment.readings .atZero fragment))) ∧
      fragments.map (fun fragment => @Fragment.readings .atZero fragment .counter) =
        counterReadings ∧
      fragments.map (fun fragment => fragment.load.complete) = [false, true] := by
  have reached : (@machine .atZero).Reaches counters (counters.selectAll .group20Var0).2 :=
    .step .start trivial (@step_selectAll .atZero counters .group20Var0)
  obtain ⟨fragments, last, responded, parses, _⟩ := @respond_reports .atZero _ _
    neverSelected_counters reached (fun type => by cases type <;> decide +kernel)
    (fun type => by cases type <;> decide +kernel) counterInputs (by decide)
  have known : (@respond .atZero (counters.selectAll .group20Var0).2 counterInputs).any
      (fun responded =>
        responded.1.map (fun fragment => @Fragment.readings .atZero fragment .counter) =
          counterReadings ∧
        responded.1.map (fun fragment => fragment.load.complete) = [false, true]) = true := by
    decide +kernel
  rw [responded, Option.any_some] at known
  obtain ⟨readings, complete⟩ := of_decide_eq_true known
  exact ⟨_, fragments, last, reached, responded,
    fun fragment member => (parses fragment member).1, readings, complete⟩

end DatabaseBuffers

end OpenDnp3.Outstation
