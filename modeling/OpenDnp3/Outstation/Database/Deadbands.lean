import OpenDnp3.Outstation.Database.PointUpdates

/-!
# Deadbands of counters

What a counter has last reported as an event stays within the deadband of its
value, as long as it is in an event class and no update passes its events over.
-/

set_option autoImplicit false

namespace OpenDnp3.Outstation

open OpenDnp3.App OpenDnp3.Library

/-- How far two counts are apart. -/
def distance (value other : UInt32) : Nat := ((value.toNat : Int) - other.toNat).natAbs

theorem distance_self (value : UInt32) : distance value value = 0 := by
  rw [distance, Int.sub_self, Int.natAbs_zero]

/-- The difference in 64 bits is the difference of the numbers. -/
theorem exceeds_eq (value other deadband : UInt32) :
    exceeds value other deadband = decide (deadband.toNat < distance value other) := by
  have first := value.toNat_lt
  have second := other.toNat_lt
  unfold exceeds distance
  refine decide_eq_decide.mpr ?_
  rw [UInt64.lt_iff_toNat_lt, UInt32.toNat_toUInt64]
  split
  · next less =>
      rw [UInt32.lt_iff_toNat_lt] at less
      rw [UInt64.toNat_sub_of_le, UInt32.toNat_toUInt64, UInt32.toNat_toUInt64]
      · omega
      · rw [UInt64.le_iff_toNat_le, UInt32.toNat_toUInt64, UInt32.toNat_toUInt64]
        omega
  · next notLess =>
      rw [UInt32.lt_iff_toNat_lt] at notLess
      rw [UInt64.toNat_sub_of_le, UInt32.toNat_toUInt64, UInt32.toNat_toUInt64]
      · omega
      · rw [UInt64.le_iff_toNat_le, UInt32.toNat_toUInt64, UInt32.toNat_toUInt64]
        omega

/-- The types of points that count. -/
inductive CounterType where
  | counter
  | frozenCounter
deriving DecidableEq, Repr, Inhabited

namespace CounterType

abbrev staticType : CounterType → StaticType
  | .counter => .counter
  | .frozenCounter => .frozenCounter

def count : (kind : CounterType) → kind.staticType.Meas → Counter
  | .counter, meas => meas
  | .frozenCounter, meas => meas

def deadband : (kind : CounterType) → kind.staticType.Deadband → UInt32
  | .counter, deadband => deadband
  | .frozenCounter, deadband => deadband

end CounterType

/-- The count that an event reports. -/
def countOf : AnyEvent → Option Counter
  | ⟨.counter, event⟩ => some event.value
  | ⟨.frozenCounter, event⟩ => some event.value
  | _ => none

variable [FloatOps] {kind : CounterType}

namespace DatabaseBuffers

/-- The database, and the last count that the counter at a position has offered. -/
def offering (kind : CounterType) (position : Nat) :
    Machine (DatabaseBuffers × Counter) DatabaseInput DatabaseOutput where
  step state input := (machine.step state.1 input).map fun (after, output) =>
    ((after, ((state.1.offered kind.staticType position input).bind countOf).getD state.2), output)

omit [FloatOps]

/-- The counter has never been updated. -/
def StartsAt (db : DatabaseBuffers) (kind : CounterType) (position : Nat) (initial : Counter) :
    Prop :=
  ∀ cell ∈ (db.points kind.staticType).view.get? position,
    kind.count cell.value = initial ∧
      ∃ event, cell.event = some event ∧ kind.count event.lastEvent = initial

/-- The counter is in an event class, and updates of its type detect or force events. -/
structure ReportsCounts (db : DatabaseBuffers) (kind : CounterType) (position : Nat)
    (input : DatabaseInput) : Prop where
  clazz : ∀ cell ∈ (db.points kind.staticType).view.get? position,
    ∀ event ∈ cell.event, event.clazz ≠ .class0
  mode : ∀ value index mode, input = .update kind.staticType value index mode →
    mode = .detect ∨ mode = .force

end DatabaseBuffers

omit [FloatOps] in
/-- What a counter has last offered, as it remembers it, is within the deadband of its value. -/
def Cell.Within (kind : CounterType) (last : Counter)
    (content : kind.staticType.Meas ×
      Option (kind.staticType.EventVariation × kind.staticType.Deadband × kind.staticType.Meas)) :
    Prop :=
  ∃ event, content.2 = some event ∧ kind.count event.2.2 = last ∧
    last.flags = (kind.count content.1).flags ∧
    distance last.value (kind.count content.1).value ≤ (kind.deadband event.2.1).toNat

omit [FloatOps] in
theorem countOf_eventOf (kind : CounterType) (value : kind.staticType.Meas) (index : UInt16)
    (clazz : EventClass) (variation : kind.staticType.EventVariation) :
    countOf (eventOf kind.staticType value index clazz variation) = some (kind.count value) := by
  cases kind <;> rfl

theorem CounterType.isEvent_eq (kind : CounterType) (event : EventCell kind.staticType)
    (value : kind.staticType.Meas) :
    event.isEvent kind.staticType value =
      ((kind.count event.lastEvent).flags != (kind.count value).flags ||
        exceeds (kind.count event.lastEvent).value (kind.count value).value
          (kind.deadband event.deadband)) := by
  cases kind <;> rfl

omit [FloatOps] in
/-- A point in an event class offers the value and remembers it. -/
theorem Cell.tryCreateEvent_eq {type : StaticType} {cell : Cell type} {event : EventCell type}
    (present : cell.event = some event) (clazz : event.clazz ≠ .class0) (value : type.Meas) :
    ∃ eventClass, cell.tryCreateEvent value =
      ({ cell with event := some { event with lastEvent := value } },
        some (eventOf type value cell.vIndex eventClass event.evariation)) := by
  rw [Cell.tryCreateEvent, present]
  cases known : event.clazz with
  | class0 => exact absurd known clazz
  | class1 => exact ⟨.ec1, by simp only [known, convertToEventClass]⟩
  | class2 => exact ⟨.ec2, by simp only [known, convertToEventClass]⟩
  | class3 => exact ⟨.ec3, by simp only [known, convertToEventClass]⟩

theorem Cell.updateAny_within {cell : Cell kind.staticType} {last : Counter}
    (within : Cell.Within kind last cell.content)
    (clazz : ∀ event ∈ cell.event, event.clazz ≠ .class0) (value : kind.staticType.Meas)
    {mode : EventMode} (reports : mode = .detect ∨ mode = .force) :
    Cell.Within kind (((cell.updateAny value mode).2.bind countOf).getD last)
      (cell.updateAny value mode).1.content := by
  obtain ⟨_, present, remembered, _, _⟩ := within
  obtain ⟨event, found, rfl⟩ := Option.map_eq_some_iff.mp present
  obtain ⟨eventClass, created⟩ := Cell.tryCreateEvent_eq found (clazz event found) value
  have offers : Cell.Within kind (kind.count value)
      (Cell.content { cell with value, event := some { event with lastEvent := value } }) :=
    ⟨_, rfl, rfl, rfl, by rw [Cell.content, distance_self]; exact Nat.zero_le _⟩
  rcases reports with rfl | rfl
  · simp only [Cell.updateAny, found, Option.any_some, created]
    cases detected : event.isEvent kind.staticType value with
    | true =>
        rw [if_pos rfl, Option.bind_some, countOf_eventOf]
        exact offers
    | false =>
        rw [CounterType.isEvent_eq, Bool.or_eq_false_iff, bne_eq_false_iff_eq, exceeds_eq,
          decide_eq_false_iff_not, not_lt] at detected
        rw [if_neg Bool.false_ne_true]
        refine ⟨_, present, remembered, ?_, ?_⟩
        · exact (congrArg (·.flags) remembered).symm.trans detected.1
        · rw [← remembered]
          exact detected.2
  · simp only [Cell.updateAny, created, Option.bind_some, countOf_eventOf]
    exact offers

namespace DatabaseBuffers

variable {db after : DatabaseBuffers} {position : Nat} {last : Counter}

omit [FloatOps] in
/-- What the counter at a position has last offered is within its deadband. -/
def Tracks (db : DatabaseBuffers) (kind : CounterType) (position : Nat) (last : Counter) : Prop :=
  ∀ cell ∈ (db.points kind.staticType).view.get? position, Cell.Within kind last cell.content

theorem Tracks.step {input : DatabaseInput} {output : DatabaseOutput}
    (tracks : db.Tracks kind position last) (reports : db.ReportsCounts kind position input)
    (success : machine.step db input = some (after, output)) :
    after.Tracks kind position
      (((db.offered kind.staticType position input).bind countOf).getD last) := by
  intro updated found
  have same := content_step success kind.staticType position
  rw [found, Option.map_some] at same
  obtain ⟨cell, here, content⟩ := Option.map_eq_some_iff.mp same.symm
  rw [← content, offered, here, Option.bind_some]
  have within := tracks cell here
  cases given : db.handed kind.staticType position input with
  | none => exact within
  | some handed =>
      obtain ⟨value, mode⟩ := handed
      refine Cell.updateAny_within within (reports.clazz cell here) value ?_
      cases input with
      | update type other index way =>
          simp only [DatabaseBuffers.handed] at given
          split at given
          · next equal =>
              subst equal
              split at given
              · obtain ⟨_, rfl⟩ := Prod.mk.inj (Option.some.inj given)
                exact reports.mode _ _ _ rfl
              · cases given
          · cases given
      | updateTimeAndInterval other index =>
          simp only [DatabaseBuffers.handed] at given
          split at given
          · next equal => cases kind <;> cases equal
          · cases given
      | modify flagsType start stop flags =>
          simp only [DatabaseBuffers.handed] at given
          split at given
          · obtain ⟨_, _, equal⟩ := Option.map_eq_some_iff.mp given
            obtain ⟨_, rfl⟩ := Prod.mk.inj equal
            exact .inl rfl
          · cases given
      | selectAll | selectRange | unselect | load | assignClassToAll | assignClassToRange =>
          cases given

/-- In every run in which a counter stays in an event class, the last event it has offered has
the flags of its value and a count within the deadband, and the difference never overflows. -/
theorem within_deadband_of_reachesWhile {start : DatabaseBuffers} {initial : Counter}
    (starts : start.StartsAt kind position initial)
    (reached : (offering kind position).ReachesWhile
      (fun state input => state.1.ReportsCounts kind position input) (start, initial) (db, last)) :
    (∀ cell ∈ (db.points kind.staticType).view.get? position, ∃ event, cell.event = some event ∧
      last.flags = (kind.count cell.value).flags ∧
      distance last.value (kind.count cell.value).value ≤ (kind.deadband event.deadband).toNat) ∧
    ∀ value other deadband,
      exceeds value other deadband = decide (deadband.toNat < distance value other) := by
  refine ⟨fun cell found => ?_, exceeds_eq⟩
  have tracks : db.Tracks kind position last :=
    @Machine.ReachesWhile.invariant _ _ _ _ _ _ _
      (fun state => state.1.Tracks kind position state.2) reached
      (by
        intro cell found
        obtain ⟨value, event, present, remembered⟩ := starts cell found
        refine ⟨_, congrArg (Option.map _) present, remembered, (congrArg (·.flags) value).symm, ?_⟩
        have same : (kind.count cell.content.1).value = initial.value := congrArg (·.value) value
        rw [same, distance_self]
        exact Nat.zero_le _)
      (by
        intro before next input output tracks reports success
        obtain ⟨⟨after, _⟩, stepped, same⟩ := Option.map_eq_some_iff.mp success
        obtain ⟨rfl, _⟩ := Prod.mk.inj same
        exact tracks.step reports stepped)
  obtain ⟨_, present, _, flags, near⟩ := tracks cell found
  obtain ⟨event, there, rfl⟩ := Option.map_eq_some_iff.mp present
  exact ⟨event, there, flags, near⟩

/-- A counter in class one with a deadband of five. -/
private def oneCounter : DatabaseBuffers :=
  ofType .counter ⟨⟨[⟨⟨0, 0x02, 0⟩, 0, .group20Var1,
    some ⟨.class1, .group22Var1, (5 : UInt32), ⟨0, 0x02, 0⟩⟩, .none .counter⟩],
    ArrayView.one_fits⟩, .invalid⟩

omit [FloatOps] in
/-- A small change is not offered, a larger one is. -/
theorem within_deadband_drift :
    ∃ db last, (@offering .atZero .counter 0).Reaches (oneCounter, ⟨0, 0x02, 0⟩) (db, last) ∧
      last = ⟨6, 0x02, 0⟩ ∧
      ∀ cell ∈ (db.points .counter).view.get? 0, ∃ event, cell.event = some event ∧
        last.flags = cell.value.flags ∧
        distance last.value cell.value.value ≤ (event.deadband : UInt32).toNat := by
  have first : (@offering .atZero .counter 0).ReachesWhile
      (fun state input => state.1.ReportsCounts .counter 0 input)
      (oneCounter, ⟨0, 0x02, 0⟩) _ :=
    .step .start
      ⟨by rintro cell ⟨⟩ event ⟨⟩; decide, by rintro _ _ _ ⟨⟩; exact .inl rfl⟩
      (rfl : (@offering .atZero .counter 0).step _
        (.update .counter ⟨4, 0x02, 0⟩ 0 .detect) = some _)
  have second := first.step
    ⟨by rintro cell ⟨⟩ event ⟨⟩; decide, by rintro _ _ _ ⟨⟩; exact .inl rfl⟩
    (rfl : (@offering .atZero .counter 0).step _
      (.update .counter ⟨6, 0x02, 0⟩ 0 .detect) = some _)
  have third := second.step
    ⟨by rintro cell ⟨⟩ event ⟨⟩; decide, by rintro _ _ _ ⟨⟩; exact .inl rfl⟩
    (rfl : (@offering .atZero .counter 0).step _
      (.update .counter ⟨9, 0x02, 0⟩ 0 .detect) = some _)
  have starts : oneCounter.StartsAt .counter 0 ⟨0, 0x02, 0⟩ := by
    rintro cell ⟨⟩
    exact ⟨rfl, _, rfl, rfl⟩
  exact ⟨_, _, third.reaches, rfl, (@within_deadband_of_reachesWhile .atZero .counter _ _ _ _ _
    starts third).1⟩

end DatabaseBuffers

end OpenDnp3.Outstation
