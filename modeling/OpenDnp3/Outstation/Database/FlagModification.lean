import OpenDnp3.Outstation.Database.PointUpdates
import OpenDnp3.Outstation.Event.EventFormats

/-!
# Changes of flags

A change of flags overwrites the whole flags octet. The value of a point that is
read from bits of that octet is overwritten with it.
-/

set_option autoImplicit false

namespace OpenDnp3.App.ObjectType

/-- The bits of the flags that carry the value. -/
def stateMask : ObjectType → UInt8
  | .binary => 0x80
  | .binaryOutputStatus => 0x80
  | .doubleBitBinary => 0xC0
  | _ => 0

/-- The flags of a measurement. The other types have none. -/
def flags : (type : ObjectType) → type.Value → UInt8
  | .binary, meas => meas.flags
  | .doubleBitBinary, meas => meas.flags
  | .binaryOutputStatus, meas => meas.flags
  | .counter, meas => meas.flags
  | .frozenCounter, meas => meas.flags
  | .analog, meas => meas.flags
  | .analogOutputStatus, meas => meas.flags
  | _, _ => 0

/-- A measurement without its flags. -/
def unflagged : (type : ObjectType) → type.Value → type.Value
  | .binary, meas => { meas with flags := 0 }
  | .doubleBitBinary, meas => { meas with flags := 0 }
  | .binaryOutputStatus, meas => { meas with flags := 0 }
  | .counter, meas => { meas with flags := 0 }
  | .frozenCounter, meas => { meas with flags := 0 }
  | .analog, meas => { meas with flags := 0 }
  | .analogOutputStatus, meas => { meas with flags := 0 }
  | _, value => value

/-- The bits of the flags of a measurement that carry its value. -/
def stateBits (type : ObjectType) (meas : type.Value) : UInt8 :=
  type.flags meas &&& type.stateMask

end OpenDnp3.App.ObjectType

namespace OpenDnp3.Outstation

open OpenDnp3.App OpenDnp3.Library

variable [FloatOps] {type : StaticType}

/-- What a master reads from an event, but for the flags. -/
def AnyEvent.reported (event : AnyEvent) : (type : ObjectType) × type.Value :=
  ⟨event.1.objectType,
    event.1.objectType.unflagged (event.1.encoded event.2.variation event.2.value)⟩

/-- Measurements that differ in their quality only: they have one value, one state in their
flags, and are reported with one value in every variation, static and of events. -/
structure SameValue (type : StaticType) (before after : type.Meas) : Prop where
  value : type.objectType.unflagged after = type.objectType.unflagged before
  state : type.objectType.stateBits after = type.objectType.stateBits before
  static : ∀ variation, type.objectType.unflagged (type.encoded variation after) =
    type.objectType.unflagged (type.encoded variation before)
  event : ∀ index clazz variation,
    AnyEvent.reported (eventOf type after index clazz variation) =
      AnyEvent.reported (eventOf type before index clazz variation)

theorem SameValue.refl (type : StaticType) (meas : type.Meas) : SameValue type meas meas :=
  ⟨rfl, rfl, fun _ => rfl, fun _ _ _ => rfl⟩

omit [FloatOps] in
theorem getBinaryValue_congr {flags other : UInt8} (same : flags &&& 0x80 = other &&& 0x80) :
    BinaryFactory.getBinaryValue flags = BinaryFactory.getBinaryValue other := by
  rw [BinaryFactory.getBinaryValue, same, BinaryFactory.getBinaryValue]

omit [FloatOps] in
theorem getValue_congr {flags other : UInt8} (same : flags &&& 0xC0 = other &&& 0xC0) :
    DoubleBitBinaryFactory.getValue flags = DoubleBitBinaryFactory.getValue other := by
  have top : ∀ flags : UInt8, flags >>> 6 = (flags &&& 0xC0) >>> 6 := by
    intro flags
    rw [← UInt8.toNat_inj]
    simp only [UInt8.toNat_shiftRight, UInt8.toNat_and, UInt8.toNat_ofNat, Nat.reducePow,
      Nat.reduceMod]
    rw [Nat.shiftRight_and_distrib]
    have small : flags.toNat >>> 6 < 2 ^ 2 := by
      have bound := flags.toNat_lt
      rw [Nat.shiftRight_eq_div_pow]
      omega
    exact (Nat.and_two_pow_sub_one_of_lt_two_pow small).symm
  rw [DoubleBitBinaryFactory.getValue, top, same, ← top, DoubleBitBinaryFactory.getValue]

theorem sameValue_binary {flags : UInt8} {meas : Binary}
    (same : flags &&& 0x80 = meas.flags &&& 0x80) :
    SameValue .binary meas { meas with flags } := by
  have state := getBinaryValue_congr same
  refine ⟨rfl, same, fun variation => ?_, fun index clazz variation => ?_⟩
  · cases variation with
    | group1Var1 => rfl
    | group1Var2 => exact congrArg (fun bit => (⟨bit, 0, 0⟩ : Binary)) state
  · have reported (time : DNPTime) := congrArg (fun bit : Bool =>
      (⟨.binary, ⟨bit, 0, time⟩⟩ : (type : ObjectType) × type.Value)) state
    cases variation with
    | group2Var1 => exact reported 0
    | group2Var2 | group2Var3 => exact reported meas.time

theorem sameValue_doubleBitBinary {flags : UInt8} {meas : DoubleBitBinary}
    (same : flags &&& 0xC0 = meas.flags &&& 0xC0) :
    SameValue .doubleBitBinary meas { meas with flags } := by
  have state := getValue_congr same
  refine ⟨rfl, same, fun variation => ?_, fun index clazz variation => ?_⟩
  · cases variation with
    | group3Var2 => exact congrArg (fun bits => (⟨bits, 0, 0⟩ : DoubleBitBinary)) state
  · have reported (time : DNPTime) := congrArg (fun bits : DoubleBit =>
      (⟨.doubleBitBinary, ⟨bits, 0, time⟩⟩ : (type : ObjectType) × type.Value)) state
    cases variation with
    | group4Var1 => exact reported 0
    | group4Var2 | group4Var3 => exact reported meas.time

theorem sameValue_binaryOutputStatus {flags : UInt8} {meas : BinaryOutputStatus}
    (same : flags &&& 0x80 = meas.flags &&& 0x80) :
    SameValue .binaryOutputStatus meas { meas with flags } := by
  have state := getBinaryValue_congr same
  refine ⟨rfl, same, fun variation => ?_, fun index clazz variation => ?_⟩
  · cases variation with
    | group10Var2 => exact congrArg (fun bit => (⟨bit, 0, 0⟩ : BinaryOutputStatus)) state
  · have reported (time : DNPTime) := congrArg (fun bit : Bool =>
      (⟨.binaryOutputStatus, ⟨bit, 0, time⟩⟩ : (type : ObjectType) × type.Value)) state
    cases variation with
    | group11Var1 => exact reported 0
    | group11Var2 => exact reported meas.time

/-- Overwriting the flags keeps the value just when it keeps the state bits. -/
theorem sameValue_setFlags_iff (flagsType : FlagsType) (flags : UInt8)
    (value : flagsType.staticType.Meas) :
    SameValue flagsType.staticType value (setFlags flagsType.staticType flags value) ↔
      flags &&& flagsType.staticType.objectType.stateMask =
        flagsType.staticType.objectType.stateBits value := by
  refine ⟨fun same => ?_, fun same => ?_⟩
  · have state := same.state
    cases flagsType <;> exact state
  · cases flagsType with
    | binaryInput => exact sameValue_binary same
    | doubleBinaryInput => exact sameValue_doubleBitBinary same
    | binaryOutputStatus => exact sameValue_binaryOutputStatus same
    | counter | frozenCounter | analogInput | analogOutputStatus =>
        exact ⟨rfl, same, fun variation => by cases variation <;> rfl,
          fun _ _ variation => by cases variation <;> rfl⟩

omit [FloatOps] in
theorem flags_setFlags (flagsType : FlagsType) (flags : UInt8)
    (value : flagsType.staticType.Meas) :
    flagsType.staticType.objectType.flags (setFlags flagsType.staticType flags value) = flags := by
  cases flagsType <;> rfl

/-! ## Points and events -/

/-- A point and what is left of it when only its quality may change: what is configured and
selected of it stays. -/
structure Cell.Requalified (before after : Cell type) : Prop where
  value : SameValue type before.value after.value
  vIndex : after.vIndex = before.vIndex
  svariation : after.svariation = before.svariation
  selection : after.selection = before.selection

theorem Cell.Requalified.refl (cell : Cell type) : Cell.Requalified cell cell :=
  ⟨.refl _ _, rfl, rfl, rfl⟩

omit [FloatOps] in
theorem Cell.tryCreateEvent_cases (cell : Cell type) (value : type.Meas) :
    cell.tryCreateEvent value = (cell, none) ∨
      ∃ event clazz, cell.tryCreateEvent value = ({ cell with event := some event },
        some (eventOf type value cell.vIndex clazz event.evariation)) := by
  unfold Cell.tryCreateEvent
  split
  · exact .inl rfl
  · next event _ =>
      split
      · exact .inl rfl
      · next clazz _ => exact .inr ⟨{ event with lastEvent := value }, clazz, rfl⟩

theorem Cell.updateAny_detect (cell : Cell type) (value : type.Meas) :
    (∃ event, (cell.updateAny value .detect).1 = { cell with value, event }) ∧
      ∀ event ∈ (cell.updateAny value .detect).2, ∃ clazz variation,
        event = eventOf type value cell.vIndex clazz variation := by
  simp only [Cell.updateAny]
  split
  · rcases cell.tryCreateEvent_cases value with same | ⟨event, clazz, same⟩
    · rw [same]
      exact ⟨⟨cell.event, rfl⟩, by rintro _ ⟨⟩⟩
    · rw [same]
      exact ⟨⟨some event, rfl⟩, by rintro _ ⟨⟩; exact ⟨clazz, event.evariation, rfl⟩⟩
  · exact ⟨⟨cell.event, rfl⟩, by rintro _ ⟨⟩⟩

namespace DatabaseBuffers

/-- A change of flags that changes the quality of points and nothing else. -/
structure ChangesQuality (db : DatabaseBuffers) (flagsType : FlagsType) (start stop : UInt16)
    (flags : UInt8) : Prop where
  points : ∀ position, Option.Rel Cell.Requalified
    ((db.points flagsType.staticType).view.get? position)
    (((db.modify flagsType start stop flags).buffers.points flagsType.staticType).view.get?
      position)
  others : ∀ type, type ≠ flagsType.staticType →
    (db.modify flagsType start stop flags).buffers.points type = db.points type
  events : ∀ event ∈ (db.modify flagsType start stop flags).events,
    ∃ position ∈ db.modified flagsType.staticType start stop,
    ∃ cell ∈ (db.points flagsType.staticType).view.get? position,
    ∃ value clazz variation,
      event = eventOf flagsType.staticType value cell.vIndex clazz variation ∧
        flagsType.staticType.objectType.flags value = flags ∧
        SameValue flagsType.staticType cell.value value

/-- The flags have the state bits of every point of the range. -/
def KeepsState (db : DatabaseBuffers) (flagsType : FlagsType) (start stop : UInt16)
    (flags : UInt8) : Prop :=
  ∀ position ∈ db.modified flagsType.staticType start stop,
    ∀ cell ∈ (db.points flagsType.staticType).view.get? position,
      flags &&& flagsType.staticType.objectType.stateMask =
        flagsType.staticType.objectType.stateBits cell.value

/-- A change of flags changes only the quality just when the flags have the state bits that the
points have already. -/
theorem changesQuality_iff (db : DatabaseBuffers) (flagsType : FlagsType) (start stop : UInt16)
    (flags : UInt8) :
    db.ChangesQuality flagsType start stop flags ↔ db.KeepsState flagsType start stop flags := by
  have handed : ∀ {position}, position ∈ db.modified flagsType.staticType start stop →
      ∀ {cell}, cell ∈ (db.points flagsType.staticType).view.get? position →
      db.handed flagsType.staticType position (.modify flagsType start stop flags) =
        some (setFlags flagsType.staticType flags cell.value, .detect) := by
    intro position addressed cell found
    rw [DatabaseBuffers.handed, if_pos ⟨rfl, addressed⟩, found]
    rfl
  constructor
  · intro changes position addressed cell found
    have points := changes.points position
    rw [get?_modify, found, Option.map_some, handed addressed found] at points
    cases points with
    | some requalified =>
        obtain ⟨⟨event, updated⟩, _⟩ :=
          cell.updateAny_detect (setFlags flagsType.staticType flags cell.value)
        have value := requalified.value
        rw [Cell.receive_some, updated] at value
        exact (sameValue_setFlags_iff flagsType flags cell.value).mp value
  · intro keeps
    refine ⟨fun position => ?_, fun type different => ?_, fun event member => ?_⟩
    · rw [get?_modify]
      cases found : (db.points flagsType.staticType).view.get? position with
      | none => exact .none
      | some cell =>
          refine .some ?_
          simp only
          by_cases addressed : position ∈ db.modified flagsType.staticType start stop
          · obtain ⟨⟨event, updated⟩, _⟩ :=
              cell.updateAny_detect (setFlags flagsType.staticType flags cell.value)
            rw [handed addressed found, Cell.receive_some, updated]
            exact ⟨(sameValue_setFlags_iff flagsType flags cell.value).mpr
              (keeps position addressed cell found), rfl, rfl, rfl⟩
          · rw [DatabaseBuffers.handed, if_neg fun both => addressed both.2]
            exact .refl cell
    · rw [(db.modify_eq flagsType start stop flags).1, points_setView_of_ne db _ different]
    · rw [(db.modify_eq flagsType start stop flags).2,
        events_modifyFlags _ (db.nodup_modified _ _ _)] at member
      obtain ⟨position, addressed, offered⟩ := List.mem_filterMap.mp member
      obtain ⟨cell, found, made⟩ := Option.bind_eq_some_iff.mp offered
      obtain ⟨_, events⟩ :=
        cell.updateAny_detect (setFlags flagsType.staticType flags cell.value)
      obtain ⟨clazz, variation, rfl⟩ := events event made
      exact ⟨position, addressed, cell, found, _, clazz, variation, rfl,
        flags_setFlags flagsType flags cell.value,
        (sameValue_setFlags_iff flagsType flags cell.value).mpr
          (keeps position addressed cell found)⟩

omit [FloatOps] in
/-- A binary that is on is modified to be online: in the packed format it is still on, with flags
it is off. -/
theorem not_changesQuality :
    ∃ db : DatabaseBuffers, ¬@ChangesQuality .atZero db .binaryInput 0 0 0x01 ∧
      ∃ cell ∈ ((@modify .atZero db .binaryInput 0 0 0x01).buffers.points .binary).view.get? 0,
        (@StaticType.encoded .atZero .binary .group1Var1 cell.value).value = true ∧
        (@StaticType.encoded .atZero .binary .group1Var2 cell.value).value = false := by
  refine ⟨single .binary ⟨true, 0x81, 0⟩, ?_, _, rfl, rfl, rfl⟩
  intro changes
  have points : Option.Rel (@Cell.Requalified .atZero .binary) (some _) (some _) :=
    @ChangesQuality.points .atZero _ _ _ _ _ changes 0
  cases points with
  | some requalified =>
      have state : ((0x01 : UInt8) &&& 0x80) = 0x81 &&& 0x80 :=
        @SameValue.state .atZero _ _ _ (@Cell.Requalified.value .atZero _ _ _ requalified)
      exact absurd state (by decide)

end DatabaseBuffers

end OpenDnp3.Outstation
