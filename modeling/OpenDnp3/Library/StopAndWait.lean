import Mathlib.Data.List.Basic

/-!
# Stop and wait

Items are sent one at a time over a channel that may lose an item or its
acknowledgement, so that an item may be sent again. One bit at each end tells an
item that is new from one that is repeated, once both bits have been set alike.
-/

set_option autoImplicit false

namespace OpenDnp3.Library

universe u

/-- The two ends of a channel, and what has become of the items. An item that is given up is not
acknowledged any more; then the transfer is not intact. -/
structure StopAndWait (Item : Type u) where
  offered : List Item := []
  delivered : List Item := []
  acknowledged : List Item := []
  current : Option Item := none
  writeBit : Bool := false
  readBit : Bool := false
  intact : Bool := true

namespace StopAndWait

variable {Item : Type u} {transfer : StopAndWait Item} {item : Item}

/-- Send an item for the first time. -/
def offer (transfer : StopAndWait Item) (item : Item) : StopAndWait Item :=
  { transfer with offered := transfer.offered ++ [item], current := some item }

/-- The receiver gets an item, with the bit of the sender. -/
def receive (transfer : StopAndWait Item) (bit : Bool) (item : Item) : StopAndWait Item :=
  if transfer.readBit = bit then
    { transfer with
      delivered := transfer.delivered ++ [item]
      readBit := !transfer.readBit }
  else
    transfer

/-- The sender gets an acknowledgement. -/
def acknowledge (transfer : StopAndWait Item) : StopAndWait Item :=
  { transfer with
    acknowledged := transfer.acknowledged ++ transfer.current.toList
    current := none
    writeBit := !transfer.writeBit }

/-- The sender gives up what it has offered last. -/
def abandon (transfer : StopAndWait Item) : StopAndWait Item :=
  { transfer with
    current := none
    intact := transfer.intact && transfer.current.isNone }

/-! ## Order -/

/-- What is acknowledged has been delivered, and what is delivered has been offered, each item
once and in order. If nothing was given up, all but the current item are acknowledged. -/
structure Ordered (transfer : StopAndWait Item) : Prop where
  acknowledged : transfer.acknowledged.Sublist transfer.delivered
  delivered : transfer.delivered.Sublist transfer.offered
  intact : transfer.intact = true →
    transfer.offered = transfer.acknowledged ++ transfer.current.toList

/-- The current item is the last one offered, and its bit tells whether it has been delivered. -/
structure Pending (transfer : StopAndWait Item) (item : Item) (earlier : List Item) : Prop where
  current : transfer.current = some item
  offered : transfer.offered = earlier ++ [item]
  unread : transfer.readBit = transfer.writeBit → transfer.delivered.Sublist earlier
  read : transfer.readBit ≠ transfer.writeBit → ∃ before,
    transfer.delivered = before ++ [item] ∧ transfer.acknowledged.Sublist before

/-- Both bits are alike unless the current item has been delivered. -/
structure Aligned (transfer : StopAndWait Item) : Prop where
  idle : transfer.current = none → transfer.readBit = transfer.writeBit
  pending : ∀ item, transfer.current = some item → ∃ earlier, transfer.Pending item earlier

theorem ordered_init (writeBit readBit : Bool) :
    ({ writeBit, readBit } : StopAndWait Item).Ordered :=
  ⟨.slnil, .slnil, fun _ => rfl⟩

/-- When nothing was given up, what was delivered is acknowledged, the current item apart. -/
theorem Ordered.delivered_eq (ordered : transfer.Ordered) (intact : transfer.intact = true) :
    transfer.delivered = transfer.acknowledged ∨
      transfer.delivered = transfer.acknowledged ++ transfer.current.toList := by
  have offered := ordered.intact intact
  have short := ordered.delivered.length_le
  rw [offered, List.length_append] at short
  have long := ordered.acknowledged.length_le
  by_cases same : transfer.delivered.length = transfer.acknowledged.length
  · exact .inl (ordered.acknowledged.eq_of_length same.symm).symm
  · have one : transfer.current.toList.length ≤ 1 := Option.length_toList_le
    refine .inr ((ordered.delivered.eq_of_length ?_).trans offered)
    rw [offered, List.length_append]
    omega

/-! ## Steps -/

theorem Ordered.offer (ordered : transfer.Ordered) (idle : transfer.current = none) :
    (transfer.offer item).Ordered where
  acknowledged := ordered.acknowledged
  delivered := ordered.delivered.trans (List.sublist_append_left _ _)
  intact := by
    intro intact
    have all := ordered.intact intact
    rw [idle, Option.toList_none, List.append_nil] at all
    exact congrArg (· ++ [item]) all

theorem Aligned.offer (aligned : transfer.Aligned) (ordered : transfer.Ordered)
    (idle : transfer.current = none) : (transfer.offer item).Aligned where
  idle := by rintro ⟨⟩
  pending := by
    rintro _ ⟨⟩
    refine ⟨transfer.offered, rfl, rfl, fun _ => ordered.delivered, fun read => ?_⟩
    exact absurd (aligned.idle idle) read

/-- An item that is received is the current one. -/
theorem Ordered.receive (ordered : transfer.Ordered) (aligned : transfer.Aligned)
    (current : transfer.current = some item) :
    (transfer.receive transfer.writeBit item).Ordered := by
  obtain ⟨earlier, pending⟩ := aligned.pending item current
  rw [StopAndWait.receive]
  split
  · next unread =>
      refine ⟨ordered.acknowledged.trans (List.sublist_append_left _ _), ?_, ordered.intact⟩
      exact pending.offered ▸ (pending.unread unread).append (List.Sublist.refl [item])
  · exact ordered

theorem Aligned.receive (aligned : transfer.Aligned) (ordered : transfer.Ordered)
    (current : transfer.current = some item) :
    (transfer.receive transfer.writeBit item).Aligned := by
  obtain ⟨earlier, pending⟩ := aligned.pending item current
  rw [StopAndWait.receive]
  split
  · next unread =>
      refine ⟨fun idle => ?_, fun other same => ?_⟩
      · cases current.symm.trans idle
      · obtain rfl := Option.some.inj (current.symm.trans same)
        refine ⟨earlier, current, pending.offered, fun read => ?_, fun _ => ?_⟩
        · simp [unread] at read
        · exact ⟨transfer.delivered, rfl, ordered.acknowledged⟩
  · exact aligned

/-- An acknowledgement comes for an item that has been delivered. -/
theorem Ordered.acknowledge (ordered : transfer.Ordered) (aligned : transfer.Aligned)
    (read : transfer.readBit ≠ transfer.writeBit) : transfer.acknowledge.Ordered := by
  cases current : transfer.current with
  | none => exact absurd (aligned.idle current) read
  | some item =>
      obtain ⟨earlier, pending⟩ := aligned.pending item current
      obtain ⟨before, delivered, acknowledged⟩ := pending.read read
      refine ⟨?_, ordered.delivered, fun intact => ?_⟩
      · rw [StopAndWait.acknowledge, current, Option.toList_some]
        exact delivered ▸ acknowledged.append (List.Sublist.refl [item])
      · exact (ordered.intact intact).trans (List.append_nil _).symm

theorem Aligned.acknowledge (read : transfer.readBit ≠ transfer.writeBit) :
    transfer.acknowledge.Aligned where
  idle := fun _ => Bool.eq_not_of_ne read
  pending := by rintro _ ⟨⟩

theorem Ordered.abandon (ordered : transfer.Ordered) : transfer.abandon.Ordered where
  acknowledged := ordered.acknowledged
  delivered := ordered.delivered
  intact := by
    intro intact
    obtain ⟨still, idle⟩ := Bool.and_eq_true_iff.mp intact
    have all := ordered.intact still
    rwa [Option.isNone_iff_eq_none.mp idle] at all

theorem aligned_of_idle (idle : transfer.current = none)
    (same : transfer.readBit = transfer.writeBit) : transfer.Aligned where
  idle := fun _ => same
  pending := by
    intro item current
    cases idle.symm.trans current

theorem Ordered.bits (ordered : transfer.Ordered) (writeBit readBit : Bool) :
    { transfer with writeBit, readBit }.Ordered :=
  ⟨ordered.acknowledged, ordered.delivered, ordered.intact⟩

end StopAndWait

end OpenDnp3.Library
