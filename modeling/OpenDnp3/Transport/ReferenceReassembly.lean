import OpenDnp3.Library.Machine
import OpenDnp3.Transport.TransportProperties

/-!
# Reference reassembly

Segments begin, continue and end a message in progress. The receiver of the
source keeps a buffer and counts the bytes in it; it simulates a reference that
takes a message to be in progress only when some of its bytes have been read.
-/

set_option autoImplicit false

namespace OpenDnp3.Transport

open Library

/-- What has been accepted of a message, and the number of its last segment. -/
structure InProgress where
  addresses : Addresses
  last : UInt8
  bytes : List UInt8
deriving DecidableEq, Repr

/-- Whether a segment that is not a first one goes on with the message. -/
def InProgress.continuedBy (message : InProgress) (header : TransportHeader)
    (addresses : Addresses) : Bool :=
  header.seq.toNat == (message.last.toNat + 1) % 64 && addresses == message.addresses

/-- How long messages may be, and whether a message is in progress once some bytes are read. -/
structure Reference where
  size : Nat
  inProgress : List UInt8 → Bool

namespace Reference

/-- A message is in progress from its first segment on, even if that has no payload. -/
def ofFirst (size : Nat) : Reference := ⟨size, fun _ => true⟩

/-- A message is in progress from its first byte on. -/
def ofBytes (size : Nat) : Reference := ⟨size, fun bytes => !bytes.isEmpty⟩

@[simp] theorem size_ofBytes (size : Nat) : (ofBytes size).size = size := rfl

theorem inProgress_ofBytes (size : Nat) (bytes : List UInt8) :
    (ofBytes size).inProgress bytes = !bytes.isEmpty := rfl

/-- Take all the bytes of a message up to a segment. -/
def accept (reference : Reference) (header : TransportHeader) (addresses : Addresses)
    (bytes : List UInt8) : Option InProgress × Message :=
  if reference.size < bytes.length then (none, {})
  else if header.fin then (none, ⟨addresses, bytes⟩)
  else if reference.inProgress bytes then (some ⟨addresses, header.seq, bytes⟩, {})
  else (none, {})

def receive (reference : Reference) (state : Option InProgress) (segment : Message) :
    Option InProgress × Message :=
  match segment.payload with
  | [] => (state, {})
  | byte :: payload =>
      let header := TransportHeader.ofByte byte
      if header.fir then
        reference.accept header segment.addresses payload
      else
        match state with
        | none => (none, {})
        | some message =>
            if message.continuedBy header segment.addresses then
              reference.accept header segment.addresses (message.bytes ++ payload)
            else
              (some message, {})

def machine (reference : Reference) : Machine (Option InProgress) Message Message where
  step state segment := some (reference.receive state segment)

end Reference

namespace TransportRx

def machine : Machine TransportRx Message Message where
  step rx segment := some (rx.processReceive segment)

/-- The receiver holds what the reference has in progress. -/
structure Refines (size : Nat) (rx : TransportRx) (state : Option InProgress) : Prop where
  buffer : rx.rxBuffer.length = size
  idle : state = none → rx.numBytesRead = 0
  busy : ∀ message ∈ state, message.bytes ≠ [] ∧ rx.Holds message.bytes ∧
    rx.lastAddresses = message.addresses ∧ rx.expectedSeq = SequenceNum.next ⟨message.last⟩

theorem refines_ofSize (size : Nat) : (ofSize size).Refines size none :=
  ⟨List.length_replicate, fun _ => rfl, by rintro message ⟨⟩⟩

variable {size : Nat} {rx : TransportRx} {state : Option InProgress}

theorem Refines.reset (refines : rx.Refines size state) : rx.reset.Refines size none :=
  ⟨refines.buffer, fun _ => rfl, by rintro message ⟨⟩⟩

theorem seq_next (last : UInt8) :
    (SequenceNum.next (⟨last⟩ : TransportSeqNum)).seq.toNat = (last.toNat + 1) % 64 := by
  rw [SequenceNum.next, UInt8.toNat_ofNat']
  exact Nat.mod_eq_of_lt (lt_of_lt_of_le (Nat.mod_lt _ (by decide)) (by decide))

/-- Both take an accepted segment alike. -/
theorem Refines.accept {bytes : List UInt8} (buffer : rx.rxBuffer.length = size)
    (holds : rx.Holds bytes) (header : TransportHeader) (addresses : Addresses)
    (payload : List UInt8) :
    (rx.accept header addresses payload).1.Refines size
        ((Reference.ofBytes size).accept header addresses (bytes ++ payload)).1 ∧
      (rx.accept header addresses payload).2 =
        ((Reference.ofBytes size).accept header addresses (bytes ++ payload)).2 := by
  have within : rx.numBytesRead ≤ size := by
    have length := holds.length
    rw [← holds.read, List.length_take] at length
    omega
  have available : rx.getAvailable.length = size - rx.numBytesRead := by
    rw [getAvailable, List.length_drop, buffer]
  have taken := holds.append payload
  have resized : payload.length ≤ size - rx.numBytesRead →
      (rx.rxBuffer.take rx.numBytesRead ++ payload ++
        rx.getAvailable.drop payload.length).length = size := by
    intro fits
    rw [List.length_append, List.length_append, List.length_drop, List.length_take, available]
    omega
  rw [TransportRx.accept, Reference.accept, Reference.size_ofBytes, available,
    List.length_append, holds.length]
  by_cases overflow : payload.length > size - rx.numBytesRead
  · rw [if_pos overflow, if_pos (show size < _ by omega)]
    exact ⟨⟨buffer, fun _ => rfl, by rintro message ⟨⟩⟩, rfl⟩
  rw [if_neg overflow, if_neg (show ¬size < _ by omega)]
  cases fin : header.fin with
  | true =>
      simp only [if_true, taken]
      exact ⟨⟨resized (by omega), fun _ => rfl, by rintro message ⟨⟩⟩, trivial⟩
  | false =>
      simp only [Bool.false_eq_true, if_false]
      rw [Reference.inProgress_ofBytes]
      cases empty : (bytes ++ payload).isEmpty with
      | true =>
          obtain ⟨rfl, rfl⟩ := List.append_eq_nil_iff.mp (List.isEmpty_iff.mp empty)
          exact ⟨⟨resized (by omega), fun _ => holds.length.symm, by rintro message ⟨⟩⟩, rfl⟩
      | false =>
          refine ⟨⟨resized (by omega), by rintro ⟨⟩, ?_⟩, rfl⟩
          rintro message ⟨⟩
          refine ⟨List.isEmpty_eq_false_iff.mp empty, ⟨taken, ?_⟩, rfl, rfl⟩
          rw [List.length_append, holds.length]

/-- Both answer every segment alike. -/
theorem Refines.receive (refines : rx.Refines size state) (segment : Message) :
    (rx.processReceive segment).1.Refines size
        ((Reference.ofBytes size).receive state segment).1 ∧
      (rx.processReceive segment).2 = ((Reference.ofBytes size).receive state segment).2 := by
  obtain ⟨addresses, payload⟩ := segment
  cases payload with
  | nil => exact ⟨refines, rfl⟩
  | cons byte payload =>
      simp only [processReceive, Reference.receive]
      generalize TransportHeader.ofByte byte = header
      cases header.fir with
      | true =>
          rw [if_pos rfl, if_pos rfl]
          exact @Refines.accept size rx.reset [] refines.buffer (.reset rx) header addresses payload
      | false =>
          rw [if_neg Bool.false_ne_true, if_neg Bool.false_ne_true]
          cases state with
          | none =>
              rw [if_pos (refines.idle rfl)]
              exact ⟨refines, rfl⟩
          | some message =>
              obtain ⟨nonempty, holds, peer, expected⟩ := refines.busy message rfl
              have read : rx.numBytesRead ≠ 0 := by
                rw [← holds.length]
                exact fun none => nonempty (List.length_eq_zero_iff.mp none)
              have number : header.seq = rx.expectedSeq.seq ↔
                  header.seq.toNat = (message.last.toNat + 1) % 64 := by
                rw [← UInt8.toNat_inj, expected, seq_next]
              rw [if_neg read]
              by_cases follows : header.seq = rx.expectedSeq.seq
              · by_cases same : addresses = rx.lastAddresses
                · have continued : message.continuedBy header addresses = true := by
                    rw [InProgress.continuedBy, number.mp follows, same, peer]
                    simp
                  rw [if_neg (not_not.mpr follows), if_neg (not_not.mpr same)]
                  simp only [continued, if_true]
                  exact Refines.accept refines.buffer holds header addresses payload
                · have other : message.continuedBy header addresses = false := by
                    rw [InProgress.continuedBy, ← peer]
                    simp [same]
                  rw [if_neg (not_not.mpr follows), if_pos same]
                  simp only [other, Bool.false_eq_true, if_false]
                  exact ⟨refines, trivial⟩
              · have other : message.continuedBy header addresses = false := by
                  rw [InProgress.continuedBy]
                  simp [mt number.mpr follows]
                rw [if_pos follows]
                simp only [other, Bool.false_eq_true, if_false]
                exact ⟨refines, trivial⟩

theorem bisimulation_refines (size : Nat) :
    machine.Bisimulation (Reference.ofBytes size).machine (Refines size) where
  step segment refines := .some (refines.receive segment)

/-- Over every sequence of segments, the receiver returns what the reference returns that takes a
message to be in progress from its first byte on. -/
theorem run_eq_reference (size : Nat) (segments : List Message) :
    (machine.run (ofSize size) segments).map (·.2) =
      ((Reference.ofBytes size).machine.run none segments).map (·.2) := by
  have same := (bisimulation_refines size).run segments (refines_ofSize size)
  generalize machine.run (ofSize size) segments = one at same
  generalize (Reference.ofBytes size).machine.run none segments = two at same
  cases same with
  | none => rfl
  | some both => exact congrArg some both.2

/-- An empty first segment does not begin a message: the byte behind it is dropped. -/
theorem run_ne_reference :
    (machine.run (ofSize 4) [⟨{}, [0x40]⟩, ⟨{}, [0x81, 0x07]⟩]).map (·.2) = some [{}, {}] ∧
      ((Reference.ofFirst 4).machine.run none [⟨{}, [0x40]⟩, ⟨{}, [0x81, 0x07]⟩]).map (·.2) =
        some [{}, ⟨{}, [0x07]⟩] :=
  ⟨rfl, rfl⟩

/-! ## Round trip -/

/-- The receiver refines some state of the reference, whatever it has received. -/
theorem exists_refines_of_reaches (reached : machine.Reaches (ofSize size) rx) :
    ∃ state, rx.Refines size state := by
  refine @Machine.ReachesWhile.invariant _ _ _ _ _ _ _
    (fun rx => ∃ state, Refines size rx state) reached ⟨none, refines_ofSize size⟩ ?_
  rintro before after segment output ⟨state, refines⟩ _ success
  obtain ⟨rfl, _⟩ := Prod.mk.inj (Option.some.inj success)
  exact ⟨_, (refines.receive segment).1⟩

end TransportRx

namespace TransportTx

variable {size : Nat} {tx : TransportTx} {state : Option InProgress} {sent : List UInt8}

theorem transmit_last (unset : tx.txSegment = none) (last : tx.piece.last = true) :
    tx.transmit.2 = [⟨tx.message.addresses,
      TransportHeader.toByte tx.piece.first tx.piece.last tx.sequence.seq :: tx.piece.content⟩] := by
  rw [transmit, dif_neg (by rw [advance_getSegment, advance_more, last]; decide),
    getSegment_piece unset]

theorem transmit_more (unset : tx.txSegment = none) (more : tx.piece.last = false) :
    tx.transmit.2 = ⟨tx.message.addresses,
      TransportHeader.toByte tx.piece.first tx.piece.last tx.sequence.seq :: tx.piece.content⟩ ::
        tx.advance.1.transmit.2 := by
  rw [transmit, dif_pos (by rw [advance_getSegment, advance_more, more]; rfl),
    getSegment_piece unset, advance_getSegment]

theorem length_transmit_pos (tx : TransportTx) : 0 < tx.transmit.2.length := by
  rw [transmit]
  split <;> exact Nat.succ_pos _

/-- A receiver takes the next segment of a message, some bytes of which have been sent. -/
def Awaited (tx : TransportTx) (sent : List UInt8) (state : Option InProgress) : Prop :=
  tx.tpduCount = 0 ∧ sent = [] ∨
    tx.tpduCount ≠ 0 ∧ ∃ last, state = some ⟨tx.message.addresses, last, sent⟩ ∧
      tx.sequence.seq.toNat = (last.toNat + 1) % 64

theorem Awaited.receive (awaited : tx.Awaited sent state) (counted : tx.sequence.seq.toNat < 64) :
    (Reference.ofBytes size).receive state ⟨tx.message.addresses,
        TransportHeader.toByte tx.piece.first tx.piece.last tx.sequence.seq :: tx.piece.content⟩ =
      (Reference.ofBytes size).accept ⟨tx.piece.first, tx.piece.last, tx.sequence.seq⟩
        tx.message.addresses (sent ++ tx.piece.content) := by
  simp only [Reference.receive, TransportHeader.ofByte_toByte _ _ counted]
  rcases awaited with ⟨start, rfl⟩ | ⟨later, last, rfl, follows⟩
  · have first : tx.piece.first = true := by
      rw [piece, start]
      rfl
    rw [if_pos first]
    rfl
  · have notFirst : tx.piece.first = false := by
      rw [piece]
      exact beq_false_of_ne later
    rw [notFirst, if_neg Bool.false_ne_true]
    simp [InProgress.continuedBy, follows]

/-- Every segment of a message but the last one returns nothing, and that one the message. -/
theorem run_transmit (tx : TransportTx) (unset : tx.txSegment = none) (sent : List UInt8)
    (state : Option InProgress) (awaited : tx.Awaited sent state)
    (counted : tx.sequence.seq.toNat < 64) (nonempty : tx.message.payload ≠ [])
    (fits : (sent ++ tx.message.payload).length ≤ size) :
    (Reference.ofBytes size).machine.run state tx.transmit.2 =
      some (none, List.replicate (tx.transmit.2.length - 1) ({} : Message) ++
        [⟨tx.message.addresses, sent ++ tx.message.payload⟩]) := by
  induction length : tx.message.payload.length using Nat.strongRecOn generalizing tx sent state with
  | ind bytes ih =>
      have received := @Awaited.receive size _ _ _ awaited counted
      have parts : tx.piece.content ++ tx.message.payload.drop tx.numToSend = tx.message.payload :=
        List.take_append_drop _ _
      cases last : tx.piece.last with
      | true =>
          have all : tx.piece.content = tx.message.payload := by
            have whole : tx.numToSend = tx.message.payload.length := by simpa [piece] using last
            rw [piece, whole, List.take_length]
          have ended : (Reference.ofBytes size).receive state ⟨tx.message.addresses,
              TransportHeader.toByte tx.piece.first tx.piece.last tx.sequence.seq ::
                tx.piece.content⟩ = (none, ⟨tx.message.addresses, sent ++ tx.message.payload⟩) := by
            rw [received, Reference.accept, Reference.size_ofBytes, all, if_neg (not_lt.mpr fits),
              if_pos last]
          rw [transmit_last unset last]
          simp only [Machine.run, Reference.machine, ended]
          rfl
      | false =>
          have part : tx.numToSend ≠ tx.message.payload.length := by simpa [piece] using last
          have cut : tx.numToSend = maxTpduPayload := by
            rw [numToSend] at part ⊢
            split at part
            · exact absurd rfl part
            · next long => rw [if_neg long]
          have left : tx.numToSend < tx.message.payload.length :=
            lt_of_le_of_ne tx.numToSend_le part
          have begun : sent ++ tx.piece.content ≠ [] := by
            rw [piece, cut]
            simp [maxTpduPayload, nonempty]
          have goesOn : (Reference.ofBytes size).receive state ⟨tx.message.addresses,
              TransportHeader.toByte tx.piece.first tx.piece.last tx.sequence.seq ::
                tx.piece.content⟩ =
              (some ⟨tx.message.addresses, tx.sequence.seq, sent ++ tx.piece.content⟩, {}) := by
            have short : (sent ++ tx.piece.content).length ≤ size := by
              refine le_trans ?_ fits
              rw [List.length_append, List.length_append, piece, List.length_take]
              omega
            rw [received, Reference.accept, Reference.size_ofBytes, if_neg (not_lt.mpr short),
              if_neg (by rw [last]; exact Bool.false_ne_true),
              Reference.inProgress_ofBytes, List.isEmpty_eq_false_iff.mpr begun]
            rfl
          have whole : sent ++ tx.piece.content ++ tx.advance.1.message.payload =
              sent ++ tx.message.payload := by
            rw [List.append_assoc]
            exact congrArg (sent ++ ·) parts
          have rest := ih tx.advance.1.message.payload.length
            (length ▸ length_advance (by rw [advance_more, last]; rfl)) tx.advance.1 rfl
            (sent ++ tx.piece.content)
            (some ⟨tx.message.addresses, tx.sequence.seq, sent ++ tx.piece.content⟩)
            (.inr ⟨Nat.succ_ne_zero _, tx.sequence.seq, rfl, TransportRx.seq_next _⟩)
            (by
              change (SequenceNum.next tx.sequence).seq.toNat < 64
              rw [TransportRx.seq_next]
              exact Nat.mod_lt _ (by decide))
            (by
              change tx.message.payload.drop tx.numToSend ≠ []
              simp [left])
            (by rw [whole]; exact fits) rfl
          rw [whole] at rest
          have positive := tx.advance.1.length_transmit_pos
          rw [transmit_more unset last]
          simp only [Machine.run, Reference.machine, goesOn, Option.bind_some] at rest ⊢
          rw [rest, List.length_cons, Nat.add_sub_cancel]
          simp only [Option.map_some]
          rw [← List.cons_append, ← List.replicate_succ, Nat.sub_add_cancel positive]
          rfl

end TransportTx

namespace TransportRx

end TransportRx

/-- Whatever a receiver has received before, the segments of a message that fits give nothing but
that message, and that with the last of them. -/
theorem run_segments {size : Nat} {rx : TransportRx}
    (reached : TransportRx.machine.Reaches (TransportRx.ofSize size) rx) (tx : TransportTx)
    (counted : tx.sequence.seq.toNat < 64) {message : Message} (nonempty : message.payload ≠ [])
    (fits : message.payload.length ≤ size) :
    let segments := (tx.configure message).transmit.2
    (TransportRx.machine.run rx segments).map (·.2) =
      some (List.replicate (segments.length - 1) ({} : Message) ++ [message]) := by
  intro segments
  obtain ⟨state, refines⟩ := TransportRx.exists_refines_of_reaches reached
  have sent := TransportTx.run_transmit (tx.configure message) rfl [] state (.inl ⟨rfl, rfl⟩)
    counted nonempty fits
  have same := (TransportRx.bisimulation_refines size).run segments refines
  rw [sent] at same
  generalize TransportRx.machine.run rx segments = received at same
  cases same with
  | some both => exact congrArg some both.2

/-- A message of two segments behind a message that was broken off. -/
theorem run_segments_two :
    ∃ rx, TransportRx.machine.Reaches (TransportRx.ofSize 300) rx ∧
      let segments := (TransportTx.configure {} ⟨{}, List.replicate 250 7⟩).transmit.2
      (TransportRx.machine.run rx segments).map (·.2) =
        some (List.replicate (segments.length - 1) ({} : Message) ++ [⟨{}, List.replicate 250 7⟩]) := by
  have reached : TransportRx.machine.Reaches (TransportRx.ofSize 300)
      ((TransportRx.ofSize 300).processReceive ⟨{}, [0x40, 7]⟩).1 :=
    .step .start trivial (Option.some_inj.mpr Prod.mk.eta.symm)
  exact ⟨_, reached, @run_segments 300 _ reached {} (by decide) ⟨{}, List.replicate 250 7⟩
    (List.cons_ne_nil 7 (List.replicate 249 7)) (List.length_replicate.trans_le (by decide))⟩

end OpenDnp3.Transport
