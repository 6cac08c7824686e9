import OpenDnp3.Transport.ReferenceReassembly

/-!
# Segmented messages

What a receiver returns when it gets the segments of messages one after another.
-/

set_option autoImplicit false

namespace OpenDnp3.Transport

open OpenDnp3.Library

/-! ## Messages -/

/-- The segments of messages that a receiver has room for. -/
inductive Segmented (size : Nat) : List Message → List Message → Prop
  | nil : Segmented size [] []
  | concat {messages segments : List Message} {message : Message} (tx : TransportTx)
      (earlier : Segmented size messages segments) (counted : tx.sequence.seq.toNat < 64)
      (nonempty : message.payload ≠ []) (fits : message.payload.length ≤ size) :
      Segmented size (messages ++ [message]) (segments ++ (tx.configure message).transmit.2)

/-- What has been acknowledged of messages, and what remains of the last one. -/
inductive Transmitted (size : Nat) : List Message → List Message → List Message → Prop
  | whole {messages segments : List Message} (segmented : Segmented size messages segments) :
      Transmitted size messages segments []
  | part {messages segments sent remaining : List Message} {message : Message}
      (tx : TransportTx) (earlier : Segmented size messages segments)
      (counted : tx.sequence.seq.toNat < 64) (nonempty : message.payload ≠ [])
      (fits : message.payload.length ≤ size)
      (split : (tx.configure message).transmit.2 = sent ++ remaining) :
      Transmitted size (messages ++ [message]) (segments ++ sent) remaining

theorem Transmitted.segmented {size : Nat} {messages acknowledged : List Message}
    (transmitted : Transmitted size messages acknowledged []) :
    Segmented size messages acknowledged := by
  cases transmitted with
  | whole segmented => exact segmented
  | part tx earlier counted nonempty fits split =>
      rw [List.append_nil] at split
      exact split ▸ .concat tx earlier counted nonempty fits

theorem Transmitted.acknowledge {size : Nat} {messages acknowledged sent remaining : List Message}
    (transmitted : Transmitted size messages acknowledged (sent ++ remaining)) :
    Transmitted size messages (acknowledged ++ sent) remaining := by
  generalize all : sent ++ remaining = rest at transmitted
  cases transmitted with
  | whole segmented =>
      obtain ⟨rfl, rfl⟩ := List.append_eq_nil_iff.mp all
      exact (List.append_nil acknowledged).symm ▸ .whole segmented
  | part tx earlier counted nonempty fits split =>
      rw [List.append_assoc]
      exact .part tx earlier counted nonempty fits (by rw [split, ← all, List.append_assoc])

/-! ## Receiver -/

namespace TransportRx

variable {size : Nat} {rx : TransportRx}

/-- The receiver after segments. -/
def receiveSegments (rx : TransportRx) (segments : List Message) : TransportRx :=
  segments.foldl (fun rx segment => (rx.processReceive segment).1) rx

theorem receiveAll_append (rx : TransportRx) (segments others : List Message) :
    rx.receiveAll (segments ++ others) =
      rx.receiveAll segments ++ (rx.receiveSegments segments).receiveAll others := by
  induction segments generalizing rx with
  | nil => rfl
  | cons segment segments ih =>
      rw [List.cons_append, receiveAll_cons, receiveAll_cons, ih, List.append_assoc]
      rfl

theorem receiveSegments_append (rx : TransportRx) (segments others : List Message) :
    rx.receiveSegments (segments ++ others) =
      (rx.receiveSegments segments).receiveSegments others :=
  List.foldl_append

/-- What the receiver answers to every segment. -/
def answers (rx : TransportRx) : List Message → List Message
  | [] => []
  | segment :: segments =>
      (rx.processReceive segment).2 :: (rx.processReceive segment).1.answers segments

theorem length_answers (rx : TransportRx) (segments : List Message) :
    (rx.answers segments).length = segments.length := by
  induction segments generalizing rx with
  | nil => rfl
  | cons segment segments ih => exact congrArg (· + 1) (ih _)

theorem answers_append (rx : TransportRx) (segments others : List Message) :
    rx.answers (segments ++ others) =
      rx.answers segments ++ (rx.receiveSegments segments).answers others := by
  induction segments generalizing rx with
  | nil => rfl
  | cons segment segments ih =>
      exact congrArg ((rx.processReceive segment).2 :: ·) (ih (rx.processReceive segment).1)

theorem receiveAll_eq (rx : TransportRx) (segments : List Message) :
    rx.receiveAll segments = (rx.answers segments).filter (!·.payload.isEmpty) := by
  induction segments generalizing rx with
  | nil => rfl
  | cons segment segments ih =>
      rw [receiveAll_cons, ih, answers, List.filter_cons, TransportRx.returned]
      cases (rx.processReceive segment).2.payload <;> simp

theorem run_eq (rx : TransportRx) (segments : List Message) :
    machine.run rx segments = some (rx.receiveSegments segments, rx.answers segments) := by
  induction segments generalizing rx with
  | nil => rfl
  | cons segment segments ih =>
      have rest := ih (rx.processReceive segment).1
      simp only [Machine.run, machine, Option.bind_some] at rest ⊢
      rw [rest]
      rfl

theorem Refines.receiveSegments {state : Option InProgress} (refines : rx.Refines size state)
    (segments : List Message) : ∃ next, (rx.receiveSegments segments).Refines size next := by
  induction segments generalizing rx state with
  | nil => exact ⟨state, refines⟩
  | cons segment segments ih => exact ih (refines.receive segment).1

/-- A receiver at rest returns a message when it has got all of its segments. -/
theorem Refines.receive_message (refines : rx.Refines size none) (tx : TransportTx)
    {message : Message} (counted : tx.sequence.seq.toNat < 64) (nonempty : message.payload ≠ [])
    (fits : message.payload.length ≤ size) :
    (rx.receiveSegments (tx.configure message).transmit.2).Refines size none ∧
      rx.receiveAll (tx.configure message).transmit.2 = [message] ∧
      ∀ sent next rest, (tx.configure message).transmit.2 = sent ++ next :: rest →
        rx.receiveAll sent = [] := by
  have ran := TransportTx.run_transmit (tx.configure message) rfl [] none (.inl ⟨rfl, rfl⟩)
    counted nonempty fits
  have same := (bisimulation_refines size).run (tx.configure message).transmit.2 refines
  rw [ran, run_eq] at same
  cases same with
  | some both =>
  obtain ⟨rests, answered⟩ := both
  dsimp only at rests answered
  refine ⟨rests, ?_, ?_⟩
  · rw [receiveAll_eq, answered, List.filter_append, List.filter_replicate]
    simp [TransportTx.configure, nonempty]
  · intro sent next rest split
    rw [split, answers_append] at answered
    have short : (rx.answers sent).length ≤ (sent ++ next :: rest).length - 1 := by
      rw [length_answers, List.length_append, List.length_cons]
      omega
    have early := congrArg (List.take (rx.answers sent).length) answered
    rw [List.take_left, List.take_append_of_le_length (by rwa [List.length_replicate]),
      List.take_replicate] at early
    rw [receiveAll_eq, early, List.filter_replicate]
    rfl

end TransportRx

section receiver

variable {size : Nat} {rx : TransportRx}

theorem Segmented.receive {messages segments : List Message}
    (segmented : Segmented size messages segments) (refines : rx.Refines size none) :
    (rx.receiveSegments segments).Refines size none ∧ rx.receiveAll segments = messages := by
  induction segmented with
  | nil => exact ⟨refines, rfl⟩
  | concat tx earlier counted nonempty fits ih =>
      obtain ⟨rests, returned⟩ := ih
      obtain ⟨still, message, _⟩ := rests.receive_message tx counted nonempty fits
      rw [TransportRx.receiveSegments_append, TransportRx.receiveAll_append, returned, message]
      exact ⟨still, rfl⟩

/-- Nothing is returned of a message of which something remains. -/
theorem Transmitted.receive {messages acknowledged remaining : List Message}
    (transmitted : Transmitted size messages acknowledged remaining)
    (refines : rx.Refines size none) :
    rx.receiveAll acknowledged = messages ∨
      remaining ≠ [] ∧ rx.receiveAll acknowledged = messages.dropLast := by
  cases transmitted with
  | whole segmented => exact .inl (segmented.receive refines).2
  | part tx earlier counted nonempty fits split =>
      obtain ⟨rests, returned⟩ := earlier.receive refines
      obtain ⟨_, message, early⟩ := rests.receive_message tx counted nonempty fits
      rw [TransportRx.receiveAll_append, returned]
      cases remaining with
      | nil =>
          rw [List.append_nil] at split
          exact .inl (by rw [← split, message])
      | cons next rest =>
          refine .inr ⟨List.cons_ne_nil _ _, ?_⟩
          rw [early _ next rest split, List.append_nil, List.dropLast_concat]

end receiver

/-! ## Sequence numbers -/

/-- The sequence numbers are those of a transmitter. -/
def TransportTx.Counted (tx : TransportTx) : Prop := tx.sequence.seq.toNat < 64

theorem TransportTx.Counted.getSegment {tx : TransportTx} (counted : tx.Counted) :
    tx.getSegment.1.Counted := by
  cases set : tx.txSegment <;>
    simpa [TransportTx.Counted, TransportTx.getSegment, set] using counted

theorem TransportTx.counted_advance (tx : TransportTx) : tx.advance.1.Counted := by
  change (SequenceNum.next tx.sequence).seq.toNat < 64
  rw [TransportRx.seq_next]
  exact Nat.mod_lt _ (by decide)

end OpenDnp3.Transport
