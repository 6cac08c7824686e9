import OpenDnp3.Library.Reassembly
import OpenDnp3.Transport.Transport

/-!
# What the transport receiver returns

A transmitter cuts messages into numbered pieces. A receiver that sees less than
64 of them behind a first one joins what a receiver that knows their positions
would join.
-/

set_option autoImplicit false

namespace OpenDnp3.Transport

open Library Library.Reassembly

/-! ## Segments of a message -/

/-- Numbered segments that carry the pieces behind a position. -/
inductive Carry (start : Nat) (addresses : Addresses) :
    Nat → List (Piece UInt8) → List Message → Prop
  | nil (position : Nat) : Carry start addresses position [] []
  | cons {position : Nat} {piece : Piece UInt8} {sequence : TransportSeqNum}
      {pieces : List (Piece UInt8)} {segments : List Message}
      (counts : sequence.Counts start position)
      (rest : Carry start addresses (position + 1) pieces segments) :
      Carry start addresses position (piece :: pieces)
        (⟨addresses, TransportHeader.toByte piece.first piece.last sequence.seq ::
          piece.content⟩ :: segments)

theorem Carry.append {start position : Nat} {addresses : Addresses}
    {pieces others : List (Piece UInt8)} {segments more : List Message}
    (carry : Carry start addresses position pieces segments)
    (rest : Carry start addresses (position + pieces.length) others more) :
    Carry start addresses position (pieces ++ others) (segments ++ more) := by
  induction carry with
  | nil => exact rest
  | cons counts _ ih =>
      rw [List.length_cons, Nat.add_comm _ 1, ← Nat.add_assoc] at rest
      exact .cons counts (ih rest)

namespace TransportTx

/-- The next segment, as the layer below takes it. -/
def piece (tx : TransportTx) : Piece UInt8 :=
  ⟨tx.tpduCount == 0, tx.numToSend == tx.message.payload.length,
    tx.message.payload.take tx.numToSend⟩

theorem numToSend_le (tx : TransportTx) : tx.numToSend ≤ tx.message.payload.length := by
  rw [numToSend]
  split <;> omega

theorem getSegment_piece {tx : TransportTx} (unset : tx.txSegment = none) :
    tx.getSegment.2 =
      TransportHeader.toByte tx.piece.first tx.piece.last tx.sequence.seq ::
        tx.piece.content := by
  simp only [getSegment, unset, piece]

@[simp] theorem advance_getSegment (tx : TransportTx) : tx.getSegment.1.advance = tx.advance := by
  cases set : tx.txSegment with
  | none => rw [getSegment, set]; rfl
  | some segment => rw [getSegment, set]

theorem advance_more (tx : TransportTx) : tx.advance.2 = !tx.piece.last := by
  have most := tx.numToSend_le
  rw [advance, piece, Bool.eq_iff_iff]
  simp
  omega

theorem transmit_carries {start : Nat} (tx : TransportTx) (position : Nat)
    (unset : tx.txSegment = none)
    (counts : tx.sequence.Counts start position) :
    ∃ pieces : List (Piece UInt8),
      Piece.Cuts (tx.tpduCount == 0) tx.message.payload pieces ∧
      Carry start tx.message.addresses position pieces tx.transmit.2 ∧
      tx.transmit.1.sequence.Counts start (position + pieces.length) := by
  induction tx using transmit.induct generalizing position with
  | case1 tx more last segments rest ih =>
      rw [advance_getSegment] at more rest ih
      have notLast : tx.piece.last = false := by
        rwa [advance_more, Bool.not_eq_true'] at more
      obtain ⟨pieces, cut, carry, counted⟩ :=
        ih (position + 1) rfl (counts.next (by decide) (by decide))
      rw [transmit, dif_pos (by rwa [advance_getSegment])]
      simp only [advance_getSegment, getSegment_piece unset]
      refine ⟨tx.piece :: pieces, ?_, .cons counts carry, ?_⟩
      · have behind : Piece.Cuts false (tx.message.payload.drop tx.numToSend) pieces := cut
        have whole := behind.more tx.piece.first tx.piece.content
        rwa [← notLast, piece, List.take_append_drop] at whole
      · rw [List.length_cons, Nat.add_comm _ 1, ← Nat.add_assoc]
        exact counted
  | case2 tx stop =>
      rw [advance_getSegment, advance_more, Bool.not_eq_true, Bool.not_eq_false'] at stop
      rw [transmit, dif_neg (by rw [advance_getSegment, advance_more, stop]; decide)]
      simp only [advance_getSegment, getSegment_piece unset]
      refine ⟨[tx.piece], ?_, .cons counts (.nil _), ?_⟩
      · have all : tx.numToSend = tx.message.payload.length := by
          simpa [piece] using stop
        have content : tx.piece.content = tx.message.payload := by
          rw [piece, all, List.take_length]
        have whole := Piece.Cuts.last tx.piece.first tx.piece.content
        have same : (⟨tx.piece.first, true, tx.piece.content⟩ : Piece UInt8) = tx.piece := by
          rw [← stop]
        rw [same, content] at whole
        exact whole
      · exact counts.next (by decide) (by decide)

theorem transmitAll_carries {start : Nat} {addresses : Addresses} (tx : TransportTx)
    (messages : List Message) (position : Nat)
    (peer : ∀ message ∈ messages, message.addresses = addresses)
    (counts : tx.sequence.Counts start position) :
    ∃ pieces : List (Piece UInt8), Piece.CutsAll (messages.map (·.payload)) pieces ∧
      Carry start addresses position pieces (tx.transmitAll messages) := by
  induction messages generalizing tx position with
  | nil => exact ⟨[], .nil, .nil position⟩
  | cons message messages ih =>
      obtain ⟨own, cut, carry, counted⟩ :=
        transmit_carries (tx.configure message) position rfl counts
      have same : (tx.configure message).message.addresses = addresses :=
        peer message List.mem_cons_self
      rw [same] at carry
      obtain ⟨others, cuts, rest⟩ := ih (tx.configure message).transmit.1
        (position + own.length) (fun other member => peer other (List.mem_cons_of_mem _ member))
        counted
      exact ⟨own ++ others, .cons cut cuts, carry.append rest⟩

end TransportTx

/-! ## Receiver -/

namespace TransportRx

/-- The bytes read of a message so far. -/
structure Holds (rx : TransportRx) (bytes : List UInt8) : Prop where
  read : rx.rxBuffer.take rx.numBytesRead = bytes
  length : bytes.length = rx.numBytesRead

theorem Holds.reset (rx : TransportRx) : rx.reset.Holds [] := ⟨rfl, rfl⟩

/-- What is in the buffer once the bytes of a segment stand behind those read before. -/
theorem Holds.append {rx : TransportRx} {bytes : List UInt8} (holds : rx.Holds bytes)
    (payload : List UInt8) :
    (rx.rxBuffer.take rx.numBytesRead ++ payload ++ rx.getAvailable.drop payload.length).take
      (rx.numBytesRead + payload.length) = bytes ++ payload := by
  rw [holds.read, List.take_append_of_le_length, ← holds.length, ← List.length_append,
    List.take_length]
  rw [List.length_append, holds.length]

/-- An accepted segment overflows the buffer, completes the message, or extends it. -/
theorem Holds.accept {rx : TransportRx} {bytes : List UInt8} (holds : rx.Holds bytes)
    (header : TransportHeader) (addresses : Addresses) (payload : List UInt8) :
    ((rx.accept header addresses payload).1.numBytesRead = 0 ∧
      (rx.accept header addresses payload).2 = {}) ∨
    (header.fin = true ∧ (rx.accept header addresses payload).1.numBytesRead = 0 ∧
      (rx.accept header addresses payload).2 = ⟨addresses, bytes ++ payload⟩) ∨
    (header.fin = false ∧ (rx.accept header addresses payload).1.Holds (bytes ++ payload) ∧
      (rx.accept header addresses payload).1.lastAddresses = addresses ∧
      (rx.accept header addresses payload).1.expectedSeq = SequenceNum.next ⟨header.seq⟩ ∧
      (rx.accept header addresses payload).2 = {}) := by
  have taken := holds.append payload
  by_cases overflow : payload.length > rx.getAvailable.length
  · rw [TransportRx.accept, if_pos overflow]
    exact .inl ⟨rfl, rfl⟩
  · rw [TransportRx.accept, if_neg overflow]
    cases fin : header.fin with
    | true =>
        right; left
        simp only [if_true, taken]
        exact ⟨trivial, rfl, trivial⟩
    | false =>
        right; right
        refine ⟨rfl, ⟨taken, ?_⟩, rfl, rfl, rfl⟩
        simp [holds.length]

theorem processReceive_toByte (rx : TransportRx) (addresses : Addresses) (fir fin : Bool)
    {seq : UInt8} (below : seq.toNat < 64) (payload : List UInt8) :
    rx.processReceive ⟨addresses, TransportHeader.toByte fir fin seq :: payload⟩ =
      if fir then rx.reset.accept ⟨fir, fin, seq⟩ addresses payload
      else if rx.numBytesRead = 0 then (rx, {})
      else if seq ≠ rx.expectedSeq.seq then (rx, {})
      else if addresses ≠ rx.lastAddresses then (rx, {})
      else rx.accept ⟨fir, fin, seq⟩ addresses payload := by
  simp only [processReceive, TransportHeader.ofByte_toByte fir fin below]

/-- The message passed to the layer above after a segment, if there is one. -/
def returned (message : Message) : List Message :=
  if message.payload.isEmpty then [] else [message]

theorem receiveAll_cons (rx : TransportRx) (segment : Message) (segments : List Message) :
    rx.receiveAll (segment :: segments) =
      returned (rx.processReceive segment).2 ++
        (rx.processReceive segment).1.receiveAll segments := by
  simp only [receiveAll, returned]
  split <;> rfl

end TransportRx

/-! ## Windows -/

/-- Whether the segment at a position is the first of its message. -/
def firAt (segments : List Message) (position : Nat) : Option Bool :=
  segments[position]?.bind fun segment =>
    segment.payload.head?.map fun byte => (TransportHeader.ofByte byte).fir

/-- A position is that of the last first segment that arrived before another position. -/
structure LastFir (arrives : Nat → Bool) (segments : List Message) (first position : Nat) :
    Prop where
  before : first < position
  arrived : arrives first = true
  fir : firAt segments first = some true
  last : ∀ between, first < between → between < position → arrives between = true →
    firAt segments between ≠ some true

/-- Every segment that arrives and is not a first one comes less than 64 segments after the last
first one that arrived. -/
def Windowed (arrives : Nat → Bool) (segments : List Message) : Prop :=
  ∀ first position, LastFir arrives segments first position → arrives position = true →
    firAt segments position = some false → position < first + 64

theorem LastFir.lost {arrives : Nat → Bool} {segments : List Message} {first position : Nat}
    (lastFir : LastFir arrives segments first position) (lost : arrives position = false) :
    LastFir arrives segments first (position + 1) where
  before := Nat.lt_succ_of_lt lastFir.before
  arrived := lastFir.arrived
  fir := lastFir.fir
  last := by
    intro between after upTo arrived
    rcases Nat.lt_succ_iff_lt_or_eq.mp upTo with earlier | rfl
    · exact lastFir.last between after earlier arrived
    · rw [lost] at arrived
      cases arrived

theorem LastFir.passed {arrives : Nat → Bool} {segments : List Message} {first position : Nat}
    (lastFir : LastFir arrives segments first position)
    (continues : firAt segments position = some false) :
    LastFir arrives segments first (position + 1) where
  before := Nat.lt_succ_of_lt lastFir.before
  arrived := lastFir.arrived
  fir := lastFir.fir
  last := by
    intro between after upTo arrived
    rcases Nat.lt_succ_iff_lt_or_eq.mp upTo with earlier | rfl
    · exact lastFir.last between after earlier arrived
    · rw [continues]
      decide

theorem LastFir.start {arrives : Nat → Bool} {segments : List Message} {position : Nat}
    (arrived : arrives position = true) (fir : firAt segments position = some true) :
    LastFir arrives segments position (position + 1) :=
  ⟨Nat.lt_succ_self position, arrived, fir, fun between after upTo => by omega⟩

/-! ## Simulation -/

/-- The receiver is at rest, or has read what a receiver that knows positions has read. -/
def Tracks (start : Nat) (addresses : Addresses) (arrives : Nat → Bool)
    (segments : List Message) (position : Nat) (rx : TransportRx)
    (state : Reassembly UInt8) : Prop :=
  rx.numBytesRead = 0 ∨
    ∃ next content first, state = some (next, content) ∧ rx.Holds content ∧
      rx.expectedSeq.Counts start next ∧ rx.lastAddresses = addresses ∧
      next ≤ position ∧ first < next ∧ LastFir arrives segments first position

section Simulation

variable {start position : Nat} {addresses : Addresses} {arrives : Nat → Bool}
  {segments : List Message} {rx : TransportRx} {state : Reassembly UInt8}

theorem Tracks.lost (tracks : Tracks start addresses arrives segments position rx state)
    (lost : arrives position = false) :
    Tracks start addresses arrives segments (position + 1) rx state := by
  rcases tracks with idle | ⟨next, content, first, same, holds, counts, peer, passed, after, last⟩
  · exact .inl idle
  · exact .inr ⟨next, content, first, same, holds, counts, peer, Nat.le_succ_of_le passed, after,
      last.lost lost⟩

/-- An appended segment keeps the receivers together, and both return the same message. -/
theorem Tracks.append {content : List UInt8} {first : Nat} (holds : rx.Holds content)
    {piece : Piece UInt8} {sequence : TransportSeqNum} (counts : sequence.Counts start position)
    (after : first < position + 1)
    (last : LastFir arrives segments first (position + 1)) :
    let header : TransportHeader := ⟨piece.first, piece.last, sequence.seq⟩
    Tracks start addresses arrives segments (position + 1)
        (rx.accept header addresses piece.content).1 (append position content piece).1 ∧
      (TransportRx.returned (rx.accept header addresses piece.content).2).Sublist
        ((append position content piece).2.map (Message.mk addresses)) := by
  intro header
  rcases holds.accept header addresses piece.content with
    ⟨idle, none⟩ | ⟨fin, idle, message⟩ | ⟨fin, grown, peer, expected, none⟩
  · rw [none]
    exact ⟨.inl idle, List.nil_sublist _⟩
  · have whole : piece.last = true := fin
    rw [message, Reassembly.append, if_pos whole]
    refine ⟨.inl idle, ?_⟩
    rw [TransportRx.returned]
    split
    · exact List.nil_sublist _
    · exact List.Sublist.refl _
  · have unfinished : ¬ piece.last = true := by
      rw [show piece.last = false from fin]
      decide
    rw [none, Reassembly.append, if_neg unfinished]
    refine ⟨.inr ⟨position + 1, content ++ piece.content, first, rfl, grown, ?_, peer, le_rfl,
      after, last⟩, List.nil_sublist _⟩
    rw [expected]
    exact counts.next (by decide) (by decide)

/-- Both receivers take a segment that arrives. -/
theorem Tracks.receive (tracks : Tracks start addresses arrives segments position rx state)
    (windowed : Windowed arrives segments) (arrived : arrives position = true)
    {piece : Piece UInt8} {sequence : TransportSeqNum} (counts : sequence.Counts start position)
    (fir : firAt segments position = some piece.first) :
    let segment : Message :=
      ⟨addresses, TransportHeader.toByte piece.first piece.last sequence.seq :: piece.content⟩
    Tracks start addresses arrives segments (position + 1) (rx.processReceive segment).1
        (state.receive position piece).1 ∧
      (TransportRx.returned (rx.processReceive segment).2).Sublist
        ((state.receive position piece).2.map (Message.mk addresses)) := by
  intro segment
  rw [TransportRx.processReceive_toByte rx addresses _ _ (counts.below (by decide))]
  cases isFirst : piece.first with
  | true =>
      rw [isFirst] at fir
      rw [if_pos rfl, receive_first state position isFirst, ← isFirst]
      exact Tracks.append (.reset rx) counts (Nat.lt_succ_self position) (.start arrived fir)
  | false =>
      rw [isFirst] at fir
      rw [if_neg (by decide), ← isFirst]
      by_cases idle : rx.numBytesRead = 0
      · rw [if_pos idle]
        exact ⟨.inl idle, List.nil_sublist _⟩
      · rcases tracks with rest |
          ⟨next, content, first, same, holds, expected, peer, passed, after, last⟩
        · exact absurd rest idle
        · have window := windowed first position last arrived fir
          rw [if_neg idle, same, receive_continues next content position isFirst]
          by_cases follows : next = position
          · subst follows
            have number : sequence = rx.expectedSeq := counts.unique expected
            rw [if_neg (by simp [number]), if_neg (by simp [peer]), if_pos rfl]
            exact Tracks.append holds counts (Nat.lt_succ_of_lt after) (last.passed fir)
          · -- within the window the expected number is that of one position only
            have other : sequence.seq ≠ rx.expectedSeq.seq := by
              intro number
              rw [SequenceNum.Counts, number] at counts
              exact follows (expected.position_eq counts passed (by omega))
            rw [if_pos other, if_neg follows]
            exact ⟨.inr ⟨next, content, first, rfl, holds, expected, peer,
              Nat.le_succ_of_le passed, after, last.passed fir⟩, List.nil_sublist _⟩

theorem Tracks.receiveAll {pieces : List (Piece UInt8)} {rest : List Message}
    (carry : Carry start addresses position pieces rest) (placed : segments.drop position = rest)
    (windowed : Windowed arrives segments)
    (tracks : Tracks start addresses arrives segments position rx state) :
    (rx.receiveAll (deliver arrives position rest)).Sublist
      ((Reassembly.receiveAll arrives state position pieces).2.map (Message.mk addresses)) := by
  induction carry generalizing rx state with
  | nil => exact List.nil_sublist _
  | @cons position piece sequence pieces rest counts carry ih =>
      have behind : segments.drop (position + 1) = rest := by
        rw [← List.tail_drop, placed, List.tail_cons]
      rw [deliver, Reassembly.receiveAll, List.map_append]
      cases arrived : arrives position with
      | false =>
          exact ih behind (tracks.lost arrived)
      | true =>
          have placedAt := congrArg (·[0]?) placed
          rw [List.getElem?_drop, Nat.add_zero] at placedAt
          have header := TransportHeader.ofByte_toByte piece.first piece.last
            (counts.below (by decide))
          have fir : firAt segments position = some piece.first := by
            simp [firAt, placedAt, header]
          obtain ⟨next, message⟩ := tracks.receive windowed arrived counts fir
          rw [if_pos rfl, if_pos rfl, TransportRx.receiveAll_cons]
          exact message.append (ih behind next)

end Simulation

/-- Whatever is lost within the window, the receiver returns sent messages only, each at most once
and in the order sent. -/
theorem receiveAll_sublist (tx : TransportTx) (rx : TransportRx) (messages : List Message)
    (addresses : Addresses) (arrives : Nat → Bool) (counted : tx.sequence.seq.toNat < 64)
    (idle : rx.numBytesRead = 0) (peer : ∀ message ∈ messages, message.addresses = addresses)
    (windowed : Windowed arrives (tx.transmitAll messages)) :
    (rx.receiveAll (deliver arrives 0 (tx.transmitAll messages))).Sublist messages := by
  obtain ⟨pieces, cuts, carry⟩ := tx.transmitAll_carries messages 0 peer (.zero counted)
  have unread : Tracks tx.sequence.seq.toNat addresses arrives (tx.transmitAll messages) 0 rx none :=
    .inl idle
  have tracked := Tracks.receiveAll carry List.drop_zero windowed unread
  have joined := cuts.receiveAll arrives none 0 (.none 0)
  have same : (messages.map (·.payload)).map (Message.mk addresses) = messages := by
    rw [List.map_map]
    refine (List.map_congr_left fun message member => ?_).trans messages.map_id
    rw [Function.comp_apply, ← peer message member, id]
  have all := tracked.trans (joined.map (Message.mk addresses))
  rwa [same] at all

/-- A message of two segments arrives, the one behind it is lost. -/
theorem receiveAll_sublist_two_segments :
    ((TransportRx.ofSize 2048).receiveAll (deliver (fun position => decide (position < 2)) 0
      (TransportTx.transmitAll {} [⟨{}, List.replicate 250 7⟩, ⟨{}, [1]⟩]))).Sublist
        [⟨{}, List.replicate 250 7⟩, ⟨{}, [1]⟩] := by
  refine receiveAll_sublist {} (TransportRx.ofSize 2048) _ {} _ (by decide) rfl ?_ ?_
  · intro message member
    rw [List.mem_pair] at member
    rcases member with rfl | rfl <;> rfl
  · intro first position _ arrived _
    have early := of_decide_eq_true arrived
    omega

end OpenDnp3.Transport
