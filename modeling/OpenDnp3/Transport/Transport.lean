import OpenDnp3.Library.SequenceNum
import Mathlib.Data.List.Basic

/-!
# Transport function

Messages are cut into segments of at most 249 bytes behind a one byte header,
and put together again by the receiver.
-/

set_option autoImplicit false

namespace OpenDnp3

structure Addresses where
  source : UInt16 := 0
  destination : UInt16 := 0
deriving DecidableEq, Repr, Inhabited

structure Message where
  addresses : Addresses := {}
  payload : List UInt8 := []
deriving DecidableEq, Repr, Inhabited

end OpenDnp3

namespace OpenDnp3.Transport

open Library

abbrev TransportSeqNum := SequenceNum 64

/-- The most bytes of a message in one segment. -/
def maxTpduPayload : Nat := 249

structure TransportHeader where
  fir : Bool
  fin : Bool
  seq : UInt8
deriving DecidableEq, Repr, Inhabited

namespace TransportHeader

def ofByte (byte : UInt8) : TransportHeader :=
  ⟨byte &&& 0x40 != 0, byte &&& 0x80 != 0, byte &&& 0x3F⟩

def toByte (fir fin : Bool) (seq : UInt8) : UInt8 :=
  (if fir then 0x40 else 0) ||| (if fin then 0x80 else 0) ||| (0x3F &&& seq)

theorem ofByte_toByte (fir fin : Bool) {seq : UInt8} (below : seq.toNat < 64) :
    ofByte (toByte fir fin seq) = ⟨fir, fin, seq⟩ := by
  have small : ∀ (fir fin : Bool) (seq : Fin 64),
      ofByte (toByte fir fin (UInt8.ofNat seq)) = ⟨fir, fin, UInt8.ofNat seq⟩ := by
    decide +kernel
  have same := small fir fin ⟨seq.toNat, below⟩
  rwa [UInt8.ofNat_toNat] at same

end TransportHeader

/-! ## Transmitter -/

structure TransportTx where
  /-- What is left of the message. -/
  message : Message := {}
  txSegment : Option (List UInt8) := none
  sequence : TransportSeqNum := ⟨0⟩
  tpduCount : Nat := 0
deriving DecidableEq, Repr, Inhabited

namespace TransportTx

def configure (tx : TransportTx) (message : Message) : TransportTx :=
  { tx with message := message, txSegment := none, tpduCount := 0 }

def numToSend (tx : TransportTx) : Nat :=
  if tx.message.payload.length < maxTpduPayload then tx.message.payload.length
  else maxTpduPayload

def getSegment (tx : TransportTx) : TransportTx × List UInt8 :=
  match tx.txSegment with
  | some segment => (tx, segment)
  | none =>
      let fir := tx.tpduCount == 0
      let fin := tx.numToSend == tx.message.payload.length
      let segment := TransportHeader.toByte fir fin tx.sequence.seq ::
        tx.message.payload.take tx.numToSend
      ({ tx with txSegment := some segment }, segment)

@[simp] theorem message_getSegment (tx : TransportTx) :
    tx.getSegment.1.message = tx.message := by
  cases set : tx.txSegment <;> simp only [getSegment, set]

/-- Goes on to the next segment. Tells whether there is one. -/
def advance (tx : TransportTx) : TransportTx × Bool :=
  let payload := tx.message.payload.drop tx.numToSend
  ({ message := { tx.message with payload := payload }
     txSegment := none
     sequence := tx.sequence.next
     tpduCount := tx.tpduCount + 1 }, !payload.isEmpty)

theorem length_advance {tx : TransportTx} (more : tx.advance.2 = true) :
    tx.advance.1.message.payload.length < tx.message.payload.length := by
  have left : tx.numToSend < tx.message.payload.length := by
    simpa [advance] using more
  have positive : 0 < tx.numToSend := by
    rw [numToSend, maxTpduPayload]
    split <;> omega
  simp only [advance, List.length_drop]
  omega

/-- The segments of the message, as the layer below takes them one after the other. -/
def transmit (tx : TransportTx) : TransportTx × List Message :=
  let segment : Message := ⟨tx.message.addresses, tx.getSegment.2⟩
  if _more : tx.getSegment.1.advance.2 then
    let (last, segments) := tx.getSegment.1.advance.1.transmit
    (last, segment :: segments)
  else (tx.getSegment.1.advance.1, [segment])
termination_by tx.message.payload.length
decreasing_by
  have shorter := length_advance _more
  rwa [message_getSegment] at shorter

/-- The segments of one message after the other. -/
def transmitAll : TransportTx → List Message → List Message
  | _, [] => []
  | tx, message :: messages =>
      let (next, segments) := (tx.configure message).transmit
      segments ++ next.transmitAll messages

end TransportTx

/-! ## Receiver -/

structure TransportRx where
  rxBuffer : List UInt8
  numBytesRead : Nat := 0
  lastAddresses : Addresses := {}
  expectedSeq : TransportSeqNum := ⟨0⟩
deriving DecidableEq, Repr, Inhabited

namespace TransportRx

def ofSize (maxRxFragSize : Nat) : TransportRx :=
  { rxBuffer := List.replicate maxRxFragSize 0 }

def reset (rx : TransportRx) : TransportRx := { rx with numBytesRead := 0 }

def getAvailable (rx : TransportRx) : List UInt8 := rx.rxBuffer.drop rx.numBytesRead

/-- Puts the bytes of an accepted segment behind those read before. -/
def accept (rx : TransportRx) (header : TransportHeader) (addresses : Addresses)
    (payload : List UInt8) : TransportRx × Message :=
  if payload.length > rx.getAvailable.length then
    -- the buffer is full before a complete fragment was read
    (rx.reset, {})
  else
    let next : TransportRx :=
      { rxBuffer := rx.rxBuffer.take rx.numBytesRead ++ payload ++
          rx.getAvailable.drop payload.length
        numBytesRead := rx.numBytesRead + payload.length
        lastAddresses := addresses
        expectedSeq := SequenceNum.next ⟨header.seq⟩ }
    if header.fin then (next.reset, ⟨addresses, next.rxBuffer.take next.numBytesRead⟩)
    else (next, {})

/-- The message that a segment completes, or one without a payload. -/
def processReceive (rx : TransportRx) (segment : Message) : TransportRx × Message :=
  match segment.payload with
  | [] => (rx, {})
  | byte :: payload =>
      let header := TransportHeader.ofByte byte
      if header.fir then
        -- drops what was read of a fragment before
        rx.reset.accept header segment.addresses payload
      else if rx.numBytesRead = 0 then (rx, {})
      else if header.seq ≠ rx.expectedSeq.seq then (rx, {})
      else if segment.addresses ≠ rx.lastAddresses then (rx, {})
      else rx.accept header segment.addresses payload

/-- The messages passed to the layer above, in order. -/
def receiveAll : TransportRx → List Message → List Message
  | _, [] => []
  | rx, segment :: segments =>
      let (next, message) := rx.processReceive segment
      if message.payload.isEmpty then next.receiveAll segments
      else message :: next.receiveAll segments

end TransportRx

end OpenDnp3.Transport
