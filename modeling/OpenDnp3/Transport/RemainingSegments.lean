import OpenDnp3.Link.AcknowledgedSegments
import OpenDnp3.Transport.SegmentedMessages
import OpenDnp3.Transport.TransportCompletions

/-!
# Remaining segments

A link that confirms what is sent keeps the segments that have not been
acknowledged, and gives none of them up while there are retries left.
-/

set_option autoImplicit false

namespace OpenDnp3.Link.PrimaryStation

open OpenDnp3.Transport

variable {config : LinkLayerConfig} {station after : PrimaryStation} {frames : List LinkFrame}
  {stimulus : Stimulus}

/-- The segments that have not been acknowledged. -/
def remaining (station : PrimaryStation) : List Message :=
  station.segments.elim [] fun segments => segments.transmit.2

theorem transmit_segment {segments : TransportTx} (more : segments.advance.2 = true) :
    segments.transmit.2 = segment segments :: segments.advance.1.transmit.2 :=
  TransportTx.transmit_advance more

theorem transmit_last_segment {segments : TransportTx} (last : segments.advance.2 = false) :
    segments.transmit.2 = [segment segments] := by
  rw [TransportTx.transmit, dif_neg (by simpa using last)]
  rfl

theorem remaining_of_segments {segments : TransportTx} (held : station.segments = some segments) :
    station.remaining = segments.transmit.2 := by
  rw [remaining, held]
  rfl

/-- What is acknowledged does not remain, and nothing else is lost. -/
theorem Reacts.remaining (reacts : Reacts config stimulus station frames after)
    (confirms : station.state ≠ .sendUnconfirmedTransmitWait)
    (succeeds : stimulus.fails = true →
      station.state ≠ .resetLinkWait ∧ station.state ≠ .confDataWait)
    (untaken : after.segments ≠ none → station.segments ≠ none) :
    (if station.acknowledges stimulus then station.current.toList else []) ++ after.remaining =
      station.remaining := by
  cases reacts with
  | same quiet =>
      have none : station.acknowledges stimulus = false := by
        rw [acknowledges, Bool.and_eq_false_iff, decide_eq_false_iff_not, decide_eq_false_iff_not]
        exact (em (stimulus = .answer .secAck)).symm.imp id quiet
      simp [none]
  | take free => exact absurd free (untaken (Option.some_ne_none _))
  | transmitted => rfl
  | unconfirmedMore state | unconfirmedLast state => exact absurd state confirms
  | resetAcknowledged state held =>
      have none : station.acknowledges (.answer .secAck) = false := by simp [acknowledges, state]
      rw [none, remaining_of_segments held]
      exact congrArg Prod.snd (TransportTx.transmit_getSegment _)
  | @dataAcknowledgedMore _ segments state held more =>
      have acks : station.acknowledges (.answer .secAck) = true := by simp [acknowledges, state]
      have current : station.current = some (segment segments) :=
        Agrees.current_of_asks (by rw [state]; rfl) held
      rw [acks, current, remaining_of_segments held, transmit_segment more]
      exact congrArg (segment segments :: ·.2) (TransportTx.transmit_getSegment _)
  | @dataAcknowledgedLast _ segments state held last =>
      have acks : station.acknowledges (.answer .secAck) = true := by simp [acknowledges, state]
      have current : station.current = some (segment segments) :=
        Agrees.current_of_asks (by rw [state]; rfl) held
      rw [acks, current, remaining_of_segments held, transmit_last_segment last]
      rfl
  | resetFailed state fails => exact absurd state (succeeds fails).1
  | dataFailed state fails => exact absurd state (succeeds fails).2
  | dataRefused state => exact absurd state (succeeds rfl).2
  | resetRepeated => rfl
  | dataRepeated state held =>
      rw [remaining_of_segments held]
      exact congrArg Prod.snd (TransportTx.transmit_getSegment _)
  | statusDone state =>
      have none : station.acknowledges stimulus = false := by simp [acknowledges, state]
      rw [none]
      rfl

theorem Starts.remaining (starts : Starts config station frames after) :
    after.remaining = station.remaining := by
  cases starts with
  | nothing | asks | resets => rfl
  | data idle held | unconfirmed idle held =>
      rw [remaining_of_segments held]
      exact congrArg Prod.snd (TransportTx.transmit_getSegment _)

end OpenDnp3.Link.PrimaryStation

namespace OpenDnp3.Link.LinkPair

open OpenDnp3.Library OpenDnp3.Transport
open OpenDnp3.Master (MonotonicTimestamp)

variable {pair after : LinkPair} {context : LinkContext} {input : LinkInput}

theorem segments_prepare (context : LinkContext) {input : LinkInput} (other : input.sends = false) :
    (context.prepare input).segments = context.segments := by
  cases input with
  | send => cases other
  | lowerLayerUp now =>
      rw [LinkContext.prepare, LinkContext.onLowerLayerUp]
      split <;> rfl
  | _ => rfl

/-- The segments are acknowledged in the order in which they remain, and none is given up. -/
theorem advance_keeps (sound : pair.sender.Sound) (connected : input ≠ .lowerLayerDown)
    (other : input.sends = false) (received : pair.sender.receive input = some context)
    (confirms : pair.sender.priState ≠ .sendUnconfirmedTransmitWait)
    (succeeds : (pair.sender.stimulus input).fails = true →
      pair.sender.priState ≠ .resetLinkWait ∧ pair.sender.priState ≠ .confDataWait) :
    let next := pair.advance (pair.sender.primaryStation.acknowledges
      (pair.sender.stimulus input)) context
    next.intact = pair.intact ∧ ∃ sent, next.acknowledged = pair.acknowledged ++ sent ∧
      pair.sender.primaryStation.remaining = sent ++ context.primaryStation.remaining := by
  obtain ⟨_, _, _, _, middle, emits, reacts, _, starts, _⟩ :=
    LinkContext.receive_moves sound connected received
  obtain ⟨_, _, _, _, _, _, _, counts, _⟩ := emits
  have untaken : middle.segments ≠ none → pair.sender.primaryStation.segments ≠ none := by
    intro held
    have still : context.segments ≠ none := mt starts.segments_eq_none.mp held
    obtain ⟨rest, some⟩ := Option.ne_none_iff_exists'.mp still
    obtain ⟨before, holds⟩ := TransportStack.held_of_holds counts some
    rw [segments_prepare _ other] at holds
    exact Option.ne_none_iff_exists'.mpr ⟨before, holds⟩
  have remains := reacts.remaining confirms succeeds untaken
  have station : context.primaryStation.remaining = middle.remaining := starts.remaining
  exact ⟨intact_advance sound connected received fun fails => (succeeds fails).2, _, rfl,
    station.symm ▸ remains.symm⟩

theorem Serves.renew (serves : pair.Serves)
    (idle : pair.sender.primaryStation.current = none) : pair.renew.Serves := by
  refine ⟨serves.sender, serves.receiver, serves.senderRests, serves.receiverRests,
    serves.confirms, ?_⟩
  have transfer : pair.renew.transfer =
      { writeBit := pair.sender.nextWriteFCB, readBit := pair.receiver.nextReadFCB } := by
    simp only [LinkPair.transfer, LinkPair.renew, idle]
  refine ⟨serves.agrees.confirms, serves.agrees.exchange, serves.agrees.resetting,
    serves.agrees.sending, rfl, rfl, transfer ▸ StopAndWait.ordered_init _ _, fun reset => ?_⟩
  rw [transfer]
  exact StopAndWait.aligned_of_idle rfl ((serves.agrees.aligned reset).idle idle)

end OpenDnp3.Link.LinkPair

namespace OpenDnp3.Link.PrimaryStation

open OpenDnp3.Transport

variable {config : LinkLayerConfig} {station after : PrimaryStation} {frames : List LinkFrame}

theorem Reacts.counted {stimulus : Stimulus} {rest : TransportTx}
    (reacts : Reacts config stimulus station frames after)
    (untaken : after.segments ≠ none → station.segments ≠ none)
    (counted : ∀ held, station.segments = some held → held.Counted)
    (still : after.segments = some rest) : rest.Counted := by
  cases reacts with
  | same | transmitted | dataRefused | resetRepeated | statusDone => exact counted rest still
  | take free => exact absurd free (untaken (Option.some_ne_none _))
  | unconfirmedMore | dataAcknowledgedMore =>
      exact Option.some.inj still ▸ (TransportTx.counted_advance _).getSegment
  | resetAcknowledged state held | dataRepeated state held =>
      exact Option.some.inj still ▸ (counted _ held).getSegment
  | unconfirmedLast | dataAcknowledgedLast | resetFailed | dataFailed => cases still

theorem Starts.counted {rest : TransportTx} (starts : Starts config station frames after)
    (counted : ∀ held, station.segments = some held → held.Counted)
    (still : after.segments = some rest) : rest.Counted := by
  cases starts with
  | nothing | asks | resets => exact counted rest still
  | data idle held | unconfirmed idle held =>
      exact Option.some.inj still ▸ (counted _ held).getSegment

end OpenDnp3.Link.PrimaryStation
