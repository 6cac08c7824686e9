import OpenDnp3.Transport.RemainingSegments
import OpenDnp3.Transport.TransportPair

/-!
# Delivery of messages

Over a link that confirms what is sent, the application at one end receives what
the application at the other end sends: every message once, whole and in order.
-/

set_option autoImplicit false

namespace OpenDnp3.Transport

open OpenDnp3.Library OpenDnp3.Link
open OpenDnp3.Master (MonotonicTimestamp)

/-! ## Layers -/

theorem sent_concat (log : List TransportActivity) (activity : TransportActivity) :
    TransportActivity.sent (log ++ [activity]) =
      match activity with
      | .beginTransmit message => TransportActivity.sent log ++ [message]
      | .lowerLayerDown => []
      | _ => TransportActivity.sent log := by
  rw [TransportActivity.sent, List.foldl_append]
  rfl

theorem received_concat (log : List TransportActivity) (activity : TransportActivity) :
    TransportActivity.received (log ++ [activity]) =
      match activity with
      | .receive message => TransportActivity.received log ++ [message]
      | .lowerLayerDown => []
      | _ => TransportActivity.received log := by
  rw [TransportActivity.received, List.foldl_append]
  rfl

namespace TransportLayer

variable {layer : TransportLayer} {activities : List LinkActivity}

theorem sent_onReceive (layer : TransportLayer) (message : Message) :
    TransportActivity.sent (layer.onReceive message).log = TransportActivity.sent layer.log := by
  unfold onReceive
  split
  · dsimp only
    split
    · rfl
    · exact sent_concat _ _
  · rfl

theorem sent_hear (open_ : activities.any LinkActivity.connects = false) :
    TransportActivity.sent (activities.foldl hear layer).log =
      TransportActivity.sent layer.log := by
  induction activities generalizing layer with
  | nil => rfl
  | cons activity activities ih =>
      rw [List.any_cons, Bool.or_eq_false_iff] at open_
      obtain ⟨stays, stay⟩ := open_
      refine (ih stay).trans ?_
      cases activity with
      | lowerLayerUp | lowerLayerDown => cases stays
      | receive message => exact layer.sent_onReceive message
      | postTxReady => exact sent_concat _ _
      | _ => rfl

/-- What the layer has received is what its receiver returns of the segments. -/
def Reads (size : Nat) (layer : TransportLayer) (delivered : List Message) : Prop :=
  ∃ rx : TransportRx, rx.Refines size none ∧ layer.receiver = rx.receiveSegments delivered ∧
    TransportActivity.received layer.log = rx.receiveAll delivered

theorem Reads.hear {size : Nat} {delivered : List Message} (reads : Reads size layer delivered)
    (online : layer.isOnline = true) (open_ : activities.any LinkActivity.connects = false) :
    Reads size (activities.foldl TransportLayer.hear layer)
        (delivered ++ LinkActivity.allPassed activities) ∧
      (activities.foldl TransportLayer.hear layer).isOnline = true := by
  induction activities generalizing layer delivered with
  | nil => exact ⟨(List.append_nil delivered).symm ▸ reads, online⟩
  | cons activity activities ih =>
      rw [List.any_cons, Bool.or_eq_false_iff] at open_
      obtain ⟨stays, stay⟩ := open_
      cases activity with
      | lowerLayerUp | lowerLayerDown => cases stays
      | receive message =>
          obtain ⟨rx, refines, receiver, received⟩ := reads
          have next : Reads size (layer.onReceive message) (delivered ++ [message]) ∧
              (layer.onReceive message).isOnline = true := by
            rw [onReceive, if_pos online]
            have all : rx.receiveAll (delivered ++ [message]) = rx.receiveAll delivered ++
                TransportRx.returned (layer.receiver.processReceive message).2 := by
              rw [TransportRx.receiveAll_append, TransportRx.receiveAll_cons, ← receiver]
              exact congrArg _ (List.append_nil _)
            have goes : (layer.receiver.processReceive message).1 =
                rx.receiveSegments (delivered ++ [message]) := by
              rw [TransportRx.receiveSegments_append, ← receiver]
              rfl
            dsimp only
            split
            · next empty =>
                rw [TransportRx.returned, if_pos empty, List.append_nil] at all
                exact ⟨⟨rx, refines, goes, received.trans all.symm⟩, online⟩
            · next full =>
                rw [TransportRx.returned, if_neg full] at all
                refine ⟨⟨rx, refines, goes, ?_⟩, online⟩
                rw [all, ← received]
                exact received_concat _ _
          have rest := ih next.1 next.2 stay
          rw [List.append_assoc] at rest
          exact rest
      | postTxReady =>
          obtain ⟨rx, refines, receiver, received⟩ := reads
          have next : Reads size (layer.record .complete) delivered :=
            ⟨rx, refines, receiver, (received_concat _ _).trans received⟩
          exact ih next online stay
      | _ => exact ih reads online stay

end TransportLayer

/-! ## Ends -/

/-- The sender is at work on the messages that were begun since the connection was opened. -/
structure SenderSide (size : Nat) (links : LinkPair) (stack : TransportStack) : Prop where
  link : stack.link = links.sender
  paired : ∃ progress, stack.Paired progress
  intact : links.intact = true
  counted : stack.transport.transmitter.Counted
  held : ∀ held, links.sender.segments = some held → held.Counted
  transmitted : Transmitted size (TransportActivity.sent stack.transport.log) links.acknowledged
    links.sender.primaryStation.remaining
  closed : links.sender.isOnline = false → TransportActivity.sent stack.transport.log = []

/-- The receiver has received what its receiver returns of the segments that were passed up. -/
structure ReceiverSide (size : Nat) (links : LinkPair) (layer : TransportLayer) : Prop where
  online : layer.isOnline = links.receiver.isOnline
  reads : layer.Reads size links.delivered
  closed : links.receiver.isOnline = false → links.delivered = []

section sender

variable {size : Nat} {links next : LinkPair} {stack : TransportStack} {context : LinkContext}
  {input : LinkInput} {transmitter : TransportTx}

theorem TransportStack.follow_same (stack : TransportStack) :
    stack.follow stack.link stack.transport.transmitter = stack := by
  simp [TransportStack.follow, LinkActivity.completions]

theorem counted_transmitter (held : ∀ held, links.sender.segments = some held → held.Counted)
    (after : ∀ held, context.segments = some held → held.Counted)
    (counted : transmitter.Counted) :
    (links.sender.transmitter input context transmitter).Counted := by
  unfold LinkContext.transmitter
  split
  · next still => exact after _ still
  · next gone before =>
      split
      · exact TransportTx.counted_advance _
      · exact held _ before
  · exact counted

theorem SenderSide.same (side : SenderSide size links stack) (sender : next.sender = links.sender)
    (intact : next.intact = links.intact) (acknowledged : next.acknowledged = links.acknowledged) :
    SenderSide size next (stack.follow next.sender stack.transport.transmitter) := by
  rw [sender, ← side.link, TransportStack.follow_same]
  refine ⟨side.link.trans sender.symm, side.paired, intact.trans side.intact, side.counted, ?_, ?_,
    ?_⟩
  · rw [sender]
    exact side.held
  · rw [acknowledged, sender]
    exact side.transmitted
  · rw [sender]
    exact side.closed

theorem SenderSide.stays (side : SenderSide size links stack) (serves : links.Serves)
    (same : links.sender.prepare input = links.sender) (connected : input ≠ .lowerLayerDown)
    (other : input.sends = false) (received : links.sender.receive input = some context)
    (succeeds : (links.sender.stimulus input).fails = true →
      links.sender.priState ≠ .resetLinkWait ∧ links.sender.priState ≠ .confDataWait)
    (sender : next.sender = context)
    (advances : next.acknowledged = (links.advance
        (links.sender.primaryStation.acknowledges (links.sender.stimulus input))
        context).acknowledged ∧
      next.intact = (links.advance
        (links.sender.primaryStation.acknowledges (links.sender.stimulus input)) context).intact) :
    SenderSide size next (stack.follow context
      (links.sender.transmitter input context stack.transport.transmitter)) := by
  obtain ⟨progress, paired⟩ := side.paired
  have link := side.link
  obtain staysOpen : ∃ next, (stack.follow context (links.sender.transmitter input context
      stack.transport.transmitter)).Paired next :=
    paired.stays (link ▸ same) connected (link ▸ received)
  obtain ⟨intact, sent, acknowledged, remaining⟩ := LinkPair.advance_keeps serves.sender connected
    other received serves.agrees.confirms succeeds
  obtain ⟨_, _, _, _, middle, emits, reacts, _, starts, _⟩ :=
    LinkContext.receive_moves serves.sender connected received
  rw [same] at emits
  obtain ⟨_, online, activities, log, _, _, _, counts, open_⟩ := emits
  have untaken : middle.segments ≠ none → links.sender.segments ≠ none := by
    intro held
    have still : context.segments ≠ none := mt starts.segments_eq_none.mp held
    obtain ⟨rest, has⟩ := Option.ne_none_iff_exists'.mp still
    exact Option.ne_none_iff_exists'.mpr (TransportStack.held_of_holds counts has)
  have held (rest : TransportTx) (still : context.segments = some rest) : rest.Counted :=
    starts.counted (fun _ => reacts.counted untaken side.held) still
  have kept : TransportActivity.sent (stack.follow context
      (links.sender.transmitter input context stack.transport.transmitter)).transport.log =
        TransportActivity.sent stack.transport.log := by
    rw [TransportStack.follow, link, log, List.drop_left]
    exact TransportLayer.sent_hear open_
  refine ⟨sender.symm, staysOpen, advances.2.trans (intact.trans side.intact),
    counted_transmitter side.held held side.counted, sender ▸ held, ?_, ?_⟩
  · rw [kept]
    have before := side.transmitted
    rw [remaining] at before
    rw [advances.1, acknowledged, sender]
    exact before.acknowledge
  · rw [kept, sender, online]
    exact side.closed

theorem SenderSide.up (side : SenderSide size links stack) (now : MonotonicTimestamp)
    (sender : next.sender = links.sender.onLowerLayerUp now)
    (acknowledged : next.acknowledged = links.acknowledged)
    (intact : next.intact = links.intact) :
    SenderSide size next (stack.follow next.sender
      (links.sender.transmitter (.lowerLayerUp now) next.sender stack.transport.transmitter)) := by
  obtain ⟨progress, paired⟩ := side.paired
  have same : next.sender.primaryStation = links.sender.primaryStation := by
    rw [sender, LinkContext.onLowerLayerUp]
    split <;> rfl
  have segments : next.sender.segments = links.sender.segments :=
    congrArg PrimaryStation.segments same
  have held (rest : TransportTx) (still : next.sender.segments = some rest) : rest.Counted :=
    side.held rest (segments ▸ still)
  have kept : TransportActivity.sent (stack.follow next.sender (links.sender.transmitter
      (.lowerLayerUp now) next.sender stack.transport.transmitter)).transport.log =
        TransportActivity.sent stack.transport.log := by
    rw [TransportStack.follow, side.link, sender]
    cases online : links.sender.isOnline with
    | true =>
        have same : links.sender.onLowerLayerUp now = links.sender := if_pos online
        rw [same, List.drop_length]
        rfl
    | false =>
        have log : (links.sender.onLowerLayerUp now).log =
            links.sender.log ++ [.stateChange .unreset, .lowerLayerUp] := by
          simp [LinkContext.onLowerLayerUp, online, LinkContext.onStateChange, LinkContext.record,
            LinkContext.startKeepAliveTimer]
        rw [log, List.drop_left]
        change TransportActivity.sent stack.transport.onLowerLayerUp.log = _
        rw [TransportLayer.onLowerLayerUp]
        split
        · rfl
        · exact sent_concat _ _
  refine ⟨rfl, ?_, intact.trans side.intact, counted_transmitter side.held held side.counted,
    held, ?_, ?_⟩
  · rw [sender]
    exact side.link ▸ paired.up now
  · rw [kept, acknowledged, same]
    exact side.transmitted
  · rw [kept, sender, LinkContext.onLowerLayerUp]
    split
    · exact side.closed
    · rintro ⟨⟩

/-- The connection is closed, and nothing has been sent in the next one. -/
theorem SenderSide.down (side : SenderSide size links stack)
    (sender : next.sender = links.sender.onLowerLayerDown) (acknowledged : next.acknowledged = [])
    (intact : next.intact = true) :
    SenderSide size next (stack.follow next.sender
      (links.sender.transmitter .lowerLayerDown next.sender stack.transport.transmitter)) := by
  obtain ⟨progress, paired⟩ := side.paired
  have free : next.sender.segments = none := by
    rw [sender, LinkContext.onLowerLayerDown]
    split
    · rfl
    · next offline =>
        rw [← side.link] at offline ⊢
        exact paired.rests.segments (Bool.eq_false_of_not_eq_true offline)
  have held (rest : TransportTx) (still : next.sender.segments = some rest) : rest.Counted := by
    cases free.symm.trans still
  have none : TransportActivity.sent (stack.follow next.sender (links.sender.transmitter
      .lowerLayerDown next.sender stack.transport.transmitter)).transport.log = [] := by
    rw [TransportStack.follow, side.link, sender]
    cases online : links.sender.isOnline with
    | false =>
        have same : links.sender.onLowerLayerDown = links.sender := if_neg (by simp [online])
        rw [same, List.drop_length]
        exact side.closed online
    | true =>
        have log : links.sender.onLowerLayerDown.log =
            links.sender.log ++ [.stateChange .unreset, .lowerLayerDown] := by
          simp [LinkContext.onLowerLayerDown, online, LinkContext.onStateChange,
            LinkContext.record]
        have connected : stack.transport.isOnline = true := by
          rw [paired.online, side.link, online]
        rw [log, List.drop_left]
        change TransportActivity.sent stack.transport.onLowerLayerDown.log = _
        rw [TransportLayer.onLowerLayerDown, if_pos connected]
        exact sent_concat _ _
  refine ⟨rfl, ?_, intact, counted_transmitter side.held held side.counted, held, ?_,
    fun _ => none⟩
  · rw [sender]
    exact side.link ▸ paired.down
  · rw [none, acknowledged, PrimaryStation.remaining,
      show next.sender.primaryStation.segments = .none from free]
    exact .whole .nil

theorem SenderSide.begin {transport : TransportLayer} (side : SenderSide size links stack)
    (serves : links.Serves) (fresh : stack.stale = 0) {message : Message}
    (fits : message.payload.length ≤ size)
    (begun : stack.transport.beginTransmit message = some transport) :
    let after := stack.beginTransmit message
    after.link = links.sender.send transport.transmitter ∧
      SenderSide size (links.advance false after.link) after := by
  intro after
  obtain ⟨progress, paired⟩ := side.paired
  obtain ⟨rfl, free, connected, nonempty, configured, same⟩ := paired.begins begun
  have first : transport.transmitter = stack.transport.transmitter.configure message := by
    rw [configured]
    rfl
  have counted : transport.transmitter.Counted := first ▸ side.counted
  rw [side.link] at free connected same
  obtain ⟨middle, started, activities, starts, taken, online, log, _, open_⟩ :=
    TransportStack.send_emits serves.sender free connected transport.transmitter
  have link : after.link = links.sender.send transport.transmitter := congrArg _ same
  have held (rest : TransportTx) (still : after.link.segments = some rest) : rest.Counted := by
    rw [link] at still
    refine starts.counted (fun _ holds => ?_) still
    exact Option.some.inj (taken.symm.trans holds) ▸ counted
  have begins : TransportActivity.sent after.transport.log =
      TransportActivity.sent stack.transport.log ++ [message] := by
    have heard : after.transport.log = ((LinkActivity.take
        transport.transmitter.message.addresses :: activities).foldl TransportLayer.hear
          transport).log := by
      rw [show after = _ from same, TransportStack.follow]
      simp only [log, List.drop_left]
    have kept : (LinkActivity.take transport.transmitter.message.addresses :: activities).any
        LinkActivity.connects = false := open_
    rw [heard, TransportLayer.sent_hear kept, configured]
    exact sent_concat _ _
  refine ⟨link, rfl, paired.beginTransmit fresh message, ?_, ?_, held, ?_, ?_⟩
  · have none : links.sender.primaryStation.current = none := by
      rw [PrimaryStation.current, show links.sender.primaryStation.segments = none from free]
      simp
    simp [LinkPair.advance, none, side.intact]
  · rw [show after = _ from same]
    exact counted_transmitter side.held (link ▸ held) counted
  · have before := side.transmitted
    rw [PrimaryStation.remaining, show links.sender.primaryStation.segments = none from free]
      at before
    rw [begins]
    change Transmitted size _ (links.acknowledged ++ [])
      after.link.primaryStation.remaining
    rw [link, starts.remaining, PrimaryStation.remaining_of_segments taken]
    exact .part stack.transport.transmitter before.segmented side.counted nonempty fits
      (first ▸ rfl)
  · change after.link.isOnline = false → _
    rw [link, online]
    rintro ⟨⟩

/-- Something remains of a message while it is being sent only. -/
theorem SenderSide.sending (side : SenderSide size links stack)
    (remains : links.sender.primaryStation.remaining ≠ []) : stack.transport.isSending = true := by
  obtain ⟨progress, paired⟩ := side.paired
  refine paired.follows.sending.mpr ?_
  rintro rfl
  have none : links.sender.segments.toList.length = 0 := side.link ▸ paired.held
  rw [List.length_eq_zero_iff, Option.toList_eq_nil_iff] at none
  rw [PrimaryStation.remaining,
    show links.sender.primaryStation.segments = .none from none] at remains
  exact remains rfl

end sender

section receiver

variable {size : Nat} {links next : LinkPair} {layer : TransportLayer} {context : LinkContext}
  {input : LinkInput}

/-- What the layer above the receiver hears in a step. -/
def heard (links : LinkPair) (context : LinkContext) (layer : TransportLayer) : TransportLayer :=
  (context.log.drop links.receiver.log.length).foldl TransportLayer.hear layer

theorem ReceiverSide.same (side : ReceiverSide size links layer)
    (receiver : next.receiver = links.receiver) (delivered : next.delivered = links.delivered) :
    ReceiverSide size next (heard links next.receiver layer) := by
  rw [heard, receiver, List.drop_length]
  exact ⟨receiver ▸ side.online, delivered ▸ side.reads, receiver ▸ delivered ▸ side.closed⟩

theorem ReceiverSide.arrive (side : ReceiverSide size links layer) (serves : links.Serves)
    (connected : input ≠ .lowerLayerDown) (received : links.receiver.receive input = some context)
    (receiver : next.receiver = context)
    (delivered : next.delivered = links.delivered ++ LinkPair.newMessages links.receiver context) :
    ReceiverSide size next (heard links context layer) := by
  cases online : links.receiver.isOnline with
  | true =>
      obtain ⟨_, _, _, _, _, emits, _⟩ :=
        LinkContext.receive_moves serves.receiver connected received
      obtain ⟨_, still, activities, log, _, _, _, open_⟩ := emits.of_prepare
      have new : LinkPair.newMessages links.receiver context =
          LinkActivity.allPassed activities := by
        rw [LinkPair.newMessages, log, List.drop_left]
      obtain ⟨reads, opened⟩ := side.reads.hear (side.online.trans online) (open_ online)
      rw [heard, log, List.drop_left]
      refine ⟨?_, ?_, ?_⟩
      · rw [receiver, still online]
        exact opened
      · rw [delivered, new]
        exact reads
      · rw [receiver, still online]
        rintro ⟨⟩
  | false =>
      have none := side.closed online
      by_cases up : ∃ now, input = .lowerLayerUp now
      · obtain ⟨now, rfl⟩ := up
        obtain rfl := Option.some.inj received
        have log : (links.receiver.onLowerLayerUp now).log =
            links.receiver.log ++ [.stateChange .unreset, .lowerLayerUp] := by
          simp [LinkContext.onLowerLayerUp, online, LinkContext.onStateChange, LinkContext.record,
            LinkContext.startKeepAliveTimer]
        have new :
            LinkPair.newMessages links.receiver (links.receiver.onLowerLayerUp now) = [] := by
          rw [LinkPair.newMessages, log, List.drop_left]
          rfl
        have opened : (links.receiver.onLowerLayerUp now).isOnline = true := by
          rw [LinkContext.onLowerLayerUp, if_neg (by simp [online])]
          rfl
        rw [new, List.append_nil] at delivered
        have hears : heard links (links.receiver.onLowerLayerUp now) layer =
            { layer with isOnline := true }.record .lowerLayerUp := by
          rw [heard, log, List.drop_left]
          change layer.onLowerLayerUp = _
          exact if_neg (by simp [side.online, online])
        obtain ⟨rx, refines, reader, all⟩ := side.reads
        rw [hears]
        refine ⟨?_, ?_, ?_⟩
        · rw [receiver, opened]
          rfl
        · rw [delivered]
          exact ⟨rx, refines, reader, (received_concat _ _).trans all⟩
        · rw [receiver, opened]
          rintro ⟨⟩
      · have quiet : context.isOnline = false ∧ heard links context layer = layer ∧
            LinkPair.newMessages links.receiver context = [] := by
          rcases serves.receiverRests.receive_offline online (not_exists.mp up) received with
            rfl | rfl
          · exact ⟨online, by rw [heard, List.drop_length]; rfl,
              by rw [LinkPair.newMessages, List.drop_length]; rfl⟩
          · refine ⟨online, ?_, ?_⟩
            · rw [heard, LinkContext.record, List.drop_left]
              rfl
            · rw [LinkPair.newMessages, LinkContext.record, List.drop_left]
              rfl
        obtain ⟨offline, same, new⟩ := quiet
        rw [new, List.append_nil] at delivered
        rw [same]
        refine ⟨?_, delivered ▸ side.reads, ?_⟩
        · rw [receiver, offline, side.online, online]
        · rw [delivered]
          exact fun _ => none

/-- The connection is closed, and nothing has been received in the next one. -/
theorem ReceiverSide.down (side : ReceiverSide size links layer)
    (receiver : next.receiver = links.receiver.onLowerLayerDown)
    (delivered : next.delivered = []) :
    ReceiverSide size next (heard links next.receiver layer) := by
  rw [receiver]
  cases online : links.receiver.isOnline with
  | false =>
      have same : links.receiver.onLowerLayerDown = links.receiver := if_neg (by simp [online])
      have reads := side.reads
      rw [side.closed online] at reads
      rw [same, heard, List.drop_length]
      refine ⟨?_, delivered ▸ reads, fun _ => delivered⟩
      rw [receiver, same]
      exact side.online
  | true =>
      have log : links.receiver.onLowerLayerDown.log =
          links.receiver.log ++ [.stateChange .unreset, .lowerLayerDown] := by
        simp [LinkContext.onLowerLayerDown, online, LinkContext.onStateChange,
          LinkContext.record]
      have hears : heard links links.receiver.onLowerLayerDown layer =
          { layer with
            isOnline := false, isSending := false, receiver := layer.receiver.reset }.record
              .lowerLayerDown := by
        rw [heard, log, List.drop_left]
        change layer.onLowerLayerDown = _
        exact if_pos (side.online.trans online)
      obtain ⟨rx, refines, reader, _⟩ := side.reads
      obtain ⟨state, last⟩ := refines.receiveSegments links.delivered
      rw [← reader] at last
      rw [hears]
      refine ⟨?_, ?_, fun _ => delivered⟩
      · rw [receiver, LinkContext.onLowerLayerDown, if_pos online]
        rfl
      · rw [delivered]
        exact ⟨layer.receiver.reset, last.reset, rfl, received_concat _ _⟩

end receiver

/-! ## Runs -/

namespace TransportPair

variable {size : Nat} {pair after : TransportPair} {links : LinkPair}

/-- Messages fit, are begun when no callback is left of an earlier connection, and are sent again
until they are acknowledged. -/
def Reliable (pair : TransportPair) : TransportPairInput → Prop
  | .beginTransmit message =>
      pair.stale = 0 ∧ message.payload.length ≤ pair.receiver.receiver.rxBuffer.length
  | .link (.sender .responseTimeout) =>
      pair.links.sender.priState = .resetLinkWait ∨ pair.links.sender.priState = .confDataWait →
        pair.links.sender.numRetryRemaining ≠ 0
  | _ => True

instance : DecidableRel Reliable
  | _, .beginTransmit _ => inferInstanceAs (Decidable (_ ∧ _))
  | _, .link (.sender .responseTimeout) => inferInstanceAs (Decidable (_ ∨ _ → _))
  | _, .callback | _, .link (.sender (.lowerLayerUp _)) | _, .link (.sender .lowerLayerDown)
  | _, .link (.sender (.send _)) | _, .link (.sender .txReady) | _, .link (.sender (.frame _ _ _))
  | _, .link (.sender (.keepAliveTimeout _)) | _, .link (.receiver _) | _, .link (.deliver _)
  | _, .link (.answer _) | _, .link .lose | _, .link .loseAnswer | _, .link .disconnect =>
      .isTrue trivial

/-- Both ends are at work on the messages that were begun since the connection was opened. -/
structure Delivers (size : Nat) (pair : TransportPair) : Prop where
  serves : pair.links.Serves
  sender : SenderSide size pair.links pair.stack
  receiver : ReceiverSide size pair.links pair.receiver

theorem Delivers.beginTransmit {message : Message} (delivers : pair.Delivers size)
    (reliable : pair.Reliable (.beginTransmit message)) :
    (pair.beginTransmit message).Delivers size := by
  rw [TransportPair.beginTransmit]
  split
  · exact delivers
  next transport begun =>
  obtain ⟨fresh, fits⟩ := reliable
  have room : pair.receiver.receiver.rxBuffer.length = size := by
    obtain ⟨rx, refines, reader, _⟩ := delivers.receiver.reads
    obtain ⟨_, last⟩ := refines.receiveSegments pair.links.delivered
    rw [reader]
    exact last.buffer
  obtain ⟨link, side⟩ := delivers.sender.begin delivers.serves fresh (room ▸ fits) begun
  obtain ⟨online, reads, closed⟩ := delivers.receiver
  refine ⟨?_, side, online, reads, closed⟩
  have keeps : pair.links.KeepsPassed (.sender (.send transport.transmitter)) := trivial
  have stepped : pair.links.step (.sender (.send transport.transmitter)) =
      some (pair.links.advance false (pair.stack.beginTransmit message).link) := by
    rw [link]
    rfl
  exact delivers.serves.step keeps stepped

theorem Delivers.callback (delivers : pair.Delivers size) {stack : TransportStack}
    (stepped : pair.stack.step .callback = some stack) :
    (pair.settle pair.links stack).Delivers size := by
  obtain ⟨progress, paired⟩ := delivers.sender.paired
  rw [TransportStack.step] at stepped
  split at stepped
  · cases stepped
  next waiting =>
  obtain rfl := Option.some.inj stepped
  have kept : TransportActivity.sent pair.sender.onTxReady.log =
      TransportActivity.sent pair.sender.log ∧
        pair.sender.onTxReady.transmitter = pair.sender.transmitter := by
    rw [TransportLayer.onTxReady]
    split
    · exact ⟨rfl, rfl⟩
    · split
      · exact ⟨rfl, rfl⟩
      · exact ⟨sent_concat _ _, rfl⟩
  refine ⟨delivers.serves, ?_, delivers.receiver⟩
  obtain ⟨link, _, intact, counted, held, transmitted, closed⟩ := delivers.sender
  refine ⟨link, paired.callback waiting, intact, ?_, held, ?_, ?_⟩
  · change pair.sender.onTxReady.transmitter.Counted
    rw [kept.2]
    exact counted
  · change Transmitted size (TransportActivity.sent pair.sender.onTxReady.log) _ _
    rw [kept.1]
    exact transmitted
  · change _ → TransportActivity.sent pair.sender.onTxReady.log = []
    rw [kept.1]
    exact closed

theorem step_sender {input : LinkInput} (other : input.sends = false) :
    pair.step (.link (.sender input)) =
      (pair.links.step (.sender input)).map (pair.follow (.sender input)) := by
  cases input with
  | send => cases other
  | _ => rfl

theorem Delivers.sender_step {input : LinkInput} (delivers : pair.Delivers size)
    (other : input.sends = false) (reliable : pair.Reliable (.link (.sender input)))
    (stepped : pair.links.step (.sender input) = some links) :
    (pair.follow (.sender input) links).Delivers size := by
  have goes := stepped
  rw [LinkPair.step] at stepped
  split at stepped
  swap
  · cases stepped
  next allowed =>
  obtain ⟨context, received, rfl⟩ := Option.map_eq_some_iff.mp stepped
  have isLocal : input.isLocal = true := (Bool.and_eq_true_iff.mp allowed).1
  have keeps : pair.links.KeepsPassed (.sender input) := by
    cases input with
    | responseTimeout => exact fun waits last => absurd last (reliable (.inr waits))
    | _ => trivial
  have receiver : ReceiverSide size (pair.links.advance false context)
      (heard pair.links pair.links.receiver pair.receiver) :=
    @ReceiverSide.same size pair.links (pair.links.advance false context) _ delivers.receiver rfl
      rfl
  refine ⟨delivers.serves.step keeps goes, ?_, receiver⟩
  by_cases up : ∃ now, input = .lowerLayerUp now
  · obtain ⟨now, rfl⟩ := up
    obtain rfl := Option.some.inj received
    refine delivers.sender.up now rfl (List.append_nil _) ?_
    have same : (pair.links.sender.onLowerLayerUp now).primaryStation =
        pair.links.sender.primaryStation := by
      rw [LinkContext.onLowerLayerUp]
      split <;> rfl
    change (pair.links.advance false (pair.links.sender.onLowerLayerUp now)).intact =
      pair.links.intact
    cases current : pair.links.sender.primaryStation.current <;>
      simp [LinkPair.advance, same, current]
  · have same : pair.links.sender.prepare input = pair.links.sender := by
      cases input with
      | lowerLayerUp now => exact absurd ⟨now, rfl⟩ up
      | send => cases other
      | _ => rfl
    refine delivers.sender.stays delivers.serves same (LinkPair.connected_of_local isLocal) other
      received ?_ rfl ?_
    · intro fails
      rcases @LinkPair.stimulus_of_local pair.links.sender _ isLocal with quiet | ⟨rfl, timeout⟩
      · rw [quiet] at fails
        cases fails
      · rw [timeout] at fails
        have last := of_decide_eq_true fails
        exact ⟨fun waits => reliable (.inl waits) last, fun waits => reliable (.inr waits) last⟩
    · rw [LinkPair.acknowledges_of_local isLocal]
      exact ⟨rfl, rfl⟩

theorem Delivers.receiver_step {input : PairInput} {told : LinkInput} {context : LinkContext}
    {from_ : LinkPair} (delivers : pair.Delivers size) (serves : (from_.arrive context).Serves)
    (connected : told ≠ .lowerLayerDown)
    (received : pair.links.receiver.receive told = some context)
    (untold : pair.links.told input = none)
    (same : from_.sender = pair.links.sender ∧ from_.receiver = pair.links.receiver ∧
      from_.acknowledged = pair.links.acknowledged ∧ from_.intact = pair.links.intact ∧
      from_.delivered = pair.links.delivered) :
    (pair.follow input (from_.arrive context)).Delivers size := by
  obtain ⟨sender, receiver, acknowledged, intact, delivered⟩ := same
  refine ⟨serves, ?_, ?_⟩
  · have side := @SenderSide.same size pair.links (from_.arrive context) _ delivers.sender sender
      intact acknowledged
    have stays : (pair.follow input (from_.arrive context)).stack =
        pair.stack.follow (from_.arrive context).sender pair.stack.transport.transmitter := by
      simp only [TransportPair.follow, untold]
      rfl
    exact stays ▸ side
  · refine delivers.receiver.arrive delivers.serves connected received rfl ?_
    change from_.delivered ++ LinkPair.newMessages from_.receiver context = _
    rw [delivered, receiver]
    rfl

theorem Delivers.lose {input : PairInput} (delivers : pair.Delivers size) (serves : links.Serves)
    (untold : pair.links.told input = none)
    (same : links.sender = pair.links.sender ∧ links.receiver = pair.links.receiver ∧
      links.acknowledged = pair.links.acknowledged ∧ links.intact = pair.links.intact ∧
      links.delivered = pair.links.delivered) :
    (pair.follow input links).Delivers size := by
  obtain ⟨sender, receiver, acknowledged, intact, delivered⟩ := same
  refine ⟨serves, ?_, delivers.receiver.same receiver delivered⟩
  have side := delivers.sender.same sender intact acknowledged
  have stays : (pair.follow input links).stack =
      pair.stack.follow links.sender pair.stack.transport.transmitter := by
    simp only [TransportPair.follow, untold]
    rfl
  exact stays ▸ side

theorem Delivers.answer {now : MonotonicTimestamp} (delivers : pair.Delivers size)
    (stepped : pair.links.step (.answer now) = some links) :
    (pair.follow (.answer now) links).Delivers size := by
  have serves := @LinkPair.Serves.step _ _ (.answer now) delivers.serves trivial stepped
  rw [LinkPair.step] at stepped
  split at stepped
  · cases stepped
  next frame backward first =>
  obtain ⟨context, received, rfl⟩ := Option.map_eq_some_iff.mp stepped
  refine ⟨serves, ?_, delivers.receiver.same rfl rfl⟩
  have advances : (({ pair.links with backward } : LinkPair).advance
      (pair.links.acknowledges frame) context).sender = context := rfl
  have side := delivers.sender.stays delivers.serves rfl (by rintro ⟨⟩) rfl received
    (delivers.serves.succeeds first) advances
    (by rw [LinkPair.acknowledges_stimulus frame now]; exact ⟨rfl, rfl⟩)
  have stays : (pair.follow (.answer now) (({ pair.links with backward } : LinkPair).advance
      (pair.links.acknowledges frame) context)).stack = pair.stack.follow context
        (pair.links.sender.transmitter (.frame now frame.header frame.userData) context
          pair.stack.transport.transmitter) := by
    simp only [TransportPair.follow, LinkPair.told, first, List.head?_cons, Option.map_some]
    rfl
  exact stays ▸ side

theorem Delivers.disconnect (delivers : pair.Delivers size)
    (stepped : pair.links.step .disconnect = some links) :
    (pair.follow .disconnect links.renew).Delivers size := by
  have serves := @LinkPair.Serves.step _ _ .disconnect delivers.serves trivial stepped
  obtain rfl := Option.some.inj stepped
  have side := @SenderSide.down size pair.links ((({ pair.links with
    forward := [], backward := [] } : LinkPair).advance false
      pair.links.sender.onLowerLayerDown).arrive pair.links.receiver.onLowerLayerDown).renew _
        delivers.sender rfl rfl rfl
  have free : pair.links.sender.onLowerLayerDown.segments = none := by
    rw [LinkContext.onLowerLayerDown]
    split
    · rfl
    · next offline =>
        exact delivers.serves.senderRests.segments (Bool.eq_false_of_not_eq_true offline)
  have idle : pair.links.sender.onLowerLayerDown.primaryStation.current = none := by
    rw [PrimaryStation.current,
      show pair.links.sender.onLowerLayerDown.primaryStation.segments = none from free]
    simp
  exact ⟨serves.renew idle, side, delivers.receiver.down rfl rfl⟩

theorem Delivers.step {input : TransportPairInput} (delivers : pair.Delivers size)
    (reliable : pair.Reliable input) (stepped : pair.step input = some after) :
    after.Delivers size := by
  cases input with
  | beginTransmit message =>
      obtain rfl := Option.some.inj stepped
      exact delivers.beginTransmit reliable
  | callback =>
      obtain ⟨stack, called, rfl⟩ := Option.map_eq_some_iff.mp stepped
      exact delivers.callback called
  | link input =>
      cases input with
      | sender input =>
          have other : input.sends = false := by
            cases input with
            | send => cases stepped
            | _ => rfl
          rw [step_sender other] at stepped
          obtain ⟨links, linked, rfl⟩ := Option.map_eq_some_iff.mp stepped
          exact delivers.sender_step other reliable linked
      | receiver input =>
          obtain ⟨links, linked, rfl⟩ := Option.map_eq_some_iff.mp stepped
          rw [LinkPair.step] at linked
          split at linked
          · next isLocal =>
              obtain ⟨context, received, rfl⟩ := Option.map_eq_some_iff.mp linked
              exact delivers.receiver_step (delivers.serves.receiver_step isLocal received)
                (LinkPair.connected_of_local isLocal) received rfl ⟨rfl, rfl, rfl, rfl, rfl⟩
          · cases linked
      | deliver now =>
          obtain ⟨links, linked, rfl⟩ := Option.map_eq_some_iff.mp stepped
          rw [LinkPair.step] at linked
          split at linked
          · cases linked
          · next frame forward first =>
              obtain ⟨context, received, rfl⟩ := Option.map_eq_some_iff.mp linked
              exact delivers.receiver_step (delivers.serves.deliver first received)
                (by rintro ⟨⟩) received rfl ⟨rfl, rfl, rfl, rfl, rfl⟩
      | answer now =>
          obtain ⟨links, linked, rfl⟩ := Option.map_eq_some_iff.mp stepped
          exact delivers.answer linked
      | lose =>
          obtain ⟨links, linked, rfl⟩ := Option.map_eq_some_iff.mp stepped
          rw [LinkPair.step] at linked
          split at linked
          · cases linked
          · obtain rfl := Option.some.inj linked
            exact delivers.lose delivers.serves.lose rfl ⟨rfl, rfl, rfl, rfl, rfl⟩
      | loseAnswer =>
          obtain ⟨links, linked, rfl⟩ := Option.map_eq_some_iff.mp stepped
          rw [LinkPair.step] at linked
          split at linked
          · cases linked
          · obtain rfl := Option.some.inj linked
            exact delivers.lose delivers.serves.loseAnswer rfl ⟨rfl, rfl, rfl, rfl, rfl⟩
      | disconnect =>
          simp only [TransportPair.step] at stepped
          obtain ⟨links, linked, rfl⟩ := Option.map_eq_some_iff.mp stepped
          exact delivers.disconnect linked

theorem delivers_initial (size : Nat) {sender receiver : LinkLayerConfig}
    (now : MonotonicTimestamp) (confirms : sender.useConfirms = true) :
    (initial size sender receiver now).Delivers size where
  serves := LinkPair.serves_initial sender receiver now confirms
  sender := by
    refine ⟨rfl, ⟨.idle, LinkContext.sound_of_reaches .start, LinkContext.rests_initial sender now,
      TransportLayer.follows_idle rfl rfl, rfl, rfl, rfl, fun busy => absurd rfl busy, ?_⟩, rfl,
      Nat.zero_lt_succ 63, ?_, .whole .nil, fun _ => rfl⟩
    · rintro held ⟨⟩
    · rintro held ⟨⟩
  receiver := ⟨rfl, ⟨.ofSize size, TransportRx.refines_ofSize size, rfl, rfl⟩, fun _ => rfl⟩

/-- What remains begins with the segment that waits to be acknowledged. -/
theorem remaining_of_current {station : PrimaryStation} {item : Message}
    (current : station.current = some item) : ∃ rest, station.remaining = item :: rest := by
  rw [PrimaryStation.current] at current
  split at current
  · obtain ⟨segments, held, rfl⟩ := Option.map_eq_some_iff.mp current
    rw [PrimaryStation.remaining_of_segments held]
    cases more : segments.advance.2 with
    | true => exact ⟨_, PrimaryStation.transmit_segment more⟩
    | false => exact ⟨[], PrimaryStation.transmit_last_segment more⟩
  · cases current

/-- The application at one end has received the messages that the application at the other end
has begun to send, whole and in order, each of them once. The last one may be missing while it is
still being sent. -/
theorem received_of_reachesWhile {sender receiver : LinkLayerConfig} {now : MonotonicTimestamp}
    (confirms : sender.useConfirms = true)
    (reached : machine.ReachesWhile Reliable (initial size sender receiver now) pair) :
    TransportActivity.received pair.receiver.log = TransportActivity.sent pair.sender.log ∨
      pair.sender.isSending = true ∧
        TransportActivity.received pair.receiver.log =
          (TransportActivity.sent pair.sender.log).dropLast := by
  have delivers : pair.Delivers size := by
    refine reached.invariant (delivers_initial size now confirms) ?_
    intro before after input output delivers reliable stepped
    obtain ⟨next, success, same⟩ := Option.map_eq_some_iff.mp stepped
    obtain ⟨rfl, _⟩ := Prod.mk.inj same
    exact delivers.step reliable success
  obtain ⟨rx, refines, _, received⟩ := delivers.receiver.reads
  have transmitted := delivers.sender.transmitted
  have sending := delivers.sender.sending
  rw [received]
  rcases delivers.serves.agrees.ordered.delivered_eq delivers.sender.intact with same | ahead
  · rw [show pair.links.delivered = pair.links.acknowledged from same]
    exact (transmitted.receive refines).imp_right (And.imp_left sending)
  · rw [show pair.links.delivered = pair.links.acknowledged ++
      pair.links.sender.primaryStation.current.toList from ahead]
    cases current : pair.links.sender.primaryStation.current with
    | none =>
        rw [Option.toList_none, List.append_nil]
        exact (transmitted.receive refines).imp_right (And.imp_left sending)
    | some item =>
        obtain ⟨rest, remaining⟩ := remaining_of_current current
        rw [remaining] at transmitted sending
        have further : Transmitted size _ _ rest :=
          @Transmitted.acknowledge size _ _ [item] rest transmitted
        exact (further.receive refines).imp_right
          (And.imp_left fun _ => sending (List.cons_ne_nil _ _))

/-- Two messages. A segment of the first one is lost once, and then its acknowledgement. -/
def twoMessages : List TransportPairInput :=
  [.link (.sender (.lowerLayerUp 0)), .link (.receiver (.lowerLayerUp 0)),
    .beginTransmit ⟨⟨1, 2⟩, List.replicate 250 0⟩,
    .link (.sender .txReady), .link (.deliver 0), .link (.receiver .txReady), .link (.answer 0),
    .link (.sender .txReady), .link .lose, .link (.sender .responseTimeout),
    .link (.sender .txReady), .link (.deliver 0), .link (.receiver .txReady), .link .loseAnswer,
    .link (.sender .responseTimeout),
    .link (.sender .txReady), .link (.deliver 0), .link (.receiver .txReady), .link (.answer 0),
    .link (.sender .txReady), .link (.deliver 0), .link (.receiver .txReady), .link (.answer 0),
    .callback, .beginTransmit ⟨⟨1, 2⟩, [1]⟩]

theorem received_of_reachesWhile_twoMessages : ∃ pair : TransportPair,
    (TransportActivity.sent pair.sender.log).length = 2 ∧
      (TransportActivity.received pair.receiver.log).length = 1 ∧
      (TransportActivity.received pair.receiver.log = TransportActivity.sent pair.sender.log ∨
        pair.sender.isSending = true ∧
          TransportActivity.received pair.receiver.log =
            (TransportActivity.sent pair.sender.log).dropLast) := by
  obtain ⟨pair, reached, check⟩ :=
    @Machine.exists_reachesWhile_of_runWhile _ _ _ machine Reliable _
      (initial 2048
        { isMaster := true, useConfirms := true, numRetry := 2, localAddr := 1, remoteAddr := 2 }
        { isMaster := false, useConfirms := false, localAddr := 2, remoteAddr := 1 } 0)
      (fun pair => (TransportActivity.sent pair.sender.log).length = 2 ∧
        (TransportActivity.received pair.receiver.log).length = 1)
      twoMessages (by decide +kernel)
  have lengths := of_decide_eq_true check
  exact ⟨pair, lengths.1, lengths.2, received_of_reachesWhile rfl reached⟩

end TransportPair

end OpenDnp3.Transport
