import OpenDnp3.Library.StopAndWait
import OpenDnp3.Link.Stations

/-!
# Two ends of a link

One end sends segments that are to be confirmed, the other receives them. On the
way between them frames may be lost, in either direction. Both ends may do
anything else that a link does.
-/

set_option autoImplicit false

namespace OpenDnp3.Link

open OpenDnp3.Library OpenDnp3.Transport
open OpenDnp3.Master (MonotonicTimestamp TimeDuration)

/-! ## Segments -/

/-- The function of the frame whose answer a state is for. -/
def PriState.asks : PriState → Option LinkFunction
  | .idle => none
  | .sendUnconfirmedTransmitWait => some .priUnconfirmedUserData
  | .linkResetTransmitWait | .resetLinkWait => some .priResetLinkStates
  | .confUserDataTransmitWait | .confDataWait => some .priConfirmedUserData
  | .requestLinkStatusTransmitWait | .requestLinkStatusWait => some .priRequestLinkStatus

/-- The segment that is sent next, or has been sent last. -/
def segment (segments : TransportTx) : Message :=
  ⟨segments.message.addresses, segments.getSegment.2⟩

/-- The segment that is waiting to be confirmed. -/
def PrimaryStation.current (station : PrimaryStation) : Option Message :=
  if station.state.asks = some .priConfirmedUserData then station.segments.map segment else none

/-! ## Pair -/

/-- The frames that are on the way, in the order in which they were transmitted. What has become
of the segments is a ghost. -/
structure LinkPair where
  sender : LinkContext
  receiver : LinkContext
  forward : List LinkFrame := []
  backward : List LinkFrame := []
  /-- The segments that the sender has begun to send. -/
  offered : List Message := []
  /-- The segments that the receiver has passed up. -/
  delivered : List Message := []
  /-- The segments that the sender has got an acknowledgement for, while it waited for it. -/
  acknowledged : List Message := []
  /-- Whether the sender got one for every segment but the current one. -/
  intact : Bool := true

inductive PairInput where
  /-- Anything that happens at one end, but frames and disconnections. -/
  | sender (input : LinkInput)
  | receiver (input : LinkInput)
  /-- The first frame on its way arrives. -/
  | deliver (now : MonotonicTimestamp)
  | answer (now : MonotonicTimestamp)
  /-- The first frame on its way is lost. -/
  | lose
  | loseAnswer
  /-- Both ends are disconnected, and all frames on the way are lost. -/
  | disconnect

def LinkInput.isLocal : LinkInput → Bool
  | .frame _ _ _ | .lowerLayerDown => false
  | _ => true

namespace LinkPair

/-- The frames whose transmission has begun in a step. -/
def newFrames (before after : LinkContext) : List LinkFrame :=
  LinkActivity.allBegun (after.log.drop before.log.length)

/-- The messages that have been passed up in a step. -/
def newMessages (before after : LinkContext) : List Message :=
  LinkActivity.allPassed (after.log.drop before.log.length)

/-- The receiver transmits frames, and passes segments up. -/
def arrive (pair : LinkPair) (after : LinkContext) : LinkPair :=
  { pair with
    receiver := after
    backward := pair.backward ++ newFrames pair.receiver after
    delivered := pair.delivered ++ newMessages pair.receiver after }

/-- The sender goes on, when it has got an acknowledgement for its segment or not. -/
def advance (pair : LinkPair) (acknowledges : Bool) (after : LinkContext) : LinkPair :=
  let acknowledged := if acknowledges then pair.sender.primaryStation.current.toList else []
  let open_ := if acknowledges then none else pair.sender.primaryStation.current
  let current := after.primaryStation.current
  { pair with
    sender := after
    forward := pair.forward ++ newFrames pair.sender after
    acknowledged := pair.acknowledged ++ acknowledged
    offered := pair.offered ++ if open_.isNone then current.toList else []
    intact := pair.intact && (open_.isNone || current.isSome) }

/-- Whether a frame acknowledges the segment that the sender waits with. -/
def acknowledges (pair : LinkPair) (frame : LinkFrame) : Bool :=
  pair.sender.Accepts frame.header ∧ frame.header.func = .secAck ∧
    pair.sender.priState = .confDataWait

/-- Frames of the sender's primary station and their answers are delivered or lost before its
response timer expires. -/
def settled (pair : LinkPair) : Bool :=
  pair.forward.all (!·.header.func.isPrimary) && pair.backward.all (·.header.func.isPrimary) &&
    pair.receiver.pendingSecTx.isNone

def step (pair : LinkPair) : PairInput → Option LinkPair
  | .sender input =>
      if input.isLocal && (input ≠ .responseTimeout || pair.settled) then
        (pair.sender.receive input).map (pair.advance false)
      else none
  | .receiver input =>
      if input.isLocal then
        (pair.receiver.receive input).map pair.arrive
      else none
  | .deliver now =>
      match pair.forward with
      | [] => none
      | frame :: forward =>
          (pair.receiver.receive (.frame now frame.header frame.userData)).map
            { pair with forward }.arrive
  | .answer now =>
      match pair.backward with
      | [] => none
      | frame :: backward =>
          (pair.sender.receive (.frame now frame.header frame.userData)).map
            ({ pair with backward }.advance (pair.acknowledges frame))
  | .lose => if pair.forward.isEmpty then none else some { pair with forward := pair.forward.tail }
  | .loseAnswer =>
      if pair.backward.isEmpty then none else some { pair with backward := pair.backward.tail }
  | .disconnect =>
      some ({ pair with forward := [], backward := [] }.advance false
        pair.sender.onLowerLayerDown |>.arrive pair.receiver.onLowerLayerDown)

/-- Forget what has become of the segments so far. -/
def renew (pair : LinkPair) : LinkPair :=
  { pair with offered := [], delivered := [], acknowledged := [], intact := true }

/-- What the sender is told when something happens. -/
def told (pair : LinkPair) : PairInput → Option LinkInput
  | .sender input => some input
  | .answer now =>
      pair.backward.head?.map fun frame => .frame now frame.header frame.userData
  | .disconnect => some .lowerLayerDown
  | _ => none

def machine : Machine LinkPair PairInput Unit where
  step pair input := (pair.step input).map fun after => (after, ())

def initial (sender receiver : LinkLayerConfig) (now : MonotonicTimestamp) : LinkPair where
  sender := .initial sender now
  receiver := .initial receiver now

end LinkPair

end OpenDnp3.Link
