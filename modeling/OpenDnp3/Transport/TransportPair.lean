import OpenDnp3.Link.LinkPair
import OpenDnp3.Transport.TransportLayer

/-!
# Two stacks

Each end of a link has a transport layer above it. One application sends
messages, and the other one receives them.
-/

set_option autoImplicit false

namespace OpenDnp3.Transport

open OpenDnp3.Library OpenDnp3.Link
open OpenDnp3.Master (MonotonicTimestamp)

/-- The messages that were begun since the connection was opened. -/
def TransportActivity.sent (log : List TransportActivity) : List Message :=
  log.foldl (fun messages activity =>
    match activity with
    | .beginTransmit message => messages ++ [message]
    | .lowerLayerDown => []
    | _ => messages) []

/-- The messages that were received since the connection was opened. -/
def TransportActivity.received (log : List TransportActivity) : List Message :=
  log.foldl (fun messages activity =>
    match activity with
    | .receive message => messages ++ [message]
    | .lowerLayerDown => []
    | _ => messages) []

/-- The callbacks are those of the sender. -/
structure TransportPair where
  links : LinkPair
  sender : TransportLayer
  receiver : TransportLayer
  posted : Nat := 0
  stale : Nat := 0

inductive TransportPairInput where
  | beginTransmit (message : Message)
  | callback
  | link (input : PairInput)

namespace TransportPair

/-- The stack of the sender. -/
def stack (pair : TransportPair) : TransportStack :=
  ⟨pair.sender, pair.links.sender, pair.posted, pair.stale⟩

/-- The stack of the sender has gone on. -/
def settle (pair : TransportPair) (links : LinkPair) (stack : TransportStack) : TransportPair :=
  { pair with links, sender := stack.transport, posted := stack.posted, stale := stack.stale }

def beginTransmit (pair : TransportPair) (message : Message) : TransportPair :=
  match pair.sender.beginTransmit message with
  | none => pair
  | some _ =>
      let stack := pair.stack.beginTransmit message
      pair.settle (pair.links.advance false stack.link) stack

/-- Both upper layers follow the links. -/
def follow (pair : TransportPair) (input : PairInput) (links : LinkPair) : TransportPair :=
  let transmitter :=
    match pair.links.told input with
    | some told => pair.links.sender.transmitter told links.sender pair.sender.transmitter
    | none => pair.sender.transmitter
  let activities := links.receiver.log.drop pair.links.receiver.log.length
  { pair with receiver := activities.foldl TransportLayer.hear pair.receiver }.settle links
    (pair.stack.follow links.sender transmitter)

def step (pair : TransportPair) : TransportPairInput → Option TransportPair
  | .beginTransmit message => some (pair.beginTransmit message)
  | .callback => (pair.stack.step .callback).map (pair.settle pair.links)
  | .link (.sender (.send _)) => none
  | .link .disconnect =>
      (pair.links.step .disconnect).map fun links => pair.follow .disconnect links.renew
  | .link input => (pair.links.step input).map (pair.follow input)

def machine : Machine TransportPair TransportPairInput Unit where
  step pair input := (pair.step input).map fun after => (after, ())

/-- Both ends take messages up to a size. -/
def initial (size : Nat) (sender receiver : LinkLayerConfig) (now : MonotonicTimestamp) :
    TransportPair where
  links := .initial sender receiver now
  sender := { receiver := .ofSize size }
  receiver := { receiver := .ofSize size }

end TransportPair

end OpenDnp3.Transport
