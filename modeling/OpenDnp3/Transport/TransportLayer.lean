import OpenDnp3.Link.Stations

/-!
# Transport layer

The transport layer is between a link and an application. The link holds a
pointer to the transmitter while it sends a message, and posts a callback to the
executor when it is done. The executor runs the callback later, and whatever may
happen in between.
-/

set_option autoImplicit false

namespace OpenDnp3.Transport

open OpenDnp3.Library OpenDnp3.Link
open OpenDnp3.Master (MonotonicTimestamp)

/-- What others can see of a transport layer, and when the link is done with a message. -/
inductive TransportActivity where
  | beginTransmit (message : Message)
  | complete
  | txReady
  | receive (message : Message)
  | lowerLayerUp
  | lowerLayerDown
deriving DecidableEq, Repr

/-- The log is a ghost. -/
structure TransportLayer where
  isOnline : Bool := false
  isSending : Bool := false
  receiver : TransportRx
  transmitter : TransportTx := {}
  log : List TransportActivity := []
deriving DecidableEq, Repr

namespace TransportLayer

def record (layer : TransportLayer) (activity : TransportActivity) : TransportLayer :=
  { layer with log := layer.log ++ [activity] }

/-- The transmitter is configured before the link gets it. -/
def beginTransmit (layer : TransportLayer) (message : Message) : Option TransportLayer :=
  if !layer.isOnline then none
  else if message.payload.isEmpty then none
  else if layer.isSending then none
  else
    some ({ layer with
      isSending := true, transmitter := layer.transmitter.configure message }.record
        (.beginTransmit message))

def onReceive (layer : TransportLayer) (message : Message) : TransportLayer :=
  if layer.isOnline then
    let (receiver, asdu) := layer.receiver.processReceive message
    let layer := { layer with receiver }
    if asdu.payload.isEmpty then layer else layer.record (.receive asdu)
  else
    layer

def onTxReady (layer : TransportLayer) : TransportLayer :=
  if !layer.isOnline then layer
  else if !layer.isSending then layer
  else { layer with isSending := false }.record .txReady

def onLowerLayerUp (layer : TransportLayer) : TransportLayer :=
  if layer.isOnline then layer
  else { layer with isOnline := true }.record .lowerLayerUp

def onLowerLayerDown (layer : TransportLayer) : TransportLayer :=
  if layer.isOnline then
    { layer with
      isOnline := false, isSending := false, receiver := layer.receiver.reset }.record
        .lowerLayerDown
  else
    layer

/-- What the link tells the layer above. -/
def hear (layer : TransportLayer) : LinkActivity → TransportLayer
  | .lowerLayerUp => layer.onLowerLayerUp
  | .lowerLayerDown => layer.onLowerLayerDown
  | .receive message => layer.onReceive message
  | .postTxReady => layer.record .complete
  | _ => layer

end TransportLayer

end OpenDnp3.Transport

namespace OpenDnp3.Link.LinkContext

open OpenDnp3.Transport

/-- The link is done with a segment, and goes on to the next one. -/
def advances (context : LinkContext) : LinkInput → Bool
  | .txReady => context.txMode = .primary && context.priState = .sendUnconfirmedTransmitWait
  | .frame _ header _ =>
      context.Accepts header && header.func = .secAck && context.priState = .confDataWait
  | _ => false

/-- What the pointer leads to after an event, also when the link does not hold it any more. -/
def transmitter (context : LinkContext) (input : LinkInput) (after : LinkContext)
    (transmitter : TransportTx) : TransportTx :=
  match after.segments, context.segments with
  | some segments, _ => segments
  | none, some segments => if context.advances input then segments.advance.1 else segments
  | none, none => transmitter

end OpenDnp3.Link.LinkContext

namespace OpenDnp3.Transport

open OpenDnp3.Library OpenDnp3.Link
open OpenDnp3.Master (MonotonicTimestamp)

/-! ## Stack -/

structure TransportStack where
  transport : TransportLayer
  link : LinkContext
  /-- The callbacks in the queue of the executor. -/
  posted : Nat := 0
  /-- Those of them that are from an earlier connection. A ghost. -/
  stale : Nat := 0
deriving DecidableEq, Repr

inductive StackInput where
  | beginTransmit (message : Message)
  | link (input : LinkInput)
  /-- The executor runs a callback. -/
  | callback
deriving DecidableEq, Repr

namespace TransportStack

/-- The upper layer hears what the link has done, in order. -/
def follow (stack : TransportStack) (after : LinkContext) (transmitter : TransportTx) :
    TransportStack :=
  let activities := after.log.drop stack.link.log.length
  { transport := { activities.foldl TransportLayer.hear stack.transport with transmitter }
    link := after
    posted := stack.posted + LinkActivity.completions activities
    stale := if activities.contains .lowerLayerDown then stack.posted else stack.stale }

/-- The link has the new message in hand even if it still holds the one before: the pointer leads
to the same transmitter. -/
def beginTransmit (stack : TransportStack) (message : Message) : TransportStack :=
  match stack.transport.beginTransmit message with
  | none => stack
  | some transport =>
      let link := { stack.link with
        segments := stack.link.segments.map fun _ => transport.transmitter }
      let after := link.send transport.transmitter
      { stack with transport, link }.follow after
        (link.transmitter (.send transport.transmitter) after transport.transmitter)

def step (stack : TransportStack) : StackInput → Option TransportStack
  | .beginTransmit message => some (stack.beginTransmit message)
  | .link (.send _) => none
  | .link input =>
      (stack.link.receive input).map fun after =>
        stack.follow after (stack.link.transmitter input after stack.transport.transmitter)
  | .callback =>
      if stack.posted = 0 then none
      else
        some { stack with
          transport := stack.transport.onTxReady
          posted := stack.posted - 1
          stale := stack.stale - 1 }

def machine : Machine TransportStack StackInput Unit where
  step stack input := (stack.step input).map fun after => (after, ())

def initial (maxRxFragSize : Nat) (config : LinkLayerConfig) (now : MonotonicTimestamp) :
    TransportStack where
  transport := { receiver := .ofSize maxRxFragSize }
  link := .initial config now

end TransportStack

end OpenDnp3.Transport
