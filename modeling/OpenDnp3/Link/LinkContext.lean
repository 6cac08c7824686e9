import OpenDnp3.Library.Machine
import OpenDnp3.Master.TaskBehavior
import OpenDnp3.Transport.Transport

/-!
# Link context

One end of a link: a primary station that sends the segments of messages, with
or without confirmation, and a secondary station that answers the frames of the
other end. What is called through a pointer that is null has no result.
-/

set_option autoImplicit false

namespace OpenDnp3.Link

open OpenDnp3.Library OpenDnp3.Transport
open OpenDnp3.Master (MonotonicTimestamp TimeDuration)

/-! ## Frames -/

inductive LinkFunction where
  | priResetLinkStates
  | priTestLinkStates
  | priConfirmedUserData
  | priUnconfirmedUserData
  | priRequestLinkStatus
  | secAck
  | secNack
  | secLinkStatus
  | secNotSupported
  | invalid
deriving DecidableEq, Repr, Inhabited

/-- Whether a primary station sends frames with the function. -/
def LinkFunction.isPrimary : LinkFunction → Bool
  | .priResetLinkStates | .priTestLinkStates | .priConfirmedUserData
  | .priUnconfirmedUserData | .priRequestLinkStatus => true
  | .secAck | .secNack | .secLinkStatus | .secNotSupported | .invalid => false

structure LinkHeaderFields where
  func : LinkFunction
  isFromMaster : Bool
  fcb : Bool
  fcvdfc : Bool
  dest : UInt16
  src : UInt16
deriving DecidableEq, Repr, Inhabited

def LinkHeaderFields.toAddresses (header : LinkHeaderFields) : Addresses :=
  ⟨header.src, header.dest⟩

structure LinkFrame where
  header : LinkHeaderFields
  userData : List UInt8 := []
deriving DecidableEq, Repr, Inhabited

namespace LinkFrame

def formatAck (isMaster isRcvBuffFull : Bool) (dest src : UInt16) : LinkFrame :=
  ⟨⟨.secAck, isMaster, false, isRcvBuffFull, dest, src⟩, []⟩

def formatLinkStatus (isMaster isRcvBuffFull : Bool) (dest src : UInt16) : LinkFrame :=
  ⟨⟨.secLinkStatus, isMaster, false, isRcvBuffFull, dest, src⟩, []⟩

def formatResetLinkStates (isMaster : Bool) (dest src : UInt16) : LinkFrame :=
  ⟨⟨.priResetLinkStates, isMaster, false, false, dest, src⟩, []⟩

def formatRequestLinkStatus (isMaster : Bool) (dest src : UInt16) : LinkFrame :=
  ⟨⟨.priRequestLinkStatus, isMaster, false, false, dest, src⟩, []⟩

def formatConfirmedUserData (isMaster fcb : Bool) (dest src : UInt16) (data : List UInt8) :
    LinkFrame :=
  ⟨⟨.priConfirmedUserData, isMaster, fcb, true, dest, src⟩, data⟩

def formatUnconfirmedUserData (isMaster : Bool) (dest src : UInt16) (data : List UInt8) :
    LinkFrame :=
  ⟨⟨.priUnconfirmedUserData, isMaster, false, false, dest, src⟩, data⟩

end LinkFrame

/-! ## State -/

structure LinkLayerConfig where
  isMaster : Bool
  useConfirms : Bool
  numRetry : UInt32 := 0
  localAddr : UInt16
  remoteAddr : UInt16
  keepAliveTimeout : TimeDuration := 60000
  respondToAnySource : Bool := false
deriving DecidableEq, Repr

inductive LinkStatus where
  | unreset
  | reset
deriving DecidableEq, Repr, Inhabited

inductive LinkTransmitMode where
  | idle
  | primary
  | secondary
deriving DecidableEq, Repr, Inhabited

inductive PriState where
  | idle
  | sendUnconfirmedTransmitWait
  | linkResetTransmitWait
  | confUserDataTransmitWait
  | requestLinkStatusTransmitWait
  | resetLinkWait
  | confDataWait
  | requestLinkStatusWait
deriving DecidableEq, Repr, Inhabited

inductive SecState where
  | notReset
  | reset
  | transmitWaitReset
  | transmitWaitNotReset
deriving DecidableEq, Repr, Inhabited

/-- What others can see of a link: the router, the listener, the upper layer, and the executor
that a callback is posted to. -/
inductive LinkActivity where
  | beginTransmit (frame : LinkFrame)
  /-- The router is done with a frame. -/
  | txReady
  /-- A buffer is written that holds a frame which is still to be transmitted. -/
  | overwrite
  /-- A timer is started that is active. -/
  | startRefused
  | stateChange (status : LinkStatus)
  | unknownDestination (address : UInt16)
  | unknownSource (address : UInt16)
  | keepAliveInitiated
  | keepAliveFailure
  | keepAliveSuccess
  | lowerLayerUp
  | lowerLayerDown
  | receive (message : Message)
  /-- A message is taken from the upper layer. -/
  | take (addresses : Addresses)
  | postTxReady
deriving DecidableEq, Repr

/-- The frames that the router has been given and is not done with. -/
def LinkActivity.inFlight : List LinkFrame → LinkActivity → List LinkFrame
  | frames, .beginTransmit frame => frames ++ [frame]
  | frames, .txReady => frames.tail
  | _, .lowerLayerDown => []
  | frames, _ => frames

/-- A pending frame is one that has been put into its buffer while another is transmitted. The
segments stand for the transmitter that a pointer leads to. The log is a ghost. -/
structure LinkContext where
  config : LinkLayerConfig
  priTxBuffer : Option LinkFrame := none
  secTxBuffer : Option LinkFrame := none
  pendingPriTx : Option LinkFrame := none
  pendingSecTx : Option LinkFrame := none
  segments : Option TransportTx := none
  txMode : LinkTransmitMode := .idle
  numRetryRemaining : UInt32 := 0
  /-- Whether the response timer is active. -/
  rspTimeoutTimer : Bool := false
  keepAliveTimer : Option MonotonicTimestamp := none
  nextReadFCB : Bool := false
  nextWriteFCB : Bool := false
  isOnline : Bool := false
  isRemoteReset : Bool := false
  keepAliveTimeout : Bool := false
  lastMessageTimestamp : MonotonicTimestamp
  priState : PriState := .idle
  secState : SecState := .notReset
  log : List LinkActivity := []
deriving DecidableEq, Repr

namespace LinkContext

def record (context : LinkContext) (activity : LinkActivity) : LinkContext :=
  { context with log := context.log ++ [activity] }

def inFlight (context : LinkContext) : List LinkFrame :=
  context.log.foldl LinkActivity.inFlight []

/-- The frames that are in flight or pending. -/
def outstanding (context : LinkContext) : List LinkFrame :=
  context.inFlight ++ context.pendingPriTx.toList ++ context.pendingSecTx.toList

/-- Tell the listener. -/
def onStateChange (context : LinkContext) (status : LinkStatus) : LinkContext :=
  context.record (.stateChange status)

def setPriState (context : LinkContext) (priState : PriState) : LinkContext :=
  { context with priState }

def setSecState (context : LinkContext) (secState : SecState) : LinkContext :=
  { context with secState }

/-! ## Transmission -/

def queueTransmit (context : LinkContext) (frame : LinkFrame) (primary : Bool) : LinkContext :=
  if context.txMode = .idle then
    { context with txMode := if primary then .primary else .secondary }.record
      (.beginTransmit frame)
  else if primary then
    { context with pendingPriTx := some frame }
  else
    { context with pendingSecTx := some frame }

def writePrimary (context : LinkContext) (frame : LinkFrame) : LinkContext :=
  if context.outstanding.any (·.header.func.isPrimary) then
    { context with priTxBuffer := some frame }.record .overwrite
  else
    { context with priTxBuffer := some frame }

def writeSecondary (context : LinkContext) (frame : LinkFrame) : LinkContext :=
  if context.outstanding.any (!·.header.func.isPrimary) then
    { context with secTxBuffer := some frame }.record .overwrite
  else
    { context with secTxBuffer := some frame }

/-- Put a frame into the buffer of the primary station and transmit it. -/
def transmitPrimary (context : LinkContext) (frame : LinkFrame) : LinkContext :=
  (context.writePrimary frame).queueTransmit frame true

def transmitSecondary (context : LinkContext) (frame : LinkFrame) : LinkContext :=
  (context.writeSecondary frame).queueTransmit frame false

/-- Transmit the current segment with confirmation. -/
def transmitConfirmed (context : LinkContext) (segments : TransportTx) : LinkContext :=
  let (segments, tpdu) := segments.getSegment
  let addr := segments.message.addresses
  { context with segments := some segments }.transmitPrimary
    (.formatConfirmedUserData context.config.isMaster context.nextWriteFCB addr.destination
      addr.source tpdu)

def transmitUnconfirmed (context : LinkContext) (segments : TransportTx) : LinkContext :=
  let (segments, tpdu) := segments.getSegment
  let addr := segments.message.addresses
  { context with segments := some segments }.transmitPrimary
    (.formatUnconfirmedUserData context.config.isMaster addr.destination addr.source tpdu)

def queueAck (context : LinkContext) (destination : UInt16) : LinkContext :=
  context.transmitSecondary
    (.formatAck context.config.isMaster false destination context.config.localAddr)

def queueLinkStatus (context : LinkContext) (destination : UInt16) : LinkContext :=
  context.transmitSecondary
    (.formatLinkStatus context.config.isMaster false destination context.config.localAddr)

def queueResetLinks (context : LinkContext) (destination : UInt16) : LinkContext :=
  context.transmitPrimary
    (.formatResetLinkStates context.config.isMaster destination context.config.localAddr)

def queueRequestLinkStatus (context : LinkContext) (destination : UInt16) : LinkContext :=
  context.transmitPrimary
    (.formatRequestLinkStatus context.config.isMaster destination context.config.localAddr)

def tryPendingSecTx (context : LinkContext) : LinkContext :=
  match context.txMode, context.pendingSecTx with
  | .idle, some frame =>
      { context with pendingSecTx := none, txMode := .secondary }.record (.beginTransmit frame)
  | _, _ => context

def tryPendingPriTx (context : LinkContext) : LinkContext :=
  match context.txMode, context.pendingPriTx with
  | .idle, some frame =>
      { context with pendingPriTx := none, txMode := .primary }.record (.beginTransmit frame)
  | _, _ => context

def resetRetry (context : LinkContext) : LinkContext :=
  { context with numRetryRemaining := context.config.numRetry }

def startResponseTimer (context : LinkContext) : LinkContext :=
  if context.rspTimeoutTimer then context.record .startRefused
  else { context with rspTimeoutTimer := true }

def cancelTimer (context : LinkContext) : LinkContext := { context with rspTimeoutTimer := false }

/-- A timer that is active is not started again. -/
def startKeepAliveTimer (context : LinkContext) (expiration : MonotonicTimestamp) : LinkContext :=
  { context with keepAliveTimer := some (context.keepAliveTimer.getD expiration) }

def completeSendOperation (context : LinkContext) : LinkContext :=
  { context with segments := none }.record .postTxReady

def pushDataUp (context : LinkContext) (message : Message) : LinkContext :=
  context.record (.receive message)

/-! ## Primary station -/

/-- What a link reset and data that wait for an answer do about one that they do not expect. -/
def failure (context : LinkContext) : LinkContext :=
  context.cancelTimer.completeSendOperation.setPriState .idle

def onAck (context : LinkContext) : Option LinkContext :=
  match context.priState with
  | .resetLinkWait =>
      context.segments.map fun segments =>
        ((({ context with isRemoteReset := true, nextWriteFCB := true
            }.cancelTimer).transmitConfirmed segments).onStateChange .reset).setPriState
          .confUserDataTransmitWait
  | .confDataWait =>
      context.segments.map fun segments =>
        let context := { context with nextWriteFCB := !context.nextWriteFCB }.cancelTimer
        let (segments, more) := segments.advance
        if more then
          (context.transmitConfirmed segments).setPriState .confUserDataTransmitWait
        else
          -- we're done!
          context.completeSendOperation.setPriState .idle
  | _ => some context

def onNack (context : LinkContext) (rxBuffFull : Bool) : Option LinkContext :=
  match context.priState with
  | .resetLinkWait => some context.failure
  | .confDataWait =>
      let context := context.onStateChange .unreset
      if rxBuffFull then
        some context.failure
      else
        context.segments.map fun segments =>
          (context.resetRetry.cancelTimer.queueResetLinks
            segments.message.addresses.destination).setPriState .linkResetTransmitWait
  | .requestLinkStatusWait => some (context.cancelTimer.setPriState .idle)
  | _ => some context

def onLinkStatus (context : LinkContext) : LinkContext :=
  match context.priState with
  | .resetLinkWait | .confDataWait => context.failure
  | .requestLinkStatusWait =>
      (context.cancelTimer.record .keepAliveSuccess).setPriState .idle
  | _ => context

def onNotSupported (context : LinkContext) : LinkContext :=
  match context.priState with
  | .resetLinkWait | .confDataWait => context.failure
  | .requestLinkStatusWait => context.cancelTimer.setPriState .idle
  | _ => context

def onPriTxReady (context : LinkContext) : Option LinkContext :=
  match context.priState with
  | .sendUnconfirmedTransmitWait =>
      context.segments.map fun segments =>
        let (segments, more) := segments.advance
        if more then
          context.transmitUnconfirmed segments
        else
          -- we're done
          context.completeSendOperation.setPriState .idle
  | .linkResetTransmitWait => some (context.startResponseTimer.setPriState .resetLinkWait)
  | .confUserDataTransmitWait => some (context.startResponseTimer.setPriState .confDataWait)
  | .requestLinkStatusTransmitWait =>
      some (context.startResponseTimer.setPriState .requestLinkStatusWait)
  | _ => some context

def onTimeout (context : LinkContext) : Option LinkContext :=
  match context.priState with
  | .resetLinkWait =>
      if 0 < context.numRetryRemaining then
        some (({ context with numRetryRemaining := context.numRetryRemaining - 1 }.queueResetLinks
          context.config.remoteAddr).setPriState .linkResetTransmitWait)
      else
        some (context.completeSendOperation.setPriState .idle)
  | .confDataWait =>
      if 0 < context.numRetryRemaining then
        context.segments.map fun segments =>
          ({ context with numRetryRemaining := context.numRetryRemaining - 1 }.transmitConfirmed
            segments).setPriState .confUserDataTransmitWait
      else
        some ((context.onStateChange .unreset).completeSendOperation.setPriState .idle)
  | .requestLinkStatusWait => some ((context.record .keepAliveFailure).setPriState .idle)
  | _ => some context

def trySendUnconfirmed (context : LinkContext) (segments : TransportTx) : LinkContext :=
  if context.priState = .idle then
    (context.transmitUnconfirmed segments).setPriState .sendUnconfirmedTransmitWait
  else
    context

def trySendConfirmed (context : LinkContext) (segments : TransportTx) : LinkContext :=
  if context.priState = .idle then
    if context.isRemoteReset then
      (context.resetRetry.transmitConfirmed segments).setPriState .confUserDataTransmitWait
    else
      (context.resetRetry.queueResetLinks segments.message.addresses.destination).setPriState
        .linkResetTransmitWait
  else
    context

def trySendRequestLinkStatus (context : LinkContext) : LinkContext :=
  if context.priState = .idle then
    (({ context with keepAliveTimeout := false }.queueRequestLinkStatus
      context.config.remoteAddr).record .keepAliveInitiated).setPriState
        .requestLinkStatusTransmitWait
  else
    context

def tryStartTransmission (context : LinkContext) : LinkContext :=
  let context := if context.keepAliveTimeout then context.trySendRequestLinkStatus else context
  match context.segments with
  | none => context
  | some segments =>
      if context.config.useConfirms then context.trySendConfirmed segments
      else context.trySendUnconfirmed segments

/-! ## Secondary station -/

def onTestLinkStatus (context : LinkContext) (source : UInt16) (fcb : Bool) : LinkContext :=
  match context.secState with
  | .reset =>
      if context.nextReadFCB = fcb then
        { context.queueAck source with nextReadFCB := !context.nextReadFCB }.setSecState
          .transmitWaitReset
      else
        context
  | _ => context

def onConfirmedUserData (context : LinkContext) (source : UInt16) (fcb : Bool)
    (message : Message) : LinkContext :=
  match context.secState with
  | .reset =>
      let context := context.queueAck source
      if context.nextReadFCB = fcb then
        ({ context with nextReadFCB := !context.nextReadFCB }.pushDataUp message).setSecState
          .transmitWaitReset
      else
        -- unexpected frame count bit
        context.setSecState .transmitWaitReset
  | _ => context

def onResetLinkStates (context : LinkContext) (source : UInt16) : LinkContext :=
  match context.secState with
  | .notReset | .reset =>
      { context.queueAck source with nextReadFCB := true }.setSecState .transmitWaitReset
  | _ => context

def onRequestLinkStatus (context : LinkContext) (source : UInt16) : LinkContext :=
  match context.secState with
  | .notReset => (context.queueLinkStatus source).setSecState .transmitWaitNotReset
  | .reset => (context.queueLinkStatus source).setSecState .transmitWaitReset
  | _ => context

def onSecTxReady (context : LinkContext) : LinkContext :=
  match context.secState with
  | .transmitWaitReset => context.setSecState .reset
  | .transmitWaitNotReset => context.setSecState .notReset
  | _ => context

/-! ## Events -/

def onLowerLayerUp (context : LinkContext) (now : MonotonicTimestamp) : LinkContext :=
  if context.isOnline then
    context
  else
    (({ context with isOnline := true, lastMessageTimestamp := now }.startKeepAliveTimer
      (now.add context.config.keepAliveTimeout)).onStateChange .unreset).record .lowerLayerUp

def onLowerLayerDown (context : LinkContext) : LinkContext :=
  if context.isOnline then
    ({ context with
      isOnline := false
      keepAliveTimeout := false
      isRemoteReset := false
      segments := none
      txMode := .idle
      pendingPriTx := none
      pendingSecTx := none
      rspTimeoutTimer := false
      keepAliveTimer := none
      priState := .idle
      secState := .notReset }.onStateChange .unreset).record .lowerLayerDown
  else
    context

/-- One message at a time is taken. -/
def send (context : LinkContext) (segments : TransportTx) : LinkContext :=
  if context.isOnline ∧ context.segments = none then
    ({ context with segments := some segments }.record
      (.take segments.message.addresses)).tryStartTransmission
  else
    context

/-- Pending transmissions come before the state that waited for the one that is done. -/
def onTxReady (context : LinkContext) : Option LinkContext :=
  let context := context.record .txReady
  match context.txMode with
  | .idle => some context
  | .primary =>
      ({ context with txMode := .idle }.tryPendingSecTx.tryPendingPriTx.onPriTxReady).map
        tryStartTransmission
  | .secondary =>
      some { context with
        txMode := .idle }.tryPendingSecTx.tryPendingPriTx.onSecTxReady.tryStartTransmission

/-- What a frame of the other end does to the stations. -/
def dispatch (context : LinkContext) (header : LinkHeaderFields) (userData : List UInt8) :
    Option LinkContext :=
  match header.func with
  | .secAck => context.onAck
  | .secNack => context.onNack header.fcvdfc
  | .secLinkStatus => some context.onLinkStatus
  | .secNotSupported => some context.onNotSupported
  | .priTestLinkStates => some (context.onTestLinkStatus header.src header.fcb)
  | .priResetLinkStates => some (context.onResetLinkStates header.src)
  | .priRequestLinkStatus => some (context.onRequestLinkStatus header.src)
  | .priConfirmedUserData =>
      some (context.onConfirmedUserData header.src header.fcb ⟨header.toAddresses, userData⟩)
  | .priUnconfirmedUserData => some (context.pushDataUp ⟨header.toAddresses, userData⟩)
  | .invalid => some context

def onFrame (context : LinkContext) (now : MonotonicTimestamp) (header : LinkHeaderFields)
    (userData : List UInt8) : Option LinkContext :=
  if !context.isOnline then some context
  else if header.isFromMaster = context.config.isMaster then some context
  else if header.dest ≠ context.config.localAddr then
    some (context.record (.unknownDestination header.dest))
  else if header.src ≠ context.config.remoteAddr ∧ !context.config.respondToAnySource then
    some (context.record (.unknownSource header.src))
  else
    -- reset the keep-alive timestamp
    ({ context with lastMessageTimestamp := now }.dispatch header userData).map
      tryStartTransmission

def onResponseTimeout (context : LinkContext) : Option LinkContext :=
  context.onTimeout.map tryStartTransmission

def onKeepAliveTimeout (context : LinkContext) (now : MonotonicTimestamp) : LinkContext :=
  let elapsed := now - context.lastMessageTimestamp
  let context :=
    if context.config.keepAliveTimeout ≤ elapsed then
      { context with lastMessageTimestamp := now, keepAliveTimeout := true }
    else
      context
  (context.startKeepAliveTimer (now.add context.config.keepAliveTimeout)).tryStartTransmission

/-- A context as it is made. -/
def initial (config : LinkLayerConfig) (now : MonotonicTimestamp) : LinkContext :=
  { config, lastMessageTimestamp := now }

end LinkContext

inductive LinkInput where
  | lowerLayerUp (now : MonotonicTimestamp)
  | lowerLayerDown
  | send (segments : TransportTx)
  | txReady
  | frame (now : MonotonicTimestamp) (header : LinkHeaderFields) (userData : List UInt8)
  | responseTimeout
  | keepAliveTimeout (now : MonotonicTimestamp)
deriving DecidableEq, Repr

namespace LinkContext

/-- A timer is not active any more when it expires. -/
def receive (context : LinkContext) : LinkInput → Option LinkContext
  | .lowerLayerUp now => some (context.onLowerLayerUp now)
  | .lowerLayerDown => some context.onLowerLayerDown
  | .send segments => some (context.send segments)
  | .txReady => context.onTxReady
  | .frame now header userData => context.onFrame now header userData
  | .responseTimeout =>
      if context.rspTimeoutTimer then
        { context with rspTimeoutTimer := false }.onResponseTimeout
      else
        none
  | .keepAliveTimeout now =>
      if context.keepAliveTimer.any (· ≤ now) then
        some ({ context with keepAliveTimer := none }.onKeepAliveTimeout now)
      else
        none

def machine : Machine LinkContext LinkInput Unit where
  step context input := (context.receive input).map fun after => (after, ())

end LinkContext

end OpenDnp3.Link
