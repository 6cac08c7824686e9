import OpenDnp3.Library.KeyedRecords
import OpenDnp3.Library.Machine

/-!
# I/O of a channel

The link sessions that share a channel, which of them are online, and the frames
that they transmit. What a callback of a session transmits is an event of its own,
behind the event that calls it.
-/

set_option autoImplicit false

namespace OpenDnp3.Channels

open OpenDnp3.Library

structure Route where
  source : UInt16
  destination : UInt16
deriving DecidableEq, Repr

inductive ChannelState where
  | closed
  | opening
  | opened
  | shutdown
deriving DecidableEq, Repr

/-- What is called by the handler, and the frames that it accepts. -/
inductive Event (Session : Type) where
  | lowerLayerUp (session : Session)
  | lowerLayerDown (session : Session)
  | beginTransmit (session : Session) (txdata : List UInt8)
  | beginWrite (txdata : List UInt8)
  /-- With the frame that was written. -/
  | txReady (session : Session) (txdata : List UInt8)
  | stateChange (state : ChannelState)
  | beginChannelAccept
  | suspendChannelAccept
  | channelShutdown
  | shutdownImpl
deriving DecidableEq, Repr

structure SessionRecord (Session : Type) where
  session : Session
  route : Route
  enabled : Bool := false
  online : Bool := false
deriving DecidableEq, Repr

structure Transmission (Session : Type) where
  session : Session
  txdata : List UInt8
deriving DecidableEq, Repr

structure AsyncChannel where
  writing : Bool := false
deriving DecidableEq, Repr

structure IOHandler (Session : Type) where
  closeExisting : Bool
  isShutdown : Bool := false
  channel : Option AsyncChannel := none
  sessions : List (SessionRecord Session) := []
  txQueue : List (Transmission Session) := []
  history : List (Event Session) := []
deriving DecidableEq, Repr

inductive Input (Session : Type) where
  | addContext (session : Session) (route : Route)
  | enable (session : Session)
  | disable (session : Session)
  | remove (session : Session)
  | beginTransmit (session : Session) (txdata : List UInt8)
  | newChannel
  | readComplete (failed : Bool)
  | writeComplete (failed : Bool)
  | shutdown
deriving DecidableEq, Repr

variable {Session : Type}

/-! ## Sessions -/

/-- What becomes of a session, and what it is told. -/
abbrev Visit (Session : Type) := SessionRecord Session → SessionRecord Session × List (Event Session)

namespace SessionRecord

def lowerLayerUp : Visit Session := fun record =>
  if record.online then (record, [])
  else ({ record with online := true }, [.lowerLayerUp record.session])

def lowerLayerDown : Visit Session := fun record =>
  if record.online then ({ record with online := false }, [.lowerLayerDown record.session])
  else (record, [])

def setEnabled (enabled : Bool) : Visit Session := fun record => ({ record with enabled }, [])

/-- Only sessions that are enabled are told of a new channel. -/
def onNewChannel : Visit Session := fun record =>
  if record.enabled then record.lowerLayerUp else (record, [])

end SessionRecord

namespace IOHandler

def log (handler : IOHandler Session) (event : Event Session) : IOHandler Session :=
  { handler with history := handler.history ++ [event] }

def visitAll (visit : Visit Session) (handler : IOHandler Session) : IOHandler Session :=
  { handler with
    sessions := handler.sessions.map fun record => (visit record).1
    history := handler.history ++ handler.sessions.flatMap fun record => (visit record).2 }

def isAnySessionEnabled (handler : IOHandler Session) : Bool :=
  handler.sessions.any fun record => record.enabled

def isRouteInUse (handler : IOHandler Session) (route : Route) : Bool :=
  handler.sessions.any fun record => record.route == route

variable [DecidableEq Session]

def find (handler : IOHandler Session) (session : Session) : Option (SessionRecord Session) :=
  Keyed.find SessionRecord.session session handler.sessions

def visit (session : Session) (visit : Visit Session) (handler : IOHandler Session) :
    IOHandler Session :=
  { handler with
    sessions :=
      Keyed.update SessionRecord.session session (fun record => (visit record).1) handler.sessions
    history := handler.history ++ (handler.find session).elim [] fun record => (visit record).2 }

/-! ## Channels -/

omit [DecidableEq Session] in
/-- Drop the channel, and tell the sessions that are online. Nothing stays queued. -/
def reset (handler : IOHandler Session) : IOHandler Session :=
  let handler :=
    match handler.channel with
    | none => handler
    | some _ => ({ handler with channel := none }.log (.stateChange .closed)).visitAll
        SessionRecord.lowerLayerDown
  { handler with txQueue := [] }

omit [DecidableEq Session] in
/-- Write the next frame, unless one is being written. -/
def checkForSend (handler : IOHandler Session) : IOHandler Session :=
  match handler.channel, handler.txQueue with
  | some channel, transmission :: _ =>
      if channel.writing then handler
      else
        { handler with channel := some { writing := true } : IOHandler Session }.log
          (.beginWrite transmission.txdata)
  | _, _ => handler

omit [DecidableEq Session] in
def shutdown (handler : IOHandler Session) : IOHandler Session :=
  if handler.isShutdown then handler
  else
    ({ handler with isShutdown := true }.reset.log .shutdownImpl).log (.stateChange .shutdown)

omit [DecidableEq Session] in
/-- The channel failed. -/
def failed (handler : IOHandler Session) : IOHandler Session :=
  (handler.reset.log (.stateChange .opening)).log .channelShutdown

omit [DecidableEq Session] in
def onReadComplete (failed : Bool) (handler : IOHandler Session) : IOHandler Session :=
  if failed then handler.failed else handler

omit [DecidableEq Session] in
def onWriteComplete (failed : Bool) (handler : IOHandler Session) : IOHandler Session :=
  if failed then handler.failed
  else
    match handler.txQueue with
    | [] => handler.checkForSend
    | transmission :: others =>
        ({ handler with txQueue := others }.log
          (.txReady transmission.session transmission.txdata)).checkForSend

omit [DecidableEq Session] in
def beginTransmit (session : Session) (txdata : List UInt8) (handler : IOHandler Session) :
    IOHandler Session :=
  match handler.channel with
  | none => handler
  | some _ =>
      ({ handler with txQueue := handler.txQueue ++ [Transmission.mk session txdata] }.log
        (.beginTransmit session txdata)).checkForSend

omit [DecidableEq Session] in
/-- A new channel takes the place of the old one, unless it is to be closed itself. -/
def onNewChannel (handler : IOHandler Session) : IOHandler Session :=
  if handler.channel.isSome && !handler.closeExisting then handler
  else
    ({ handler.reset with channel := some {} }.log (.stateChange .opened)).visitAll
      SessionRecord.onNewChannel

/-! ## Users -/

def addContext (session : Session) (route : Route) (handler : IOHandler Session) :
    IOHandler Session × Bool :=
  if handler.isRouteInUse route then (handler, false)
  else if (handler.find session).isSome then (handler, false)
  -- record is always disabled by default
  else ({ handler with sessions := handler.sessions ++ [{ session, route }] }, true)

def enable (session : Session) (handler : IOHandler Session) : IOHandler Session × Bool :=
  match handler.find session with
  | none => (handler, false)
  | some record =>
      if record.enabled then (handler, true)
      else
        let handler := handler.visit session (SessionRecord.setEnabled true)
        match handler.channel with
        | some _ => (handler.visit session SessionRecord.lowerLayerUp, true)
        | none => ((handler.log (.stateChange .opening)).log .beginChannelAccept, true)

/-- Tell a session that the channel is gone, if there was one. -/
def lowerLayerDown (session : Session) (handler : IOHandler Session) : IOHandler Session :=
  match handler.channel with
  | some _ => handler.visit session SessionRecord.lowerLayerDown
  | none => handler

def disable (session : Session) (handler : IOHandler Session) : IOHandler Session × Bool :=
  match handler.find session with
  | none => (handler, false)
  | some record =>
      if !record.enabled then (handler, true)
      else
        let handler := (handler.visit session (SessionRecord.setEnabled false)).lowerLayerDown session
        if handler.isAnySessionEnabled then (handler, true)
        else (handler.reset.log .suspendChannelAccept, true)

def erase (session : Session) (handler : IOHandler Session) : IOHandler Session :=
  { handler with sessions := Keyed.erase SessionRecord.session session handler.sessions }

def remove (session : Session) (handler : IOHandler Session) : IOHandler Session × Bool :=
  match handler.find session with
  | none => (handler, false)
  | some _ =>
      let handler := (handler.lowerLayerDown session).erase session
      if handler.isAnySessionEnabled then (handler, true)
      -- the channel is kept
      else (handler.log .suspendChannelAccept, true)

/-! ## Steps -/

/-- A channel that was shut down calls back no more, and only what is being written is completed. -/
def step (handler : IOHandler Session) : Input Session → Option (IOHandler Session × Bool)
  | .addContext session route => some (handler.addContext session route)
  | .enable session => some (handler.enable session)
  | .disable session => some (handler.disable session)
  | .remove session => some (handler.remove session)
  | .beginTransmit session txdata => some (handler.beginTransmit session txdata, true)
  | .newChannel => some (handler.onNewChannel, true)
  | .readComplete failed =>
      match handler.channel with
      | none => none
      | some _ => some (handler.onReadComplete failed, true)
  | .writeComplete failed =>
      match handler.channel with
      | some ⟨true⟩ =>
          some ({ handler with channel := some { writing := false } : IOHandler Session
            }.onWriteComplete failed, true)
      | _ => none
  | .shutdown => some (handler.shutdown, true)

def machine : Machine (IOHandler Session) (Input Session) Bool := ⟨step⟩

end IOHandler

end OpenDnp3.Channels
