import OpenDnp3.Outstation.Application

/-!
# Commands

How an outstation carries out the commands of a request and echoes them in its
response, and what it remembers of the last selection.
-/

set_option autoImplicit false

namespace OpenDnp3.Outstation

open OpenDnp3.App OpenDnp3.Library OpenDnp3.Link
open OpenDnp3.Master (CommandType MonotonicTimestamp TimeDuration)

def iinFromParseResult : Option ParseError → IINField
  | none => .empty
  | some .unknownObject => IINBit.objectUnknown.field
  | some _ => IINBit.paramError.field

/-! ## Selections -/

/-- The state of select before operate. -/
structure ControlState where
  expectedSeq : AppSeqNum := ⟨0⟩
  selectTime : MonotonicTimestamp := 0
  digest : UInt16 := 0
  length : Nat := 0
deriving DecidableEq, Repr

namespace ControlState

def validateSelection (control : ControlState) (seq : AppSeqNum) (now : MonotonicTimestamp)
    (timeout : TimeDuration) (objects : List UInt8) : CommandStatus :=
  if control.expectedSeq = seq then
    if control.selectTime ≤ now then
      if now - control.selectTime < timeout then
        if control.length = objects.length ∧ control.digest = CRC.calcCrc objects then .success
        else .noSelect
      else .timeout
    else .timeout
  else .noSelect

/-- What a selection leaves does not depend on what was there before. -/
def select (currentSeqN : AppSeqNum) (now : MonotonicTimestamp) (objects : List UInt8) :
    ControlState :=
  ⟨currentSeqN.next, now, CRC.calcCrc objects, objects.length⟩

end ControlState

/-! ## Responses -/

/-- A command with another status. -/
def setStatus : (type : CommandType) → CommandStatus → type.Value → type.Value
  | .controlRelayOutputBlock, status, command => { command with status }
  | .analogOutputInt32, status, command => { command with status }
  | .analogOutputInt16, status, command => { command with status }
  | .analogOutputFloat32, status, command => { command with status }
  | .analogOutputDouble64, status, command => { command with status }

/-- Where commands go: to the command handler, to be selected or operated, or nowhere. -/
inductive CommandAction where
  | select
  | operate (opType : OperateType)
  | constant (status : CommandStatus)
deriving DecidableEq, Repr

/-- The handler of the headers of a request, together with the adapter of its action. There is no
writer where no response is sent. -/
structure CommandResponseHandler where
  maxCommands : UInt8
  action : CommandAction
  writer : Option HeaderWriter
  log : List Activity
  isStarted : Bool := false
  numRequests : Nat := 0
  numSuccess : Nat := 0
  errors : IINField := .empty

namespace CommandResponseHandler

def allCommandsSuccessful (handler : CommandResponseHandler) : Bool :=
  handler.numRequests == handler.numSuccess

variable (environment : Environment)

def checkStart (handler : CommandResponseHandler) : CommandResponseHandler :=
  if handler.isStarted then handler
  else
    { handler with
      isStarted := true
      log := (environment.ask handler.log .start).2 }

/-- Pass a command on. -/
def act (handler : CommandResponseHandler) (type : CommandType) (command : Indexed type.Value) :
    CommandStatus × CommandResponseHandler :=
  match handler.action with
  | .constant status => (status, handler)
  | .select =>
      let handler := handler.checkStart environment
      let (status, log) := environment.ask handler.log (.select type command)
      (status, { handler with log })
  | .operate opType =>
      let handler := handler.checkStart environment
      let (status, log) := environment.ask handler.log (.operate type command opType)
      (status, { handler with log })

def processCommand (handler : CommandResponseHandler) (type : CommandType)
    (command : Indexed type.Value) : CommandStatus × CommandResponseHandler :=
  if handler.numRequests < handler.maxCommands.toNat then
    { handler with numRequests := handler.numRequests + 1 }.act environment type command
  else
    (.tooManyOps, handler)

/-- The response to the commands of one header: the iterator that writes them, if there is a
writer, and the indications so far. -/
structure Responding (type : CommandType) where
  handler : CommandResponseHandler
  target : Option (PrefixedWriteIterator type.Value × Cursor)
  ret : IINField

/-- Carry out one command and echo it. -/
def process {type : CommandType} (responding : Responding type) (pair : Indexed type.Value) :
    Responding type :=
  let (status, handler) := responding.handler.processCommand environment type pair
  let handler :=
    if status = .success then { handler with numSuccess := handler.numSuccess + 1 } else handler
  let ret :=
    if status = .notSupported then responding.ret.setBit .paramError else responding.ret
  let target := responding.target.map fun (iterator, position) =>
    (iterator.write position (setStatus type status pair.value) pair.index).getD
      (iterator, position)
  ⟨handler, target, ret⟩

def respondToHeader (handler : CommandResponseHandler) (type : CommandType) (index : IndexType)
    (values : List (Indexed type.Value)) : IINField × CommandResponseHandler :=
  match handler.writer with
  | none =>
      let responding := values.foldl (process environment) ⟨handler, none, .empty⟩
      (responding.ret, responding.handler)
  | some writer =>
      let (iterator, writer) :=
        writer.iterateOverCountWithPrefix index index.countIndex type.serializer
      let responding := values.foldl (process environment)
        ⟨handler, some (iterator, writer.position), .empty⟩
      (responding.ret,
        { responding.handler with
          writer := responding.target.map fun (iterator, position) =>
            { writer with position := iterator.finish position } })

def processAny (handler : CommandResponseHandler) (type : CommandType) (record : HeaderRecord)
    (values : List (Indexed type.Value)) : IINField × CommandResponseHandler :=
  if record.getQualifierCode = .uint8CntUint8Index then
    handler.respondToHeader environment type .uint8 values
  else
    handler.respondToHeader environment type .uint16 values

/-- The indications for a header that carries no commands. -/
def processHeader (handler : CommandResponseHandler) :
    Header → IINField × CommandResponseHandler
  | .prefixOf record _ .controlRelayOutputBlock values =>
      handler.processAny environment .controlRelayOutputBlock record values
  | .prefixOf record _ .analogOutputInt32 values =>
      handler.processAny environment .analogOutputInt32 record values
  | .prefixOf record _ .analogOutputInt16 values =>
      handler.processAny environment .analogOutputInt16 record values
  | .prefixOf record _ .analogOutputFloat32 values =>
      handler.processAny environment .analogOutputFloat32 record values
  | .prefixOf record _ .analogOutputDouble64 values =>
      handler.processAny environment .analogOutputDouble64 record values
  | _ => (IINBit.funcNotSupported.field, handler)

def onHeader (handler : CommandResponseHandler) (header : Header) : CommandResponseHandler :=
  let (iin, handler) := handler.processHeader environment header
  { handler with errors := handler.errors.or iin }

/-- Parse the objects of a request and carry out their commands; the adapter is destroyed
afterwards. -/
def parse [FloatOps] (handler : CommandResponseHandler) (objects : List UInt8) :
    Option ParseError × CommandResponseHandler :=
  match APDUParser.parse true isAllowed objects with
  | .error error => (some error, handler)
  | .ok headers =>
      let handler := headers.foldl (onHeader environment) handler
      if handler.isStarted then
        (none, { handler with log := (environment.ask handler.log .finish).2 })
      else
        (none, handler)

end CommandResponseHandler

end OpenDnp3.Outstation
