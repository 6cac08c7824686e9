import OpenDnp3.Library.Machine
import OpenDnp3.Outstation.RequestHandlers
import OpenDnp3.Transport.Transport

/-!
# Outstation context

The mutable state of an outstation, and what changes it: requests and confirms
of masters, transmissions that are done, timeouts, updates of the database, and
a lower layer that comes and goes. The executor runs one event at a time.
-/

set_option autoImplicit false

namespace OpenDnp3.App

def APDUHeader.equals (header other : APDUHeader) : Bool :=
  other.function == header.function && other.control.toByte == header.control.toByte

def FunctionCode.isNoAckFuncCode : FunctionCode → Bool
  | .directOperateNr | .immedFreezeNr | .freezeAtTimeNr | .freezeClearNr => true
  | _ => false

end OpenDnp3.App

namespace OpenDnp3.Outstation

open OpenDnp3.App OpenDnp3.Library OpenDnp3.Link
open OpenDnp3.Master (MonotonicTimestamp TimeDuration)

structure OutstationParams where
  maxControlsPerRequest : UInt8 := 16
  selectTimeout : TimeDuration := 10000
  maxTxFragSize : Nat := 2048
  maxRxFragSize : Nat := 2048
  allowUnsolicited : Bool := false
  unsolClassMask : ClassField := .none
  respondToAnyMaster : Bool := false
deriving DecidableEq, Repr

/-! ## Requests -/

structure ParsedRequest where
  addresses : Addresses
  header : APDUHeader
  objects : List UInt8
deriving DecidableEq, Repr, Inhabited

/-- A deferred request is copied into a buffer; what does not fit is lost. -/
def ParsedRequest.copyTo (request : ParsedRequest) (maxAPDUSize : Nat) : ParsedRequest :=
  { request with objects := if maxAPDUSize < request.objects.length then [] else request.objects }

/-- What is remembered of the last request that was processed. -/
structure RequestHistory where
  hasLast : Bool := false
  lastHeader : APDUHeader := ⟨⟨true, true, false, false, 0⟩, .unknown⟩
  lastDigest : UInt16 := 0
  lastObjectsLength : Nat := 0
deriving DecidableEq, Repr

namespace RequestHistory

def reset (history : RequestHistory) : RequestHistory := { history with hasLast := false }

def recordLastProcessedRequest (header : APDUHeader) (objects : List UInt8) : RequestHistory :=
  ⟨true, header, CRC.calcCrc objects, objects.length⟩

def equalsLastObjects (history : RequestHistory) (objects : List UInt8) : Bool :=
  history.hasLast && history.lastObjectsLength == objects.length &&
    history.lastDigest == CRC.calcCrc objects

def fullyEqualsLastRequest (history : RequestHistory) (header : APDUHeader)
    (objects : List UInt8) : Bool :=
  history.lastHeader.equals header && history.equalsLastObjects objects

end RequestHistory

/-! ## Responses -/

/-- A response in a buffer: its four bytes of header, and what is written behind them. -/
structure APDUResponse where
  control : UInt8
  function : UInt8
  iin : IINField
  remaining : Cursor
deriving DecidableEq, Repr

namespace APDUResponse

def ofBuffer (buffer : List UInt8) : APDUResponse :=
  ⟨buffer.getD 0 0, buffer.getD 1 0, ⟨buffer.getD 2 0, buffer.getD 3 0⟩, ⟨[], buffer.drop 4⟩⟩

def setControl (response : APDUResponse) (control : AppControlField) : APDUResponse :=
  { response with control := control.toByte }

def setFunction (response : APDUResponse) (function : FunctionCode) : APDUResponse :=
  { response with function := function.toType }

def setIIN (response : APDUResponse) (iin : IINField) : APDUResponse := { response with iin }

def getWriter (response : APDUResponse) : HeaderWriter := ⟨response.remaining, none⟩

/-- The writer shares the position in the buffer. -/
def setWriter (response : APDUResponse) (writer : HeaderWriter) : APDUResponse :=
  { response with remaining := writer.position }

def toRSlice (response : APDUResponse) : List UInt8 :=
  [response.control, response.function, response.iin.lsb, response.iin.msb] ++
    response.remaining.written

def buffer (response : APDUResponse) : List UInt8 := response.toRSlice ++ response.remaining.rest

end APDUResponse

structure OutstationSeqNum where
  num : AppSeqNum := ⟨0⟩
  confirmNum : AppSeqNum := ⟨0⟩
deriving DecidableEq, Repr

/-- A buffer for responses and the last response made in it. The serials of the events that the
last response carries are a ghost. -/
structure TxBuffer where
  buffer : List UInt8
  lastResponse : List UInt8 := []
  control : AppControlField := ⟨true, true, false, false, 0⟩
  carried : List Nat := []
deriving DecidableEq, Repr

namespace TxBuffer

def create (maxTxSize : Nat) : TxBuffer := { buffer := List.replicate maxTxSize 0 }

def start (tx : TxBuffer) : APDUResponse := .ofBuffer tx.buffer

def record (control : AppControlField) (response : APDUResponse) (carried : List Nat) :
    TxBuffer :=
  ⟨response.buffer, response.toRSlice, control, carried⟩

end TxBuffer

structure OutstationSolState where
  seq : OutstationSeqNum := {}
  tx : TxBuffer
deriving DecidableEq, Repr

structure OutstationUnsolState where
  completedNull : Bool := false
  seq : OutstationSeqNum := {}
  tx : TxBuffer
deriving DecidableEq, Repr

/-! ## State -/

inductive OutstationState where
  | idle
  | solicitedConfirmWait
  | unsolicitedConfirmWait
deriving DecidableEq, Repr, Inhabited

/-- The log of what others can see is a ghost. -/
structure OContext where
  addresses : Addresses
  params : OutstationParams
  eventBuffer : EventBuffer
  database : DatabaseBuffers
  /-- The number of fragments of the response that is being made. -/
  fragmentCount : UInt16 := 0
  isOnline : Bool := false
  isTransmitting : Bool := false
  staticIIN : IINField := IINBit.deviceRestart.field
  /-- Whether the confirm timer is active. -/
  confirmTimer : Bool := false
  deferred : Option ParsedRequest := none
  sol : OutstationSolState := { tx := .create params.maxTxFragSize }
  unsol : OutstationUnsolState := { tx := .create params.maxTxFragSize }
  history : RequestHistory := {}
  control : ControlState := {}
  time : TimeSyncState := {}
  state : OutstationState := .idle
  log : List Activity := []

namespace OContext

variable (environment : Environment)

def canTransmit (context : OContext) : Bool := context.isOnline && !context.isTransmitting

def setState (context : OContext) (state : OutstationState) : OContext := { context with state }

/-! ## Indications -/

def getDynamicIIN (context : OContext) : IINField × OContext :=
  let classField := context.eventBuffer.unwrittenClassField
  let (overflown, eventBuffer) := context.eventBuffer.isOverflown
  ((((IINField.empty.setBitToValue .class1Events classField.class1).setBitToValue .class2Events
    classField.class2).setBitToValue .class3Events classField.class3).setBitToValue
      .eventBufferOverflow overflown, { context with eventBuffer })

def getResponseIIN (context : OContext) : IINField × OContext :=
  let (dynamic, context) := context.getDynamicIIN
  let (application, log) := environment.ask context.log .getApplicationIIN
  ((context.staticIIN.or dynamic).or (ApplicationIIN.toIIN application), { context with log })

/-! ## Transmission -/

def beginTx (context : OContext) (destination : UInt16) (message : List UInt8)
    (carried : List Nat) : OContext :=
  { context with
    isTransmitting := true
    log := context.log ++ [.beginTransmit destination message carried] }

def beginResponseTx (context : OContext) (destination : UInt16) (response : APDUResponse)
    (control : AppControlField) (carried : List Nat) : OContext :=
  { context with
    sol := { context.sol with tx := .record control response carried }
    }.beginTx destination response.toRSlice carried

/-- Send the last response again. -/
def repeatResponseTx (context : OContext) (destination : UInt16) : OContext :=
  context.beginTx destination context.sol.tx.lastResponse context.sol.tx.carried

def beginUnsolTx (context : OContext) (control : AppControlField) (response : APDUResponse)
    (carried : List Nat) : OContext :=
  { context with
    unsol :=
      { context.unsol with
        tx := .record control response carried
        seq := ⟨context.unsol.seq.num.next, context.unsol.seq.num⟩ }
    }.beginTx context.addresses.destination response.toRSlice carried

def restartConfirmTimer (context : OContext) : OContext := { context with confirmTimer := true }

def cancelConfirmTimer (context : OContext) : OContext := { context with confirmTimer := false }

/-! ## Function handlers -/

/-- A time of zero, since requests are not delayed. -/
def handleDelayMeasure (objects : List UInt8) (writer : HeaderWriter) :
    IINField × HeaderWriter :=
  if objects.isEmpty then
    (.empty, (writer.writeSingleValue .uint8 .uint8Cnt group52Var2.inst 0).getD writer)
  else
    (IINBit.paramError.field, writer)

def handleRecordCurrentTime (context : OContext) : OContext :=
  { context with
    time := context.time.recordCurrentTime context.sol.seq.num environment.now }

/-- The delay of a restart, in seconds or in milliseconds. -/
def handleRestart (context : OContext) (objects : List UInt8) (isWarmRestart : Bool)
    (writer : HeaderWriter) : IINField × HeaderWriter × OContext :=
  if !objects.isEmpty then (IINBit.paramError.field, writer, context)
  else
    let support : RestartMode × List Activity :=
      if isWarmRestart then environment.ask context.log .warmRestartSupport
      else environment.ask context.log .coldRestartSupport
    if support.1 = .unsupported then
      (IINBit.funcNotSupported.field, writer, { context with log := support.2 })
    else
      let delay : UInt16 × List Activity :=
        if isWarmRestart then environment.ask support.2 .warmRestart
        else environment.ask support.2 .coldRestart
      let serializer :=
        if support.1 = .supportedDelayCoarse then group52Var1.inst else group52Var2.inst
      (.empty, (writer.writeSingleValue .uint8 .uint8Cnt serializer delay.1).getD writer,
        { context with log := delay.2 })

section handlers

variable [FloatOps]

def handleWrite (context : OContext) (objects : List UInt8) : IINField × OContext :=
  match APDUParser.parse true WriteHandler.isAllowed objects with
  | .error error => (iinFromParseResult (some error), context)
  | .ok headers =>
      let handler : WriteHandler := headers.foldl (WriteHandler.onHeader environment)
        { seq := context.sol.seq.num, now := environment.now, timeSyncState := context.time,
          writeIIN := context.staticIIN, log := context.log }
      (handler.errors,
        { context with
          time := handler.timeSyncState
          staticIIN := handler.writeIIN
          log := handler.log })

/-- Let commands be carried out. -/
def handleCommands (context : OContext) (action : CommandAction) (objects : List UInt8)
    (writer : Option HeaderWriter) : Option ParseError × CommandResponseHandler :=
  ({ maxCommands := context.params.maxControlsPerRequest, action, writer,
     log := context.log } : CommandResponseHandler).parse environment objects

def commandErrors (result : Option ParseError × CommandResponseHandler) : IINField :=
  match result.1 with
  | none => result.2.errors
  | some error => iinFromParseResult (some error)

/-- There is no writer where no response is sent. -/
def handleDirectOperate (context : OContext) (objects : List UInt8) (opType : OperateType)
    (writer : Option HeaderWriter) : IINField × Option HeaderWriter × OContext :=
  -- since the commands are echoed, make sure there is enough space before beginning
  if writer.any fun writer => writer.remaining < objects.length then
    (IINBit.paramError.field, writer, context)
  else
    let result := context.handleCommands environment (.operate opType) objects writer
    (commandErrors result, result.2.writer, { context with log := result.2.log })

def handleSelect (context : OContext) (objects : List UInt8) (writer : HeaderWriter) :
    IINField × HeaderWriter × OContext :=
  if writer.remaining < objects.length then (IINBit.paramError.field, writer, context)
  else
    let result := context.handleCommands environment .select objects (some writer)
    let control :=
      if result.1 = none ∧ result.2.allCommandsSuccessful = true then
        ControlState.select context.sol.seq.num environment.now objects
      else context.control
    (commandErrors result, result.2.writer.getD writer,
      { context with control, log := result.2.log })

/-- Answer every command with a status. -/
def handleCommandWithConstant (context : OContext) (objects : List UInt8)
    (writer : HeaderWriter) (status : CommandStatus) : IINField × HeaderWriter :=
  let result := context.handleCommands environment (.constant status) objects (some writer)
  (iinFromParseResult result.1, result.2.writer.getD writer)

def handleOperate (context : OContext) (objects : List UInt8) (writer : HeaderWriter) :
    IINField × HeaderWriter × OContext :=
  if writer.remaining < objects.length then (IINBit.paramError.field, writer, context)
  else
    match context.control.validateSelection context.sol.seq.num environment.now
        context.params.selectTimeout objects with
    | .success =>
        let result := context.handleCommands environment (.operate .selectBeforeOperate) objects
          (some writer)
        (commandErrors result, result.2.writer.getD writer, { context with log := result.2.log })
    | status =>
        let (iin, writer) := context.handleCommandWithConstant environment objects writer status
        (iin, writer, context)

def handleAssignClass (context : OContext) (objects : List UInt8) : IINField × OContext :=
  let (supported, log) := environment.ask context.log .supportsAssignClass
  let context := { context with log }
  if !(supported : Bool) then (IINBit.funcNotSupported.field, context)
  else
    match APDUParser.parse false AssignClassHandler.isAllowed objects with
    | .error error => (iinFromParseResult (some error), context)
    | .ok headers =>
        let handler : AssignClassHandler := headers.foldl (AssignClassHandler.onHeader environment)
          { database := context.database, log := context.log }
        (handler.errors,
          { context with database := handler.database, log := handler.log })

/-- Change the classes that are reported without being asked for. -/
def handleUnsolicitedClasses (context : OContext) (objects : List UInt8)
    (change : ClassField → ClassField → ClassField) : IINField × OContext :=
  match APDUParser.parse true ClassBasedRequestHandler.isAllowed objects with
  | .error error => (iinFromParseResult (some error), context)
  | .ok headers =>
      let handler : ClassBasedRequestHandler :=
        headers.foldl ClassBasedRequestHandler.onHeader {}
      (handler.errors,
        { context with
          params :=
            { context.params with
              unsolClassMask := change context.params.unsolClassMask handler.classField } })

def handleDisableUnsolicited (context : OContext) (objects : List UInt8) : IINField × OContext :=
  context.handleUnsolicitedClasses objects ClassField.clear

def handleEnableUnsolicited (context : OContext) (objects : List UInt8) : IINField × OContext :=
  context.handleUnsolicitedClasses objects ClassField.set

def handleNonReadResponse (context : OContext) (header : APDUHeader) (objects : List UInt8)
    (writer : HeaderWriter) : IINField × HeaderWriter × OContext :=
  match header.function with
  | .write =>
      let (iin, context) := context.handleWrite environment objects
      (iin, writer, context)
  | .select => context.handleSelect environment objects writer
  | .operate => context.handleOperate environment objects writer
  | .directOperate =>
      let (iin, echoed, context) :=
        context.handleDirectOperate environment objects .directOperate (some writer)
      (iin, echoed.getD writer, context)
  | .coldRestart => context.handleRestart environment objects false writer
  | .warmRestart => context.handleRestart environment objects true writer
  | .assignClass =>
      let (iin, context) := context.handleAssignClass environment objects
      (iin, writer, context)
  | .delayMeasure =>
      let (iin, writer) := handleDelayMeasure objects writer
      (iin, writer, context)
  | .recordCurrentTime =>
      if objects.isEmpty then (.empty, writer, context.handleRecordCurrentTime environment)
      else (IINBit.paramError.field, writer, context)
  | .disableUnsolicited =>
      if context.params.allowUnsolicited then
        let (iin, context) := context.handleDisableUnsolicited objects
        (iin, writer, context)
      else (IINBit.funcNotSupported.field, writer, context)
  | .enableUnsolicited =>
      if context.params.allowUnsolicited then
        let (iin, context) := context.handleEnableUnsolicited objects
        (iin, writer, context)
      else (IINBit.funcNotSupported.field, writer, context)
  | _ => (IINBit.funcNotSupported.field, writer, context)

/-! ## Multi-fragment responses -/

/-- What is loaded into a fragment. -/
structure Loaded where
  context : OContext
  writer : HeaderWriter
  control : AppControlField
  carried : List Nat

/-- Load events, and behind them static points. There is no result when the load of static points
goes on forever. -/
def loadResponse (context : OContext) (writer : HeaderWriter) : Option Loaded :=
  let fir := context.fragmentCount == 0
  let context := { context with fragmentCount := context.fragmentCount + 1 }
  let events := context.eventBuffer.load writer
  let context := { context with eventBuffer := events.buffer }
  let someEventsWritten := decide (events.writer.remaining < writer.remaining)
  if events.complete then
    (context.database.load events.writer).map fun static =>
      ⟨{ context with database := static.buffers }, static.writer,
        ⟨fir, static.complete, !static.complete || someEventsWritten, false, 0⟩, events.carried⟩
  else
    some ⟨context, events.writer, ⟨fir, false, true, false, 0⟩, events.carried⟩

def hasSelection (context : OContext) : Bool :=
  context.database.hasAnySelection || context.eventBuffer.hasAnySelection

/-- Unselect any previously selected points when a new read request starts. -/
def startRead (context : OContext) : OContext :=
  { context with
    fragmentCount := 0
    eventBuffer := context.eventBuffer.unselect
    database := context.database.unselect }

def handleRead (context : OContext) (objects : List UInt8) (writer : HeaderWriter) :
    Option (IINField × Loaded) :=
  let context := context.startRead
  match APDUParser.parse false ReadHandler.isAllowed objects with
  | .error error =>
      some (iinFromParseResult (some error),
        ⟨{ context with fragmentCount := 0 }, writer, ⟨true, true, false, false, 0⟩, []⟩)
  | .ok headers =>
      let handler : ReadHandler := headers.foldl ReadHandler.onHeader
        { database := context.database, eventBuffer := context.eventBuffer }
      ({ context with
        database := handler.database
        eventBuffer := handler.eventBuffer }.loadResponse writer).map (handler.errors, ·)

/-! ## Responding -/

def respondToNonReadRequest (context : OContext) (request : ParsedRequest) : OContext :=
  let context :=
    { context with
      history := .recordLastProcessedRequest request.header request.objects }
  let control : AppControlField := ⟨true, true, false, false, request.header.control.seq⟩
  let response := (context.sol.tx.start.setFunction .response).setControl control
  let (iin, writer, context) :=
    context.handleNonReadResponse environment request.header request.objects response.getWriter
  let (responseIIN, context) := context.getResponseIIN environment
  context.beginResponseTx request.addresses.source
    ((response.setWriter writer).setIIN (iin.or responseIIN)) control []

/-- Send what is loaded, and wait for a confirm if the fragment asks for one. -/
def sendLoaded (loaded : Loaded) (destination : UInt16) (seq : AppSeqNum) (iin : IINField)
    (response : APDUResponse) : OContext :=
  let control := { loaded.control with seq := seq.seq }
  let context :=
    { loaded.context with
      sol :=
        { loaded.context.sol with seq := { loaded.context.sol.seq with confirmNum := seq } } }
  let (responseIIN, context) := context.getResponseIIN environment
  let context := context.beginResponseTx destination
    (((response.setWriter loaded.writer).setControl control).setIIN (iin.or responseIIN)) control
    loaded.carried
  if control.con then context.restartConfirmTimer.setState .solicitedConfirmWait
  else context.setState .idle

def respondToReadRequest (context : OContext) (request : ParsedRequest) : Option OContext :=
  let context :=
    { context with
      history := .recordLastProcessedRequest request.header request.objects }
  let response := context.sol.tx.start.setFunction .response
  (context.handleRead request.objects response.getWriter).map fun (iin, loaded) =>
    sendLoaded environment loaded request.addresses.source ⟨request.header.control.seq⟩ iin
      response

def continueMultiFragResponse (context : OContext) (addresses : Addresses) (seq : AppSeqNum) :
    Option OContext :=
  let response := context.sol.tx.start.setFunction .response
  (context.loadResponse response.getWriter).map fun loaded =>
    sendLoaded environment loaded addresses.source seq .empty response

/-! ## States -/

def clearWritten (context : OContext) : OContext :=
  { context with eventBuffer := context.eventBuffer.clearWritten }

def resetHistory (context : OContext) : OContext :=
  { context with history := context.history.reset }

def onConfirmSolicited (context : OContext) (request : ParsedRequest) : Option OContext :=
  if request.header.control.uns then some context
  else if context.sol.seq.confirmNum.seq ≠ request.header.control.seq then some context
  else
    -- any time we get a confirm we can treat any request as a new request
    let context := context.resetHistory.cancelConfirmTimer.clearWritten
    if context.hasSelection then
      context.continueMultiFragResponse environment request.addresses
        (SequenceNum.mk request.header.control.seq).next
    else
      some (context.setState .idle)

def onConfirmUnsolicited (context : OContext) (request : ParsedRequest) : OContext :=
  if !request.header.control.uns then context
  else if context.unsol.seq.confirmNum.seq ≠ request.header.control.seq then context
  else
    let context := context.resetHistory.cancelConfirmTimer
    let context :=
      if context.unsol.completedNull then context.clearWritten
      else { context with unsol := { context.unsol with completedNull := true } }
    context.setState .idle

def onConfirm (context : OContext) (request : ParsedRequest) : Option OContext :=
  match context.state with
  | .idle => some context
  | .solicitedConfirmWait => context.onConfirmSolicited environment request
  | .unsolicitedConfirmWait => some (context.onConfirmUnsolicited request)

def onConfirmTimeout (context : OContext) : OContext :=
  match context.state with
  | .idle => context
  | .solicitedConfirmWait => context.setState .idle
  | .unsolicitedConfirmWait =>
      let context :=
        if context.unsol.completedNull then
          { context with eventBuffer := context.eventBuffer.unselect }
        else context
      context.setState .idle

/-- The one slot for requests that have to wait. -/
def defer (context : OContext) (request : ParsedRequest) : OContext :=
  { context with deferred := some (request.copyTo context.params.maxRxFragSize) }

def onNewReadRequest (context : OContext) (request : ParsedRequest) : Option OContext :=
  match context.state with
  | .idle => context.respondToReadRequest environment request
  | .solicitedConfirmWait => context.cancelConfirmTimer.respondToReadRequest environment request
  | .unsolicitedConfirmWait => some (context.defer request)

def onNewNonReadRequest (context : OContext) (request : ParsedRequest) : OContext :=
  match context.state with
  | .idle => context.respondToNonReadRequest environment request
  | .solicitedConfirmWait =>
      (context.cancelConfirmTimer.respondToNonReadRequest environment request).setState .idle
  | .unsolicitedConfirmWait =>
      { context with deferred := none }.respondToNonReadRequest environment request

def onRepeatNonReadRequest (context : OContext) (request : ParsedRequest) : OContext :=
  match context.state with
  | .idle | .unsolicitedConfirmWait => context.repeatResponseTx request.addresses.source
  | .solicitedConfirmWait =>
      context.cancelConfirmTimer.repeatResponseTx request.addresses.source

def onRepeatReadRequest (context : OContext) (request : ParsedRequest) : OContext :=
  match context.state with
  | .idle => context.repeatResponseTx request.addresses.source
  | .solicitedConfirmWait =>
      context.restartConfirmTimer.repeatResponseTx request.addresses.source
  | .unsolicitedConfirmWait => context.defer request

/-! ## Processing -/

def processNewRequest (context : OContext) (request : ParsedRequest) : Option OContext :=
  let context :=
    { context with
      sol :=
        { context.sol with
          seq := { context.sol.seq with num := ⟨request.header.control.seq⟩ } } }
  if request.header.function = .read then context.onNewReadRequest environment request
  else some (context.onNewNonReadRequest environment request)

/-- Whether a request is the one that was processed last. -/
def isRepeat (context : OContext) (request : ParsedRequest) : Bool :=
  context.history.hasLast && context.sol.seq.num.seq == request.header.control.seq &&
    context.history.fullyEqualsLastRequest request.header request.objects

def onReceiveSolRequest (context : OContext) (request : ParsedRequest) : Option OContext :=
  if context.isRepeat request then
    if request.header.function = .read then some (context.onRepeatReadRequest request)
    else some (context.onRepeatNonReadRequest request)
  else
    context.processNewRequest environment request

def processRequest (context : OContext) (request : ParsedRequest) : Option OContext :=
  if request.header.control.uns then some context
  else context.onReceiveSolRequest environment request

def processRequestNoAck (context : OContext) (request : ParsedRequest) : OContext :=
  if request.header.function = .directOperateNr then
    (context.handleDirectOperate environment request.objects .directOperateNoAck none).2.2
  else context

def processObjects (context : OContext) (request : ParsedRequest) : Option OContext :=
  if request.header.function.isNoAckFuncCode then
    -- the only request that is processed while transmitting, since it requires no response
    some (context.processRequestNoAck environment request)
  else if context.isTransmitting then some (context.defer request)
  else if request.header.function = .confirm then context.onConfirm environment request
  else context.processRequest environment request

/-- The request that a message carries, if it is for this outstation. -/
def acceptMessage (context : OContext) (message : Message) : Option ParsedRequest :=
  if message.addresses.destination ≠ context.addresses.source then none
  else if !context.params.respondToAnyMaster ∧
      message.addresses.source ≠ context.addresses.destination then none
  else
    match APDUHeader.parseRequest message.payload with
    | none => none
    | some (header, objects) =>
        if !header.control.isFirAndFin then none
        else if header.control.con then none
        else some ⟨message.addresses, header, objects⟩

def processMessage (context : OContext) (message : Message) : Option OContext :=
  match context.acceptMessage message with
  | none => some context
  | some request => context.processObjects environment request

/-- A read that is deferred waits until the outstation is idle. -/
def processDeferredRequest (context : OContext) (request : ParsedRequest) :
    Option (OContext × Bool) :=
  if request.header.function = .confirm then
    (context.onConfirm environment request).map (·, true)
  else if request.header.function = .read then
    if context.state = .idle then
      (context.processRequest environment request).map (·, true)
    else some (context, false)
  else
    (context.processRequest environment request).map (·, true)

def checkForDeferredRequest (context : OContext) : Option OContext :=
  if context.canTransmit then
    match context.deferred with
    | none => some context
    | some request =>
        (context.processDeferredRequest environment request).map fun (context, processed) =>
          if processed then { context with deferred := none } else context
  else
    some context

/-- Send an unsolicited response, with events if there is a class to report. -/
def sendUnsolicited (context : OContext) (classes : Option ClassField) : OContext :=
  let response := context.unsol.tx.start
  let loaded : HeaderWriter × List Nat × OContext :=
    match classes with
    | none => (response.getWriter, [], context)
    | some classes =>
        let load := (context.eventBuffer.unselect.selectAllByClass classes).load
          response.getWriter
        (load.writer, load.carried, { context with eventBuffer := load.buffer })
  let control : AppControlField := ⟨true, true, true, true, context.unsol.seq.num.seq⟩
  let (iin, context) := loaded.2.2.getResponseIIN environment
  (context.restartConfirmTimer.setState .unsolicitedConfirmWait).beginUnsolTx control
    ((((response.setWriter loaded.1).setControl control).setFunction
      .unsolicitedResponse).setIIN iin) loaded.2.1

def checkForUnsolicited (context : OContext) : OContext :=
  if context.canTransmit ∧ context.state = .idle ∧ context.params.allowUnsolicited then
    if context.unsol.completedNull then
      -- are there events to be reported?
      if context.params.unsolClassMask.intersects context.eventBuffer.unwrittenClassField then
        context.sendUnsolicited environment (some context.params.unsolClassMask)
      else context
    else context.sendUnsolicited environment none
  else context

/-- Checks in order of priority. -/
def checkForTaskStart (context : OContext) : Option OContext :=
  (context.checkForDeferredRequest environment).map (·.checkForUnsolicited environment)

/-! ## Events -/

def onLowerLayerUp (context : OContext) : Option OContext :=
  if context.isOnline then some context
  else { context with isOnline := true }.checkForTaskStart environment

def onLowerLayerDown (context : OContext) : OContext :=
  if !context.isOnline then context
  else
    { context with
      state := .idle
      isOnline := false
      isTransmitting := false
      unsol := { context.unsol with completedNull := false }
      history := context.history.reset
      deferred := none
      eventBuffer := context.eventBuffer.unselect
      fragmentCount := 0
      confirmTimer := false }

def onTxReady (context : OContext) : Option OContext :=
  if !context.isOnline || !context.isTransmitting then some context
  else { context with isTransmitting := false }.checkForTaskStart environment

def onReceive (context : OContext) (message : Message) : Option OContext :=
  if !context.isOnline then some context
  else (context.processMessage environment message).bind (·.checkForTaskStart environment)

/-- The timer expires; it is not active any more when its action runs. -/
def onTimeout (context : OContext) : Option OContext :=
  if context.confirmTimer then
    context.cancelConfirmTimer.onConfirmTimeout.checkForTaskStart environment
  else none

end handlers

end OContext

/-! ## Machine -/

/-- A change of points by the code of the user. -/
inductive DatabaseUpdate where
  | update (type : StaticType) (value : type.Meas) (index : UInt16) (mode : EventMode)
  | updateTimeAndInterval (value : TimeAndInterval) (index : UInt16)
  | modify (flagsType : FlagsType) (start stop : UInt16) (flags : UInt8)

inductive Input where
  | lowerLayerUp
  | lowerLayerDown
  | receive (message : Message)
  | txReady
  | confirmTimeout
  | apply (updates : List DatabaseUpdate)
  | setRestartIIN

namespace OContext

variable [FloatOps]

/-- The points after a change, and the events it leads to. -/
def changePoints (database : DatabaseBuffers) : DatabaseUpdate → DatabaseBuffers.Updated
  | .update type value index mode => database.updateEvent type value index mode
  | .updateTimeAndInterval value index => database.updateTimeAndInterval value index
  | .modify flagsType start stop flags => database.modify flagsType start stop flags

def change (context : OContext) (update : DatabaseUpdate) : Option OContext :=
  let updated := changePoints context.database update
  (context.eventBuffer.updateAll updated.events).map fun eventBuffer =>
    { context with database := updated.buffers, eventBuffer }

def changeAll : List DatabaseUpdate → OContext → Option OContext
  | [], context => some context
  | update :: updates, context => (context.change update).bind (changeAll updates)

def step (context : OContext) (environment : Environment) : Input → Option OContext
  | .lowerLayerUp => context.onLowerLayerUp environment
  | .lowerLayerDown => some context.onLowerLayerDown
  | .receive message => context.onReceive environment message
  | .txReady => context.onTxReady environment
  | .confirmTimeout => context.onTimeout environment
  | .apply updates =>
      if updates.isEmpty then some context
      else (changeAll updates context).bind (·.checkForTaskStart environment)
  | .setRestartIIN => some { context with staticIIN := context.staticIIN.setBit .deviceRestart }

/-- Every event finds an environment, and leads to what is new in the log. A timer that is not
active does not expire. -/
def machine : Machine OContext (Environment × Input) (List Activity) where
  step context input :=
    (context.step input.1 input.2).map fun after => (after, after.log.drop context.log.length)

/-- An outstation as it is created. -/
def initial (addresses : Addresses) (params : OutstationParams) (config : EventBufferConfig)
    (database : DatabaseBuffers) : OContext :=
  { addresses, params, eventBuffer := .create config, database }

/-- An outstation with one binary point that leads to events of class 1, and room for two events
of each type. -/
def onePoint (params : OutstationParams) : OContext :=
  initial ⟨1, 1024⟩ params ⟨2, 2, 2, 2, 2, 2, 2, 2⟩
    { points := fun
        | .binary =>
            ⟨⟨[⟨default, 0, .group1Var2, some ⟨.class1, .group2Var1, (), default⟩,
              .none .binary⟩], ArrayView.one_fits⟩, .invalid⟩
        | _ => ⟨⟨[], ArrayView.none_fits⟩, .invalid⟩
      class0 := fun _ => true
      indexMode := .contiguous }

end OContext

/-- An event of the binary point. -/
def Input.binaryEvent : Input := .apply [.update .binary ⟨true, 0x81, 0⟩ 0 .force]

/-- A fragment of the master. -/
def Input.fragment (payload : List UInt8) : Input := .receive ⟨⟨1024, 1⟩, payload⟩

end OpenDnp3.Outstation
