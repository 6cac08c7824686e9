import OpenDnp3.Link.LinkHeader

/-!
# Link layer parser

Frames are searched for in the bytes of a buffer, which is shifted after each read. The user
data of a frame is moved to the front of the same memory before the frame is passed on.
-/

set_option autoImplicit false

namespace OpenDnp3.Link

/-! ## Buffer -/

/-- The bytes from `readPos` to `writePos` are yet to be read. -/
structure ShiftableBuffer where
  pBuffer : List UInt8
  writePos : Nat := 0
  readPos : Nat := 0
deriving DecidableEq, Repr

namespace ShiftableBuffer

def numBytesRead (buffer : ShiftableBuffer) : Nat := buffer.writePos - buffer.readPos

def numWriteBytes (buffer : ShiftableBuffer) : Nat := buffer.pBuffer.length - buffer.writePos

def readBuffer (buffer : ShiftableBuffer) : List UInt8 :=
  (buffer.pBuffer.drop buffer.readPos).take buffer.numBytesRead

/-- Unread bytes are moved to the front. -/
def shift (buffer : ShiftableBuffer) : ShiftableBuffer where
  pBuffer := buffer.readBuffer ++ buffer.pBuffer.drop buffer.numBytesRead
  readPos := 0
  writePos := buffer.numBytesRead

def advanceRead (buffer : ShiftableBuffer) (numBytes : Nat) : ShiftableBuffer :=
  { buffer with readPos := buffer.readPos + numBytes }

/-- Bytes are written where the buffer offers room, and then `AdvanceWrite` counts them. -/
def advanceWrite (buffer : ShiftableBuffer) (bytes : List UInt8) : ShiftableBuffer where
  pBuffer := buffer.pBuffer.take buffer.writePos ++ bytes ++
    buffer.pBuffer.drop (buffer.writePos + bytes.length)
  readPos := buffer.readPos
  writePos := buffer.writePos + bytes.length

/-- Each round skips a byte, so that there are no more rounds than bytes. -/
def syncFrom : Nat → ShiftableBuffer → Bool × ShiftableBuffer
  | 0, buffer => (false, buffer)
  | rounds + 1, buffer =>
      if buffer.numBytesRead > 1 then
        if buffer.readBuffer.take 2 = [0x05, 0x64] then (true, buffer)
        else syncFrom rounds (buffer.advanceRead 1)
      else
        (false, buffer)

def sync (buffer : ShiftableBuffer) : Bool × ShiftableBuffer :=
  buffer.syncFrom buffer.numBytesRead

end ShiftableBuffer

namespace LinkFrame

/-- `memmove` between two places of the same memory. -/
def memmove (memory : List UInt8) (dest src num : Nat) : List UInt8 :=
  memory.take dest ++ (memory.drop src).take num ++ memory.drop (dest + num)

def readBlocks : Nat → List UInt8 → Nat → Nat → Nat → List UInt8
  | 0, memory, _, _, _ => memory
  | blocks + 1, memory, src, dest, length =>
      let num := min length 16
      readBlocks blocks (memmove memory dest src num) (src + (num + 2)) (dest + num) (length - num)

/-- Bytes of blocks are moved together, without the checksums. -/
def readUserData (memory : List UInt8) (src dest length : Nat) : List UInt8 :=
  readBlocks (numBlocks length) memory src dest length

end LinkFrame

/-! ## Parser -/

inductive ParserState where
  | findSync
  | readHeader
  | readBody
  | complete
deriving DecidableEq, Repr, Inhabited

/-- Why bytes that look like the start of a frame are discarded. -/
inductive FrameError where
  | headerCrc
  | bodyCrc
  | badLength
  | badFunctionCode
  | badFCV
  | badFCB
deriving DecidableEq, Repr

structure ParserStatistics where
  numHeaderCrcError : UInt32 := 0
  numBodyCrcError : UInt32 := 0
  numLinkFrameRx : UInt32 := 0
  numBadLength : UInt32 := 0
  numBadFunctionCode : UInt32 := 0
  numBadFCV : UInt32 := 0
  numBadFCB : UInt32 := 0
deriving DecidableEq, Repr

def ParserStatistics.count (statistics : ParserStatistics) : FrameError → ParserStatistics
  | .headerCrc => { statistics with numHeaderCrcError := statistics.numHeaderCrcError + 1 }
  | .bodyCrc => { statistics with numBodyCrcError := statistics.numBodyCrcError + 1 }
  | .badLength => { statistics with numBadLength := statistics.numBadLength + 1 }
  | .badFunctionCode =>
      { statistics with numBadFunctionCode := statistics.numBadFunctionCode + 1 }
  | .badFCV => { statistics with numBadFCV := statistics.numBadFCV + 1 }
  | .badFCB => { statistics with numBadFCB := statistics.numBadFCB + 1 }

/-- The memory is that of the buffer; user data is a slice of its front. -/
structure LinkLayerParser where
  statistics : ParserStatistics := {}
  header : LinkHeader := {}
  state : ParserState := .findSync
  frameSize : Nat := 0
  userData : Nat := 0
  buffer : ShiftableBuffer := { pBuffer := List.replicate 292 0 }
deriving DecidableEq, Repr

namespace LinkLayerParser

def count (parser : LinkLayerParser) (error : FrameError) : LinkLayerParser :=
  { parser with statistics := parser.statistics.count error }

/-- The error of a header whose function and flags do not go together. -/
def validateFunctionCode (header : LinkHeader) : Option FrameError :=
  if header.isPriToSec then
    match header.getFuncEnum with
    | .priConfirmedUserData | .priTestLinkStates =>
        if true != header.isFcvDfcSet then some .badFCV else none
    | .priRequestLinkStatus | .priResetLinkStates | .priUnconfirmedUserData =>
        if false != header.isFcvDfcSet then some .badFCV else none
    | .secAck | .secNack | .secLinkStatus | .secNotSupported | .invalid => some .badFunctionCode
  else
    match header.getFuncEnum with
    | .secAck | .secNack | .secLinkStatus | .secNotSupported =>
        if header.isFcbSet then some .badFCB else none
    | .priConfirmedUserData | .priTestLinkStates | .priRequestLinkStatus | .priResetLinkStates
    | .priUnconfirmedUserData | .invalid => some .badFunctionCode

def validateHeaderParameters (parser : LinkLayerParser) : Bool × LinkLayerParser :=
  if !parser.header.validLength then
    (false, parser.count .badLength)
  else
    match validateFunctionCode parser.header with
    | some error => (false, parser.count error)
    | none =>
        let userDataLength := parser.header.dataLength
        let parser := { parser with frameSize := LinkFrame.calcFrameSize userDataLength }
        let func := parser.header.getFuncEnum
        let hasPayload := decide (userDataLength > 0)
        let shouldHavePayload :=
          func == .priConfirmedUserData || func == .priUnconfirmedUserData
        if shouldHavePayload && !hasPayload then (false, parser.count .badLength)
        else if !shouldHavePayload && hasPayload then (false, parser.count .badLength)
        else (true, { parser with frameSize := LinkFrame.calcFrameSize userDataLength })

def readHeader (parser : LinkLayerParser) : Bool × LinkLayerParser :=
  let parser := { parser with header := .read parser.buffer.readBuffer }
  if CRC.isCorrectCRC parser.buffer.readBuffer 8 then parser.validateHeaderParameters
  else (false, parser.count .headerCrc)

def validateBody (parser : LinkLayerParser) : Bool × LinkLayerParser :=
  if LinkFrame.validateBodyCRC (parser.buffer.readBuffer.drop 10) parser.header.dataLength then
    (true, parser)
  else
    (false, parser.count .bodyCrc)

def transferUserData (parser : LinkLayerParser) : LinkLayerParser :=
  let len := parser.header.dataLength
  { parser with
    userData := len
    buffer :=
      { parser.buffer with
        pBuffer :=
          LinkFrame.readUserData parser.buffer.pBuffer (parser.buffer.readPos + 10) 0 len } }

/-- The bytes that have been read disappear with the next synchronization. -/
def failFrame (parser : LinkLayerParser) : LinkLayerParser :=
  { parser with buffer := parser.buffer.advanceRead 1 }

def pushFrame (parser : LinkLayerParser) : LinkFrame × LinkLayerParser :=
  (⟨parser.header.fields, parser.buffer.pBuffer.take parser.userData⟩,
    { parser with buffer := parser.buffer.advanceRead parser.frameSize })

def parseSync (parser : LinkLayerParser) : ParserState × LinkLayerParser :=
  if parser.buffer.numBytesRead ≥ 10 then
    let (synced, buffer) := parser.buffer.sync
    (if synced then .readHeader else .findSync, { parser with buffer })
  else
    (.findSync, parser)

def parseHeader (parser : LinkLayerParser) : ParserState × LinkLayerParser :=
  if parser.buffer.numBytesRead ≥ 10 then
    match parser.readHeader with
    | (true, parser) => (.readBody, parser)
    | (false, parser) => (.findSync, parser.failFrame)
  else
    (.readHeader, parser)

def parseBody (parser : LinkLayerParser) : ParserState × LinkLayerParser :=
  if parser.buffer.numBytesRead < parser.frameSize then
    (.readBody, parser)
  else
    match parser.validateBody with
    | (true, parser) => (.complete, parser.transferUserData)
    | (false, parser) => (.findSync, parser.failFrame)

def parseOneStep (parser : LinkLayerParser) : ParserState × LinkLayerParser :=
  match parser.state with
  | .findSync => parser.parseSync
  | .readHeader => parser.parseHeader
  | .readBody => parser.parseBody
  | .complete => (.complete, parser)

/-! A loop that has used up its fuel gives nothing. -/

def parseUntilComplete : Nat → LinkLayerParser → Option LinkLayerParser
  | 0, _ => none
  | fuel + 1, parser =>
      let lastState := parser.state
      let (state, parser) := parser.parseOneStep
      let parser := { parser with state }
      if state ≠ lastState then parseUntilComplete fuel parser else some parser

/-- The frames are those passed to the sink. -/
def pushFrames (fuel : Nat) : Nat → LinkLayerParser → Option (LinkLayerParser × List LinkFrame)
  | 0, _ => none
  | rounds + 1, parser =>
      (parseUntilComplete fuel parser).bind fun parser =>
        if parser.state = .complete then
          let statistics := { parser.statistics with
            numLinkFrameRx := parser.statistics.numLinkFrameRx + 1 }
          let (frame, parser) := { parser with statistics }.pushFrame
          (pushFrames fuel rounds { parser with state := .findSync }).map fun (parser, frames) =>
            (parser, frame :: frames)
        else
          some (parser, [])

def onRead (fuel : Nat) (parser : LinkLayerParser) (bytes : List UInt8) :
    Option (LinkLayerParser × List LinkFrame) :=
  (pushFrames fuel fuel { parser with buffer := parser.buffer.advanceWrite bytes }).map
    fun (parser, frames) => ({ parser with buffer := parser.buffer.shift }, frames)

/-- What one read after another passes to the sink. -/
def feed (fuel : Nat) : LinkLayerParser → List (List UInt8) →
    Option (LinkLayerParser × List LinkFrame)
  | parser, [] => some (parser, [])
  | parser, bytes :: reads =>
      (parser.onRead fuel bytes).bind fun (parser, frames) =>
        (feed fuel parser reads).map fun (parser, others) => (parser, frames ++ others)

/-- Each read fits the buffer that is offered for it. -/
def fits (fuel : Nat) : LinkLayerParser → List (List UInt8) → Bool
  | _, [] => true
  | parser, bytes :: reads =>
      decide (bytes.length ≤ parser.buffer.numWriteBytes) &&
        match parser.onRead fuel bytes with
        | none => true
        | some (parser, _) => fits fuel parser reads

end LinkLayerParser

end OpenDnp3.Link
