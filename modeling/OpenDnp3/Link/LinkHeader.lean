import OpenDnp3.Link.CRC
import OpenDnp3.Link.LinkContext

/-!
# Frames as bytes

The header of a frame, and the user data behind it in blocks that each end with a checksum.
-/

set_option autoImplicit false

namespace OpenDnp3.Link

open OpenDnp3.Library

namespace LinkFunction

def toType : LinkFunction → UInt8
  | .priResetLinkStates => 0x40
  | .priTestLinkStates => 0x42
  | .priConfirmedUserData => 0x43
  | .priUnconfirmedUserData => 0x44
  | .priRequestLinkStatus => 0x49
  | .secAck => 0x0
  | .secNack => 0x1
  | .secLinkStatus => 0xB
  | .secNotSupported => 0xF
  | .invalid => 0xFF

def fromType : UInt8 → LinkFunction
  | 0x40 => .priResetLinkStates
  | 0x42 => .priTestLinkStates
  | 0x43 => .priConfirmedUserData
  | 0x44 => .priUnconfirmedUserData
  | 0x49 => .priRequestLinkStatus
  | 0x0 => .secAck
  | 0x1 => .secNack
  | 0xB => .secLinkStatus
  | 0xF => .secNotSupported
  | _ => .invalid

/-- Whether frames with the function carry user data. -/
def hasPayload : LinkFunction → Bool
  | .priConfirmedUserData | .priUnconfirmedUserData => true
  | .priResetLinkStates | .priTestLinkStates | .priRequestLinkStatus | .secAck | .secNack
  | .secLinkStatus | .secNotSupported | .invalid => false

end LinkFunction

/-! ## Headers -/

structure LinkHeader where
  length : UInt8 := 5
  src : UInt16 := 0
  dest : UInt16 := 0
  ctrl : UInt8 := 0
deriving DecidableEq, Repr, Inhabited

namespace LinkHeader

def controlByte (isMaster fcb fcvDfc : Bool) (func : LinkFunction) : UInt8 :=
  let ret := func.toType
  let ret := if isMaster then ret ||| 0x80 else ret
  let ret := if fcb then ret ||| 0x20 else ret
  if fcvDfc then ret ||| 0x10 else ret

def isFromMaster (header : LinkHeader) : Bool := header.ctrl &&& 0x80 != 0

def isPriToSec (header : LinkHeader) : Bool := header.ctrl &&& 0x40 != 0

def isFcbSet (header : LinkHeader) : Bool := header.ctrl &&& 0x20 != 0

def isFcvDfcSet (header : LinkHeader) : Bool := header.ctrl &&& 0x10 != 0

def getFuncEnum (header : LinkHeader) : LinkFunction := .fromType (header.ctrl &&& 0x4F)

def validLength (header : LinkHeader) : Bool := decide (header.length > 4)

/-- Two bytes, the lower one first. -/
def readUInt16 (bytes : List UInt8) (index : Nat) : UInt16 :=
  UInt16.ofNat (leValue ((bytes.drop index).take 2))

def read (buff : List UInt8) : LinkHeader where
  length := buff.getD 2 0
  ctrl := buff.getD 3 0
  dest := readUInt16 buff 4
  src := readUInt16 buff 6

def write (header : LinkHeader) : List UInt8 :=
  CRC.addCrc ([0x05, 0x64, header.length, header.ctrl] ++
    leBytes 2 header.dest.toNat ++ leBytes 2 header.src.toNat)

/-- The fields that a frame sink is told. -/
def fields (header : LinkHeader) : LinkHeaderFields where
  func := header.getFuncEnum
  isFromMaster := header.isFromMaster
  fcb := header.isFcbSet
  fcvdfc := header.isFcvDfcSet
  dest := header.dest
  src := header.src

/-- How many bytes of user data the header announces. -/
def dataLength (header : LinkHeader) : Nat := header.length.toNat - 5

end LinkHeader

/-! ## Blocks -/

namespace LinkFrame

/-- How many blocks some bytes fill, the last of them perhaps in part. -/
def numBlocks (length : Nat) : Nat := (length + 15) / 16

/-- Each block with its checksum. -/
def writeBlocks : Nat → List UInt8 → List UInt8
  | 0, _ => []
  | blocks + 1, data => CRC.addCrc (data.take 16) ++ writeBlocks blocks (data.drop 16)

def writeUserData (data : List UInt8) : List UInt8 := writeBlocks (numBlocks data.length) data

def validateBlocks : Nat → List UInt8 → Nat → Bool
  | 0, _, _ => true
  | blocks + 1, body, length =>
      let num := min length 16
      CRC.isCorrectCRC body num && validateBlocks blocks (body.drop (num + 2)) (length - num)

def validateBodyCRC (body : List UInt8) (length : Nat) : Bool :=
  validateBlocks (numBlocks length) body length

def calcUserDataSize (dataLength : Nat) : Nat :=
  if dataLength > 0 then
    let mod16 := dataLength % 16
    let size := dataLength / 16 * 18
    if mod16 > 0 then size + mod16 + 2 else size
  else
    0

def calcFrameSize (dataLength : Nat) : Nat := 10 + calcUserDataSize dataLength

/-! ## Formatting -/

def formatNack (isMaster isRcvBuffFull : Bool) (dest src : UInt16) : LinkFrame :=
  ⟨⟨.secNack, isMaster, false, isRcvBuffFull, dest, src⟩, []⟩

def formatNotSupported (isMaster isRcvBuffFull : Bool) (dest src : UInt16) : LinkFrame :=
  ⟨⟨.secNotSupported, isMaster, false, isRcvBuffFull, dest, src⟩, []⟩

def formatTestLinkStatus (isMaster fcb : Bool) (dest src : UInt16) : LinkFrame :=
  ⟨⟨.priTestLinkStates, isMaster, fcb, true, dest, src⟩, []⟩

def formatHeader (dataLength : UInt8) (header : LinkHeaderFields) : List UInt8 :=
  LinkHeader.write
    { length := dataLength + 5
      src := header.src
      dest := header.dest
      ctrl := LinkHeader.controlByte header.isFromMaster header.fcb header.fcvdfc header.func }

/-- The bytes that formatting a frame writes. -/
def bytes (frame : LinkFrame) : List UInt8 :=
  formatHeader (UInt8.ofNat frame.userData.length) frame.header ++ writeUserData frame.userData

end LinkFrame

end OpenDnp3.Link
