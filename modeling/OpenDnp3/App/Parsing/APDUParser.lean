import OpenDnp3.App.Parsing.Headers

/-!
# APDU parser

Two passes over the object headers of a fragment: the first checks every header
against the white list, the second hands the headers to the handler.
-/

set_option autoImplicit false

namespace OpenDnp3.App

open OpenDnp3.Library

/-- The white list of a handler: which objects and qualifiers a header may have. -/
abbrev WhiteList := Nat → GroupVariation → QualifierCode → Bool

/-! ## Numbers -/

/-- A one or two byte unsigned integer parser. -/
inductive NumParser where
  | oneByte
  | twoByte
deriving DecidableEq, Repr

namespace NumParser

def numBytes : NumParser → Nat
  | .oneByte => 1
  | .twoByte => 2

/-- Read a number, from bytes that hold one. -/
def readNum (parser : NumParser) (bytes : List UInt8) : UInt16 × List UInt8 :=
  (UInt16.ofNat (leValue (bytes.take parser.numBytes)), bytes.drop parser.numBytes)

def parseCount (parser : NumParser) (bytes : List UInt8) :
    Except ParseError (UInt16 × List UInt8) :=
  if bytes.length < parser.numBytes then
    .error .notEnoughDataForRange
  else
    let (count, rest) := parser.readNum bytes
    if count = 0 then .error .countOfZero else .ok (count, rest)

def parseRange (parser : NumParser) (bytes : List UInt8) :
    Except ParseError (Range × List UInt8) :=
  if bytes.length < 2 * parser.numBytes then
    .error .notEnoughDataForRange
  else
    let (start, bytes) := parser.readNum bytes
    let (stop, rest) := parser.readNum bytes
    let range : Range := ⟨start, stop⟩
    if range.isValid then .ok (range, rest) else .error .badStartStop

end NumParser

/-! ## Collections of objects -/

/-- Read objects one after the other, the position in the collection beside each. -/
def readCollection {α : Type} (read : Nat → List UInt8 → α × List UInt8) :
    Nat → Nat → List UInt8 → List α
  | 0, _, _ => []
  | count + 1, pos, bytes =>
      let (value, rest) := read pos bytes
      value :: readCollection read count (pos + 1) rest

/-- Read an object, or leave it at its default. -/
def FixedSize.readTarget (object : FixedSize) (bytes : List UInt8) :
    object.type.Value × List UInt8 :=
  (object.codec.read bytes).getD (default, bytes)

def numBytesInBits (numBits : Nat) : Nat :=
  if numBits % 8 = 0 then numBits / 8 else numBits / 8 + 1

def getBit (bytes : List UInt8) (position : Nat) : Bool :=
  (bytes.getD (position / 8) 0).toNat.testBit (position % 8)

def numBytesInDoubleBits (numBits : Nat) : Nat :=
  if numBits % 4 = 0 then numBits / 4 else numBits / 4 + 1

def getDoubleBit (bytes : List UInt8) (index : Nat) : DoubleBit :=
  .fromType (UInt8.ofNat ((bytes.getD (index / 4) 0).toNat >>> (2 * (index % 4)) % 4))

/-- An octet string of a size at the front of the bytes. -/
def readOctets (size : Nat) (bytes : List UInt8) : OctetString × List UInt8 :=
  (.ofSlice (bytes.take size), bytes.drop size)

/-- Take what a header needs of the bytes. -/
def process (bytes : List UInt8) (requiredSize : Nat) (header : Header) :
    Except ParseError (Header × List UInt8) :=
  if bytes.length < requiredSize then
    .error .notEnoughDataForObjects
  else
    .ok (header, bytes.drop requiredSize)

/-! ## Headers by qualifier -/

namespace RangeParser

/-- Read an object; its index follows from its position in the range. -/
def readAt {α : Type} (range : Range) (read : Nat → List UInt8 → α × List UInt8) (pos : Nat)
    (bytes : List UInt8) : Indexed α × List UInt8 :=
  (⟨(read pos bytes).1, range.start + UInt16.ofNat pos⟩, (read pos bytes).2)

def fromFixedSize (object : FixedSize) (record : HeaderRecord) (range : Range)
    (bytes : List UInt8) : Except ParseError (Header × List UInt8) :=
  process bytes (range.count * object.codec.size)
    (.rangeOf record range object.type
      (readCollection (readAt range fun _ => object.readTarget) range.count 0 bytes))

def fromBitfieldType (type : ObjectType) (ofBit : Bool → type.Value) (record : HeaderRecord)
    (range : Range) (bytes : List UInt8) : Except ParseError (Header × List UInt8) :=
  process bytes (numBytesInBits range.count)
    (.rangeOf record range type (readCollection
      (readAt range fun pos bytes => (ofBit (getBit bytes pos), bytes)) range.count 0 bytes))

def fromDoubleBitfieldType (type : ObjectType) (ofBits : DoubleBit → type.Value)
    (record : HeaderRecord) (range : Range) (bytes : List UInt8) :
    Except ParseError (Header × List UInt8) :=
  process bytes (numBytesInDoubleBits range.count)
    (.rangeOf record range type (readCollection
      (readAt range fun pos bytes => (ofBits (getDoubleBit bytes pos), bytes))
      range.count 0 bytes))

def parseRangeOfOctetData (record : HeaderRecord) (range : Range) (bytes : List UInt8) :
    Except ParseError (Header × List UInt8) :=
  if 0 < record.variation then
    process bytes (record.variation.toNat * range.count)
      (.rangeOf record range .octetString (readCollection
        (readAt range fun _ => readOctets record.variation.toNat) range.count 0 bytes))
  else
    .error .invalidObject

variable [FloatOps]

def parseRangeOfObjects (record : HeaderRecord) (range : Range) (bytes : List UInt8) :
    Except ParseError (Header × List UInt8) :=
  match record.enumeration.rangeObjects with
  | some (.fixedSize object) => fromFixedSize object record range bytes
  | some (.bitfield type ofBit) => fromBitfieldType type ofBit record range bytes
  | some (.doubleBitfield type ofBits) => fromDoubleBitfieldType type ofBits record range bytes
  | some .octetData => parseRangeOfOctetData record range bytes
  | none => .error .invalidObjectQualifier

def parseHeader (parser : NumParser) (expectsContents : Bool) (record : HeaderRecord)
    (bytes : List UInt8) : Except ParseError (Header × List UInt8) :=
  match parser.parseRange bytes with
  | .error error => .error error
  | .ok (range, bytes) =>
      if expectsContents then parseRangeOfObjects record range bytes
      else .ok (.range record range, bytes)

end RangeParser

namespace CountParser

def parseCountOfObjects (record : HeaderRecord) (count : UInt16) (bytes : List UInt8) :
    Except ParseError (Header × List UInt8) :=
  match record.enumeration.countObjects with
  | some object =>
      process bytes (count.toNat * object.codec.size)
        (.countOf record count object.type
          (readCollection (fun _ bytes => object.readTarget bytes) count.toNat 0 bytes))
  | none => .error .invalidObjectQualifier

def parseHeader (parser : NumParser) (expectsContents : Bool) (record : HeaderRecord)
    (bytes : List UInt8) : Except ParseError (Header × List UInt8) :=
  match parser.parseCount bytes with
  | .error error => .error error
  | .ok (count, bytes) =>
      if expectsContents then parseCountOfObjects record count bytes
      else .ok (.count record count, bytes)

end CountParser

namespace CountIndexParser

/-- Read an index, then an object. -/
def readIndexed {α : Type} (parser : NumParser) (read : List UInt8 → α × List UInt8)
    (bytes : List UInt8) : Indexed α × List UInt8 :=
  let (index, bytes) := parser.readNum bytes
  (⟨(read bytes).1, index⟩, (read bytes).2)

def fromFixedSize (object : FixedSize) (parser : NumParser) (record : HeaderRecord)
    (count : UInt16) (bytes : List UInt8) : Except ParseError (Header × List UInt8) :=
  process bytes (count.toNat * (object.codec.size + parser.numBytes))
    (.prefixOf record count object.type (readCollection
      (fun _ => readIndexed parser object.readTarget) count.toNat 0 bytes))

def parseIndexPrefixedOctetData (parser : NumParser) (record : HeaderRecord) (count : UInt16)
    (bytes : List UInt8) : Except ParseError (Header × List UInt8) :=
  if record.variation = 0 then
    .error .invalidObject
  else
    process bytes (count.toNat * (parser.numBytes + record.variation.toNat))
      (.prefixOf record count .octetString (readCollection
        (fun _ => readIndexed parser (readOctets record.variation.toNat)) count.toNat 0 bytes))

variable [FloatOps]

def parseCountOfObjects (parser : NumParser) (record : HeaderRecord) (count : UInt16)
    (bytes : List UInt8) : Except ParseError (Header × List UInt8) :=
  match record.enumeration.prefixObjects with
  | some (.fixedSize object) => fromFixedSize object parser record count bytes
  | some .octetData => parseIndexPrefixedOctetData parser record count bytes
  | none => .error .invalidObjectQualifier

def parseHeader (parser : NumParser) (record : HeaderRecord) (bytes : List UInt8) :
    Except ParseError (Header × List UInt8) :=
  match parser.parseCount bytes with
  | .error error => .error error
  | .ok (count, bytes) => parseCountOfObjects parser record count bytes

end CountIndexParser

namespace FreeFormatParser

/-- Cut fields of the given lengths off the front. -/
def readFields : List Nat → List UInt8 → List (List UInt8) × List UInt8
  | [], bytes => ([], bytes)
  | length :: lengths, bytes =>
      let (fields, rest) := readFields lengths (bytes.drop length)
      (bytes.take length :: fields, rest)

/-- All the length prefixes stand before the fields. -/
def readPrefixFields (numFields : Nat) (bytes : List UInt8) :
    Option (List (List UInt8) × List UInt8) :=
  if bytes.length < numFields * 2 then
    none
  else
    let lengths := readCollection (fun _ bytes => (leValue (bytes.take 2), bytes.drop 2))
      numFields 0 bytes
    let bytes := bytes.drop (numFields * 2)
    if bytes.length < lengths.sum then none else some (readFields lengths bytes)

def readObject (format : FreeFormat) (bytes : List UInt8) : Option FreeFormatObject :=
  if bytes.length < format.fixedSize + format.numFields * 2 then
    none
  else
    match readPrefixFields format.numFields (bytes.drop format.fixedSize) with
    | none => none
    | some (fields, rest) =>
        if format.hasRemainder || rest.isEmpty then
          some ⟨bytes.take format.fixedSize, fields, rest⟩
        else
          none

def parseHeader (record : HeaderRecord) (bytes : List UInt8) :
    Except ParseError (Header × List UInt8) :=
  if bytes.length < 3 then
    .error .notEnoughDataForHeader
  else
    let count := leValue (bytes.take 1)
    let size := leValue ((bytes.drop 1).take 2)
    let bytes := bytes.drop 3
    if count ≠ 1 then
      .error .unreasonableObjectCount
    else if bytes.length < size then
      .error .notEnoughDataForObjects
    else
      match record.enumeration.freeFormat with
      | none => .error .invalidObjectQualifier
      | some format =>
          match readObject format (bytes.take size) with
          | none => .error .notEnoughDataForObjects
          | some object => .ok (.freeFormat record object, bytes.drop size)

end FreeFormatParser

namespace APDUParser

variable [FloatOps]

def parseQualifier (expectsContents : Bool) (record : HeaderRecord) (bytes : List UInt8) :
    Except ParseError (Header × List UInt8) :=
  match record.getQualifierCode with
  | .allObjects => .ok (.allObjects record, bytes)
  | .uint8Cnt => CountParser.parseHeader .oneByte expectsContents record bytes
  | .uint16Cnt => CountParser.parseHeader .twoByte expectsContents record bytes
  | .uint8StartStop => RangeParser.parseHeader .oneByte expectsContents record bytes
  | .uint16StartStop => RangeParser.parseHeader .twoByte expectsContents record bytes
  | .uint8CntUint8Index => CountIndexParser.parseHeader .oneByte record bytes
  | .uint16CntUint16Index => CountIndexParser.parseHeader .twoByte record bytes
  | .uint16FreeFormat => FreeFormatParser.parseHeader record bytes
  | .undefined => .error .unknownQualifier

def parseHeader (expectsContents : Bool) (whiteList : Option WhiteList) (headerIndex : Nat) :
    List UInt8 → Except ParseError (Header × List UInt8)
  | group :: variation :: qualifier :: bytes =>
      let record := GroupVariationRecord.getRecord group variation
      if record.enumeration = .unknown then
        .error .unknownObject
      else if whiteList.any
          (fun isAllowed => !isAllowed headerIndex record.enumeration (.fromType qualifier)) then
        .error .notOnWhitelist
      else
        parseQualifier expectsContents ⟨record, qualifier, headerIndex⟩ bytes
  | _ => .error .notEnoughDataForHeader

/-- Parse headers until the bytes are used up. A header takes three bytes at least, so the
number of bytes is fuel enough. -/
def parseHeaders (expectsContents : Bool) (whiteList : Option WhiteList) :
    Nat → Nat → List UInt8 → Except ParseError (List Header)
  | 0, _, _ => .ok []
  | fuel + 1, headerIndex, bytes =>
      if bytes.isEmpty then
        .ok []
      else
        match parseHeader expectsContents whiteList headerIndex bytes with
        | .error error => .error error
        | .ok (header, rest) =>
            match parseHeaders expectsContents whiteList fuel (headerIndex + 1) rest with
            | .error error => .error error
            | .ok headers => .ok (header :: headers)

def parseSinglePass (expectsContents : Bool) (whiteList : Option WhiteList)
    (bytes : List UInt8) : Except ParseError (List Header) :=
  parseHeaders expectsContents whiteList bytes.length 0 bytes

/-- The headers that the handler gets: none of them unless every one parses and is allowed. -/
def parse (expectsContents : Bool) (isAllowed : WhiteList) (bytes : List UInt8) :
    Except ParseError (List Header) :=
  match parseSinglePass expectsContents (some isAllowed) bytes with
  | .error error => .error error
  | .ok _ => parseSinglePass expectsContents none bytes

/-- The headers handed to the handler, and the error that stopped the pass. A header is handed
over as soon as it is parsed. -/
def handleHeaders (expectsContents : Bool) (whiteList : Option WhiteList) (hasHandler : Bool) :
    Nat → Nat → List UInt8 → List Header × Option ParseError
  | 0, _, _ => ([], none)
  | fuel + 1, headerIndex, bytes =>
      if bytes.isEmpty then
        ([], none)
      else
        match parseHeader expectsContents whiteList headerIndex bytes with
        | .error error => ([], some error)
        | .ok (header, rest) =>
            let (others, result) :=
              handleHeaders expectsContents whiteList hasHandler fuel (headerIndex + 1) rest
            (if hasHandler then header :: others else others, result)

/-- The first pass has the white list and no handler, the second the handler and no white list. -/
def handle (expectsContents : Bool) (isAllowed : WhiteList) (bytes : List UInt8) :
    List Header × Option ParseError :=
  let (first, result) :=
    handleHeaders expectsContents (some isAllowed) false bytes.length 0 bytes
  match result with
  | some error => (first, some error)
  | none =>
      let (second, result) := handleHeaders expectsContents none true bytes.length 0 bytes
      (first ++ second, result)

end APDUParser

end OpenDnp3.App
