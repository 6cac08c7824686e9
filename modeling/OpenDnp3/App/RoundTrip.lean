import OpenDnp3.App.HeaderWriter
import OpenDnp3.App.Parsing.APDUParser
import Mathlib.Data.List.Flatten

/-!
# Round trips of headers

The bytes of a header as a function of what it carries, and the header that the
parser reads from them, whatever follows them.
-/

set_option autoImplicit false

namespace OpenDnp3.App

open OpenDnp3.Library

/-! ## Sequences of headers -/

section parses

variable [FloatOps]

/-- Bytes that parse to headers, the first of them with the given index. -/
inductive Parses (expectsContents : Bool) : Nat → List UInt8 → List Header → Prop
  | nil {index : Nat} : Parses expectsContents index [] []
  | cons {index : Nat} {bytes rest : List UInt8} {header : Header} {headers : List Header}
      (first : ∀ after, APDUParser.parseHeader expectsContents none index (bytes ++ after) =
        .ok (header, after))
      (others : Parses expectsContents (index + 1) rest headers) :
      Parses expectsContents index (bytes ++ rest) (header :: headers)

theorem Parses.one {expectsContents : Bool} {index : Nat} {bytes : List UInt8} {header : Header}
    (first : ∀ after, APDUParser.parseHeader expectsContents none index (bytes ++ after) =
      .ok (header, after)) : Parses expectsContents index bytes [header] := by
  simpa using Parses.cons first .nil

theorem Parses.append {expectsContents : Bool} {index : Nat} {bytes others : List UInt8}
    {headers more : List Header} (first : Parses expectsContents index bytes headers)
    (second : Parses expectsContents (index + headers.length) others more) :
    Parses expectsContents index (bytes ++ others) (headers ++ more) := by
  induction first with
  | nil => exact second
  | cons first _ ih =>
      rw [List.append_assoc]
      refine .cons first (ih ?_)
      rwa [List.length_cons, Nat.add_comm _ 1, ← Nat.add_assoc] at second

/-- A handler that allows every header has no say. -/
theorem parseHeader_allowAll (expectsContents : Bool) (index : Nat) (bytes : List UInt8) :
    APDUParser.parseHeader expectsContents (some fun _ _ _ => true) index bytes =
      APDUParser.parseHeader expectsContents none index bytes := by
  unfold APDUParser.parseHeader
  split <;> simp

theorem parseHeaders_allowAll (expectsContents : Bool) (fuel index : Nat) (bytes : List UInt8) :
    APDUParser.parseHeaders expectsContents (some fun _ _ _ => true) fuel index bytes =
      APDUParser.parseHeaders expectsContents none fuel index bytes := by
  induction fuel generalizing index bytes with
  | zero => rfl
  | succ fuel ih => simp only [APDUParser.parseHeaders, parseHeader_allowAll, ih]

theorem ne_nil_of_parseHeader {expectsContents : Bool} {index : Nat}
    {bytes after : List UInt8} {header : Header}
    (success : APDUParser.parseHeader expectsContents none index bytes = .ok (header, after)) :
    bytes ≠ [] := by
  rintro rfl
  simp [APDUParser.parseHeader] at success

theorem Parses.parseHeaders {expectsContents : Bool} {index : Nat} {bytes : List UInt8}
    {headers : List Header} (parses : Parses expectsContents index bytes headers) :
    ∀ fuel, bytes.length ≤ fuel →
      APDUParser.parseHeaders expectsContents none fuel index bytes = .ok headers := by
  induction parses with
  | nil =>
      intro fuel _
      cases fuel <;> simp [APDUParser.parseHeaders]
  | @cons index bytes rest header headers first _ ih =>
      intro fuel enough
      have nonempty : bytes ≠ [] := by
        simpa using ne_nil_of_parseHeader (by simpa using first [])
      have longer := List.length_pos_iff.mpr nonempty
      rw [List.length_append] at enough
      cases fuel with
      | zero => omega
      | succ fuel =>
          simp [APDUParser.parseHeaders, first, ih fuel (by omega), nonempty]

/-- Bytes that parse header by header are parsed by both passes. -/
theorem Parses.parse {expectsContents : Bool} {bytes : List UInt8} {headers : List Header}
    (parses : Parses expectsContents 0 bytes headers) :
    APDUParser.parse expectsContents (fun _ _ _ => true) bytes = .ok headers := by
  simp only [APDUParser.parse, APDUParser.parseSinglePass, parseHeaders_allowAll,
    parses.parseHeaders bytes.length (Nat.le_refl _)]

end parses

/-! ## Parts of a header -/

/-- The record that the parser makes of an id, a qualifier and a position. -/
def recordOf (id : GroupVariationID) (code : QualifierCode) (index : Nat) : HeaderRecord :=
  ⟨.getRecord id.group id.variation, code.toType, index⟩

@[simp] theorem getQualifierCode_recordOf (id : GroupVariationID) (code : QualifierCode)
    (index : Nat) : (recordOf id code index).getQualifierCode = code :=
  QualifierCode.fromType_toType code

@[simp] theorem enumeration_recordOf (id : GroupVariationID) (code : QualifierCode)
    (index : Nat) :
    (recordOf id code index).enumeration =
      GroupVariationRecord.getEnumeration id.group id.variation := rfl

@[simp] theorem variation_recordOf (id : GroupVariationID) (code : QualifierCode)
    (index : Nat) : (recordOf id code index).variation = id.variation := rfl

/-- What an id is known as. -/
def GroupVariationID.enumeration (id : GroupVariationID) : GroupVariation :=
  GroupVariationRecord.getEnumeration id.group id.variation

theorem parseHeader_headerBytes [FloatOps] {id : GroupVariationID}
    (known : id.enumeration ≠ .unknown) (expectsContents : Bool) (code : QualifierCode)
    (index : Nat) (bytes : List UInt8) :
    APDUParser.parseHeader expectsContents none index
      (HeaderWriter.headerBytes id code ++ bytes) =
      APDUParser.parseQualifier expectsContents (recordOf id code index) bytes := by
  have isKnown : ¬(GroupVariationRecord.getRecord id.group id.variation).enumeration = .unknown :=
    known
  simp only [HeaderWriter.headerBytes, List.cons_append, List.nil_append, APDUParser.parseHeader,
    if_neg isKnown, Option.any_none, Bool.false_eq_true, if_false]
  rfl

/-- The parser that reads what an index type writes. -/
def IndexType.parser : IndexType → NumParser
  | .uint8 => .oneByte
  | .uint16 => .twoByte

@[simp] theorem numBytes_eq_size (type : IndexType) : type.parser.numBytes = type.size := by
  cases type <;> rfl

theorem IndexType.max_lt (type : IndexType) : type.max + 1 = 256 ^ type.size := by
  cases type <;> rfl

@[simp] theorem readNum_bytes (type : IndexType) {value : Nat} (fits : value ≤ type.max)
    (rest : List UInt8) :
    type.parser.readNum (type.bytes value ++ rest) = (UInt16.ofNat value, rest) := by
  have width := type.max_lt
  rw [NumParser.readNum, numBytes_eq_size, List.take_left' (type.length_bytes value),
    List.drop_left' (type.length_bytes value), IndexType.bytes, leValue_leBytes,
    Nat.mod_eq_of_lt (by omega)]

theorem parseCount_bytes (type : IndexType) {value : Nat} (positive : 0 < value)
    (fits : value ≤ type.max) (rest : List UInt8) :
    type.parser.parseCount (type.bytes value ++ rest) = .ok (UInt16.ofNat value, rest) := by
  have long : ¬(type.bytes value ++ rest).length < type.parser.numBytes := by simp
  have below : value < 65536 := by cases type <;> simp [IndexType.max] at fits <;> omega
  have nonzero : UInt16.ofNat value ≠ 0 := by
    rw [Ne, ← UInt16.toNat_inj, UInt16.toNat_ofNat', UInt16.toNat_zero]
    omega
  rw [NumParser.parseCount, if_neg long, readNum_bytes type fits]
  exact if_neg nonzero

theorem parseRange_bytes (type : IndexType) {start stop : Nat} (ordered : start ≤ stop)
    (fits : stop ≤ type.max) (rest : List UInt8) :
    type.parser.parseRange (type.bytes start ++ (type.bytes stop ++ rest)) =
      .ok (⟨UInt16.ofNat start, UInt16.ofNat stop⟩, rest) := by
  have long : ¬(type.bytes start ++ (type.bytes stop ++ rest)).length <
      2 * type.parser.numBytes := by
    simp only [List.length_append, IndexType.length_bytes, numBytes_eq_size]
    omega
  have below : stop < 65536 := by cases type <;> simp [IndexType.max] at fits <;> omega
  have valid : (⟨UInt16.ofNat start, UInt16.ofNat stop⟩ : Range).isValid = true := by
    rw [Range.isValid, decide_eq_true_eq, UInt16.le_iff_toNat_le, UInt16.toNat_ofNat',
      UInt16.toNat_ofNat', Nat.mod_eq_of_lt below, Nat.mod_eq_of_lt (by omega)]
    exact ordered
  rw [NumParser.parseRange, if_neg long, readNum_bytes type (by omega)]
  simp only [readNum_bytes type fits, valid, if_true]

/-- Objects are read back in the order they were written. -/
theorem readCollection_flatMap {α β : Type} {read : Nat → List UInt8 → α × List UInt8}
    {encode : β → List UInt8} {decode : Nat → β → α} :
    ∀ (values : List β) (pos : Nat) (rest : List UInt8),
      (∀ pos, ∀ value ∈ values, ∀ rest, read pos (encode value ++ rest) = (decode pos value, rest)) →
      readCollection read values.length pos (values.flatMap encode ++ rest) =
        (values.zipIdx pos).map (fun entry => decode entry.2 entry.1)
  | [], _, _, _ => rfl
  | value :: values, pos, rest, reads => by
      have others := readCollection_flatMap values (pos + 1) rest fun pos value member =>
        reads pos value (List.mem_cons_of_mem _ member)
      simp only [List.flatMap_cons, List.append_assoc, List.length_cons, readCollection,
        reads pos value List.mem_cons_self, List.zipIdx_cons, List.map_cons, others]

/-- Objects whose position does not matter. -/
theorem readCollection_map {α β : Type} {read : List UInt8 → α × List UInt8}
    {encode : β → List UInt8} {decode : β → α} (values : List β) (rest : List UInt8)
    (reads : ∀ value ∈ values, ∀ rest, read (encode value ++ rest) = (decode value, rest)) :
    readCollection (fun _ => read) values.length 0 (values.flatMap encode ++ rest) =
      values.map decode := by
  rw [readCollection_flatMap values 0 rest fun _ => reads]
  exact (List.map_map.symm.trans (congrArg (List.map decode) (List.zipIdx_map_fst 0 values)))

theorem process_of_length {bytes rest : List UInt8} {size : Nat} (header : Header)
    (length : bytes.length = size) : process (bytes ++ rest) size header = .ok (header, rest) := by
  rw [process, if_neg (by simp [length]), List.drop_left' length]

theorem length_flatMap_const {α : Type} {encode : α → List UInt8} {size : Nat} (values : List α)
    (sized : ∀ value ∈ values, (encode value).length = size) :
    (values.flatMap encode).length = values.length * size := by
  induction values with
  | nil => simp
  | cons value values ih =>
      rw [List.flatMap_cons, List.length_append, sized value List.mem_cons_self,
        ih fun value member => sized value (List.mem_cons_of_mem _ member), List.length_cons,
        Nat.succ_mul, Nat.add_comm]

/-! ## Headers with a count -/

theorem FixedSize.readTarget_write (object : FixedSize) (value : object.type.Value)
    (rest : List UInt8) :
    object.readTarget (object.codec.write value ++ rest) = (object.codec.kept value, rest) := by
  rw [FixedSize.readTarget, object.codec.read_write]
  rfl

/-- A header with one object and no index. -/
theorem parseHeader_single [FloatOps] {id : GroupVariationID} (object : FixedSize)
    (known : id.enumeration.countObjects = some object) (index : Nat)
    (value : object.type.Value) (after : List UInt8) :
    APDUParser.parseHeader true none index
      (HeaderWriter.headerBytes id .uint8Cnt ++ IndexType.uint8.bytes 1 ++
        object.codec.write value ++ after) =
      .ok (.countOf (recordOf id .uint8Cnt index) 1 object.type [object.codec.kept value],
        after) := by
  have isKnown : id.enumeration ≠ .unknown := by
    intro unknown
    rw [unknown] at known
    cases known
  have objects : (recordOf id .uint8Cnt index).enumeration.countObjects = some object := known
  simp only [List.append_assoc]
  rw [parseHeader_headerBytes isKnown, APDUParser.parseQualifier, getQualifierCode_recordOf]
  change CountParser.parseHeader IndexType.uint8.parser true _ _ = _
  rw [CountParser.parseHeader, parseCount_bytes .uint8 (by decide) (by decide)]
  simp only [if_true, CountParser.parseCountOfObjects, objects]
  rw [process_of_length _ (by rw [object.codec.length_write]; exact (Nat.one_mul _).symm)]
  change Except.ok (Header.countOf _ _ _ (readCollection _ 1 0 _), after) = _
  simp only [readCollection, object.readTarget_write]
  rfl

/-- The bytes of a header with index prefixes. -/
def prefixedBytes {α : Type} (type : IndexType) (serializer : DNP3Serializer α)
    (entries : List (Indexed α)) : List UInt8 :=
  HeaderWriter.headerBytes serializer.id type.countIndex ++ type.bytes entries.length ++
    entries.flatMap fun entry => type.bytes entry.index.toNat ++ serializer.write entry.value

theorem IndexType.max_lt_two_pow (type : IndexType) : type.max < 65536 := by
  cases type <;> decide

/-- An octet string is read back when its size is known. -/
theorem readOctets_bytes {data : OctetString} {size : Nat} (positive : 0 < size)
    (sized : data.size = size) (rest : List UInt8) :
    readOctets size (data.bytes ++ rest) = (data, rest) := by
  have length : data.bytes.length = size := sized
  rw [readOctets, List.take_left' length, List.drop_left' length,
    OctetString.ofSlice_of_size_pos data (sized ▸ positive)]

/-- An index and an object are read back. -/
theorem readIndexed_bytes {α : Type} {read : List UInt8 → α × List UInt8} {bytes : List UInt8}
    {value : α} (reads : ∀ rest, read (bytes ++ rest) = (value, rest)) {type : IndexType}
    {index : UInt16} (small : index.toNat ≤ type.max) (rest : List UInt8) :
    CountIndexParser.readIndexed type.parser read
      (type.bytes index.toNat ++ bytes ++ rest) = (⟨value, index⟩, rest) := by
  have number := readNum_bytes type small (bytes ++ rest)
  rw [UInt16.ofNat_toNat] at number
  rw [CountIndexParser.readIndexed, List.append_assoc]
  simp only [number, reads]

section prefixed

variable [FloatOps]

private theorem parseHeader_prefixed {α : Type} (type : IndexType)
    (serializer : DNP3Serializer α)
    (known : serializer.id.enumeration ≠ .unknown) {entries : List (Indexed α)}
    (nonempty : entries ≠ []) (fits : entries.length ≤ type.max) (index : Nat)
    (after : List UInt8) :
    APDUParser.parseHeader true none index (prefixedBytes type serializer entries ++ after) =
      CountIndexParser.parseCountOfObjects type.parser
        (recordOf serializer.id type.countIndex index) (UInt16.ofNat entries.length)
        ((entries.flatMap fun entry =>
          type.bytes entry.index.toNat ++ serializer.write entry.value) ++ after) := by
  have qualifier : APDUParser.parseQualifier true (recordOf serializer.id type.countIndex index) =
      CountIndexParser.parseHeader type.parser
        (recordOf serializer.id type.countIndex index) := by
    funext bytes
    rw [APDUParser.parseQualifier, getQualifierCode_recordOf]
    cases type <;> rfl
  rw [prefixedBytes, List.append_assoc, List.append_assoc, parseHeader_headerBytes known,
    qualifier, CountIndexParser.parseHeader, parseCount_bytes type
      (List.length_pos_iff.mpr nonempty) fits]

private theorem known_of_prefixObjects {id : GroupVariationID} {objects : PrefixObjects}
    (known : id.enumeration.prefixObjects = some objects) : id.enumeration ≠ .unknown := by
  intro unknown
  have none : id.enumeration.prefixObjects = none := by rw [unknown]; rfl
  exact absurd (none.symm.trans known) (Option.some_ne_none _).symm

/-- Objects of a fixed size with index prefixes. -/
theorem parseHeader_prefixedObjects (type : IndexType) {id : GroupVariationID}
    (object : FixedSize) (known : id.enumeration.prefixObjects = some (.fixedSize object))
    {entries : List (Indexed object.type.Value)} (nonempty : entries ≠ [])
    (fits : entries.length ≤ type.max)
    (small : ∀ entry ∈ entries, entry.index.toNat ≤ type.max) (index : Nat)
    (after : List UInt8) :
    APDUParser.parseHeader true none index
      (prefixedBytes type ⟨id, object.codec.size, object.codec.write⟩ entries ++ after) =
      .ok (.prefixOf (recordOf id type.countIndex index) (UInt16.ofNat entries.length)
        object.type (entries.map fun entry => ⟨object.codec.kept entry.value, entry.index⟩),
        after) := by
  have objects : (recordOf id type.countIndex index).enumeration.prefixObjects =
      some (.fixedSize object) := known
  have sized : ∀ entry ∈ entries, (type.bytes entry.index.toNat ++
      object.codec.write entry.value).length = object.codec.size + type.parser.numBytes := by
    intro entry _
    rw [List.length_append, IndexType.length_bytes, object.codec.length_write, Nat.add_comm,
      numBytes_eq_size]
  rw [parseHeader_prefixed type ⟨id, object.codec.size, object.codec.write⟩
    (known_of_prefixObjects known) nonempty fits]
  simp only [CountIndexParser.parseCountOfObjects, objects, CountIndexParser.fromFixedSize]
  rw [UInt16.toNat_ofNat_of_lt' (Nat.lt_of_le_of_lt fits type.max_lt_two_pow),
    process_of_length _ (length_flatMap_const entries sized),
    readCollection_map entries after fun entry member rest =>
      readIndexed_bytes (object.readTarget_write entry.value) (small entry member) rest]

/-- Every index fits in two bytes. -/
theorem parseHeader_twoByteObjects {id : GroupVariationID} (object : FixedSize)
    (known : id.enumeration.prefixObjects = some (.fixedSize object))
    {entries : List (Indexed object.type.Value)} (nonempty : entries ≠ [])
    (fits : entries.length < 65536) (index : Nat) (after : List UInt8) :
    APDUParser.parseHeader true none index
      (prefixedBytes .uint16 ⟨id, object.codec.size, object.codec.write⟩ entries ++ after) =
      .ok (.prefixOf (recordOf id .uint16CntUint16Index index) (UInt16.ofNat entries.length)
        object.type (entries.map fun entry => ⟨object.codec.kept entry.value, entry.index⟩),
        after) :=
  parseHeader_prefixedObjects .uint16 object known nonempty (Nat.le_of_lt_succ fits)
    (fun entry _ => Nat.le_of_lt_succ entry.index.toNat_lt) index after

/-- Octet strings without a byte are refused, with index prefixes too. -/
theorem parseHeader_prefixedOctets_empty {entries : List (Indexed OctetString)}
    (nonempty : entries ≠ []) (fits : entries.length < 65536) (index : Nat)
    (after : List UInt8) :
    APDUParser.parseHeader true none index
      (prefixedBytes .uint16 (octetStringSerializer true 0) entries ++ after) =
      .error .invalidObject := by
  have known : (⟨111, 0⟩ : GroupVariationID).enumeration.prefixObjects = some .octetData := rfl
  rw [parseHeader_prefixed .uint16 (octetStringSerializer true 0)
    (known_of_prefixObjects known) nonempty (Nat.le_of_lt_succ fits)]
  rfl

/-- Octet strings of one size with index prefixes; the size is the variation. -/
theorem parseHeader_prefixedOctets {size : UInt8} (positive : 0 < size)
    {entries : List (Indexed OctetString)} (nonempty : entries ≠ [])
    (sizes : ∀ entry ∈ entries, entry.value.size = size.toNat)
    (fits : entries.length < 65536) (index : Nat) (after : List UInt8) :
    APDUParser.parseHeader true none index
      (prefixedBytes .uint16 (octetStringSerializer true size) entries ++ after) =
      .ok (.prefixOf (recordOf ⟨111, size⟩ .uint16CntUint16Index index)
        (UInt16.ofNat entries.length) .octetString entries, after) := by
  have known : (⟨111, size⟩ : GroupVariationID).enumeration.prefixObjects = some .octetData := by
    rw [GroupVariationID.enumeration,
      GroupVariationRecord.getEnumeration_octetString (.inr ⟨rfl, rfl⟩)]
    rfl
  have objects : (recordOf ⟨111, size⟩ IndexType.uint16.countIndex index).enumeration.prefixObjects =
      some .octetData := known
  have sized : ∀ entry ∈ entries, (IndexType.uint16.bytes entry.index.toNat ++
      entry.value.bytes).length = IndexType.uint16.parser.numBytes + size.toNat := by
    intro entry member
    rw [List.length_append, IndexType.length_bytes]
    exact congrArg (2 + ·) (sizes entry member)
  have nonzero : ¬size = 0 := by
    rintro rfl
    exact absurd positive (by decide)
  have size_pos : 0 < size.toNat := UInt8.lt_iff_toNat_lt.mp positive
  rw [parseHeader_prefixed .uint16 (octetStringSerializer true size)
    (known_of_prefixObjects known) nonempty (Nat.le_of_lt_succ fits)]
  simp only [CountIndexParser.parseCountOfObjects, octetStringSerializer, if_true, objects,
    CountIndexParser.parseIndexPrefixedOctetData, variation_recordOf, if_neg nonzero]
  rw [UInt16.toNat_ofNat_of_lt' fits,
    process_of_length _ (length_flatMap_const entries sized),
    readCollection_map entries after fun entry member rest =>
      readIndexed_bytes (readOctets_bytes size_pos (sizes entry member))
        (Nat.le_of_lt_succ entry.index.toNat_lt) rest,
    List.map_id']
  rfl

end prefixed

end OpenDnp3.App
