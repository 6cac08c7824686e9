import OpenDnp3.App.HeaderWriterProperties
import Mathlib.Data.List.GetD

/-!
# Ranges, written and read back

What the range iterators write is a header with a start and a stop, and the
parser makes of it the values that were written, with consecutive indices.
-/

set_option autoImplicit false

namespace OpenDnp3.App

open OpenDnp3.Library

/-- Values at consecutive indices. -/
def indexed {α : Type} (start : Nat) (values : List α) : List (Indexed α) :=
  (values.zipIdx start).map fun entry => ⟨entry.1, UInt16.ofNat entry.2⟩

@[simp] theorem indexed_nil {α : Type} (start : Nat) : indexed start ([] : List α) = [] := rfl

@[simp] theorem indexed_cons {α : Type} (start : Nat) (value : α) (values : List α) :
    indexed start (value :: values) = ⟨value, UInt16.ofNat start⟩ :: indexed (start + 1) values :=
  rfl

/-- The bytes of a header with a range, and its objects. -/
def rangeBytes (id : GroupVariationID) (type : IndexType) (start count : Nat)
    (objects : List UInt8) : List UInt8 :=
  HeaderWriter.headerBytes id type.startStop ++ type.bytes start ++
    type.bytes (start + count - 1) ++ objects

/-- The range of a number of consecutive indices. -/
def rangeFrom (start count : Nat) : Range :=
  ⟨UInt16.ofNat start, UInt16.ofNat (start + count - 1)⟩

theorem IndexType.max_le (type : IndexType) : type.max ≤ 65535 := by
  cases type <;> decide

theorem count_rangeFrom {start count : Nat} (positive : 0 < count)
    (fits : start + count ≤ 65536) : (rangeFrom start count).count = count := by
  have first : (UInt16.ofNat start).toNat = start :=
    UInt16.toNat_ofNat_of_lt' (show start < 65536 by omega)
  have last : (UInt16.ofNat (start + count - 1)).toNat = start + count - 1 :=
    UInt16.toNat_ofNat_of_lt' (show start + count - 1 < 65536 by omega)
  have valid : (rangeFrom start count).isValid = true := by
    rw [Range.isValid, decide_eq_true_eq, UInt16.le_iff_toNat_le, rangeFrom, first, last]
    omega
  rw [Range.count, if_pos valid, rangeFrom, first, last]
  omega

private theorem indexed_of_zipIdx {α β : Type} (decode : β → α) (start : Nat) :
    ∀ (values : List β) (pos : Nat),
      (values.zipIdx pos).map (fun entry =>
        (⟨decode entry.1, UInt16.ofNat start + UInt16.ofNat entry.2⟩ : Indexed α)) =
        indexed (start + pos) (values.map decode)
  | [], _ => rfl
  | value :: values, pos => by
      rw [List.zipIdx_cons, List.map_cons, indexed_of_zipIdx decode start values (pos + 1),
        List.map_cons, indexed_cons, UInt16.ofNat_add, Nat.add_assoc]

section parsing

variable [FloatOps]

theorem parseHeader_range {id : GroupVariationID} (known : id.enumeration ≠ .unknown)
    (type : IndexType) {start count : Nat} (positive : 0 < count)
    (fits : start + count ≤ type.max + 1) (index : Nat) (objects after : List UInt8) :
    APDUParser.parseHeader true none index (rangeBytes id type start count objects ++ after) =
      RangeParser.parseRangeOfObjects (recordOf id type.startStop index) (rangeFrom start count)
        (objects ++ after) := by
  have parsed := parseRange_bytes type (show start ≤ start + count - 1 by omega)
    (show start + count - 1 ≤ type.max by omega) (objects ++ after)
  have read : APDUParser.parseQualifier true (recordOf id type.startStop index)
      (type.bytes start ++ (type.bytes (start + count - 1) ++ (objects ++ after))) =
      RangeParser.parseHeader type.parser true (recordOf id type.startStop index)
        (type.bytes start ++ (type.bytes (start + count - 1) ++ (objects ++ after))) := by
    rw [APDUParser.parseQualifier, getQualifierCode_recordOf]
    cases type <;> rfl
  simp only [rangeBytes, List.append_assoc]
  rw [parseHeader_headerBytes known, read, RangeParser.parseHeader, parsed]
  rfl

private theorem known_of_rangeObjects {id : GroupVariationID} {objects : RangeObjects}
    (known : id.enumeration.rangeObjects = some objects) : id.enumeration ≠ .unknown := by
  intro unknown
  rw [unknown] at known
  cases known

/-- Objects of a fixed size with consecutive indices. -/
theorem parseHeader_rangeObjects {id : GroupVariationID} (object : FixedSize)
    (known : id.enumeration.rangeObjects = some (.fixedSize object)) (type : IndexType)
    {start : Nat} {values : List object.type.Value} (nonempty : values ≠ [])
    (fits : start + values.length ≤ type.max + 1) (index : Nat) (after : List UInt8) :
    APDUParser.parseHeader true none index
      (rangeBytes id type start values.length (values.flatMap object.codec.write) ++ after) =
      .ok (.rangeOf (recordOf id type.startStop index) (rangeFrom start values.length)
        object.type (indexed start (values.map object.codec.kept)), after) := by
  have positive := List.length_pos_iff.mpr nonempty
  have objects : (recordOf id type.startStop index).enumeration.rangeObjects =
      some (.fixedSize object) := known
  have count := count_rangeFrom positive (Nat.le_trans fits (Nat.succ_le_succ type.max_le))
  have length : (values.flatMap object.codec.write).length =
      (rangeFrom start values.length).count * object.codec.size := by
    rw [count]
    exact length_flatMap_const values fun value _ => object.codec.length_write value
  rw [parseHeader_range (known_of_rangeObjects known) type positive fits]
  simp only [RangeParser.parseRangeOfObjects, objects, RangeParser.fromFixedSize]
  rw [process_of_length _ length, count,
    @readCollection_flatMap _ _ _ _ (fun pos value =>
      ⟨object.codec.kept value, UInt16.ofNat start + UInt16.ofNat pos⟩) values 0 after]
  · rw [indexed_of_zipIdx]
    rfl
  · intro pos value _ rest
    simp only [RangeParser.readAt, object.readTarget_write]
    rfl

/-- Octet strings without a byte are refused. -/
theorem parseHeader_rangeOctets_empty (type : IndexType) {start count : Nat}
    (positive : 0 < count) (fits : start + count ≤ type.max + 1) (index : Nat)
    (objects after : List UInt8) :
    APDUParser.parseHeader true none index
      (rangeBytes ⟨110, 0⟩ type start count objects ++ after) = .error .invalidObject := by
  have known : (⟨110, 0⟩ : GroupVariationID).enumeration.rangeObjects = some .octetData := rfl
  rw [parseHeader_range (known_of_rangeObjects known) type positive fits]
  cases type <;> rfl

/-- Octet strings of one size with consecutive indices; the size is the variation. -/
theorem parseHeader_rangeOctets {size : UInt8} (positive : 0 < size) (type : IndexType)
    {start : Nat} {values : List OctetString} (nonempty : values ≠ [])
    (sizes : ∀ value ∈ values, value.size = size.toNat)
    (fits : start + values.length ≤ type.max + 1) (index : Nat) (after : List UInt8) :
    APDUParser.parseHeader true none index
      (rangeBytes ⟨110, size⟩ type start values.length (values.flatMap OctetString.bytes) ++ after) =
      .ok (.rangeOf (recordOf ⟨110, size⟩ type.startStop index) (rangeFrom start values.length)
        .octetString (indexed start values), after) := by
  have known : (⟨110, size⟩ : GroupVariationID).enumeration.rangeObjects = some .octetData := by
    rw [GroupVariationID.enumeration,
      GroupVariationRecord.getEnumeration_octetString (.inl ⟨rfl, rfl⟩)]
    rfl
  have objects : (recordOf ⟨110, size⟩ type.startStop index).enumeration.rangeObjects =
      some .octetData := known
  have count := count_rangeFrom (List.length_pos_iff.mpr nonempty)
    (Nat.le_trans fits (Nat.succ_le_succ type.max_le))
  have length : (values.flatMap OctetString.bytes).length =
      size.toNat * (rangeFrom start values.length).count := by
    rw [count, Nat.mul_comm]
    exact length_flatMap_const values sizes
  rw [parseHeader_range (known_of_rangeObjects known) type (List.length_pos_iff.mpr nonempty) fits]
  have present : 0 < (recordOf ⟨110, size⟩ type.startStop index).variation := by
    rwa [variation_recordOf]
  simp only [RangeParser.parseRangeOfObjects, objects, RangeParser.parseRangeOfOctetData]
  rw [if_pos present, variation_recordOf, process_of_length _ length, count,
    @readCollection_flatMap _ _ _ _ (fun pos value =>
      ⟨value, UInt16.ofNat start + UInt16.ofNat pos⟩) values 0 after]
  · rw [indexed_of_zipIdx (fun value => value), List.map_id']
    rfl
  · intro pos value member rest
    simp only [RangeParser.readAt,
      readOctets_bytes (UInt8.lt_iff_toNat_lt.mp positive) (sizes value member)]
    rfl

end parsing

/-! ## Bits -/

/-- Bytes that hold bits from the first byte's lowest bit on. -/
def Packs (bytes : List UInt8) (bits : List Bool) : Prop :=
  ∀ position bit, bits[position]? = some bit → getBit bytes position = bit

theorem getBit_append {bytes : List UInt8} {position : Nat}
    (inside : position < 8 * bytes.length) (after : List UInt8) :
    getBit (bytes ++ after) position = getBit bytes position := by
  rw [getBit, getBit, List.getD_append _ _ _ _ (by omega)]

theorem le_numBytesInBits (count : Nat) : count ≤ 8 * numBytesInBits count := by
  rw [numBytesInBits]
  split <;> omega

theorem Packs.append {bytes : List UInt8} {bits : List Bool} (packs : Packs bytes bits)
    (length : bits.length ≤ 8 * bytes.length) (after : List UInt8) :
    Packs (bytes ++ after) bits := by
  intro position bit found
  have inside : position < bits.length := (List.getElem?_eq_some_iff.mp found).1
  rw [getBit_append (by omega)]
  exact packs position bit found

private theorem readCollection_bits {α : Type} (bytes : List UInt8) (start : Nat)
    (decode : Bool → α) :
    ∀ (bits : List Bool) (pos : Nat),
      (∀ offset bit, bits[offset]? = some bit → getBit bytes (pos + offset) = bit) →
      readCollection (fun pos bytes =>
        ((⟨decode (getBit bytes pos), UInt16.ofNat start + UInt16.ofNat pos⟩ : Indexed α), bytes))
        bits.length pos bytes = indexed (start + pos) (bits.map decode)
  | [], _, _ => rfl
  | bit :: bits, pos, packed => by
      have first : getBit bytes pos = bit := packed 0 bit rfl
      have others := readCollection_bits bytes start decode bits (pos + 1) (by
        intro offset other found
        rw [Nat.add_assoc, Nat.add_comm 1 offset]
        exact packed (offset + 1) other found)
      rw [List.length_cons, readCollection]
      simp only [others, first, List.map_cons, indexed_cons, UInt16.ofNat_add]
      rw [Nat.add_assoc]

/-- Bits with consecutive indices. -/
theorem parseHeader_rangeBits [FloatOps] {id : GroupVariationID} {type : ObjectType}
    {ofBit : Bool → type.Value} (known : id.enumeration.rangeObjects = some (.bitfield type ofBit))
    (indexType : IndexType) {start : Nat} {bits : List Bool} (nonempty : bits ≠ [])
    (fits : start + bits.length ≤ indexType.max + 1) {bytes : List UInt8}
    (packs : Packs bytes bits) (length : bytes.length = numBytesInBits bits.length)
    (index : Nat) (after : List UInt8) :
    APDUParser.parseHeader true none index
      (rangeBytes id indexType start bits.length bytes ++ after) =
      .ok (.rangeOf (recordOf id indexType.startStop index) (rangeFrom start bits.length) type
        (indexed start (bits.map ofBit)), after) := by
  have positive := List.length_pos_iff.mpr nonempty
  have objects : (recordOf id indexType.startStop index).enumeration.rangeObjects =
      some (.bitfield type ofBit) := known
  have count := count_rangeFrom positive (Nat.le_trans fits (Nat.succ_le_succ indexType.max_le))
  have room : bits.length ≤ 8 * bytes.length := by
    rw [length]
    exact le_numBytesInBits bits.length
  have read := readCollection_bits (bytes ++ after) start ofBit bits 0 (by
    intro offset bit found
    rw [Nat.zero_add]
    exact packs.append room after offset bit found)
  rw [parseHeader_range (known_of_rangeObjects known) indexType positive fits]
  simp only [RangeParser.parseRangeOfObjects, objects, RangeParser.fromBitfieldType]
  rw [process_of_length _ (by rw [count]; exact length), count]
  exact congrArg (fun values => Except.ok (Header.rangeOf _ _ type values, after)) read

/-! ## Range iterator -/

namespace RangeWriteIterator

variable {α : Type}

/-- A valid iterator with the values written so far. -/
structure Holds (iterator : RangeWriteIterator α) (position : Cursor) (origin : List UInt8)
    (type : IndexType) (start : Nat) (serializer : DNP3Serializer α) (values : List α) : Prop where
  isValid : iterator.isValid = true
  hasType : iterator.type = type
  hasStart : iterator.start = start
  serializes : iterator.serializer = serializer
  count : iterator.count = values.length
  offset : iterator.stopOffset = origin.length + (3 + type.size)
  written : ∃ room, room.length = type.size ∧
    position.written = origin ++ HeaderWriter.headerBytes serializer.id type.startStop ++
      type.bytes start ++ room ++ values.flatMap serializer.write

variable {iterator : RangeWriteIterator α} {position : Cursor} {origin : List UInt8}
  {type : IndexType} {start : Nat} {serializer : DNP3Serializer α} {values : List α}

theorem Holds.write (holds : iterator.Holds position origin type start serializer values)
    {after : RangeWriteIterator α × Cursor} {value : α}
    (success : iterator.write position value = some after) :
    after.1.Holds after.2 origin type start serializer (values ++ [value]) := by
  unfold RangeWriteIterator.write at success
  split at success
  · obtain ⟨room, length, written⟩ := holds.written
    obtain rfl := (Option.some.inj success).symm
    refine ⟨holds.isValid, holds.hasType, holds.hasStart, holds.serializes, ?_, holds.offset, room,
      length, ?_⟩
    · rw [holds.count, List.length_append, List.length_singleton]
    · simp [written, holds.serializes, List.append_assoc]
  · cases success

/-- The destructor completes the header. -/
theorem Holds.finish (holds : iterator.Holds position origin type start serializer values)
    (nonempty : values ≠ []) :
    (iterator.finish position).written = origin ++
      rangeBytes serializer.id type start values.length (values.flatMap serializer.write) := by
  obtain ⟨room, length, written⟩ := holds.written
  have counted : iterator.isValid ∧ 0 < iterator.count := by
    rw [holds.count]
    exact ⟨holds.isValid, List.length_pos_iff.mpr nonempty⟩
  have patched := Cursor.patch_written
    (origin ++ HeaderWriter.headerBytes serializer.id type.startStop ++ type.bytes start) room
    (values.flatMap serializer.write) position.rest
    (show (type.bytes (start + values.length - 1)).length = room.length by
      rw [IndexType.length_bytes, length])
  rw [List.length_append, List.length_append, HeaderWriter.length_headerBytes,
    IndexType.length_bytes, Nat.add_assoc] at patched
  have split : position = ⟨origin ++ HeaderWriter.headerBytes serializer.id type.startStop ++
      type.bytes start ++ room ++ values.flatMap serializer.write, position.rest⟩ := by
    rw [← written]
  rw [RangeWriteIterator.finish, if_pos counted, holds.hasType, holds.hasStart, holds.count,
    holds.offset, split, patched, rangeBytes]
  simp only [List.append_assoc]

theorem write_of_invalid (invalid : iterator.isValid = false) (value : α) :
    iterator.write position value = none := by
  rw [RangeWriteIterator.write, if_neg]
  rw [invalid]
  rintro ⟨valid, _⟩
  cases valid

theorem finish_of_invalid (invalid : iterator.isValid = false) :
    iterator.finish position = position := by
  rw [RangeWriteIterator.finish, if_neg]
  rw [invalid]
  rintro ⟨valid, _⟩
  cases valid

end RangeWriteIterator

/-! ## Bitfield iterator -/

theorem length_bytes_of_bits {count : Nat} {bytes : List UInt8} (fits : count ≤ 8 * bytes.length) :
    (bytes.take (numBytesInBits count)).length = numBytesInBits count := by
  rw [List.length_take, numBytesInBits]
  split <;> omega

private theorem getBit_set {bytes : List UInt8} {byte : Nat} (inside : byte < bytes.length)
    (value : UInt8) (position : Nat) :
    getBit (bytes.set byte value) position =
      if position / 8 = byte then value.toNat.testBit (position % 8) else getBit bytes position := by
  rw [getBit, getBit]
  by_cases same : position / 8 = byte
  · subst same
    rw [if_pos rfl, List.getD_eq_getElem _ _ (by rwa [List.length_set]), List.getElem_set_self]
  · rw [if_neg same, List.getD_eq_getElem?_getD, List.getElem?_set_ne (fun other => same other.symm),
      ← List.getD_eq_getElem?_getD]

private theorem testBit_or_bit {bit : Nat} (small : bit < 8) (byte : UInt8) (position : Nat) :
    (byte ||| UInt8.ofNat (1 <<< bit)).toNat.testBit position =
      (byte.toNat.testBit position || decide (bit = position)) := by
  have below : 2 ^ bit < 256 := Nat.pow_lt_pow_right (by decide) small
  rw [UInt8.toNat_or, Nat.testBit_or, UInt8.toNat_ofNat', Nat.one_shiftLeft,
    Nat.mod_eq_of_lt below, Nat.testBit_two_pow]

namespace BitfieldRangeWriteIterator

/-- A valid iterator with the bits written so far. They stand behind the position, and the bits
behind them are clear up to the end of their last byte. -/
structure Holds (iterator : BitfieldRangeWriteIterator) (position : Cursor)
    (origin : List UInt8) (id : GroupVariationID) (type : IndexType) (start : Nat)
    (bits : List Bool) : Prop where
  isValid : iterator.isValid = true
  hasType : iterator.type = type
  hasStart : iterator.start = start
  count : iterator.count = bits.length % 256 ^ type.size
  maxCount : iterator.maxCount = 8 * position.size
  offset : iterator.stopOffset = origin.length + (3 + type.size)
  written : ∃ room, room.length = type.size ∧
    position.written = origin ++ HeaderWriter.headerBytes id type.startStop ++
      type.bytes start ++ room
  fits : bits.length ≤ 8 * position.size
  packs : Packs position.rest bits
  clear : ∀ bit, bits.length ≤ bit → bit < 8 * ((bits.length + 7) / 8) →
    getBit position.rest bit = false

variable {iterator : BitfieldRangeWriteIterator} {position : Cursor} {origin : List UInt8}
  {id : GroupVariationID} {type : IndexType} {start : Nat} {bits : List Bool}

/-- The first bit of a byte clears it. -/
private def clearByte (bytes : List UInt8) (count : Nat) : List UInt8 :=
  if count % 8 = 0 then bytes.set (count / 8) 0 else bytes

private def pokeBit (bytes : List UInt8) (count : Nat) (value : Bool) : List UInt8 :=
  if value then
    bytes.set (count / 8) (bytes.getD (count / 8) 0 ||| UInt8.ofNat (1 <<< (count % 8)))
  else
    bytes

private theorem length_clearByte (bytes : List UInt8) (count : Nat) :
    (clearByte bytes count).length = bytes.length := by
  rw [clearByte]
  split
  · exact List.length_set
  · rfl

private theorem length_pokeBit (bytes : List UInt8) (count : Nat) (value : Bool) :
    (pokeBit bytes count value).length = bytes.length := by
  rw [pokeBit]
  split
  · exact List.length_set
  · rfl

private theorem getBit_clearByte {bytes : List UInt8} {count : Nat}
    (inside : count / 8 < bytes.length) (position : Nat) :
    getBit (clearByte bytes count) position =
      if position / 8 = count / 8 ∧ count % 8 = 0 then false else getBit bytes position := by
  rw [clearByte]
  by_cases fresh : count % 8 = 0
  · rw [if_pos fresh, getBit_set inside, UInt8.toNat_zero, Nat.zero_testBit]
    by_cases same : position / 8 = count / 8
    · rw [if_pos same, if_pos ⟨same, fresh⟩]
    · rw [if_neg same, if_neg fun both => same both.1]
  · rw [if_neg fresh, if_neg fun both => fresh both.2]

private theorem getBit_pokeBit {bytes : List UInt8} {count : Nat}
    (inside : count / 8 < bytes.length) (clear : getBit bytes count = false) (value : Bool)
    (position : Nat) :
    getBit (pokeBit bytes count value) position =
      if position = count then value else getBit bytes position := by
  have small : count % 8 < 8 := Nat.mod_lt _ (by decide)
  cases value with
  | false =>
      change getBit bytes position = _
      split
      · rename_i same
        rw [same, clear]
      · rfl
  | true =>
      change getBit (bytes.set _ _) position = _
      rw [getBit_set inside, testBit_or_bit small]
      by_cases sameByte : position / 8 = count / 8
      · by_cases same : position = count
        · rw [if_pos sameByte, if_pos same, same, decide_eq_true rfl, Bool.or_true]
        · have other : ¬count % 8 = position % 8 := by omega
          rw [if_pos sameByte, if_neg same, decide_eq_false other, Bool.or_false, getBit, sameByte]
      · have other : ¬position = count := fun same => sameByte (by rw [same])
        rw [if_neg sameByte, if_neg other]

private theorem write_eq_some {after : BitfieldRangeWriteIterator × Cursor} {value : Bool}
    (success : iterator.write position value = some after) :
    iterator.count < iterator.maxCount ∧ after =
      ({ iterator with count := (iterator.count + 1) % 256 ^ iterator.type.size },
        { position with
          rest := pokeBit (clearByte position.rest iterator.count) iterator.count value }) := by
  unfold BitfieldRangeWriteIterator.write at success
  split at success
  · rename_i allowed
    refine ⟨allowed.2, (Option.some.inj success).symm.trans ?_⟩
    cases value <;> by_cases fresh : iterator.count % 8 = 0 <;>
      simp [pokeBit, clearByte, Cursor.poke, fresh]
  · cases success

/-- As long as the count does not wrap, a write adds a bit. -/
theorem Holds.write (holds : iterator.Holds position origin id type start bits)
    (small : bits.length < 256 ^ type.size) {after : BitfieldRangeWriteIterator × Cursor}
    {value : Bool} (success : iterator.write position value = some after) :
    after.1.Holds after.2 origin id type start (bits ++ [value]) ∧
      after.2.size = position.size := by
  obtain ⟨room, rfl⟩ := write_eq_some success
  have count : iterator.count = bits.length := by
    rw [holds.count, Nat.mod_eq_of_lt small]
  rw [count, holds.maxCount] at room
  have inside : bits.length / 8 < position.rest.length := by
    change bits.length < 8 * position.rest.length at room
    omega
  have cleared := getBit_clearByte inside
  have clear : getBit (clearByte position.rest bits.length) bits.length = false := by
    rw [cleared]
    split
    · rfl
    · exact holds.clear bits.length (Nat.le_refl _) (by omega)
  have written := getBit_pokeBit (by rwa [length_clearByte]) clear value
  have size : (pokeBit (clearByte position.rest bits.length) bits.length value).length =
      position.rest.length := by
    rw [length_pokeBit, length_clearByte]
  simp only [count]
  refine ⟨⟨holds.isValid, holds.hasType, holds.hasStart, ?_, ?_, holds.offset, holds.written, ?_,
    ?_, ?_⟩, size⟩
  · rw [List.length_append, List.length_singleton, holds.hasType]
  · rw [holds.maxCount]
    exact congrArg (8 * ·) size.symm
  · rw [List.length_append, List.length_singleton]
    exact Nat.le_trans room (Nat.le_of_eq (congrArg (8 * ·) size.symm))
  · intro index bit found
    rw [written]
    by_cases last : index = bits.length
    · rw [if_pos last]
      rw [last, List.getElem?_append_right (Nat.le_refl _), Nat.sub_self] at found
      exact Option.some.inj found
    · have before : index < bits.length := by
        have := (List.getElem?_eq_some_iff.mp found).1
        rw [List.length_append, List.length_singleton] at this
        omega
      rw [List.getElem?_append_left before] at found
      rw [if_neg last, cleared, if_neg (by omega)]
      exact holds.packs index bit found
  · intro index behind before
    rw [List.length_append, List.length_singleton] at behind before
    rw [written, if_neg (by omega), cleared]
    split
    · rfl
    · exact holds.clear index (by omega) (by omega)

/-- The destructor completes the header and moves behind the bits, unless the count has
wrapped. -/
theorem Holds.finish (holds : iterator.Holds position origin id type start bits)
    (nonempty : bits ≠ []) (small : bits.length < 256 ^ type.size) :
    ∃ bytes, Packs bytes bits ∧ bytes.length = numBytesInBits bits.length ∧
      (iterator.finish position).written =
        origin ++ rangeBytes id type start bits.length bytes := by
  obtain ⟨room, length, written⟩ := holds.written
  have count : iterator.count = bits.length := by
    rw [holds.count, Nat.mod_eq_of_lt small]
  have counted : iterator.isValid ∧ 0 < iterator.count := by
    rw [count]
    exact ⟨holds.isValid, List.length_pos_iff.mpr nonempty⟩
  have numBytes : iterator.numBytes = numBytesInBits bits.length := by
    rw [numBytesInBits, BitfieldRangeWriteIterator.numBytes, count]
    split <;> split <;> omega
  have taken : (position.rest.take (numBytesInBits bits.length)).length =
      numBytesInBits bits.length := length_bytes_of_bits holds.fits
  refine ⟨position.rest.take (numBytesInBits bits.length), ?_, taken, ?_⟩
  · intro index bit found
    have inside := (List.getElem?_eq_some_iff.mp found).1
    have enough := le_numBytesInBits bits.length
    have front := getBit_append
      (show index < 8 * (position.rest.take (numBytesInBits bits.length)).length by omega)
      (position.rest.drop (numBytesInBits bits.length))
    rw [← holds.packs index bit found, ← front, List.take_append_drop]
  · have patched := Cursor.patch_written
      (origin ++ HeaderWriter.headerBytes id type.startStop ++ type.bytes start) room []
      position.rest (show (type.bytes (start + bits.length - 1)).length = room.length by
        rw [IndexType.length_bytes, length])
    rw [List.length_append, List.length_append, HeaderWriter.length_headerBytes,
      IndexType.length_bytes, Nat.add_assoc, List.append_nil, List.append_nil] at patched
    have split : position = ⟨origin ++ HeaderWriter.headerBytes id type.startStop ++
        type.bytes start ++ room, position.rest⟩ := by
      rw [← written]
    rw [← split] at patched
    rw [BitfieldRangeWriteIterator.finish, if_pos counted, numBytes, holds.hasType,
      holds.hasStart, count, holds.offset, patched]
    simp only [Cursor.advance, rangeBytes, List.append_assoc]

/-- Once the count has wrapped to zero, the destructor leaves the bits out. -/
theorem Holds.finish_of_wrapped (holds : iterator.Holds position origin id type start bits)
    (wrapped : bits.length % 256 ^ type.size = 0) : iterator.finish position = position := by
  rw [BitfieldRangeWriteIterator.finish, if_neg]
  rw [holds.count, wrapped]
  rintro ⟨_, positive⟩
  cases positive

theorem write_of_invalid (invalid : iterator.isValid = false) (value : Bool) :
    iterator.write position value = none := by
  rw [BitfieldRangeWriteIterator.write, if_neg]
  rw [invalid]
  rintro ⟨valid, _⟩
  cases valid

theorem finish_of_invalid (invalid : iterator.isValid = false) :
    iterator.finish position = position := by
  rw [BitfieldRangeWriteIterator.finish, if_neg]
  rw [invalid]
  rintro ⟨valid, _⟩
  cases valid

end BitfieldRangeWriteIterator

/-! ## New iterators -/

namespace HeaderWriter

variable {α : Type}

/-- What a range iterator and its writer are like when they are made. -/
structure RangeStart (before : List UInt8) (type : IndexType) (start : Nat)
    (serializer : DNP3Serializer α) (made : RangeWriteIterator α × HeaderWriter) : Prop where
  holds : made.1.Holds made.2.position before type start serializer []
  room : ∀ value, (made.1.write made.2.position value).isSome = true

/-- A range iterator is valid and has room for an object, or there was no space for a header
with one. -/
theorem iterateOverRange_cases (writer : HeaderWriter) (type : IndexType)
    (serializer : DNP3Serializer α) (start : Nat) {made : RangeWriteIterator α × HeaderWriter}
    (result : writer.iterateOverRange type type.startStop serializer start = made) :
    (made.1.isValid = false ∧ made.2 = writer ∧
        writer.remaining < 3 + (2 * type.size + serializer.size)) ∨
      RangeStart writer.position.written type start serializer made := by
  subst result
  rw [iterateOverRange]
  cases header : writer.writeHeaderWithReserve serializer.id type.startStop
      (2 * type.size + serializer.size) with
  | none => exact .inl ⟨rfl, rfl, writeHeaderWithReserve_eq_none header⟩
  | some after =>
      obtain ⟨enough, rfl⟩ := writeHeaderWithReserve_eq_some header
      simp only [remaining] at enough
      have room : 2 * type.size ≤
          (writer.position.put (headerBytes serializer.id type.startStop)).size := by
        rw [Cursor.size_put, length_headerBytes]
        omega
      have behind : type.size ≤ ((writer.position.put
          (headerBytes serializer.id type.startStop)).put (type.bytes start)).size := by
        rw [Cursor.size_put, IndexType.length_bytes]
        omega
      simp only [RangeWriteIterator.create, if_pos room]
      refine .inr ⟨⟨rfl, rfl, rfl, rfl, rfl, ?_,
        ⟨((writer.position.put (headerBytes serializer.id type.startStop)).put
          (type.bytes start)).rest.take type.size, ?_, ?_⟩⟩, fun value => ?_⟩
      · simp [Nat.add_assoc]
      · rw [List.length_take]
        exact Nat.min_eq_left behind
      · rw [Cursor.advance_eq_put _ _ behind]
        simp
      · have objects : serializer.size ≤ (((writer.position.put
            (headerBytes serializer.id type.startStop)).put (type.bytes start)).advance
              type.size).size := by
          rw [Cursor.size_advance, Cursor.size_put, Cursor.size_put, length_headerBytes,
            IndexType.length_bytes]
          omega
        rw [RangeWriteIterator.write, if_pos ⟨rfl, objects, Nat.zero_le _⟩]
        rfl

/-- What a bitfield iterator and its writer are like when they are made. -/
structure BitfieldStart (writer : HeaderWriter) (id : GroupVariationID) (type : IndexType)
    (start : Nat) (made : BitfieldRangeWriteIterator × HeaderWriter) : Prop where
  holds : made.1.Holds made.2.position writer.position.written id type start []
  size : made.2.position.size + (3 + 2 * type.size) = writer.remaining
  room : ∀ value, (made.1.write made.2.position value).isSome = true

/-- A bitfield iterator is valid and has room for a bit, or there was no space for a header
with one. -/
theorem iterateOverSingleBitfield_cases (writer : HeaderWriter) (type : IndexType)
    (id : GroupVariationID) (start : Nat) {made : BitfieldRangeWriteIterator × HeaderWriter}
    (result : writer.iterateOverSingleBitfield type id type.startStop start = made) :
    (made.1.isValid = false ∧ made.2 = writer ∧ writer.remaining < 3 + (2 * type.size + 1)) ∨
      BitfieldStart writer id type start made := by
  subst result
  rw [iterateOverSingleBitfield]
  cases header : writer.writeHeaderWithReserve id type.startStop (2 * type.size + 1) with
  | none => exact .inl ⟨rfl, rfl, writeHeaderWithReserve_eq_none header⟩
  | some after =>
      obtain ⟨enough, rfl⟩ := writeHeaderWithReserve_eq_some header
      rw [remaining] at enough
      have room : 2 * type.size ≤
          (writer.position.put (headerBytes id type.startStop)).size := by
        rw [Cursor.size_put, length_headerBytes]
        omega
      have behind : type.size ≤ ((writer.position.put
          (headerBytes id type.startStop)).put (type.bytes start)).size := by
        rw [Cursor.size_put, IndexType.length_bytes]
        omega
      have size : (((writer.position.put (headerBytes id type.startStop)).put
          (type.bytes start)).advance type.size).size + (3 + 2 * type.size) =
          writer.position.size := by
        rw [Cursor.size_advance, Cursor.size_put, Cursor.size_put, length_headerBytes,
          IndexType.length_bytes]
        omega
      have positive : 0 < (((writer.position.put (headerBytes id type.startStop)).put
          (type.bytes start)).advance type.size).size := by
        omega
      simp only [BitfieldRangeWriteIterator.create, if_pos room]
      refine .inr ⟨⟨rfl, rfl, rfl, (Nat.zero_mod _).symm, Nat.mul_comm _ _, ?_,
        ⟨((writer.position.put (headerBytes id type.startStop)).put
          (type.bytes start)).rest.take type.size, ?_, ?_⟩, Nat.zero_le _, ?_, ?_⟩, size, fun value => ?_⟩
      · simp [Nat.add_assoc]
      · rw [List.length_take]
        exact Nat.min_eq_left behind
      · rw [Cursor.advance_eq_put _ _ behind]
        simp
      · intro position bit found
        cases found
      · intro bit _ inside
        exact absurd inside (Nat.not_lt_zero bit)
      · rw [BitfieldRangeWriteIterator.write, if_pos ⟨rfl, Nat.mul_pos positive (by decide)⟩]
        rfl

end HeaderWriter

end OpenDnp3.App
