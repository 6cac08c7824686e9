import OpenDnp3.Library.Bursts
import OpenDnp3.Link.CRC
import Mathlib.Data.List.GetD
import Mathlib.Data.List.Nodup

/-!
# Properties of the CRC

The high bytes of the table are all different, so that every update can be undone.
A block that ends in its checksum leaves one and the same remainder.
-/

set_option autoImplicit false

namespace OpenDnp3.Link

open OpenDnp3.Library

namespace CRC

/-! ## Words and their bytes -/

theorem toNat_high (word : UInt16) : (word >>> 8).toNat = word.toNat / 256 := by
  rw [UInt16.toNat_shiftRight]
  exact Nat.shiftRight_eq_div_pow ..

theorem toNat_low (word : UInt16) : (word &&& 0xFF).toNat = word.toNat % 256 := by
  rw [UInt16.toNat_and]
  exact Nat.and_two_pow_sub_one_eq_mod _ 8

theorem eq_of_bytes {one two : UInt16} (low : one &&& 0xFF = two &&& 0xFF)
    (high : one >>> 8 = two >>> 8) : one = two := by
  have lowNat := congrArg UInt16.toNat low
  have highNat := congrArg UInt16.toNat high
  rw [toNat_low, toNat_low] at lowNat
  rw [toNat_high, toNat_high] at highNat
  exact UInt16.toNat_inj.mp (by omega)

theorem high_byte (byte : UInt8) : byte.toUInt16 >>> 8 = 0 := by
  have bound := byte.toNat_lt
  apply UInt16.toNat_inj.mp
  rw [toNat_high, UInt8.toNat_toUInt16]
  exact Nat.div_eq_of_lt bound

theorem high_high (word : UInt16) : word >>> 8 >>> 8 = 0 := by
  have bound := word.toNat_lt
  apply UInt16.toNat_inj.mp
  rw [toNat_high, toNat_high, UInt16.toNat_zero]
  omega

/-! ## Updates -/

/-- The remainder of a word, a byte of which is shifted out. -/
def remainder (word : UInt16) : UInt16 := crcTable.getD (word &&& 0xFF).toNat 0 ^^^ word >>> 8

theorem update_eq (crc : UInt16) (byte : UInt8) :
    update crc byte = remainder (crc ^^^ byte.toUInt16) := by
  rw [remainder, UInt16.shiftRight_xor, high_byte, UInt16.xor_zero]
  rfl

/-- The high bytes of the table. -/
def highTable : List UInt16 := crcTable.map fun entry : UInt16 => entry >>> 8

theorem length_highTable : highTable.length = 256 := by decide +kernel

theorem nodup_highTable : highTable.Nodup := by decide +kernel

theorem high_getD (index : Nat) : crcTable.getD index 0 >>> 8 = highTable.getD index 0 :=
  (List.getD_map crcTable 0 fun entry : UInt16 => entry >>> 8).symm

/-- The table tells low bytes apart by the high byte of its entry. -/
theorem low_eq_of_high_entry {one two : UInt16}
    (same : crcTable.getD (one &&& 0xFF).toNat 0 >>> 8 = crcTable.getD (two &&& 0xFF).toNat 0 >>> 8) :
    one &&& 0xFF = two &&& 0xFF := by
  have bound : ∀ word : UInt16, (word &&& 0xFF).toNat < highTable.length := by
    intro word
    rw [toNat_low, length_highTable]
    exact Nat.mod_lt _ (by decide)
  rw [high_getD, high_getD, List.getD_eq_getElem _ _ (bound one),
    List.getD_eq_getElem _ _ (bound two)] at same
  exact UInt16.toNat_inj.mp (nodup_highTable.getElem_inj_iff.mp same)

theorem high_remainder (word : UInt16) :
    remainder word >>> 8 = crcTable.getD (word &&& 0xFF).toNat 0 >>> 8 := by
  rw [remainder, UInt16.shiftRight_xor, high_high, UInt16.xor_zero]

theorem remainder_injective : Function.Injective remainder := by
  intro one two same
  have high := congrArg (fun word : UInt16 => word >>> 8) same
  simp only [high_remainder] at high
  have low := low_eq_of_high_entry high
  rw [remainder, remainder, low, UInt16.xor_right_inj] at same
  exact eq_of_bytes low same

theorem separates_update : Separates update where
  states := by
    intro byte one two same
    simp only [update_eq] at same
    exact (UInt16.xor_left_inj _).mp (remainder_injective same)
  pairs := by
    intro crc first second other another same
    simp only [update_eq] at same
    have words := remainder_injective same
    have high := congrArg (fun word : UInt16 => word >>> 8) words
    simp only [UInt16.shiftRight_xor, high_byte, UInt16.xor_zero, high_remainder] at high
    have word : crc ^^^ first.toUInt16 = crc ^^^ other.toUInt16 := by
      refine eq_of_bytes (low_eq_of_high_entry high) ?_
      rw [UInt16.shiftRight_xor, UInt16.shiftRight_xor, high_byte, high_byte]
    obtain rfl := UInt8.toUInt16_inj.mp ((UInt16.xor_right_inj _).mp word)
    exact ⟨rfl, UInt8.toUInt16_inj.mp ((UInt16.xor_right_inj _).mp words)⟩

/-! ## Blocks -/

/-- What is left of a block that ends in its checksum. -/
def residue : UInt16 := remainder (crcTable.getD 0xFF 0 ^^^ 0xFF)

theorem toUInt16_low (word : UInt16) : (UInt8.ofNat word.toNat).toUInt16 = word &&& 0xFF := by
  apply UInt16.toNat_inj.mp
  rw [toNat_low, UInt8.toNat_toUInt16]
  rfl

theorem toUInt16_high (word : UInt16) :
    (UInt8.ofNat (word.toNat / 256)).toUInt16 = word >>> 8 := by
  have bound := word.toNat_lt
  apply UInt16.toNat_inj.mp
  rw [toNat_high, UInt8.toNat_toUInt16]
  exact Nat.mod_eq_of_lt (by omega)

theorem update_low (crc : UInt16) :
    update crc (UInt8.ofNat (~~~crc).toNat) = crcTable.getD 0xFF 0 ^^^ crc >>> 8 := by
  have index : (crc ^^^ (~~~crc &&& 0xFF)) &&& 0xFF = 0xFF := by
    apply UInt16.toBitVec_inj.mp
    apply BitVec.eq_of_getLsbD_eq
    intro place inside
    simp only [UInt16.toBitVec_and, UInt16.toBitVec_xor, UInt16.toBitVec_not, BitVec.getLsbD_and,
      BitVec.getLsbD_xor, BitVec.getLsbD_not, inside, decide_true, Bool.true_and]
    cases crc.toBitVec.getLsbD place <;> simp
  rw [update, toUInt16_low, index]
  rfl

theorem update_high (crc : UInt16) :
    update (crcTable.getD 0xFF 0 ^^^ crc >>> 8) (UInt8.ofNat ((~~~crc).toNat / 256)) = residue := by
  rw [update_eq, toUInt16_high, UInt16.xor_assoc, ← UInt16.shiftRight_xor, UInt16.xor_not,
    UInt16.xor_self]
  rfl

theorem foldl_addCrc (input : List UInt8) : (addCrc input).foldl update 0 = residue := by
  rw [addCrc, List.foldl_append, calcCrc]
  generalize input.foldl update 0 = crc
  rw [leBytes, leBytes, leBytes, List.foldl_cons, List.foldl_cons, List.foldl_nil, update_low,
    update_high]

theorem eq_addCrc_of_isCorrectCRC {block : List UInt8} {length : Nat}
    (long : block.length = length + 2) (correct : isCorrectCRC block length = true) :
    block = addCrc (block.take length) := by
  have rest : (block.drop length).length = 2 := by
    rw [List.length_drop]
    omega
  rw [isCorrectCRC, beq_iff_eq, List.take_of_length_le (Nat.le_of_eq rest)] at correct
  rw [addCrc, correct, ← rest, leBytes_leValue, List.take_append_drop]

/-- A block is not correct when a burst of two bytes is all that is wrong with it. -/
theorem isCorrectCRC_of_burst {data block : List UInt8} {position : Nat}
    (burst : Burst block (addCrc data) position) (changed : block ≠ addCrc data) :
    isCorrectCRC block data.length = false := by
  by_contra correct
  have long : block.length = data.length + 2 := by
    rw [burst.length, addCrc, List.length_append, length_leBytes]
  have whole := eq_addCrc_of_isCorrectCRC long (Bool.not_eq_false _ ▸ correct)
  refine changed (burst.eq_of_foldl_eq separates_update 0 ?_)
  rw [whole, foldl_addCrc, foldl_addCrc]

theorem isCorrectCRC_of_burst_sync :
    isCorrectCRC ((addCrc [0x05, 0x64]).set 1 0x65) 2 = false :=
  @isCorrectCRC_of_burst [0x05, 0x64] _ 1
    ⟨List.length_set, fun _ first _ => List.getElem?_set_ne first.symm⟩ (by decide +kernel)

end CRC

end OpenDnp3.Link
