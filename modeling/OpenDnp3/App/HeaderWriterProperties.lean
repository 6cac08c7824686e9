import OpenDnp3.App.RoundTrip

/-!
# What the iterators write

An iterator that is not valid has left its writer as it was. A valid one has
written the header, room for the count, and its objects so far; the destructor
makes a complete header of them.
-/

set_option autoImplicit false

namespace OpenDnp3.App

open OpenDnp3.Library

/-! ## Writers -/

namespace HeaderWriter

@[simp] theorem length_headerBytes (id : GroupVariationID) (code : QualifierCode) :
    (headerBytes id code).length = 3 := rfl

theorem writeHeaderWithReserve_eq_some {writer after : HeaderWriter} {id : GroupVariationID}
    {code : QualifierCode} {reserve : Nat}
    (success : writer.writeHeaderWithReserve id code reserve = some after) :
    3 + reserve ≤ writer.remaining ∧
      after = { writer with position := writer.position.put (headerBytes id code) } := by
  unfold writeHeaderWithReserve writeHeader at success
  split at success
  · cases success
  · split at success
    · cases success
    · exact ⟨by rw [remaining]; omega, (Option.some.inj success).symm⟩

theorem writeHeaderWithReserve_eq_none {writer : HeaderWriter} {id : GroupVariationID}
    {code : QualifierCode} {reserve : Nat}
    (failure : writer.writeHeaderWithReserve id code reserve = none) :
    writer.remaining < 3 + reserve := by
  unfold writeHeaderWithReserve writeHeader at failure
  split at failure
  · assumption
  · split at failure
    · rw [remaining]
      omega
    · cases failure

end HeaderWriter

/-! ## Index prefixes -/

namespace PrefixedWriteIterator

variable {α : Type}

/-- A valid iterator with the entries written so far. -/
structure Holds (iterator : PrefixedWriteIterator α) (position : Cursor) (type : IndexType)
    (origin : List UInt8) (serializer : DNP3Serializer α) (entries : List (Indexed α)) :
    Prop where
  isValid : iterator.isValid = true
  typed : iterator.type = type
  serializes : iterator.serializer = serializer
  size : iterator.sizeOfTypePlusIndex = serializer.size + type.size
  count : iterator.count = entries.length % 256 ^ type.size
  offset : iterator.countOffset = origin.length + 3
  written : ∃ room, room.length = type.size ∧
    position.written =
      origin ++ HeaderWriter.headerBytes serializer.id type.countIndex ++ room ++
        entries.flatMap fun entry =>
          type.bytes entry.index.toNat ++ serializer.write entry.value

variable {iterator : PrefixedWriteIterator α} {position : Cursor} {type : IndexType}
  {origin : List UInt8} {serializer : DNP3Serializer α} {entries : List (Indexed α)}

theorem Holds.write (holds : iterator.Holds position type origin serializer entries)
    {after : PrefixedWriteIterator α × Cursor} {value : α} {index : UInt16}
    (success : iterator.write position value index = some after) :
    after.1.Holds after.2 type origin serializer (entries ++ [⟨value, index⟩]) := by
  unfold PrefixedWriteIterator.write at success
  split at success
  · obtain ⟨room, length, written⟩ := holds.written
    obtain rfl := (Option.some.inj success).symm
    refine ⟨holds.isValid, holds.typed, holds.serializes, holds.size, ?_, holds.offset, room,
      length, ?_⟩
    · rw [holds.typed, holds.count, List.length_append, List.length_singleton]
      exact Nat.mod_add_mod _ _ _
    · simp [written, holds.typed, holds.serializes, List.append_assoc]
  · cases success

/-- With room for an object the next one is written. -/
theorem Holds.write_of_room (holds : iterator.Holds position type origin serializer entries)
    (value : α) (index : UInt16) (sized : (serializer.write value).length = serializer.size)
    (room : serializer.size + type.size ≤ position.size) :
    ∃ after, iterator.write position value index = some after ∧
      after.1.Holds after.2 type origin serializer (entries ++ [⟨value, index⟩]) ∧
      after.2.size = position.size - (serializer.size + type.size) := by
  have enough : iterator.sizeOfTypePlusIndex ≤ position.size := by
    rw [holds.size]
    exact room
  have written : iterator.write position value index = some _ := if_pos ⟨holds.isValid, enough⟩
  refine ⟨_, written, holds.write written, ?_⟩
  rw [Cursor.size_put, Cursor.size_put, IndexType.length_bytes, holds.typed, holds.serializes,
    sized]
  omega

/-- The destructor completes the header. -/
theorem Holds.finish (holds : iterator.Holds position type origin serializer entries) :
    (iterator.finish position).written = origin ++ prefixedBytes type serializer entries := by
  obtain ⟨room, length, written⟩ := holds.written
  have patched := Cursor.patch_written
    (origin ++ HeaderWriter.headerBytes serializer.id type.countIndex) room
    (entries.flatMap fun entry =>
      type.bytes entry.index.toNat ++ serializer.write entry.value) position.rest
    (show (type.bytes entries.length).length = room.length by
      rw [IndexType.length_bytes, length])
  have count : type.bytes (entries.length % 256 ^ type.size) = type.bytes entries.length :=
    leBytes_mod type.size entries.length
  rw [List.length_append, HeaderWriter.length_headerBytes] at patched
  rw [PrefixedWriteIterator.finish, if_pos holds.isValid, holds.typed, holds.count, holds.offset,
    count]
  have split : position = ⟨origin ++ HeaderWriter.headerBytes serializer.id type.countIndex ++
      room ++ entries.flatMap fun entry =>
        type.bytes entry.index.toNat ++ serializer.write entry.value, position.rest⟩ := by
    rw [← written]
  rw [split, patched, prefixedBytes]
  simp [List.append_assoc]

end PrefixedWriteIterator

namespace HeaderWriter

variable {α β : Type}

/-- What an iterator with index prefixes and its writer are like when they are made. -/
structure PrefixStart (before : List UInt8) (type : IndexType) (serializer : DNP3Serializer α)
    (made : PrefixedWriteIterator α × HeaderWriter) : Prop where
  holds : made.1.Holds made.2.position type before serializer []
  room : ∀ value index, (made.1.write made.2.position value index).isSome = true

/-- An iterator with index prefixes is valid and has room for an object, or the writer is left
as it was. -/
theorem iterateOverCountWithPrefix_cases (writer : HeaderWriter) (type : IndexType)
    (serializer : DNP3Serializer α) {made : PrefixedWriteIterator α × HeaderWriter}
    (result : writer.iterateOverCountWithPrefix type type.countIndex serializer = made) :
    (made.1.isValid = false ∧ made.2 = writer) ∨
      PrefixStart writer.position.written type serializer made := by
  subst result
  rw [iterateOverCountWithPrefix]
  cases header : writer.writeHeaderWithReserve serializer.id type.countIndex
      (2 * type.size + serializer.size) with
  | none => exact .inl ⟨rfl, rfl⟩
  | some after =>
      obtain ⟨enough, rfl⟩ := writeHeaderWithReserve_eq_some header
      have room : type.size ≤
          (writer.position.put (headerBytes serializer.id type.countIndex)).size := by
        rw [Cursor.size_put, length_headerBytes]
        simp only [remaining] at enough
        omega
      simp only [PrefixedWriteIterator.create, if_pos room]
      have length : ((writer.position.put
          (headerBytes serializer.id type.countIndex)).rest.take type.size).length =
            type.size := by
        rw [List.length_take]
        exact Nat.min_eq_left room
      refine .inr ⟨⟨rfl, rfl, rfl, rfl, (Nat.zero_mod _).symm, by simp, _, length, ?_⟩,
        fun value index => ?_⟩
      · rw [Cursor.advance_eq_put _ _ room]
        simp
      · have objects : serializer.size + type.size ≤
            ((writer.position.put (headerBytes serializer.id type.countIndex)).advance
              type.size).size := by
          rw [Cursor.size_advance, Cursor.size_put, length_headerBytes]
          simp only [remaining] at enough
          omega
        rw [PrefixedWriteIterator.write, if_pos ⟨rfl, objects⟩]
        rfl

/-- With room for one object the iterator is valid, behind the header and its count. -/
theorem iterateOverCountWithPrefix_of_room (writer : HeaderWriter) (type : IndexType)
    (serializer : DNP3Serializer α)
    (room : 3 + (2 * type.size + serializer.size) ≤ writer.position.size) :
    let made := writer.iterateOverCountWithPrefix type type.countIndex serializer
    made.1.isValid = true ∧ made.2.position.size = writer.position.size - (3 + type.size) := by
  have first : ¬writer.position.size < 3 + (2 * type.size + serializer.size) := by omega
  have header : ¬writer.position.size < 3 := by omega
  have count : type.size ≤ (writer.position.put (headerBytes serializer.id type.countIndex)).size := by
    rw [Cursor.size_put, length_headerBytes]
    omega
  simp only [iterateOverCountWithPrefix, writeHeaderWithReserve, if_neg first, writeHeader,
    if_neg header, PrefixedWriteIterator.create, if_pos count]
  refine ⟨trivial, ?_⟩
  rw [Cursor.size_advance, Cursor.size_put, length_headerBytes, Nat.sub_sub]

/-- The bytes of a header with a single object. -/
def singleBytes (serializer : DNP3Serializer β) (value : β) : List UInt8 :=
  headerBytes serializer.id .uint8Cnt ++ IndexType.uint8.bytes 1 ++ serializer.write value

theorem writeSingleValue_eq_some {writer after : HeaderWriter} {serializer : DNP3Serializer β}
    {value : β} (success : writer.writeSingleValue .uint8 .uint8Cnt serializer value = some after) :
    after = { writer with position := writer.position.put (singleBytes serializer value) } := by
  unfold writeSingleValue at success
  obtain ⟨header, written, rfl⟩ := Option.map_eq_some_iff.mp success
  obtain ⟨_, rfl⟩ := writeHeaderWithReserve_eq_some written
  simp only [Cursor.put_put, singleBytes]

theorem rollback_put (writer : HeaderWriter) (bytes : List UInt8) :
    ({ writer.setMark with
      position := writer.position.put bytes } : HeaderWriter).rollback.position.written =
      writer.position.written := by
  simp [rollback, setMark, Cursor.rewind, Cursor.put]

/-- The same behind a common time of occurrence: the time stands before the header, or nothing
is written. -/
theorem iterateOverCountWithPrefixAndCTO_cases (writer : HeaderWriter)
    (serializer : DNP3Serializer α) (ctoSerializer : DNP3Serializer β) (cto : β)
    {made : PrefixedWriteIterator α × HeaderWriter}
    (result : writer.iterateOverCountWithPrefixAndCTO .uint16 .uint16CntUint16Index serializer
      ctoSerializer cto = made) :
    (made.1.isValid = false ∧ made.2.position.written = writer.position.written) ∨
      PrefixStart (writer.position.written ++ singleBytes ctoSerializer cto) .uint16 serializer made := by
  subst result
  rw [iterateOverCountWithPrefixAndCTO]
  cases single : writer.setMark.writeSingleValue .uint8 .uint8Cnt ctoSerializer cto with
  | none => exact .inl ⟨rfl, rfl⟩
  | some after =>
      obtain rfl := writeSingleValue_eq_some single
      rcases made : ({ writer.setMark with
          position := writer.position.put (singleBytes ctoSerializer cto) } :
            HeaderWriter).iterateOverCountWithPrefix .uint16 .uint16CntUint16Index serializer with
        ⟨iterator, behind⟩
      have cases := iterateOverCountWithPrefix_cases _ .uint16 serializer made
      simp only [show writer.setMark.position = writer.position from rfl, made]
      rcases cases with ⟨invalid, same⟩ | started
      · simp only at invalid same
        rw [invalid, same]
        exact .inl ⟨invalid, rollback_put writer _⟩
      · rw [if_pos started.holds.isValid]
        exact .inr started

/-! ## Space -/

/-- An iterator takes space if it is valid, and no space comes back. -/
structure TakesSpace (before : HeaderWriter) (made : PrefixedWriteIterator α × HeaderWriter) :
    Prop where
  le : made.2.remaining ≤ before.remaining
  lt : made.1.isValid = true → made.2.remaining < before.remaining

theorem iterateOverCountWithPrefix_takesSpace (writer : HeaderWriter) (type : IndexType)
    (serializer : DNP3Serializer α) :
    TakesSpace writer (writer.iterateOverCountWithPrefix type type.countIndex serializer) := by
  rw [iterateOverCountWithPrefix]
  cases header : writer.writeHeaderWithReserve serializer.id type.countIndex
      (2 * type.size + serializer.size) with
  | none => exact ⟨Nat.le_refl _, nofun⟩
  | some after =>
      obtain ⟨enough, rfl⟩ := writeHeaderWithReserve_eq_some header
      have less : (PrefixedWriteIterator.create type serializer
          (writer.position.put (headerBytes serializer.id type.countIndex))).2.size <
            writer.remaining := by
        rw [remaining] at enough ⊢
        rw [PrefixedWriteIterator.create]
        split
        · rw [Cursor.size_advance, Cursor.size_put, length_headerBytes]
          omega
        · rw [Cursor.size_put, length_headerBytes]
          omega
      exact ⟨Nat.le_of_lt less, fun _ => less⟩

theorem iterateOverCountWithPrefixAndCTO_takesSpace (writer : HeaderWriter)
    (serializer : DNP3Serializer α) (ctoSerializer : DNP3Serializer β) (cto : β)
    (sized : (ctoSerializer.write cto).length = ctoSerializer.size) :
    TakesSpace writer (writer.iterateOverCountWithPrefixAndCTO .uint16 .uint16CntUint16Index
      serializer ctoSerializer cto) := by
  rw [iterateOverCountWithPrefixAndCTO]
  cases single : writer.setMark.writeSingleValue .uint8 .uint8Cnt ctoSerializer cto with
  | none => exact ⟨Nat.le_refl _, nofun⟩
  | some after =>
      have enough : (singleBytes ctoSerializer cto).length ≤ writer.position.rest.length := by
        obtain ⟨header, written, _⟩ := Option.map_eq_some_iff.mp single
        have room := (writeHeaderWithReserve_eq_some written).1
        have length : (singleBytes ctoSerializer cto).length =
            3 + (1 + ctoSerializer.size) := by
          simp [singleBytes, sized, IndexType.size]
        rw [length]
        exact room
      obtain rfl := writeSingleValue_eq_some single
      have behind := iterateOverCountWithPrefix_takesSpace
        ({ writer.setMark with
          position := writer.position.put (singleBytes ctoSerializer cto) } : HeaderWriter)
        .uint16 serializer
      rcases made : ({ writer.setMark with
          position := writer.position.put (singleBytes ctoSerializer cto) } :
            HeaderWriter).iterateOverCountWithPrefix .uint16 .uint16CntUint16Index serializer with
        ⟨iterator, last⟩
      have cases := iterateOverCountWithPrefix_cases _ .uint16 serializer made
      have less : (writer.position.put (singleBytes ctoSerializer cto)).size ≤
          writer.position.size := by
        rw [Cursor.size_put]
        exact Nat.sub_le _ _
      change TakesSpace _ (({ writer.setMark with
          position := writer.position.put (singleBytes ctoSerializer cto) } :
            HeaderWriter).iterateOverCountWithPrefix .uint16 .uint16CntUint16Index serializer)
        at behind
      rw [made] at behind
      simp only [show writer.setMark.position = writer.position from rfl, made]
      cases valid : iterator.isValid with
      | true =>
          rw [if_pos rfl]
          have lt := behind.lt valid
          exact ⟨Nat.le_trans behind.le less, fun _ => Nat.lt_of_lt_of_le lt less⟩
      | false =>
          rw [if_neg Bool.false_ne_true]
          rcases cases with ⟨_, same⟩ | started
          · simp only at same
            rw [same]
            refine ⟨?_, fun bad => ?_⟩
            · simp only [rollback, setMark, remaining, Cursor.rewind, Cursor.put, Cursor.size,
                List.drop_left', List.length_append, List.length_drop]
              omega
            · rw [valid] at bad
              cases bad
          · have holds := started.holds.isValid
            rw [valid] at holds
            cases holds

end HeaderWriter

end OpenDnp3.App
