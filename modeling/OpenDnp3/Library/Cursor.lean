import Mathlib.Data.List.Basic

/-!
# Write cursors

A cursor is a position in a buffer of fixed size. The bytes before it are
written; the bytes after it are what the buffer happened to hold, and stay so
where a writer advances over them.
-/

set_option autoImplicit false

namespace OpenDnp3.Library

/-- A buffer split at the write position. -/
structure Cursor where
  written : List UInt8
  rest : List UInt8
deriving DecidableEq, Repr

namespace Cursor

/-- The space left. -/
def size (cursor : Cursor) : Nat := cursor.rest.length

/-- Move over bytes without writing them. -/
def advance (cursor : Cursor) (count : Nat) : Cursor :=
  ⟨cursor.written ++ cursor.rest.take count, cursor.rest.drop count⟩

/-- Write bytes and move behind them. -/
def put (cursor : Cursor) (bytes : List UInt8) : Cursor :=
  ⟨cursor.written ++ bytes, cursor.rest.drop bytes.length⟩

/-- Overwrite bytes before the position. -/
def patch (cursor : Cursor) (offset : Nat) (bytes : List UInt8) : Cursor :=
  { cursor with
    written := cursor.written.take offset ++ bytes ++
      cursor.written.drop (offset + bytes.length) }

/-- Overwrite one byte behind the position. -/
def poke (cursor : Cursor) (offset : Nat) (byte : UInt8) : Cursor :=
  { cursor with rest := cursor.rest.set offset byte }

/-- Move back to an earlier position. What was written behind it stays in the buffer. -/
def rewind (cursor : Cursor) (offset : Nat) : Cursor :=
  ⟨cursor.written.take offset, cursor.written.drop offset ++ cursor.rest⟩

@[simp] theorem written_put (cursor : Cursor) (bytes : List UInt8) :
    (cursor.put bytes).written = cursor.written ++ bytes := rfl

@[simp] theorem size_put (cursor : Cursor) (bytes : List UInt8) :
    (cursor.put bytes).size = cursor.size - bytes.length := by
  simp [put, size]

@[simp] theorem size_advance (cursor : Cursor) (count : Nat) :
    (cursor.advance count).size = cursor.size - count := by
  simp [advance, size]

@[simp] theorem size_patch (cursor : Cursor) (offset : Nat) (bytes : List UInt8) :
    (cursor.patch offset bytes).size = cursor.size := rfl

theorem put_put (cursor : Cursor) (first second : List UInt8) :
    (cursor.put first).put second = cursor.put (first ++ second) := by
  simp [put]

/-- Overwriting a field that lies before the position. -/
theorem patch_written (before field after rest : List UInt8) {bytes : List UInt8}
    (sameLength : bytes.length = field.length) :
    (⟨before ++ field ++ after, rest⟩ : Cursor).patch before.length bytes =
      ⟨before ++ bytes ++ after, rest⟩ := by
  simp [patch, sameLength, List.append_assoc]

/-- Moving over bytes is writing what they are. -/
theorem advance_eq_put (cursor : Cursor) (count : Nat) (fits : count ≤ cursor.size) :
    cursor.advance count = cursor.put (cursor.rest.take count) := by
  have length : (cursor.rest.take count).length = count := by
    rw [List.length_take]
    exact Nat.min_eq_left fits
  simp [advance, put, length]

end Cursor

end OpenDnp3.Library
