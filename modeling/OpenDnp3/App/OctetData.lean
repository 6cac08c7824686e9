import OpenDnp3.App.Measurements

/-!
# Octet data

How the strings of octets are made: from slices and from strings that end with
a zero byte, by a constructor or by an assignment.
-/

set_option autoImplicit false

namespace OpenDnp3.App

namespace OctetString

/-- The string is set, and whether the input meets the length requirements. -/
def set (input : List UInt8) : Bool × OctetString :=
  if input.isEmpty then
    (false, ⟨[], Nat.zero_le _⟩)
  else
    (!decide (maxSize < input.length), ⟨input.take maxSize, List.length_take_le _ _⟩)

/-- The part of a string in memory that counts: what stands before its first zero byte, up to the
largest size. -/
def toSlice (input : List UInt8) : List UInt8 := (input.takeWhile (· ≠ 0)).take maxSize

/-- Constructed from a slice. For an empty one the size is 1, and the byte is not written: it is
what was in its place before. -/
def construct (unwritten : UInt8) (input : List UInt8) : OctetString :=
  if input.isEmpty then ⟨[unwritten], Nat.le_of_ble_eq_true rfl⟩ else ofSlice input

def setCString (input : List UInt8) : Bool × OctetString := set (toSlice input)

theorem size_construct_pos (unwritten : UInt8) (input : List UInt8) :
    0 < (construct unwritten input).size := by
  cases input with
  | nil => exact Nat.one_pos
  | cons byte input =>
      change 0 < ((byte :: input).take maxSize).length
      rw [maxSize, List.take_succ_cons, List.length_cons]
      exact Nat.succ_pos _

theorem size_set_pos (input : List UInt8) : 0 < (set input).2.size ↔ input ≠ [] := by
  cases input with
  | nil => decide
  | cons byte input =>
      refine iff_of_true ?_ (List.cons_ne_nil _ _)
      change 0 < ((byte :: input).take maxSize).length
      rw [maxSize, List.take_succ_cons, List.length_cons]
      exact Nat.succ_pos _

theorem toSlice_eq_nil (input : List UInt8) :
    toSlice input = [] ↔ input = [] ∨ input.head? = some 0 := by
  cases input with
  | nil => simp [toSlice]
  | cons byte input =>
      by_cases zero : byte = 0
      · simp [toSlice, zero]
      · simp [toSlice, zero, maxSize]

end OctetString

/-- The ways to get a string. A constructor may leave a byte unwritten. -/
inductive OctetSource where
  | default (unwritten : UInt8)
  | constructed (unwritten : UInt8) (input : List UInt8)
  | constructedC (unwritten : UInt8) (input : List UInt8)
  | assigned (input : List UInt8)
  | assignedC (input : List UInt8)
  | copied (source : OctetSource)

namespace OctetSource

def string : OctetSource → OctetString
  | .default unwritten => .construct unwritten []
  | .constructed unwritten input => .construct unwritten input
  | .constructedC unwritten input => .construct unwritten (OctetString.toSlice input)
  | .assigned input => (OctetString.set input).2
  | .assignedC input => (OctetString.setCString input).2
  | .copied source => source.string

/-- The string was assigned without a byte to assign. -/
def AssignsNothing : OctetSource → Prop
  | .assigned input => input = []
  | .assignedC input => input = [] ∨ input.head? = some 0
  | .copied source => source.AssignsNothing
  | _ => False

theorem size_pos_iff (source : OctetSource) :
    0 < source.string.size ↔ ¬source.AssignsNothing := by
  induction source with
  | default | constructed | constructedC =>
      exact iff_of_true (OctetString.size_construct_pos _ _) id
  | assigned input => exact OctetString.size_set_pos input
  | assignedC input =>
      exact (OctetString.size_set_pos _).trans (not_congr (OctetString.toSlice_eq_nil input))
  | copied source ih => exact ih

end OctetSource

end OpenDnp3.App
