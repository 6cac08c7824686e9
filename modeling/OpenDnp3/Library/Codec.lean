import Mathlib.Algebra.Order.Ring.Int
import Mathlib.Data.List.Basic

/-!
# Fixed-size codecs

A codec writes a value in a fixed number of bytes and reads it back. Writing
may lose something of a value; `kept` says what is left of it.
-/

set_option autoImplicit false

namespace OpenDnp3.Library

/-- A number as `width` bytes, least significant first. -/
def leBytes : Nat → Nat → List UInt8
  | 0, _ => []
  | width + 1, value => UInt8.ofNat value :: leBytes width (value / 256)

/-- The number that bytes denote, least significant first. -/
def leValue : List UInt8 → Nat
  | [] => 0
  | byte :: bytes => byte.toNat + 256 * leValue bytes

@[simp] theorem length_leBytes (width value : Nat) : (leBytes width value).length = width := by
  induction width generalizing value with
  | zero => rfl
  | succ width ih => rw [leBytes, List.length_cons, ih]

theorem leValue_leBytes (width value : Nat) :
    leValue (leBytes width value) = value % 256 ^ width := by
  induction width generalizing value with
  | zero => rw [leBytes, leValue, Nat.pow_zero, Nat.mod_one]
  | succ width ih =>
      have byte : (UInt8.ofNat value).toNat = value % 256 := rfl
      rw [leBytes, leValue, ih, byte, Nat.pow_succ, Nat.mul_comm (256 ^ width) 256,
        Nat.mod_mul]

theorem leBytes_leValue (bytes : List UInt8) : leBytes bytes.length (leValue bytes) = bytes := by
  induction bytes with
  | nil => rfl
  | cons byte bytes ih =>
      have bound := byte.toNat_lt
      have low : UInt8.ofNat (byte.toNat + 256 * leValue bytes) = byte := by
        apply UInt8.toNat_inj.mp
        rw [UInt8.toNat_ofNat']
        omega
      have rest : (byte.toNat + 256 * leValue bytes) / 256 = leValue bytes := by omega
      rw [List.length_cons, leValue, leBytes, low, rest, ih]

/-- Bytes that do not fit in the width do not matter. -/
theorem leBytes_mod (width value : Nat) : leBytes width (value % 256 ^ width) = leBytes width value := by
  induction width generalizing value with
  | zero => rfl
  | succ width ih =>
      have byte : UInt8.ofNat (value % 256 ^ (width + 1)) = UInt8.ofNat value := by
        apply UInt8.toNat_inj.mp
        change value % 256 ^ (width + 1) % 256 = value % 256
        exact Nat.mod_mod_of_dvd value (Dvd.intro_left (256 ^ width) rfl)
      have rest : value % 256 ^ (width + 1) / 256 = value / 256 % 256 ^ width := by
        rw [Nat.pow_succ, Nat.mul_comm, Nat.mod_mul_right_div_self]
      rw [leBytes, leBytes, byte, rest, ih]

theorem leValue_lt (bytes : List UInt8) : leValue bytes < 256 ^ bytes.length := by
  induction bytes with
  | nil => decide
  | cons byte bytes ih =>
      have bound := byte.toNat_lt
      rw [leValue, List.length_cons, Nat.pow_succ]
      omega

/-- A way to write values of a type in `size` bytes and to read them back. -/
structure Codec (α : Type) where
  size : Nat
  write : α → List UInt8
  read : List UInt8 → Option (α × List UInt8)
  /-- What is left of a value once it is written. -/
  kept : α → α
  length_write : ∀ value, (write value).length = size
  read_write : ∀ value rest, read (write value ++ rest) = some (kept value, rest)
  /-- Enough bytes are always read, and exactly `size` of them are used. -/
  read_own : ∀ own, own.length = size → ∃ value, ∀ rest, read (own ++ rest) = some (value, rest)

namespace Codec

variable {α β : Type}

/-- An unsigned number of a width in bytes. -/
def unsigned (width : Nat) : Codec Nat where
  size := width
  write := leBytes width
  read bytes :=
    if bytes.length < width then none
    else some (leValue (bytes.take width), bytes.drop width)
  kept value := value % 256 ^ width
  length_write := length_leBytes width
  read_write value rest := by
    have long : ¬(leBytes width value ++ rest).length < width := by simp
    rw [if_neg long, List.take_left' (length_leBytes width value),
      List.drop_left' (length_leBytes width value), leValue_leBytes]
  read_own own length := ⟨leValue own, fun rest => by
    have long : ¬(own ++ rest).length < width := by
      rw [List.length_append]
      omega
    rw [if_neg long, List.take_left' length, List.drop_left' length]⟩

/-- Write one type by way of another. -/
def map (codec : Codec α) (encode : β → α) (decode : α → β) : Codec β where
  size := codec.size
  write value := codec.write (encode value)
  read bytes := (codec.read bytes).map fun (value, rest) => (decode value, rest)
  kept value := decode (codec.kept (encode value))
  length_write value := codec.length_write (encode value)
  read_write value rest := by rw [codec.read_write]; rfl
  read_own own length := by
    obtain ⟨value, success⟩ := codec.read_own own length
    exact ⟨decode value, fun rest => by rw [success]; rfl⟩

/-- Write one value after another. -/
def both (first : Codec α) (second : Codec β) : Codec (α × β) where
  size := first.size + second.size
  write value := first.write value.1 ++ second.write value.2
  read bytes :=
    (first.read bytes).bind fun (one, bytes) =>
      (second.read bytes).map fun (two, rest) => ((one, two), rest)
  kept value := (first.kept value.1, second.kept value.2)
  length_write value := by rw [List.length_append, first.length_write, second.length_write]
  read_write value rest := by
    rw [List.append_assoc, first.read_write]
    simp only [Option.bind_some, second.read_write, Option.map_some]
  read_own own length := by
    obtain ⟨one, success⟩ := first.read_own (own.take first.size) (by
      rw [List.length_take]
      omega)
    obtain ⟨two, success'⟩ := second.read_own (own.drop first.size) (by
      rw [List.length_drop]
      omega)
    refine ⟨(one, two), fun rest => ?_⟩
    have whole := success (own.drop first.size ++ rest)
    rw [← List.append_assoc, List.take_append_drop] at whole
    rw [whole]
    simp only [Option.bind_some, success', Option.map_some]

def u8 : Codec UInt8 := (unsigned 1).map UInt8.toNat UInt8.ofNat

def u16 : Codec UInt16 := (unsigned 2).map UInt16.toNat UInt16.ofNat

def u32 : Codec UInt32 := (unsigned 4).map UInt32.toNat UInt32.ofNat

def u64 : Codec UInt64 := (unsigned 8).map UInt64.toNat UInt64.ofNat

def i16 : Codec Int16 := u16.map Int16.toUInt16 UInt16.toInt16

def i32 : Codec Int32 := u32.map Int32.toUInt32 UInt32.toInt32

/-- The largest number that six bytes hold. -/
def maxU48 : Int := 2 ^ 48 - 1

/-- A signed number in six bytes: a larger one is clamped, of a negative one the low 48 bits
are kept. -/
def u48 : Codec Int :=
  (unsigned 6).map (fun value => ((if maxU48 < value then maxU48 else value) % 2 ^ 48).toNat)
    (fun value => (value : Int))

@[simp] theorem kept_u8 (value : UInt8) : u8.kept value = value := by
  change UInt8.ofNat (value.toNat % 256 ^ 1) = value
  rw [Nat.mod_eq_of_lt (by simpa using value.toNat_lt), UInt8.ofNat_toNat]

@[simp] theorem kept_u16 (value : UInt16) : u16.kept value = value := by
  change UInt16.ofNat (value.toNat % 256 ^ 2) = value
  rw [Nat.mod_eq_of_lt (by simpa using value.toNat_lt), UInt16.ofNat_toNat]

@[simp] theorem kept_u32 (value : UInt32) : u32.kept value = value := by
  change UInt32.ofNat (value.toNat % 256 ^ 4) = value
  rw [Nat.mod_eq_of_lt (by simpa using value.toNat_lt), UInt32.ofNat_toNat]

@[simp] theorem kept_u64 (value : UInt64) : u64.kept value = value := by
  change UInt64.ofNat (value.toNat % 256 ^ 8) = value
  rw [Nat.mod_eq_of_lt (by simpa using value.toNat_lt), UInt64.ofNat_toNat]

@[simp] theorem kept_i16 (value : Int16) : i16.kept value = value := by
  change (u16.kept value.toUInt16).toInt16 = value
  rw [kept_u16, Int16.toInt16_toUInt16]

@[simp] theorem kept_i32 (value : Int32) : i32.kept value = value := by
  change (u32.kept value.toUInt32).toInt32 = value
  rw [kept_u32, Int32.toInt32_toUInt32]

/-- A number below 2^48 is kept as it is. -/
theorem kept_u48 {value : Int} (nonneg : 0 ≤ value) (below : value < 2 ^ 48) :
    u48.kept value = value := by
  have unclamped : ¬maxU48 < value := by
    rw [maxU48]
    omega
  change ((((if maxU48 < value then maxU48 else value) % 2 ^ 48).toNat % 256 ^ 6 : Nat) : Int) =
    value
  rw [if_neg unclamped]
  omega

@[simp] theorem kept_both (first : Codec α) (second : Codec β) (value : α × β) :
    (first.both second).kept value = (first.kept value.1, second.kept value.2) := rfl

@[simp] theorem size_both (first : Codec α) (second : Codec β) :
    (first.both second).size = first.size + second.size := rfl

end Codec

end OpenDnp3.Library
