import Mathlib.Data.Nat.ModEq
import Mathlib.Data.UInt

/-!
# Sequence numbers

Numbers that count up to a modulus and start again. Two positions that are
closer than the modulus have one number only if they are the same.
-/

set_option autoImplicit false

namespace OpenDnp3.Library

structure SequenceNum (modulus : Nat) where
  seq : UInt8
deriving DecidableEq, Repr, Inhabited

namespace SequenceNum

variable {modulus : Nat}

def next (number : SequenceNum modulus) : SequenceNum modulus :=
  ⟨UInt8.ofNat ((number.seq.toNat + 1) % modulus)⟩

theorem seq_next_lt (number : SequenceNum 16) : number.next.seq < 16 := by
  rw [UInt8.lt_iff_toNat_lt, next, UInt8.toNat_ofNat', Nat.mod_eq_of_lt]
  · exact Nat.mod_lt _ (by decide)
  · exact Nat.lt_trans (Nat.mod_lt _ (by decide)) (by decide)

/-- The number at a position of a count that has some number at position zero. -/
def Counts (start position : Nat) (number : SequenceNum modulus) : Prop :=
  number.seq.toNat = (start + position) % modulus

namespace Counts

variable {start position other : Nat} {number : SequenceNum modulus}

theorem zero (below : number.seq.toNat < modulus) : number.Counts number.seq.toNat 0 := by
  rw [Counts, Nat.add_zero, Nat.mod_eq_of_lt below]

theorem below (counts : number.Counts start position) (positive : 0 < modulus) :
    number.seq.toNat < modulus := by
  rw [Counts] at counts
  rw [counts]
  exact Nat.mod_lt _ positive

theorem next (counts : number.Counts start position) (positive : 0 < modulus)
    (fits : modulus ≤ 256) : number.next.Counts start (position + 1) := by
  rw [Counts] at counts
  rw [Counts, SequenceNum.next, UInt8.toNat_ofNat', counts, Nat.mod_add_mod, Nat.add_assoc]
  exact Nat.mod_eq_of_lt (lt_of_lt_of_le (Nat.mod_lt _ positive) fits)

theorem unique {one two : SequenceNum modulus} (first : one.Counts start position)
    (second : two.Counts start position) : one = two := by
  have same : one.seq = two.seq := UInt8.toNat_inj.mp (first.trans second.symm)
  cases one
  cases two
  exact congrArg SequenceNum.mk same

/-- Within a window as long as the modulus, a number tells the position. -/
theorem position_eq (counts : number.Counts start position)
    (again : number.Counts start other) (ordered : position ≤ other)
    (window : other < position + modulus) : position = other := by
  have same : start + position ≡ start + other [MOD modulus] := counts.symm.trans again
  have shifted : position ≡ other [MOD modulus] := Nat.ModEq.add_left_cancel' start same
  have divides := (Nat.modEq_iff_dvd' ordered).mp shifted
  have := Nat.eq_zero_of_dvd_of_lt divides (by omega)
  omega

end Counts

end SequenceNum

end OpenDnp3.Library
