import OpenDnp3.App.Parsing.Headers
import OpenDnp3.Library.ArrayView
import OpenDnp3.Outstation.Database.Cell

/-!
# Index search

A binary search for virtual indices in a discontiguous database.
-/

set_option autoImplicit false

namespace OpenDnp3.Outstation

open OpenDnp3.App OpenDnp3.Library

namespace IndexSearch

variable {type : StaticType}

structure Result where
  isMatch : Bool
  index : Nat
deriving DecidableEq, Repr

def getMidpoint (lower upper : Nat) : Nat := (upper - lower) / 2 + lower

/-- Every step leaves fewer points between the bounds, so their number is fuel enough. -/
def search (view : ArrayView (Cell type)) (vIndex : UInt16) : Nat → Nat → Nat → Nat → Result
  | 0, _, _, midpoint => ⟨false, midpoint⟩
  | fuel + 1, lower, upper, midpoint =>
      if lower ≤ upper then
        let midpoint := getMidpoint lower upper
        match view.get? midpoint with
        | none => ⟨false, midpoint⟩
        | some cell =>
            if cell.vIndex = vIndex then
              ⟨true, midpoint⟩
            else if cell.vIndex < vIndex then
              -- search the upper array
              if lower < 65535 then search view vIndex fuel (midpoint + 1) upper midpoint
              else ⟨false, midpoint⟩
            else
              -- search the lower array
              if 0 < upper ∧ 0 < midpoint then search view vIndex fuel lower (midpoint - 1) midpoint
              else ⟨false, midpoint⟩
      else
        ⟨false, midpoint⟩

def findClosestRawIndex (view : ArrayView (Cell type)) (vIndex : UInt16) : Result :=
  if view.size = 0 then ⟨false, 0⟩
  else search view vIndex view.size 0 (view.size - 1) 0

/-- The positions of the points whose virtual indices lie in a range. -/
def findRawRange (view : ArrayView (Cell type)) (range : Range) : Range :=
  if range.isValid && view.size != 0 then
    let start := (findClosestRawIndex view range.start).index
    let stop := (findClosestRawIndex view range.stop).index
    let startBelow := (view.get? start).any fun cell => cell.vIndex < range.start
    let stopAbove := (view.get? stop).any fun cell => range.stop < cell.vIndex
    if startBelow && 65535 ≤ start then
      .invalid
    else if stopAbove && stop = 0 then
      .invalid
    else
      let start := if startBelow then start + 1 else start
      let stop := if stopAbove then stop - 1 else stop
      if view.contains start && view.contains stop then ⟨UInt16.ofNat start, UInt16.ofNat stop⟩
      else .invalid
  else
    .invalid

end IndexSearch

end OpenDnp3.Outstation
