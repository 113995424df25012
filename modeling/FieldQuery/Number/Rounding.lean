/-
This file rounds exact quotients to the nearest number of a binary format.
-/
import FieldQuery.Number.Binary

namespace FieldQuery.Number

namespace Format

/--
The search adds the bits of a rank from the highest one down and keeps each bit that leaves the
magnitude at or below `numerator / denominator` smallest magnitudes.
-/
def floorRank (format : Format) (numerator denominator : Nat) : Nat → Nat → Nat
  | 0, rank => rank
  | bits + 1, rank =>
    if format.units (rank + Nat.pow 2 bits) * denominator ≤ numerator then
      floorRank format numerator denominator bits (rank + Nat.pow 2 bits)
    else floorRank format numerator denominator bits rank

/-- Of the two ranks around a quotient the nearer one is taken, and of a tie the even one. -/
def nearestRank (format : Format) (numerator denominator : Nat) : Nat :=
  let below := format.floorRank numerator denominator
    (format.exponentBits + format.fractionBits) 0
  let middle := (format.units below + format.units (below + 1)) * denominator
  if 2 * numerator < middle then below
  else if middle < 2 * numerator then below + 1
  else if below % 2 = 0 then below
  else below + 1

/-- The product of two magnitudes is rounded to the nearest one. -/
def product (format : Format) (left right : Nat) : Nat :=
  format.nearestRank (format.units left * format.units right) format.scale

/-- The quotient of two magnitudes is rounded to the nearest one. -/
def quotient (format : Format) (left right : Nat) : Nat :=
  format.nearestRank (format.units left * format.scale) (format.units right)

/-- A natural number is rounded to the nearest magnitude. -/
def ofNat (format : Format) (value : Nat) : Nat :=
  format.nearestRank (value * format.scale) 1

end Format

namespace Binary

variable {format : Format}

/-- A quotient is rounded to the nearest number, and beyond the greatest one to infinity. -/
def nearest (negative : Bool) (numerator denominator : Nat) : Binary format :=
  ofRank negative (format.nearestRank (numerator * format.scale) denominator)

/-- A number of one format is rounded to the nearest number of another. -/
def convert {source : Format} (number : Binary source) : Binary format :=
  if number.isNotANumber then notANumber
  else if number.isFinite then
    nearest number.negative (source.units number.rank.val) source.scale
  else infinite number.negative

end Binary

end FieldQuery.Number
