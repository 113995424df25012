/-
This file finds the decimal with the fewest digits among those that round to a binary number.
-/
import FieldQuery.Number.Binary

namespace FieldQuery.Number

/-- This structure contains a decimal: its digits as a number, times a power of ten. -/
structure Decimal where
  digits : Nat
  exponent : Int
deriving DecidableEq

namespace Decimal

/-- The numerator of a decimal takes its power of ten when the exponent is not negative. -/
def numerator (decimal : Decimal) : Nat :=
  decimal.digits * Nat.pow 10 decimal.exponent.toNat

/-- The denominator of a decimal takes its power of ten when the exponent is negative. -/
def denominator (decimal : Decimal) : Nat :=
  Nat.pow 10 (-decimal.exponent).toNat

def length (decimal : Decimal) : Nat :=
  (Nat.toDigits 10 decimal.digits).length

/-- This exponent belongs to the first digit. -/
def leadingExponent (decimal : Decimal) : Int :=
  decimal.exponent + decimal.length - 1

end Decimal

/-- Of two decimals at one distance either the greater is taken or the one with an even digit. -/
inductive Tie where
  | greater
  | even
deriving DecidableEq

namespace Format

/-- A decimal rounds to a rank when it lies between the middles to the neighbouring ranks. -/
def admits (format : Format) (rank : Nat) (decimal : Decimal) : Bool :=
  let low := (format.units (rank - 1) + format.units rank) * decimal.denominator
  let high := (format.units rank + format.units (rank + 1)) * decimal.denominator
  let value := 2 * format.scale * decimal.numerator
  if rank % 2 = 0 then decide (low ≤ value) && decide (value ≤ high)
  else decide (low < value) && decide (value < high)

/-- This decimal is the last one with a given exponent that does not exceed a magnitude. -/
def floorDecimal (format : Format) (rank : Nat) (exponent : Int) : Decimal :=
  ⟨format.units rank * Nat.pow 10 (-exponent).toNat /
    (format.scale * Nat.pow 10 exponent.toNat), exponent⟩

/-- Of two neighbouring decimals the one nearer to a magnitude is taken. -/
def nearer (format : Format) (tie : Tie) (rank : Nat) (below above : Decimal) : Decimal :=
  let middle := (below.numerator + above.numerator) * format.scale
  let value := 2 * format.units rank * below.denominator
  if value < middle then below
  else if middle < value then above
  else match tie with
    | .greater => above
    | .even => if below.digits % 2 = 0 then below else above

/-- At one exponent only the two decimals around a magnitude are tried. -/
def decimalAt? (format : Format) (tie : Tie) (rank : Nat) (exponent : Int) : Option Decimal :=
  let below := format.floorDecimal rank exponent
  let above : Decimal := ⟨below.digits + 1, exponent⟩
  match decide (below.digits ≠ 0) && format.admits rank below, format.admits rank above with
  | true, true => some (format.nearer tie rank below above)
  | true, false => some below
  | false, true => some above
  | false, false => none

/-- This decimal is equal to a magnitude. -/
def exactDecimal (format : Format) (rank : Nat) : Decimal :=
  ⟨format.units rank * Nat.pow 5 format.scaleBits, -format.scaleBits⟩

/-- The search goes down from an exponent to the first one at which a decimal is found. -/
def searchDecimal (format : Format) (tie : Tie) (rank : Nat) : Nat → Int → Decimal
  | 0, _ => format.exactDecimal rank
  | steps + 1, exponent =>
    match format.decimalAt? tie rank exponent with
    | some decimal => decimal
    | none => searchDecimal format tie rank steps (exponent - 1)

/-- The shortest decimal of a magnitude has the greatest exponent; the decimal of zero is zero. -/
def shortest (format : Format) (tie : Tie) (rank : Nat) : Decimal :=
  if rank = 0 then ⟨0, 0⟩ else
    let top := (Nat.toDigits 10 (format.units rank / format.scale)).length
    format.searchDecimal tie rank (top + format.scaleBits + 1) top

end Format

end FieldQuery.Number
