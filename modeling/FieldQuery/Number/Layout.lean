/-
This file decides how floating-point numbers are written in plain text and in data.
-/
import FieldQuery.Number.Numeral

namespace FieldQuery.Number

/-- This structure contains the exponents of the first digit that are written in positional form. -/
structure Layout where
  least : Int
  greatest : Int

/-- Boosts are positional in data from a millionth up to thirteen digits. -/
def Layout.single : Layout := ⟨-6, 12⟩

/-- Constants are positional in data from a hundred-thousandth up to sixteen digits. -/
def Layout.double : Layout := ⟨-5, 15⟩

/-- A positional numeral in data has a point, and all others are scientific. -/
def Layout.numeral (layout : Layout) (negative : Bool) (decimal : Decimal) : Numeral :=
  if layout.least ≤ decimal.leadingExponent ∧ decimal.leadingExponent ≤ layout.greatest then
    (Numeral.positional negative decimal).pointed
  else Numeral.scientific negative decimal

namespace Binary

variable {format : Format}

/-- In data a finite number is a numeral, with ties to the even digit; others have none. -/
def numeral? (layout : Layout) (number : Binary format) : Option Numeral :=
  if number.isFinite then
    some (layout.numeral number.negative (format.shortest .even number.rank.val))
  else none

/-- In plain text a number is always positional, with ties to the greater decimal. -/
def text (number : Binary format) : String :=
  if number.isNotANumber then "NaN"
  else if number.isFinite then
    (Numeral.positional number.negative (format.shortest .greater number.rank.val)).text
  else if number.negative then "-inf"
  else "inf"

end Binary

end FieldQuery.Number
