/-
This file defines numerals, which keep the spelling of a number that a text can hold.
-/
import FieldQuery.Number.Digits
import FieldQuery.Number.Shortest

namespace FieldQuery.Number

/--
This structure contains the sign, the whole part, the digits after the point, and the exponent of
a numeral. A numeral without a point has no digit after it.
-/
structure Numeral where
  negative : Bool
  whole : Nat
  fraction : List Digit
  exponent : Option Int
deriving DecidableEq

namespace Numeral

/-- An exponent is written with its sign. -/
def exponentChars (exponent : Int) : List Char :=
  'e' :: (if exponent < 0 then '-' else '+') :: Nat.toDigits 10 exponent.natAbs

/-- A numeral is written with a point only when digits follow it. -/
def chars (numeral : Numeral) : List Char :=
  (if numeral.negative then ['-'] else []) ++ Nat.toDigits 10 numeral.whole ++
    (match numeral.fraction with
      | [] => []
      | first :: rest => '.' :: (first :: rest).map Digit.char) ++
    (match numeral.exponent with
      | none => []
      | some exponent => exponentChars exponent)

def text (numeral : Numeral) : String :=
  String.ofList numeral.chars

/-- An integral numeral has neither a point nor an exponent. -/
def isIntegral (numeral : Numeral) : Bool :=
  numeral.fraction.isEmpty && numeral.exponent.isNone

/-- An integer is written without a point. -/
def ofInt (value : Int) : Numeral :=
  ⟨decide (value < 0), value.natAbs, [], none⟩

/-- The last digits of a number fill a given count of places. -/
def lastDigits : Nat → Nat → List Digit
  | 0, _ => []
  | places + 1, value => lastDigits places (value / 10) ++ [Fin.ofNat 10 value]

/-- A decimal in positional form has no exponent. -/
def positional (negative : Bool) (decimal : Decimal) : Numeral :=
  ⟨negative, decimal.numerator / decimal.denominator,
    lastDigits (-decimal.exponent).toNat decimal.digits, none⟩

/-- A decimal in scientific form has one digit before the point. -/
def scientific (negative : Bool) (decimal : Decimal) : Numeral :=
  ⟨negative, decimal.digits / Nat.pow 10 (decimal.length - 1),
    lastDigits (decimal.length - 1) decimal.digits, some decimal.leadingExponent⟩

/-- A pointed numeral gets a zero after the point when no digit stands there. -/
def pointed (numeral : Numeral) : Numeral :=
  if numeral.fraction.isEmpty then { numeral with fraction := [0] } else numeral

end Numeral

end FieldQuery.Number
