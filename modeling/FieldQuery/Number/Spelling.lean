/-
This file reads floating-point numbers from plain text with one exact rounding.
-/
import FieldQuery.Number.Rounding
import FieldQuery.Number.Shortest
import FieldQuery.Number.Digits

namespace FieldQuery.Number

/-- An exponent follows a letter e, may have a sign, and has a digit; it may be left out. -/
def spelledExponent? : List Char → Option Int
  | [] => some 0
  | mark :: rest =>
    if mark = 'e' ∨ mark = 'E' then
      let (negative, characters) := signed rest
      match digitRun characters with
      | ⟨first :: others, []⟩ =>
        let value := Digit.value 0 (first :: others)
        some (if negative then -value else value)
      | _ => none
    else none

/-- A decimal has a digit before or after its point. -/
def spelledDecimal? (characters : List Char) : Option Decimal :=
  let whole := digitRun characters
  let fraction : DigitRun := match whole.rest with
    | '.' :: rest => digitRun rest
    | rest => ⟨[], rest⟩
  if whole.digits.isEmpty && fraction.digits.isEmpty then none
  else (spelledExponent? fraction.rest).map fun exponent =>
    ⟨Digit.value 0 (whole.digits ++ fraction.digits), exponent - fraction.digits.length⟩

namespace Binary

variable {format : Format}

/--
A decimal far outside the range of a format is infinite or zero without any arithmetic: its
exponents are compared with two to the power of the exponent bits.
-/
def ofDecimal (negative : Bool) (decimal : Decimal) : Binary format :=
  let range : Int := Nat.pow 2 format.exponentBits
  if decimal.digits = 0 then ofRank negative 0
  else if range < decimal.leadingExponent then infinite negative
  else if decimal.leadingExponent < -range then ofRank negative 0
  else nearest negative decimal.numerator decimal.denominator

/-- A number is spelled as a decimal, or as one of three words in any case. -/
def ofText? (text : String) : Option (Binary format) :=
  let (negative, characters) := signed text.toList
  let word := String.ofList (characters.map Char.toLower)
  if word = "inf" ∨ word = "infinity" then some (infinite negative)
  else if word = "nan" then some notANumber
  else (spelledDecimal? characters).map (ofDecimal negative)

end Binary

end FieldQuery.Number
