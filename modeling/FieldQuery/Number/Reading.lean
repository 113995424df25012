/-
This file reads numerals as numbers. A numeral with a point or an exponent is read in two steps:
its leading digits are rounded as an integer, and the result is scaled by a rounded power of ten.
-/
import FieldQuery.Number.Rounding
import FieldQuery.Number.Numeral

namespace FieldQuery.Number

/-- This is the number of words of sixty-four bits. -/
def wordCount : Nat := 18446744073709551616

/-- This is the number of words of sixty-four bits whose sign bit is not set. -/
def signedCount : Nat := 9223372036854775808

/-- This structure contains the leading digits kept as an integer and the count of those kept. -/
structure LeadingDigits where
  value : Nat
  kept : Nat

/-- A digit is kept while the integer fits a word of sixty-four bits. -/
def LeadingDigits.keep (value : Nat) : List Digit → LeadingDigits
  | [] => ⟨value, 0⟩
  | digit :: rest =>
    if 10 * value + digit.val < wordCount then
      let tail := LeadingDigits.keep (10 * value + digit.val) rest
      ⟨tail.value, tail.kept + 1⟩
    else ⟨value, 0⟩

/-- These digits make up a natural number. -/
def Digit.ofNat (value : Nat) : List Digit :=
  (Nat.toDigits 10 value).filterMap Digit.ofChar?

/-- The greatest power of ten in one step of a scaling has this exponent. -/
def greatestPower : Nat := 308

/-- A magnitude is divided by powers of ten until the exponent is used up or zero is reached. -/
def shrink (rank exponent : Nat) : Nat :=
  if exponent ≤ greatestPower then
    Format.double.quotient rank (Format.double.ofNat (Nat.pow 10 exponent))
  else if rank = 0 then 0
  else shrink (Format.double.quotient rank (Format.double.ofNat (Nat.pow 10 greatestPower)))
    (exponent - greatestPower)
termination_by exponent
decreasing_by simp only [greatestPower] at *; omega

/-- A magnitude is multiplied by one power of ten; what leaves the finite range has no value. -/
def grow? (rank exponent : Nat) : Option Nat :=
  if exponent ≤ greatestPower then
    let result := Format.double.product rank (Format.double.ofNat (Nat.pow 10 exponent))
    if result < Format.double.infinity then some result else none
  else if rank = 0 then some 0
  else none

/-- An integer is rounded and then scaled by a power of ten. -/
def scaled? (value : Nat) (exponent : Int) : Option Nat :=
  let rank := Format.double.ofNat value
  if exponent < 0 then some (shrink rank exponent.natAbs) else grow? rank exponent.toNat

namespace Numeral

/-- The magnitude of a numeral comes from its leading digits; dropped whole digits count as zeros. -/
def doubleRank? (numeral : Numeral) : Option Nat :=
  let digits := Digit.ofNat numeral.whole
  let whole := LeadingDigits.keep 0 digits
  let all := LeadingDigits.keep whole.value numeral.fraction
  let dropped : Nat := digits.length - whole.kept
  scaled? all.value (numeral.exponent.getD 0 + dropped - all.kept)

/-- A numeral beyond the finite range of double numbers has no value. -/
def double? (numeral : Numeral) : Option Double :=
  numeral.doubleRank?.map (Binary.ofRank numeral.negative)

/-- An integral numeral is a word when sixty-four bits hold it, with or without a sign. -/
def isWord (numeral : Numeral) : Bool :=
  numeral.isIntegral &&
    decide (numeral.whole < if numeral.negative then signedCount + 1 else wordCount)

/-- A word is rounded to a single number at once, and any other numeral by way of a double one. -/
def single? (numeral : Numeral) : Option Single :=
  if numeral.isWord then some (Binary.nearest numeral.negative numeral.whole 1)
  else numeral.double?.map Binary.convert

/-- An integer is read from an integral numeral within the signed range; minus zero is none. -/
def int64? (numeral : Numeral) : Option Int64 :=
  if numeral.isIntegral then
    if numeral.negative then
      if numeral.whole ≠ 0 ∧ numeral.whole ≤ signedCount then some (Int64.ofInt (-numeral.whole))
      else none
    else if numeral.whole < signedCount then some (Int64.ofInt numeral.whole)
    else none
  else none

end Numeral

end FieldQuery.Number
