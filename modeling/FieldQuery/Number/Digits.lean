/-
This file defines decimal digits and the runs of them that start a text.
-/

namespace FieldQuery.Number

/-- A decimal digit is a number below ten. -/
abbrev Digit := Fin 10

def Digit.char (digit : Digit) : Char :=
  Nat.digitChar digit.val

/-- A character from 0 to 9 is read as a digit. -/
def Digit.ofChar? (character : Char) : Option Digit :=
  if bounds : 48 ≤ character.toNat ∧ character.toNat < 58 then
    some ⟨character.toNat - 48, by omega⟩
  else none

/-- A sequence of digits continues a number that has been read before it. -/
def Digit.value (before : Nat) (digits : List Digit) : Nat :=
  digits.foldl (fun value digit => 10 * value + digit.val) before

/-- This structure contains the digits at the start of a text and what stands after them. -/
structure DigitRun where
  digits : List Digit
  rest : List Char

/-- The run takes every digit up to the first other character. -/
def digitRun : List Char → DigitRun
  | [] => ⟨[], []⟩
  | character :: rest =>
    match Digit.ofChar? character with
    | some digit => let run := digitRun rest; ⟨digit :: run.digits, run.rest⟩
    | none => ⟨[], character :: rest⟩

/-- A sign may stand in front; a minus makes the number negative. -/
def signed : List Char → Bool × List Char
  | '-' :: rest => (true, rest)
  | '+' :: rest => (false, rest)
  | characters => (false, characters)

end FieldQuery.Number
