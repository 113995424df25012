/-
This file proves how texts of digits stand to each other in the order of their code points, from
left to right: like the fractions that their digits make behind a point.
-/
import FieldQuery.Proofs.Calendar
import Mathlib.Data.Nat.Digits.Defs
import Mathlib.Data.String.Basic
import Mathlib.Tactic.Ring

namespace FieldQuery.Number

/-- Texts are compared at their starts first when these have one length. -/
theorem append_lt_append_iff {first second : List Char} (same : first.length = second.length)
    (rest others : List Char) :
    first ++ rest < second ++ others ↔ first < second ∨ first = second ∧ rest < others := by
  induction first generalizing second with
  | nil =>
      obtain rfl := List.length_eq_zero_iff.mp same.symm
      simp
  | cons character later inductionHypothesis =>
      cases second with
      | nil => cases same
      | cons other following =>
          simp only [List.cons_append, List.cons_lt_cons_iff, List.cons.injEq,
            inductionHypothesis (Nat.succ.inj same)]
          tauto

/-- Of two sums of a multiple and a remainder, the multiples are compared first. -/
theorem mul_add_lt_mul_add_iff {left right whole remainder other : Nat} (below : remainder < whole)
    (alsoBelow : other < whole) :
    left * whole + remainder < right * whole + other ↔
      left < right ∨ left = right ∧ remainder < other := by
  obtain less | rfl | greater := Nat.lt_trichotomy left right
  · have room := Nat.mul_le_mul_right whole (Nat.succ_le_of_lt less)
    rw [Nat.succ_mul] at room
    omega
  · omega
  · have room := Nat.mul_le_mul_right whole (Nat.succ_le_of_lt greater)
    rw [Nat.succ_mul] at room
    omega

/-- Two sums of a multiple and a remainder are equal in both parts. -/
theorem mul_add_eq_mul_add_iff {left right whole remainder other : Nat} (below : remainder < whole)
    (alsoBelow : other < whole) :
    left * whole + remainder = right * whole + other ↔ left = right ∧ remainder = other := by
  have forth : left * whole + remainder < right * whole + other ↔ _ :=
    mul_add_lt_mul_add_iff below alsoBelow
  have back : right * whole + other < left * whole + remainder ↔ _ :=
    mul_add_lt_mul_add_iff alsoBelow below
  omega

namespace Digit

theorem char_lt_char_iff (left right : Digit) : left.char < right.char ↔ left < right := by
  decide +revert

theorem char_inj {left right : Digit} : left.char = right.char ↔ left = right := by
  decide +revert

/-- A sign stands before all digits. -/
theorem hyphen_lt_char (digit : Digit) : '-' < digit.char := by
  decide +revert

theorem value_cons (digit : Digit) (rest : List Digit) :
    value 0 (digit :: rest) = digit.val * 10 ^ rest.length + value 0 rest := by
  rw [← value_eq_add]
  simp [value]

/-- A number of some digits is smaller than the first one with more digits. -/
theorem value_lt (digits : List Digit) : value 0 digits < 10 ^ digits.length := by
  induction digits with
  | nil => simp [value]
  | cons digit rest inductionHypothesis =>
      have room := Nat.mul_le_mul_right (10 ^ rest.length) (Nat.succ_le_of_lt digit.isLt)
      rw [value_cons, List.length_cons, Nat.pow_succ]
      rw [Nat.succ_mul] at room
      omega

/-- Runs of digits are ordered like the fractions behind a point, and then by their lengths. -/
theorem map_char_lt_map_char_iff (left right : List Digit) :
    left.map char < right.map char ↔
      value 0 left * 10 ^ right.length < value 0 right * 10 ^ left.length ∨
        value 0 left * 10 ^ right.length = value 0 right * 10 ^ left.length ∧
          left.length < right.length := by
  induction left generalizing right with
  | nil =>
      cases right with
      | nil => simp [value]
      | cons digit rest =>
          have zero : value 0 [] = 0 := rfl
          have before : [] < (digit :: rest).map char := List.nil_lt_cons _ _
          simp only [List.map_nil, before, zero, true_iff, List.length_nil, List.length_cons,
            Nat.zero_mul, Nat.pow_zero, Nat.mul_one]
          omega
  | cons first others inductionHypothesis =>
      cases right with
      | nil => simp [value]
      | cons digit rest =>
          -- Both fractions are brought to one denominator, ten times that of the later digits.
          have positive (places : Nat) : 0 < 10 ^ places := Nat.pow_pos (by decide)
          have below := Nat.mul_lt_mul_of_pos_right (value_lt others) (positive rest.length)
          have alsoBelow := Nat.mul_lt_mul_of_pos_right (value_lt rest) (positive others.length)
          rw [Nat.mul_comm (10 ^ rest.length)] at alsoBelow
          have leftSide : value 0 (first :: others) * 10 ^ (digit :: rest).length =
              10 * (first.val * (10 ^ others.length * 10 ^ rest.length) +
                value 0 others * 10 ^ rest.length) := by
            rw [value_cons, List.length_cons]
            ring
          have rightSide : value 0 (digit :: rest) * 10 ^ (first :: others).length =
              10 * (digit.val * (10 ^ others.length * 10 ^ rest.length) +
                value 0 rest * 10 ^ others.length) := by
            rw [value_cons, List.length_cons]
            ring
          rw [leftSide, rightSide, Nat.mul_lt_mul_left (by decide), Nat.mul_right_inj (by decide),
            mul_add_lt_mul_add_iff below alsoBelow, mul_add_eq_mul_add_iff below alsoBelow]
          simp only [List.map_cons, List.cons_lt_cons_iff, char_lt_char_iff, char_inj,
            inductionHypothesis, List.length_cons, Nat.add_lt_add_iff_right, Fin.lt_def,
            Fin.ext_iff]
          tauto

end Digit

/-- This many digits make up the text of a number. -/
def digitCount (number : Nat) : Nat := (Nat.toDigits 10 number).length

/--
A number reads up to another one when its digits, put behind a point, make a smaller fraction, or
the same fraction with no more digits.
-/
def ReadsUpTo (left right : Nat) : Prop :=
  left * 10 ^ digitCount right < right * 10 ^ digitCount left ∨
    left * 10 ^ digitCount right = right * 10 ^ digitCount left ∧ digitCount left ≤ digitCount right
deriving Decidable

/-- The text of a number is made of digits that make it up. -/
theorem exists_toDigits_eq (number : Nat) : ∃ digits : List Digit,
    Nat.toDigits 10 number = digits.map Digit.char ∧ digits.length = digitCount number ∧
      Digit.value 0 digits = number := by
  obtain ⟨first, others, spelled⟩ := exists_spells number
  refine ⟨first :: others, spelled.chars, ?_, ?_⟩
  · rw [digitCount, spelled.chars, List.length_map]
  · simpa [Digit.value] using spelled.value

/-- A number lies below the first one with more digits. -/
theorem lt_pow_digitCount (number : Nat) : number < 10 ^ digitCount number := by
  obtain ⟨digits, _, count, value⟩ := exists_toDigits_eq number
  rw [← count]
  exact lt_of_eq_of_lt value.symm (Digit.value_lt digits)

/-- A smaller number has no more digits. -/
theorem digitCount_le_digitCount {left right : Nat} (le : left ≤ right) :
    digitCount left ≤ digitCount right := by
  have some : 0 < digitCount right := Nat.length_toDigits_pos
  exact Nat.toDigits_length 10 left _ some (Nat.lt_of_le_of_lt le (lt_pow_digitCount right))

/-- A number reads up to another one when the digits of that one do not stand before its own. -/
theorem not_toDigits_lt_toDigits_iff (left right : Nat) :
    ¬ Nat.toDigits 10 right < Nat.toDigits 10 left ↔ ReadsUpTo left right := by
  obtain ⟨digits, chars, count, value⟩ := exists_toDigits_eq left
  obtain ⟨others, alsoChars, alsoCount, alsoValue⟩ := exists_toDigits_eq right
  rw [chars, alsoChars, Digit.map_char_lt_map_char_iff, value, alsoValue, count, alsoCount,
    ReadsUpTo]
  omega

/-- Among numbers with equally many digits, a number reads up to those that are not smaller. -/
theorem readsUpTo_iff_le {left right : Nat} (same : digitCount left = digitCount right) :
    ReadsUpTo left right ↔ left ≤ right := by
  have positive : 0 < 10 ^ digitCount right := Nat.pow_pos (by decide)
  rw [ReadsUpTo, same, Nat.mul_lt_mul_right positive, Nat.mul_left_inj (Nat.ne_of_gt positive)]
  omega

/--
An integer is spelled up to another one when its sign puts it before that one, or both have one sign
and its digits read up to those of the other one.
-/
def SpelledUpTo (left right : Int) : Prop :=
  if left < 0 then 0 ≤ right ∨ ReadsUpTo left.natAbs right.natAbs
  else 0 ≤ right ∧ ReadsUpTo left.natAbs right.natAbs
deriving Decidable

/-- An integer that is not negative is spelled up to no smaller one with equally many digits. -/
theorem spelledUpTo_of_le {left right : Int} (positive : 0 ≤ left) (le : left ≤ right)
    (same : digitCount left.natAbs = digitCount right.natAbs) : SpelledUpTo left right := by
  rw [SpelledUpTo, if_neg (Int.not_lt.mpr positive), readsUpTo_iff_le same]
  omega

namespace Numeral

/-- The text of an integer is its sign and its digits. -/
theorem toList_text_ofInt (value : Int) : (ofInt value).text.toList =
    (if value < 0 then ['-'] else []) ++ Nat.toDigits 10 value.natAbs := by
  simp [text, chars, ofInt]

/-- A minus stands before the digits of any number. -/
theorem hyphen_cons_lt_toDigits (rest : List Char) (number : Nat) :
    '-' :: rest < Nat.toDigits 10 number := by
  obtain ⟨first, others, spelled⟩ := exists_spells number
  rw [spelled.chars, List.map_cons, List.cons_lt_cons_iff]
  exact .inl first.hyphen_lt_char

/-- The texts of integers stand in the order in which the integers are spelled. -/
theorem text_ofInt_le_iff (left right : Int) :
    (ofInt left).text ≤ (ofInt right).text ↔ SpelledUpTo left right := by
  rw [← String.not_lt, String.lt_iff_toList_lt, toList_text_ofInt, toList_text_ofInt, SpelledUpTo]
  by_cases negative : left < 0
  · by_cases alsoNegative : right < 0
    · have minus : ¬ '-' < '-' := by decide
      simp only [negative, alsoNegative, if_true, List.singleton_append, List.cons_lt_cons_iff,
        minus, false_or, true_and, not_toDigits_lt_toDigits_iff, Int.not_le.mpr alsoNegative]
    · have before := hyphen_cons_lt_toDigits (Nat.toDigits 10 left.natAbs) right.natAbs
      simp only [negative, alsoNegative, if_true, if_false, List.singleton_append, List.nil_append,
        List.lt_asymm before, not_false_iff, Int.not_lt.mp alsoNegative, true_or]
  · by_cases alsoNegative : right < 0
    · have before := hyphen_cons_lt_toDigits (Nat.toDigits 10 right.natAbs) left.natAbs
      simp only [negative, alsoNegative, if_true, if_false, List.singleton_append, List.nil_append,
        before, not_true, Int.not_le.mpr alsoNegative, false_and]
    · simp only [negative, alsoNegative, if_false, List.nil_append, not_toDigits_lt_toDigits_iff,
        Int.not_lt.mp alsoNegative, true_and]

end Numeral

end FieldQuery.Number
