/-
This file proves that the texts of dates with four-digit years stand in the order of the calendar.
-/
import FieldQuery.Proofs.Number.Lexicographic

namespace FieldQuery.Date

open Number

instance : LE Date where
  le first second :=
    first.year < second.year ∨ first.year = second.year ∧
      (first.month < second.month ∨ first.month = second.month ∧ first.day ≤ second.day)

/-- A year is written without a sign when it has at most four digits and is not negative. -/
def HasPlainYear (date : Date) : Prop := 0 ≤ date.year ∧ date.year ≤ 9999
deriving Decidable

/-- A number that fits a width is padded to digits that make it up and fill the width. -/
theorem exists_padded_eq_of_lt {width value : Nat} (positive : 0 < width)
    (small : value < 10 ^ width) : ∃ digits : List Digit,
      padded width value = digits.map Digit.char ∧ Digit.value 0 digits = value ∧
        digits.length = width := by
  obtain ⟨first, others, written, number, length⟩ := exists_padded_eq width value
  exact ⟨first :: others, written, number, length positive small⟩

section

variable {width left right : Nat} (positive : 0 < width) (small : left < 10 ^ width)
  (alsoSmall : right < 10 ^ width)

include positive small alsoSmall

/-- Padded numbers of one width stand in their order. -/
theorem padded_lt_padded_iff : padded width left < padded width right ↔ left < right := by
  obtain ⟨digits, written, number, length⟩ := exists_padded_eq_of_lt positive small
  obtain ⟨others, alsoWritten, alsoNumber, alsoLength⟩ := exists_padded_eq_of_lt positive alsoSmall
  have room : 0 < 10 ^ width := Nat.pow_pos (by decide)
  rw [written, alsoWritten, Digit.map_char_lt_map_char_iff, number, alsoNumber, length, alsoLength,
    Nat.mul_lt_mul_right room]
  omega

/-- Padded numbers of one width are compared before what follows them. -/
theorem padded_append_lt_iff (rest others : List Char) :
    padded width left ++ rest < padded width right ++ others ↔
      left < right ∨ left = right ∧ rest < others := by
  obtain ⟨digits, written, number, length⟩ := exists_padded_eq_of_lt positive small
  obtain ⟨following, alsoWritten, alsoNumber, alsoLength⟩ :=
    exists_padded_eq_of_lt positive alsoSmall
  have lengths : (padded width left).length = (padded width right).length := by
    rw [written, alsoWritten, List.length_map, List.length_map, length, alsoLength]
  have same : padded width left = padded width right ↔ left = right := by
    refine ⟨fun equal => ?_, congrArg (padded width)⟩
    rw [written, alsoWritten] at equal
    have digitwise : digits = following :=
      List.map_injective_iff.mpr (fun _ _ => Digit.char_inj.mp) equal
    rw [← number, ← alsoNumber, digitwise]
  rw [append_lt_append_iff lengths, padded_lt_padded_iff positive small alsoSmall, same]

end

/-- The characters of dates with plain years stand in the order of the dates. -/
theorem chars_lt_chars_iff {first second : Date} (plain : first.HasPlainYear)
    (alsoPlain : second.HasPlainYear) : first.chars < second.chars ↔ ¬ second ≤ first := by
  obtain ⟨month, day⟩ := first.month_lt_and_day_lt
  obtain ⟨alsoMonth, alsoDay⟩ := second.month_lt_and_day_lt
  obtain ⟨least, greatest⟩ := plain
  obtain ⟨alsoLeast, alsoGreatest⟩ := alsoPlain
  have hyphen : ¬ '-' < '-' := by decide
  rw [chars, chars, yearChars, yearChars, if_pos ⟨least, greatest⟩,
    if_pos ⟨alsoLeast, alsoGreatest⟩, padded_append_lt_iff (by decide) (by omega) (by omega),
    List.cons_lt_cons_iff, padded_append_lt_iff (by decide) month alsoMonth, List.cons_lt_cons_iff,
    padded_lt_padded_iff (by decide) day alsoDay]
  change _ ↔ ¬ (second.year < first.year ∨ second.year = first.year ∧
    (second.month < first.month ∨ second.month = first.month ∧ second.day ≤ first.day))
  simp only [hyphen, false_or, true_and]
  omega

/-- The texts of dates with plain years stand in the order of the dates. -/
theorem text_le_text_iff {first second : Date} (plain : first.HasPlainYear)
    (alsoPlain : second.HasPlainYear) : first.text ≤ second.text ↔ first ≤ second := by
  rw [← String.not_lt, String.lt_iff_toList_lt, text, text, String.toList_ofList,
    String.toList_ofList, chars_lt_chars_iff alsoPlain plain, not_not]

end FieldQuery.Date
