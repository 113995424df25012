/-
This file proves that every date is read back from its text.
-/
import FieldQuery.Calendar
import FieldQuery.Proofs.Json.Numeral
import Mathlib.Data.Nat.Digits.Defs

namespace FieldQuery

open Number

namespace Number

theorem Digit.isBlank_char (digit : Digit) : Text.isBlank digit.char = false := by
  decide +revert

theorem Digit.value_replicate_zero_append (count : Nat) (digits : List Digit) :
    Digit.value 0 (List.replicate count 0 ++ digits) = Digit.value 0 digits := by
  induction count with
  | zero => rfl
  | succ count inductionHypothesis => exact inductionHypothesis

end Number

theorem daysInMonth_le (year : Int) (month : Nat) : daysInMonth year month ≤ 31 := by
  fun_cases daysInMonth year month <;> simp

/-- There is no month behind the twelfth. -/
theorem daysInMonth_of_lt (year : Int) {month : Nat} (later : 12 < month) :
    daysInMonth year month = 0 := by
  fun_cases daysInMonth year month <;> simp at later ⊢

namespace Date

/-- The month and the day of a date have at most two digits. -/
theorem month_lt_and_day_lt (date : Date) : date.month < 100 ∧ date.day < 100 := by
  obtain ⟨year, month, day, valid⟩ := date
  simp only [isCalendarDate, Bool.and_eq_true, decide_eq_true_eq] at valid
  obtain ⟨⟨_, positive⟩, within⟩ := valid
  have short := daysInMonth_le year month
  have early : month ≤ 12 := by
    by_contra later
    rw [daysInMonth_of_lt year (Nat.lt_of_not_le later)] at within
    omega
  exact ⟨by change month < 100; omega, by change day < 100; omega⟩

theorem skipBlank_cons {character : Char} (visible : Text.isBlank character = false)
    (rest : List Char) : skipBlank (character :: rest) = character :: rest :=
  List.dropWhile_cons_of_neg (by simp [visible])

/-- A padded number has at least one digit, and these digits make it up. -/
theorem exists_padded_eq (width value : Nat) : ∃ first others,
    padded width value = List.map Digit.char (first :: others) ∧
      Digit.value 0 (first :: others) = value ∧
      (0 < width → value < 10 ^ width → (first :: others).length = width) := by
  obtain ⟨first, others, spelled⟩ := exists_spells value
  have length : (Nat.toDigits 10 value).length = others.length + 1 := by
    rw [spelled.chars, List.length_map, List.length_cons]
  have written : padded width value = List.map Digit.char
      (List.replicate (width - (others.length + 1)) 0 ++ first :: others) := by
    rw [padded, length, spelled.chars, List.map_append, List.map_replicate]
    rfl
  have number : Digit.value 0 (first :: others) = value := by
    rw [← spelled.value]
    simp [Digit.value]
  have fits (positive : 0 < width) (small : value < 10 ^ width) : others.length + 1 ≤ width :=
    length ▸ Nat.toDigits_length 10 value width positive small
  -- The first digit may be one of the zeros in front.
  rw [← Digit.value_replicate_zero_append (width - (others.length + 1))] at number
  obtain ⟨head, tail, same⟩ := List.exists_cons_of_ne_nil
    (show List.replicate (width - (others.length + 1)) 0 ++ first :: others ≠ [] by simp)
  refine ⟨head, tail, same ▸ written, same ▸ number, fun positive small => ?_⟩
  have enough := fits positive small
  rw [← same, List.length_append, List.length_replicate, List.length_cons]
  omega

/-- A padded number is read back in front of anything but a digit. -/
theorem readNumber?_padded {width value : Nat} (positive : 0 < width) (small : value < 10 ^ width)
    {rest : List Char} (ends : EndsRun rest) :
    readNumber? width (padded width value ++ rest) = some (value, rest) := by
  obtain ⟨first, others, written, number, length⟩ := exists_padded_eq width value
  have start : skipBlank (padded width value ++ rest) =
      List.map Digit.char (first :: others) ++ rest := by
    rw [written, List.map_cons, List.cons_append, skipBlank_cons first.isBlank_char]
  rw [readNumber?, start, digitRun_map_char_append (first :: others) ends]
  simp only [length positive small, number]
  exact if_pos ⟨positive, Nat.le_refl width⟩

theorem endsRun_hyphen_cons (rest : List Char) : EndsRun ('-' :: rest) := by
  rintro character ⟨⟩
  decide

/-- A number behind a sign is read as a year. -/
theorem readYear?_sign_cons {sign : Char} {negative : Bool} (visible : Text.isBlank sign = false)
    (signs : ∀ characters, signed (sign :: characters) = (negative, characters)) (value : Nat)
    {rest : List Char} (ends : EndsRun rest) :
    readYear? (sign :: (padded 4 value ++ rest)) =
      some (if negative then -(value : Int) else (value : Int), rest) := by
  obtain ⟨first, others, written, number, _⟩ := exists_padded_eq 4 value
  have run : digitRun (padded 4 value ++ rest) = ⟨first :: others, rest⟩ := by
    rw [written]
    exact digitRun_map_char_append (first :: others) ends
  have shorter : ¬ (padded 4 value ++ rest).length = (sign :: (padded 4 value ++ rest)).length :=
    Nat.ne_of_lt (Nat.lt_succ_self _)
  rw [readYear?, skipBlank_cons visible]
  simp only [signs, if_neg shorter, run, number, List.isEmpty_cons, Bool.false_eq_true, if_false]

/-- Four digits without a sign are read as a year. -/
theorem readYear?_padded {value : Nat} (small : value < 10 ^ 4) {rest : List Char}
    (ends : EndsRun rest) : readYear? (padded 4 value ++ rest) = some ((value : Int), rest) := by
  obtain ⟨first, others, written, _⟩ := exists_padded_eq 4 value
  have start : skipBlank (padded 4 value ++ rest) = padded 4 value ++ rest := by
    rw [written, List.map_cons, List.cons_append, skipBlank_cons first.isBlank_char]
  have unsigned : signed (padded 4 value ++ rest) = (false, padded 4 value ++ rest) := by
    rw [written, List.map_cons, List.cons_append, Digit.signed_char_cons]
  rw [readYear?, start, unsigned]
  simp only [if_true, readNumber?_padded (by decide) small ends, Option.map_some]

/-- A year is read back in front of a hyphen. -/
theorem readYear?_yearChars (year : Int) (rest : List Char) :
    readYear? (yearChars year ++ '-' :: rest) = some (year, '-' :: rest) := by
  have ends := endsRun_hyphen_cons rest
  unfold yearChars
  by_cases short : 0 ≤ year ∧ year ≤ 9999
  · rw [if_pos short, readYear?_padded (by omega) ends, Int.natAbs_of_nonneg short.1]
  · rw [if_neg short, List.cons_append]
    by_cases negative : year < 0
    · rw [if_pos negative, readYear?_sign_cons (by decide) (fun _ => rfl) _ ends, if_pos rfl,
        Int.ofNat_natAbs_of_nonpos (Int.le_of_lt negative), Int.neg_neg]
    · rw [if_neg negative, readYear?_sign_cons (by decide) (fun _ => rfl) _ ends,
        if_neg Bool.false_ne_true, Int.natAbs_of_nonneg (Int.not_lt.mp negative)]

theorem readHyphen?_hyphen (rest : List Char) : readHyphen? ('-' :: rest) = some rest := by
  rw [readHyphen?, skipBlank_cons (by decide)]
  rfl

/-- Every date is read back from its text. -/
theorem ofText?_text (date : Date) : ofText? date.text = some date := by
  obtain ⟨month, day⟩ := date.month_lt_and_day_lt
  have nothing : EndsRun [] := by
    rintro character ⟨⟩
  have short {value : Nat} (small : value < 100) {rest : List Char} (ends : EndsRun rest) :
      readNumber? 2 (padded 2 value ++ rest) = some (value, rest) :=
    readNumber?_padded (by decide) small ends
  have last := short day nothing
  rw [List.append_nil] at last
  rw [ofText?, text, String.toList_ofList, chars]
  simp only [readYear?_yearChars, readHyphen?_hyphen,
    short month (endsRun_hyphen_cons _), last, Option.bind_eq_bind,
    Option.bind_some]
  exact dif_pos date.valid

end Date

end FieldQuery
