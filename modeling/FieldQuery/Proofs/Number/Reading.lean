/-
This file proves that a short decimal is read with all of its digits from the numeral that writes
it.
-/
import FieldQuery.Number.Reading
import FieldQuery.Proofs.Number.Grid
import FieldQuery.Proofs.Number.Text

namespace FieldQuery.Number

/-- What has been read before digits does not become smaller. -/
theorem Digit.le_value (before : Nat) (digits : List Digit) :
    before ≤ Digit.value before digits := by
  rw [Digit.value_eq_add]
  exact (Nat.le_mul_of_pos_right before (Nat.pow_pos (by decide))).trans (Nat.le_add_right _ _)

/-- All digits are kept when a word holds the integer that they make up. -/
theorem LeadingDigits.keep_eq {value : Nat} {digits : List Digit}
    (fits : Digit.value value digits < wordCount) :
    LeadingDigits.keep value digits = ⟨Digit.value value digits, digits.length⟩ := by
  induction digits generalizing value with
  | nil => rfl
  | cons digit rest inductionHypothesis =>
      have later : Digit.value (10 * value + digit.val) rest < wordCount := fits
      rw [keep, if_pos ((Digit.le_value _ rest).trans_lt later), inductionHypothesis later]
      rfl

/-- The digits of a number make it up. -/
theorem Digit.value_ofNat (number : Nat) : Digit.value 0 (Digit.ofNat number) = number := by
  obtain ⟨first, others, spelled⟩ := exists_spells number
  have same : Digit.ofNat number = first :: others := by
    rw [ofNat, spelled.chars, List.filterMap_map]
    have every : Digit.ofChar? ∘ Digit.char = some := funext Digit.ofChar?_char
    rw [every, List.filterMap_some]
  rw [same]
  simpa [Digit.value] using spelled.value

namespace Numeral

/-- The digits of a numeral are scaled by the places behind its point and by its exponent. -/
theorem doubleRank?_eq {numeral : Numeral}
    (fits : Digit.value numeral.whole numeral.fraction < wordCount) :
    numeral.doubleRank? = scaled? (Digit.value numeral.whole numeral.fraction)
      (numeral.exponent.getD 0 - numeral.fraction.length) := by
  have whole : Digit.value 0 (Digit.ofNat numeral.whole) < wordCount := by
    rw [Digit.value_ofNat]
    exact (Digit.le_value _ _).trans_lt fits
  have kept := LeadingDigits.keep_eq whole
  rw [Digit.value_ofNat] at kept
  simp only [doubleRank?, kept, LeadingDigits.keep_eq fits, Nat.sub_self, Nat.cast_zero, add_zero]

/-- A numeral in positional form has the digits of its decimal. -/
theorem value_positional (negative : Bool) (decimal : Decimal) :
    Digit.value (positional negative decimal).whole (positional negative decimal).fraction =
      decimal.numerator := by
  rw [Digit.value_eq_add, numerator_positional negative, denominator_positional negative,
    Nat.mul_comm]
  rfl

/-- A numeral in scientific form has the digits of its decimal. -/
theorem value_scientific (negative : Bool) (decimal : Decimal) :
    Digit.value (scientific negative decimal).whole (scientific negative decimal).fraction =
      decimal.digits := by
  rw [Digit.value_eq_add, scientific, length_lastDigits, value_lastDigits]
  exact Nat.div_add_mod' _ _

end Numeral

theorem Decimal.length_pos (decimal : Decimal) : 0 < decimal.length := Nat.length_toDigits_pos

theorem Decimal.digits_lt (decimal : Decimal) : decimal.digits < 10 ^ decimal.length :=
  (Nat.length_toDigits_le_iff (by decide) decimal.length_pos).mp (Nat.le_refl _)

/--
An integer and an exponent are read for a decimal when they have its value. They are its own digits
and exponent, or both exponents are those of exact powers of ten.
-/
structure Decimal.IsReadAs (decimal : Decimal) (value : Nat) (exponent : Int) : Prop where
  few : value < Nat.pow 2 53
  same : (value : ℚ) * 10 ^ exponent = decimal.digits * 10 ^ decimal.exponent
  moved : exponent = decimal.exponent ∨ exponent.natAbs ≤ 22 ∧ decimal.exponent.natAbs ≤ 22

namespace Decimal.IsReadAs

variable {decimal : Decimal} {value : Nat} {exponent : Int}

/-- A positive integer is read for a positive decimal. -/
theorem value_pos (isRead : decimal.IsReadAs value exponent) (positive : 0 < decimal.digits) :
    0 < value := by
  refine Nat.pos_of_ne_zero fun zero => ?_
  have own : (0 : ℚ) < decimal.digits * 10 ^ decimal.exponent :=
    mul_pos (Nat.cast_pos.mpr positive) (zpow_pos (by decide) _)
  rw [← isRead.same, zero, Nat.cast_zero, zero_mul] at own
  exact lt_irrefl 0 own

/-- The integer and the exponent have the value of the decimal in every format. -/
theorem mul_gridStep (isRead : decimal.IsReadAs value exponent) (format : Format) :
    value * format.gridStep exponent = decimal.digits * format.gridStep decimal.exponent := by
  rw [Format.gridStep, Format.gridStep, mul_left_comm, isRead.same, mul_left_comm]

/-- Both exponents are those of exact powers of ten, or none is. -/
theorem natAbs_le_iff (isRead : decimal.IsReadAs value exponent) :
    exponent.natAbs ≤ 22 ↔ decimal.exponent.natAbs ≤ 22 := by
  obtain rfl | ⟨exact, also⟩ := isRead.moved
  · exact Iff.rfl
  · exact iff_of_true exact also

/-- The exponent that is read is not far from zero if the one of the decimal is not. -/
theorem natAbs_le (isRead : decimal.IsReadAs value exponent)
    (near : decimal.exponent.natAbs ≤ 60) : exponent.natAbs ≤ 60 := by
  obtain rfl | ⟨exact, _⟩ := isRead.moved
  · exact near
  · exact exact.trans (by decide)

/-- Without an exact power of ten a decimal is read with its own digits and exponent. -/
theorem eq_of_lt (isRead : decimal.IsReadAs value exponent) (far : 22 < decimal.exponent.natAbs) :
    value = decimal.digits ∧ exponent = decimal.exponent := by
  obtain rfl | ⟨_, also⟩ := isRead.moved
  · have digits := mul_right_cancel₀
      (zpow_ne_zero decimal.exponent (by decide : (10 : ℚ) ≠ 0)) isRead.same
    exact ⟨by exact_mod_cast digits, rfl⟩
  · exact absurd also (Nat.not_le_of_lt far)

end Decimal.IsReadAs

namespace Layout

variable (negative : Bool) {decimal : Decimal}

/-- The sign of a numeral in data is the one of the number. -/
theorem negative_numeral (layout : Layout) (decimal : Decimal) :
    (layout.numeral negative decimal).negative = negative := by
  rw [numeral]
  split
  · rw [Numeral.pointed]
    split <;> rfl
  · rfl

/-- A numeral in data is no word, since it has a point or an exponent. -/
theorem isWord_numeral (layout : Layout) (decimal : Decimal) :
    (layout.numeral negative decimal).isWord = false := by
  have integral : (layout.numeral negative decimal).isIntegral = false := by
    rw [numeral]
    split
    · rw [Numeral.pointed]
      split
      · rfl
      · rename_i digits
        rw [Numeral.isIntegral, Bool.eq_false_iff.mpr digits, Bool.false_and]
    · exact Bool.and_false _
  rw [Numeral.isWord, integral, Bool.false_and]

/-- A decimal that is an integer in positional form is read with one more place. -/
theorem doubleRank?_pointed_of_whole (whole : 0 ≤ decimal.exponent)
    (fits : decimal.numerator * 10 < wordCount) :
    (Numeral.positional negative decimal).pointed.doubleRank? =
      scaled? (decimal.numerator * 10) (-1) := by
  have none : (-decimal.exponent).toNat = 0 := by omega
  have digits : (Numeral.positional negative decimal).fraction = [] := by
    rw [Numeral.positional, none]
    rfl
  have value := Numeral.value_positional negative decimal
  have pointed : (Numeral.positional negative decimal).pointed =
      { Numeral.positional negative decimal with fraction := [0] } := by
    rw [Numeral.pointed, digits]
    rfl
  rw [digits] at value
  change (Numeral.positional negative decimal).whole = decimal.numerator at value
  have moved : Digit.value (Numeral.positional negative decimal).whole [0] =
      decimal.numerator * 10 := by
    rw [value]
    exact Nat.mul_comm _ _
  rw [pointed, Numeral.doubleRank?_eq (moved.trans_lt fits)]
  dsimp only
  rw [moved]
  rfl

/-- A decimal with places in positional form is read with these places. -/
theorem doubleRank?_pointed_of_fractional (fractional : decimal.exponent < 0)
    (fits : decimal.digits < wordCount) :
    (Numeral.positional negative decimal).pointed.doubleRank? =
      scaled? decimal.digits decimal.exponent := by
  have length : (Numeral.positional negative decimal).fraction.length =
      (-decimal.exponent).toNat := Numeral.length_lastDigits _ _
  have pointed : (Numeral.positional negative decimal).pointed =
      Numeral.positional negative decimal := by
    rw [Numeral.pointed, if_neg]
    intro none
    rw [List.isEmpty_iff.mp none, List.length_nil] at length
    omega
  have whole : decimal.exponent.toNat = 0 := by omega
  have value := Numeral.value_positional negative decimal
  rw [Decimal.numerator, whole] at value
  have digits := value.trans (Nat.mul_one decimal.digits)
  have power : (0 : Int) - (-decimal.exponent).toNat = decimal.exponent := by omega
  have read := Numeral.doubleRank?_eq (digits.trans_lt fits)
  rw [digits, length] at read
  rw [pointed, read]
  exact congrArg _ power

/-- A decimal in scientific form is read with its own digits and exponent. -/
theorem doubleRank?_scientific (fits : decimal.digits < wordCount) :
    (Numeral.scientific negative decimal).doubleRank? =
      scaled? decimal.digits decimal.exponent := by
  have digits := Numeral.value_scientific negative decimal
  have length : (Numeral.scientific negative decimal).fraction.length = decimal.length - 1 :=
    Numeral.length_lastDigits _ _
  have power : (Numeral.scientific negative decimal).exponent.getD 0 -
      (decimal.length - 1 : Nat) = decimal.exponent := by
    have positive := decimal.length_pos
    change decimal.leadingExponent - _ = _
    rw [Decimal.leadingExponent]
    omega
  have read := Numeral.doubleRank?_eq (digits.trans_lt fits)
  rw [digits, length, power] at read
  exact read

/-- An integer with no more than thirteen digits has room for one more place. -/
theorem numerator_mul_ten_lt (short : decimal.exponent.toNat + decimal.length ≤ 13) :
    decimal.numerator * 10 < Nat.pow 2 53 := by
  have tens : 0 < Nat.pow 10 decimal.exponent.toNat := Nat.pow_pos (by decide)
  calc decimal.numerator * 10
      < 10 ^ decimal.length * Nat.pow 10 decimal.exponent.toNat * 10 :=
        Nat.mul_lt_mul_of_pos_right
          (Nat.mul_lt_mul_of_pos_right decimal.digits_lt tens) (by decide)
    _ = 10 ^ (decimal.exponent.toNat + decimal.length) * 10 := by
        rw [Nat.mul_comm (10 ^ decimal.length)]
        exact congrArg (· * 10) (Nat.pow_add 10 _ _).symm
    _ ≤ 10 ^ 13 * 10 := Nat.mul_le_mul_right _ (Nat.pow_le_pow_right (by decide) short)
    _ < Nat.pow 2 53 := by decide

/-- One more place of an integer does not change its value. -/
theorem isReadAs_numerator_mul_ten (whole : 0 ≤ decimal.exponent)
    (short : decimal.exponent.toNat + decimal.length ≤ 13) :
    decimal.IsReadAs (decimal.numerator * 10) (-1) := by
  have same : decimal.exponent = (decimal.exponent.toNat : Int) := by omega
  have positive := decimal.length_pos
  refine ⟨numerator_mul_ten_lt short, ?_, .inr ⟨by decide, by omega⟩⟩
  rw [same, zpow_natCast, Decimal.numerator, zpow_neg_one]
  push_cast
  rw [mul_inv_cancel_right₀ (by decide)]
  exact_mod_cast rfl

/--
A short decimal is read with its own digits and exponent. One that is a small integer may also be
read with one more place.
-/
theorem exists_doubleRank?_numeral (few : decimal.digits < Nat.pow 2 53) : ∃ value exponent,
    (single.numeral negative decimal).doubleRank? = scaled? value exponent ∧
      decimal.IsReadAs value exponent := by
  have word : Nat.pow 2 53 < wordCount := by decide
  have fits := few.trans word
  rw [numeral]
  split
  · rename_i positional
    by_cases whole : 0 ≤ decimal.exponent
    · have short : decimal.exponent.toNat + decimal.length ≤ 13 := by
        have last : decimal.leadingExponent ≤ 12 := positional.2
        rw [Decimal.leadingExponent] at last
        omega
      exact ⟨_, _, doubleRank?_pointed_of_whole negative whole
        ((numerator_mul_ten_lt short).trans word), isReadAs_numerator_mul_ten whole short⟩
    · have fractional := Int.lt_of_not_ge whole
      exact ⟨_, _, doubleRank?_pointed_of_fractional negative fractional fits, few, rfl, .inl rfl⟩
  · exact ⟨_, _, doubleRank?_scientific negative fits, few, rfl, .inl rfl⟩

end Layout

end FieldQuery.Number
