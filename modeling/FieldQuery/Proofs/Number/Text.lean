/-
This file proves that finite numbers are told apart by their texts.
-/
import FieldQuery.Number.Layout
import FieldQuery.Proofs.Json.Numeral
import FieldQuery.Proofs.Number.Rounding

namespace FieldQuery.Number

namespace Numeral

/-- The last digits of a number have the count that is asked for. -/
theorem length_lastDigits (places value : Nat) : (lastDigits places value).length = places := by
  induction places generalizing value with
  | zero => rfl
  | succ places inductionHypothesis =>
      rw [lastDigits, List.length_append, inductionHypothesis]
      rfl

/-- The last digits of a number make up its remainder. -/
theorem value_lastDigits (places value : Nat) :
    Digit.value 0 (lastDigits places value) = value % Nat.pow 10 places := by
  induction places generalizing value with
  | zero => exact (Nat.mod_one value).symm
  | succ places inductionHypothesis =>
      have inner := inductionHypothesis (value / 10)
      rw [Digit.value] at inner ⊢
      have power : Nat.pow 10 (places + 1) = 10 * Nat.pow 10 places := Nat.mul_comm _ _
      rw [lastDigits, List.foldl_append, inner, power, Nat.mod_mul]
      exact Nat.add_comm _ _

/-- Numerals are told apart by their texts. -/
theorem text_injective : Function.Injective text := by
  intro left right same
  have chars : left.chars = right.chars := String.ofList_injective same
  have read := Json.token?_numeral left.hasText_chars endsNumeral_nil
  rw [chars, Json.token?_numeral right.hasText_chars endsNumeral_nil] at read
  injection read with found
  injection (Prod.mk.inj found).1 with equal
  exact equal.symm

/-- The denominator of a decimal is seen in the number of digits behind the point. -/
theorem denominator_positional (negative : Bool) (decimal : Decimal) :
    decimal.denominator = Nat.pow 10 (positional negative decimal).fraction.length := by
  rw [positional, length_lastDigits]
  rfl

/-- The numerator of a decimal is seen in the digits before and behind the point. -/
theorem numerator_positional (negative : Bool) (decimal : Decimal) :
    decimal.numerator = decimal.denominator * (positional negative decimal).whole +
      Digit.value 0 (positional negative decimal).fraction := by
  have remainder : decimal.numerator % decimal.denominator =
      Digit.value 0 (positional negative decimal).fraction := by
    rw [positional, value_lastDigits, Decimal.numerator, Decimal.denominator]
    obtain whole | fractional := Int.le_total 0 decimal.exponent
    · have none : (-decimal.exponent).toNat = 0 := by omega
      rw [none]
      exact (Nat.mod_one _).trans (Nat.mod_one _).symm
    · have none : decimal.exponent.toNat = 0 := by omega
      rw [none]
      exact congrArg (· % _) (Nat.mul_one _)
  rw [← remainder]
  exact (Nat.div_add_mod _ _).symm

/-- A sign, a point and digits make up a numeral without an exponent. -/
def isPart (character : Char) : Bool :=
  character == '-' || character == '.' || (Digit.ofChar? character).isSome

theorem isPart_char (digit : Digit) : isPart digit.char = true := by
  simp [isPart]

/-- No other characters occur in a decimal in positional form. -/
theorem isPart_of_mem_positional (negative : Bool) (decimal : Decimal) :
    ∀ character ∈ (positional negative decimal).chars, isPart character = true := by
  have digits (list : List Digit) : ∀ character ∈ list.map Digit.char, isPart character = true :=
    List.forall_mem_map.mpr fun digit _ => isPart_char digit
  obtain ⟨first, others, spelled⟩ := exists_spells (positional negative decimal).whole
  have point : isPart '.' = true := by decide
  have minus : isPart '-' = true := by decide
  rw [chars_eq, magnitudeChars, spelled.chars]
  simp only [List.forall_mem_append]
  refine ⟨?_, digits _, ?_, List.forall_mem_nil _⟩
  · split
    · exact List.forall_mem_singleton.mpr minus
    · exact List.forall_mem_nil _
  · cases (positional negative decimal).fraction with
    | nil => exact List.forall_mem_nil _
    | cons digit rest => exact List.forall_mem_cons.mpr ⟨point, digits _⟩

end Numeral

namespace Binary

variable {format : Format} {left right : Binary format}

/-- A finite number is written as the numeral of its shortest decimal. -/
theorem text_of_isFinite {number : Binary format} (finite : number.isFinite = true) :
    number.text =
      (Numeral.positional number.negative (format.shortest .greater number.rank.val)).text := by
  have below : number.rank.val < format.infinity := of_decide_eq_true finite
  have isNumber : ¬ number.isNotANumber = true := by simp [isNotANumber, Nat.le_of_lt below]
  rw [text, if_neg isNumber, if_pos finite]

/-- Finite numbers are told apart by their texts. -/
theorem text_inj (finite : left.isFinite = true) (alsoFinite : right.isFinite = true)
    (same : left.text = right.text) : left = right := by
  rw [text_of_isFinite finite, text_of_isFinite alsoFinite] at same
  have positional := Numeral.text_injective same
  generalize leftDecimal : format.shortest .greater left.rank.val = decimal at positional
  generalize rightDecimal : format.shortest .greater right.rank.val = another at positional
  have denominators : decimal.denominator = another.denominator := by
    rw [Numeral.denominator_positional left.negative, positional,
      ← Numeral.denominator_positional]
  have numerators : decimal.numerator = another.numerator := by
    rw [Numeral.numerator_positional left.negative, positional, denominators,
      ← Numeral.numerator_positional]
  have signs : left.negative = right.negative := congrArg Numeral.negative positional
  have admitted : format.admits left.rank.val decimal = true :=
    leftDecimal ▸ format.admits_shortest left.rank.val .greater
  have alsoAdmitted : format.admits right.rank.val another = true :=
    rightDecimal ▸ format.admits_shortest right.rank.val .greater
  have ranks : left.rank = right.rank :=
    Fin.ext (Format.eq_of_admits admitted alsoAdmitted numerators denominators)
  cases left
  cases right
  rw [mk.injEq]
  exact ⟨signs, ranks⟩

/-- Only parts of a numeral occur in the text of a finite number. -/
theorem isPart_of_mem_text {number : Binary format} (finite : number.isFinite = true) :
    ∀ character ∈ number.text.toList, Numeral.isPart character = true := by
  rw [text_of_isFinite finite, Numeral.text, String.toList_ofList]
  exact Numeral.isPart_of_mem_positional _ _

end Binary

end FieldQuery.Number
