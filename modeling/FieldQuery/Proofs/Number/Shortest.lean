/-
This file proves how far apart the magnitudes of neighbouring ranks are and that the shortest
decimal of a rank belongs to that rank.
-/
import FieldQuery.Number.Shortest
import Mathlib.Order.Monotone.Basic
import Mathlib.Tactic.Ring

namespace FieldQuery.Number

theorem Decimal.denominator_pos (decimal : Decimal) : 0 < decimal.denominator :=
  Nat.pow_pos (by decide)

namespace Format

variable (format : Format)

/-- Above the first binade a rank consists of an exponent and a fraction. -/
theorem units_of_fraction_lt (exponent : Nat) {fraction : Nat}
    (small : fraction < Nat.pow 2 format.fractionBits) :
    format.units (Nat.pow 2 format.fractionBits * (exponent + 1) + fraction) =
      (Nat.pow 2 format.fractionBits + fraction) * Nat.pow 2 exponent := by
  have positive : 0 < Nat.pow 2 format.fractionBits := Nat.two_pow_pos _
  simp only [units]
  generalize Nat.pow 2 format.fractionBits = binade at small positive
  have above : ¬ binade * (exponent + 1) + fraction < binade := by
    rw [Nat.mul_add]
    omega
  rw [if_neg above, Nat.mul_add_mod, Nat.mod_eq_of_lt small, Nat.mul_add_div positive,
    Nat.div_eq_of_lt small]
  rfl

theorem units_of_lt {rank : Nat} (small : rank < Nat.pow 2 format.fractionBits) :
    format.units rank = rank :=
  if_pos small

/-- The step from a rank to the next one is two to the power of this number. -/
def stepBits (rank : Nat) : Nat := rank / Nat.pow 2 format.fractionBits - 1

/-- The next rank is one step away. -/
theorem units_succ (rank : Nat) :
    format.units (rank + 1) = format.units rank + Nat.pow 2 (format.stepBits rank) := by
  have positive : 0 < Nat.pow 2 format.fractionBits := Nat.two_pow_pos _
  have fraction := format.units_of_fraction_lt
  have first (rank : Nat) (small : rank < Nat.pow 2 format.fractionBits) :
      format.units rank = rank := format.units_of_lt small
  rw [stepBits]
  generalize Nat.pow 2 format.fractionBits = binade at positive fraction first
  by_cases small : rank < binade
  · have unit : Nat.pow 2 0 = 1 := rfl
    rw [first rank small, Nat.div_eq_of_lt small, Nat.zero_sub, unit]
    by_cases last : rank + 1 = binade
    · have start := fraction 0 positive
      rw [unit, Nat.zero_add, Nat.mul_one, Nat.mul_one, Nat.add_zero] at start
      rw [last, start]
    · exact first (rank + 1) (by omega)
  · obtain ⟨exponent, quotient⟩ : ∃ exponent, rank / binade = exponent + 1 :=
      Nat.exists_eq_add_one.mpr (Nat.div_pos (by omega) positive)
    have split := Nat.div_add_mod rank binade
    have below := Nat.mod_lt rank positive
    rw [quotient] at split ⊢
    generalize rank % binade = remainder at split below
    subst split
    rw [fraction exponent below, Nat.add_sub_cancel]
    by_cases last : remainder + 1 = binade
    · -- The next rank starts a binade, in which the steps are twice as long.
      have next := fraction (exponent + 1) positive
      have double : Nat.pow 2 (exponent + 1) = Nat.pow 2 exponent * 2 := rfl
      rw [Nat.add_assoc, last, ← Nat.mul_succ]
      rw [Nat.add_zero] at next
      rw [next, double, ← last]
      ring
    · rw [Nat.add_assoc, fraction exponent (by omega)]
      ring

theorem units_lt_units_succ (rank : Nat) : format.units rank < format.units (rank + 1) := by
  rw [units_succ]
  exact Nat.lt_add_of_pos_right (Nat.two_pow_pos _)

theorem units_strictMono : StrictMono format.units :=
  strictMono_nat_of_lt_succ format.units_lt_units_succ

variable {format : Format} {rank : Nat} {decimal : Decimal}

/-- A rank admits the decimals around its magnitude, and an odd rank does not admit the middles. -/
theorem admits_iff : format.admits rank decimal = true ↔
    (format.units (rank - 1) + format.units rank) * decimal.denominator ≤
        2 * format.scale * decimal.numerator ∧
      2 * format.scale * decimal.numerator ≤
        (format.units rank + format.units (rank + 1)) * decimal.denominator ∧
      (rank % 2 = 1 →
        (format.units (rank - 1) + format.units rank) * decimal.denominator <
            2 * format.scale * decimal.numerator ∧
          2 * format.scale * decimal.numerator <
            (format.units rank + format.units (rank + 1)) * decimal.denominator) := by
  unfold admits
  split
  · simp only [Bool.and_eq_true, decide_eq_true_eq]
    omega
  · simp only [Bool.and_eq_true, decide_eq_true_eq]
    omega

variable (format) (rank)

/-- The decimal that is equal to a magnitude belongs to its rank. -/
theorem admits_exactDecimal : format.admits rank (format.exactDecimal rank) = true := by
  have numerator : (format.exactDecimal rank).numerator =
      format.units rank * Nat.pow 5 format.scaleBits := by
    simp [exactDecimal, Decimal.numerator]
  have denominator : (format.exactDecimal rank).denominator = Nat.pow 10 format.scaleBits := by
    simp [exactDecimal, Decimal.denominator]
  have tens : format.scale * Nat.pow 5 format.scaleBits = Nat.pow 10 format.scaleBits :=
    (Nat.mul_pow 2 5 format.scaleBits).symm
  have value : 2 * format.scale * (format.units rank * Nat.pow 5 format.scaleBits) =
      (format.units rank + format.units rank) * Nat.pow 10 format.scaleBits := by
    rw [← tens]
    ring
  have positive : 0 < Nat.pow 10 format.scaleBits := Nat.pow_pos (by decide)
  have below : format.units (rank - 1) ≤ format.units rank :=
    format.units_strictMono.monotone (Nat.sub_le rank 1)
  have above : format.units rank < format.units (rank + 1) := format.units_lt_units_succ rank
  rw [admits_iff, numerator, denominator, value]
  refine ⟨Nat.mul_le_mul_right _ (by omega), Nat.mul_le_mul_right _ (by omega), fun odd => ?_⟩
  have strict : format.units (rank - 1) < format.units rank :=
    format.units_strictMono (by omega)
  exact ⟨Nat.mul_lt_mul_of_pos_right (by omega) positive,
    Nat.mul_lt_mul_of_pos_right (by omega) positive⟩

/-- A decimal that is found at an exponent belongs to the rank. -/
theorem admits_of_decimalAt? {tie : Tie} {exponent : Int}
    (found : format.decimalAt? tie rank exponent = some decimal) :
    format.admits rank decimal = true := by
  have either (below above : Decimal) : format.nearer tie rank below above = below ∨
      format.nearer tie rank below above = above := by
    fun_cases nearer <;> simp
  unfold decimalAt? at found
  generalize format.floorDecimal rank exponent = below at found
  dsimp only at found
  split at found
  · rename_i low high
    obtain ⟨_, low⟩ := Bool.and_eq_true_iff.mp low
    rw [← Option.some.inj found]
    obtain same | same := either below ⟨below.digits + 1, exponent⟩
    · rw [same]
      exact low
    · rw [same]
      exact high
  · rename_i low _
    obtain ⟨_, low⟩ := Bool.and_eq_true_iff.mp low
    exact Option.some.inj found ▸ low
  · rename_i high
    exact Option.some.inj found ▸ high
  · cases found

/-- The search for a decimal ends with one that belongs to the rank. -/
theorem admits_searchDecimal (tie : Tie) (steps : Nat) (exponent : Int) :
    format.admits rank (format.searchDecimal tie rank steps exponent) = true := by
  induction steps generalizing exponent with
  | zero => exact format.admits_exactDecimal rank
  | succ steps inductionHypothesis =>
      unfold searchDecimal
      split
      · rename_i found
        exact format.admits_of_decimalAt? rank found
      · exact inductionHypothesis (exponent - 1)

/-- The shortest decimal of a rank belongs to it. -/
theorem admits_shortest (tie : Tie) : format.admits rank (format.shortest tie rank) = true := by
  unfold shortest
  split
  · rename_i zero
    subst zero
    simp [admits_iff, Decimal.numerator, units_of_lt]
  · exact format.admits_searchDecimal rank tie _ _

end Format

end FieldQuery.Number
