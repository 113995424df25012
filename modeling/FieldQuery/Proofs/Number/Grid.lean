/-
This file proves where the shortest decimal of a rank lies among the decimals with its exponent, and
that it has few digits.
-/
import FieldQuery.Proofs.Number.Rounding
import Mathlib.Algebra.Order.Field.Power

namespace FieldQuery.Number

/-- A power of ten is a quotient of two powers, one of which is one. -/
theorem zpow_eq_div (exponent : Int) : (10 : ℚ) ^ exponent =
    (Nat.pow 10 exponent.toNat : Nat) / (Nat.pow 10 (-exponent).toNat : Nat) := by
  obtain whole | fractional := Int.le_total 0 exponent
  · obtain ⟨power, rfl⟩ := Int.eq_ofNat_of_zero_le whole
    have none : (-(power : Int)).toNat = 0 := by omega
    rw [none, Int.toNat_natCast, zpow_natCast]
    simp
  · obtain ⟨power, rfl⟩ := Int.exists_eq_neg_ofNat fractional
    have none : (-(power : Int)).toNat = 0 := by omega
    rw [none, neg_neg, Int.toNat_natCast, zpow_neg, zpow_natCast]
    simp

/-- The value of a decimal is its digits times its power of ten. -/
theorem numerator_div_denominator (decimal : Decimal) :
    (decimal.numerator / decimal.denominator : ℚ) = decimal.digits * 10 ^ decimal.exponent := by
  rw [Decimal.numerator, Decimal.denominator, zpow_eq_div, Nat.cast_mul, mul_div_assoc]

namespace Format

/-- This many smallest magnitudes lie between neighbouring decimals with an exponent. -/
def gridStep (format : Format) (exponent : Int) : ℚ := format.scale * 10 ^ exponent

variable {format : Format} {tie : Tie} {rank : Nat} {exponent : Int} {decimal : Decimal}

theorem cast_scale_pos (format : Format) : (0 : ℚ) < format.scale :=
  cast_two_pow_pos format.scaleBits

theorem gridStep_pos (format : Format) (exponent : Int) : 0 < format.gridStep exponent :=
  mul_pos format.cast_scale_pos (zpow_pos (by decide) exponent)

/-- With the next exponent this distance is ten times as long. -/
theorem gridStep_succ (format : Format) (exponent : Int) :
    format.gridStep (exponent + 1) = 10 * format.gridStep exponent := by
  rw [gridStep, zpow_add_one₀ (by decide), gridStep]
  ring

/-- A decimal belongs to a rank exactly when its value rounds to it. -/
theorem admits_iff_roundsTo_mul : format.admits rank decimal = true ↔
    format.RoundsTo (decimal.digits * format.gridStep decimal.exponent) rank := by
  rw [admits_iff_roundsTo, Nat.cast_mul, mul_div_assoc, numerator_div_denominator, gridStep,
    mul_left_comm]

/-- A power of ten is the only denominator of a step of the grid. -/
theorem gridStep_mul_pow (format : Format) (exponent : Int) :
    format.gridStep exponent * (Nat.pow 10 (-exponent).toNat : Nat) =
      format.scale * (Nat.pow 10 exponent.toNat : Nat) := by
  rw [gridStep, zpow_eq_div, mul_assoc, div_mul_cancel₀ _ (cast_ten_pow_pos _).ne']

/-- A magnitude lies between the last decimal that does not exceed it and the next one. -/
theorem floorDecimal_bounds (format : Format) (rank : Nat) (exponent : Int) :
    (format.floorDecimal rank exponent).digits * format.gridStep exponent ≤ format.units rank ∧
      format.units rank <
        ((format.floorDecimal rank exponent).digits + 1) * format.gridStep exponent := by
  have divisor := cast_ten_pow_pos (-exponent).toNat
  have positive : 0 < format.scale * Nat.pow 10 exponent.toNat :=
    Nat.mul_pos (Nat.two_pow_pos _) (Nat.pow_pos (by decide))
  rw [← mul_le_mul_iff_left₀ divisor, ← mul_lt_mul_iff_left₀ divisor, mul_assoc, mul_assoc,
    gridStep_mul_pow, floorDecimal]
  constructor
  · exact_mod_cast Nat.div_mul_le_self _ _
  · exact_mod_cast Nat.lt_mul_of_div_lt (Nat.lt_succ_self _) positive

/--
A decimal is the one below a magnitude or the next one. The other one of them does not belong to the
rank of the magnitude, or it is no nearer to it.
-/
inductive IsFound (format : Format) (rank : Nat) (exponent : Int) : Nat → Prop where
  | below {digits : Nat} (positive : 0 < digits)
      (low : digits * format.gridStep exponent ≤ format.units rank)
      (next : format.units rank + format.units (rank + 1) ≤
          2 * ((digits + 1) * format.gridStep exponent) ∨
        2 * (format.units rank - digits * format.gridStep exponent) ≤ format.gridStep exponent) :
      IsFound format rank exponent digits
  | above {digits : Nat} (low : digits * format.gridStep exponent ≤ format.units rank)
      (high : format.units rank < (digits + 1) * format.gridStep exponent)
      (previous : digits = 0 ∨
        2 * (digits * format.gridStep exponent) ≤
          format.units (rank - 1) + format.units rank ∨
        2 * ((digits + 1) * format.gridStep exponent - format.units rank) ≤
          format.gridStep exponent) :
      IsFound format rank exponent (digits + 1)

/-- Above a magnitude only what lies beyond the next middle does not belong to its rank. -/
theorem middle_le_of_not_admits {digits : Nat}
    (high : format.units rank < (digits : ℚ) * format.gridStep exponent)
    (other : ¬ format.admits rank ⟨digits, exponent⟩ = true) :
    (format.units rank + format.units (rank + 1) : ℚ) ≤
      2 * (digits * format.gridStep exponent) := by
  by_contra within
  have previous := format.cast_units_le (Nat.sub_le rank 1)
  refine other (admits_iff_roundsTo_mul.mpr ⟨?_, ?_, fun _ => ⟨?_, ?_⟩⟩) <;> linarith

/-- Below a magnitude only what lies beyond the previous middle does not belong to its rank. -/
theorem le_middle_of_not_admits {digits : Nat}
    (low : (digits : ℚ) * format.gridStep exponent ≤ format.units rank)
    (other : ¬ format.admits rank ⟨digits, exponent⟩ = true) :
    2 * (digits * format.gridStep exponent) ≤
      (format.units (rank - 1) + format.units rank : ℚ) := by
  by_contra within
  have next := format.cast_units_lt rank.lt_succ_self
  refine other (admits_iff_roundsTo_mul.mpr ⟨?_, ?_, fun _ => ⟨?_, ?_⟩⟩) <;> linarith

/-- Where no decimal is found, the next middle is no further away than the next decimal. -/
theorem le_of_decimalAt?_eq_none (missing : format.decimalAt? tie rank exponent = none) :
    (format.units rank + format.units (rank + 1) : ℚ) ≤
      2 * (format.units rank + format.gridStep exponent) := by
  obtain ⟨low, high⟩ := format.floorDecimal_bounds rank exponent
  have other : ¬ format.admits rank
      ⟨(format.floorDecimal rank exponent).digits + 1, exponent⟩ = true := by
    intro admitted
    simp only [decimalAt?, admitted] at missing
    split at missing <;> simp_all
  have beyond := middle_le_of_not_admits (by exact_mod_cast high) other
  push_cast at beyond
  linarith

/-- The middle of two neighbouring decimals and a magnitude are brought to one denominator. -/
theorem cast_middle_sub_cast_value (format : Format) (rank digits : Nat) (exponent : Int) :
    ((((⟨digits, exponent⟩ : Decimal).numerator + (⟨digits + 1, exponent⟩ : Decimal).numerator) *
        format.scale : Nat) -
      (2 * format.units rank * (⟨digits, exponent⟩ : Decimal).denominator : Nat) : ℚ) =
    ((2 * digits + 1) * format.gridStep exponent - 2 * format.units rank) *
      (Nat.pow 10 (-exponent).toNat : Nat) := by
  rw [sub_mul, mul_assoc (2 * digits + 1 : ℚ), gridStep_mul_pow, Decimal.numerator,
    Decimal.numerator, Decimal.denominator]
  push_cast
  ring

/-- Of two neighbouring decimals one is taken that is within half of their distance. -/
theorem nearer_cases (format : Format) (tie : Tie) (rank digits : Nat) (exponent : Int) :
    format.nearer tie rank ⟨digits, exponent⟩ ⟨digits + 1, exponent⟩ = ⟨digits, exponent⟩ ∧
        2 * (format.units rank - digits * format.gridStep exponent) ≤ format.gridStep exponent ∨
      format.nearer tie rank ⟨digits, exponent⟩ ⟨digits + 1, exponent⟩ = ⟨digits + 1, exponent⟩ ∧
        2 * ((digits + 1) * format.gridStep exponent - format.units rank) ≤
          format.gridStep exponent := by
  have divisor := cast_ten_pow_pos (-exponent).toNat
  have difference := format.cast_middle_sub_cast_value rank digits exponent
  unfold nearer
  dsimp only
  generalize ((⟨digits, exponent⟩ : Decimal).numerator +
    (⟨digits + 1, exponent⟩ : Decimal).numerator) * format.scale = middle at difference
  generalize 2 * format.units rank * (⟨digits, exponent⟩ : Decimal).denominator = value
    at difference
  have below (less : value ≤ middle) :
      2 * (format.units rank - digits * format.gridStep exponent) ≤ format.gridStep exponent := by
    have scaled : (0 : ℚ) ≤ middle - value := sub_nonneg.mpr (Nat.cast_le.mpr less)
    rw [difference] at scaled
    linarith [nonneg_of_mul_nonneg_left scaled divisor]
  have above (greater : middle ≤ value) :
      2 * ((digits + 1) * format.gridStep exponent - format.units rank) ≤
        format.gridStep exponent := by
    have scaled : (middle - value : ℚ) ≤ 0 := sub_nonpos.mpr (Nat.cast_le.mpr greater)
    rw [difference] at scaled
    linarith [nonpos_of_mul_nonpos_left scaled divisor]
  split
  · rename_i less
    exact .inl ⟨rfl, below less.le⟩
  · rename_i atLeast
    have greater := Nat.le_of_not_lt atLeast
    split
    · exact .inr ⟨rfl, above greater⟩
    · rename_i atMost
      cases tie with
      | greater => exact .inr ⟨rfl, above greater⟩
      | even =>
          dsimp only
          split
          · exact .inl ⟨rfl, below (Nat.le_of_not_lt atMost)⟩
          · exact .inr ⟨rfl, above greater⟩

/-- A decimal that is found at an exponent is next to the magnitude. -/
theorem isFound_of_decimalAt? (found : format.decimalAt? tie rank exponent = some decimal) :
    decimal.exponent = exponent ∧ format.IsFound rank exponent decimal.digits := by
  obtain ⟨low, high⟩ := format.floorDecimal_bounds rank exponent
  have nearer := format.nearer_cases tie rank (format.floorDecimal rank exponent).digits exponent
  have same : format.floorDecimal rank exponent =
    ⟨(format.floorDecimal rank exponent).digits, exponent⟩ := rfl
  rw [decimalAt?, same] at found
  generalize (format.floorDecimal rank exponent).digits = digits at low high nearer found
  split at found
  · rename_i below above
    obtain ⟨positive, _⟩ := Bool.and_eq_true_iff.mp below
    obtain ⟨taken, near⟩ | ⟨taken, near⟩ := nearer
    · obtain rfl := taken.symm.trans (Option.some.inj found)
      exact ⟨rfl, .below (Nat.pos_of_ne_zero (of_decide_eq_true positive)) low (.inr near)⟩
    · obtain rfl := taken.symm.trans (Option.some.inj found)
      exact ⟨rfl, .above low high (.inr (.inr near))⟩
  · rename_i below above
    obtain ⟨positive, _⟩ := Bool.and_eq_true_iff.mp below
    obtain rfl := Option.some.inj found
    have beyond := middle_le_of_not_admits (by exact_mod_cast high) (Bool.eq_false_iff.mp above)
    rw [Nat.cast_succ] at beyond
    exact ⟨rfl, .below (Nat.pos_of_ne_zero (of_decide_eq_true positive)) low (.inl beyond)⟩
  · rename_i below above
    obtain rfl := Option.some.inj found
    refine ⟨rfl, .above low high ?_⟩
    by_cases zero : digits = 0
    · exact .inl zero
    · rw [decide_eq_true zero, Bool.true_and] at below
      exact .inr (.inl (le_middle_of_not_admits low (Bool.eq_false_iff.mp below)))
  · cases found

/-- The search ends with the first decimal that is found, if there is one within its steps. -/
theorem exists_decimalAt?_of_searchDecimal {steps : Nat}
    (reached : ∃ index < steps, format.decimalAt? tie rank (exponent - index) ≠ none) :
    ∃ last, format.decimalAt? tie rank last =
        some (format.searchDecimal tie rank steps exponent) ∧
      (last = exponent ∨ format.decimalAt? tie rank (last + 1) = none) := by
  induction steps generalizing exponent with
  | zero =>
      obtain ⟨index, less, _⟩ := reached
      exact absurd less (Nat.not_lt_zero index)
  | succ steps inductionHypothesis =>
      rw [searchDecimal]
      cases first : format.decimalAt? tie rank exponent with
      | some decimal => exact ⟨exponent, first, .inl rfl⟩
      | none =>
          obtain ⟨index, less, found⟩ := reached
          cases index with
          | zero =>
              rw [Int.natCast_zero, Int.sub_zero] at found
              exact absurd first found
          | succ index =>
              have later : exponent - (index + 1 : Nat) = exponent - 1 - index := by omega
              rw [later] at found
              obtain ⟨last, same, reason⟩ :=
                inductionHypothesis ⟨index, Nat.lt_of_succ_lt_succ less, found⟩
              refine ⟨last, same, .inr ?_⟩
              obtain rfl | missing := reason
              · rwa [Int.sub_add_cancel]
              · exact missing

/-- A decimal is found where neighbouring decimals are less than half a step of ranks apart. -/
theorem decimalAt?_ne_none (tie : Tie) (rank : Nat) (fine : 2 * format.gridStep exponent < 1) :
    format.decimalAt? tie rank exponent ≠ none := by
  intro missing
  have near := le_of_decimalAt?_eq_none missing
  have next : (format.units rank + 1 : ℚ) ≤ format.units (rank + 1) := by
    exact_mod_cast format.units_lt_units_succ rank
  linarith

/-- With as many places as the smallest magnitude has bits, decimals are near to each other. -/
theorem two_mul_gridStep_lt_one (positive : 0 < format.scaleBits) :
    2 * format.gridStep (-format.scaleBits) < 1 := by
  have tens : (0 : ℚ) < 10 ^ format.scaleBits := pow_pos (by decide) _
  have five : 2 < 5 ^ format.scaleBits :=
    calc 2 < 5 ^ 1 := by decide
      _ ≤ 5 ^ format.scaleBits := Nat.pow_le_pow_right (by decide) positive
  have product : 2 * format.scale < 10 ^ format.scaleBits :=
    calc 2 * format.scale < 5 ^ format.scaleBits * 2 ^ format.scaleBits :=
          Nat.mul_lt_mul_of_pos_right five (Nat.two_pow_pos _)
      _ = 10 ^ format.scaleBits := (Nat.mul_pow 5 2 _).symm
  rw [gridStep, zpow_neg, zpow_natCast, ← mul_assoc, mul_inv_lt_iff₀ tens, one_mul]
  exact_mod_cast product

/-- The shortest decimal is found at an exponent, and the next one is high or has no decimal. -/
theorem exists_decimalAt?_of_shortest (tie : Tie) (positive : 0 < format.scaleBits)
    (nonzero : rank ≠ 0) :
    ∃ exponent, format.decimalAt? tie rank exponent = some (format.shortest tie rank) ∧
      ((format.units rank : ℚ) < format.gridStep exponent ∨
        format.decimalAt? tie rank (exponent + 1) = none) := by
  have scale : 0 < format.scale := Nat.two_pow_pos _
  rw [shortest, if_neg nonzero]
  dsimp only
  generalize whole : format.units rank / format.scale = number
  have high : (format.units rank : ℚ) < format.gridStep (Nat.toDigits 10 number).length := by
    have less := (Nat.length_toDigits_le_iff (by decide) Nat.length_toDigits_pos).mp
      (Nat.le_refl (Nat.toDigits 10 number).length)
    generalize (Nat.toDigits 10 number).length = count at less
    rw [← whole, Nat.div_lt_iff_lt_mul scale] at less
    rw [gridStep, zpow_natCast, mul_comm]
    exact_mod_cast less
  have lowest : ((Nat.toDigits 10 number).length -
      ((Nat.toDigits 10 number).length + format.scaleBits : Nat) : Int) = -format.scaleBits := by
    omega
  have found := decimalAt?_ne_none tie rank (two_mul_gridStep_lt_one positive)
  rw [← lowest] at found
  obtain ⟨last, same, first | missing⟩ := exists_decimalAt?_of_searchDecimal
    ⟨(Nat.toDigits 10 number).length + format.scaleBits, Nat.lt_succ_self _, found⟩
  · exact ⟨last, same, .inl (first ▸ high)⟩
  · exact ⟨last, same, .inr missing⟩

/-- The shortest decimal is next to its magnitude. -/
theorem isFound_shortest (tie : Tie) (positive : 0 < format.scaleBits) (nonzero : rank ≠ 0) :
    format.IsFound rank (format.shortest tie rank).exponent (format.shortest tie rank).digits := by
  obtain ⟨exponent, found, _⟩ := exists_decimalAt?_of_shortest tie positive nonzero
  obtain ⟨same, next⟩ := isFound_of_decimalAt? found
  rwa [same]

theorem IsFound.digits_pos {digits : Nat} (found : format.IsFound rank exponent digits) :
    0 < digits := by
  cases found with
  | below positive low next => exact positive
  | above low high previous => exact Nat.succ_pos _

/-- What is found exceeds a magnitude by a step at most. -/
theorem IsFound.mul_gridStep_le {digits : Nat} (found : format.IsFound rank exponent digits) :
    digits * format.gridStep exponent ≤ format.units rank + format.gridStep exponent := by
  cases found with
  | below positive low next => linarith [format.gridStep_pos exponent]
  | above low high previous =>
      push_cast
      linarith

/-- The shortest decimal has few digits. -/
theorem digits_shortest_le (tie : Tie) (positive : 0 < format.scaleBits) (nonzero : rank ≠ 0) :
    (format.shortest tie rank).digits ≤ 20 * Nat.pow 2 (format.fractionBits + 1) + 1 := by
  obtain ⟨exponent, found, reason⟩ := exists_decimalAt?_of_shortest tie positive nonzero
  have upper := (isFound_of_decimalAt? found).2.mul_gridStep_le
  have step := format.gridStep_pos exponent
  have few : (format.units rank : ℚ) ≤
      20 * (Nat.pow 2 (format.fractionBits + 1) : Nat) * format.gridStep exponent := by
    have bits : (1 : ℚ) ≤ (Nat.pow 2 (format.fractionBits + 1) : Nat) := by
      exact_mod_cast Nat.one_le_two_pow
    obtain high | missing := reason
    · calc (format.units rank : ℚ) ≤ 1 * format.gridStep exponent := by linarith
        _ ≤ 20 * (Nat.pow 2 (format.fractionBits + 1) : Nat) * format.gridStep exponent :=
            mul_le_mul_of_nonneg_right (by linarith) step.le
    · have near := le_of_decimalAt?_eq_none missing
      have limit : (format.units (rank + 1) : ℚ) ≤ (Nat.pow 2 (format.fractionBits + 1) : Nat) *
          (Nat.pow 2 (format.stepBits rank) : Nat) := by
        exact_mod_cast format.units_succ_le rank
      rw [gridStep_succ, cast_units_succ] at near
      calc (format.units rank : ℚ)
          ≤ format.units (rank + 1) := format.cast_units_le rank.le_succ
        _ ≤ (Nat.pow 2 (format.fractionBits + 1) : Nat) *
              (Nat.pow 2 (format.stepBits rank) : Nat) := limit
        _ ≤ (Nat.pow 2 (format.fractionBits + 1) : Nat) * (20 * format.gridStep exponent) :=
            mul_le_mul_of_nonneg_left (by linarith) (Nat.cast_nonneg _)
        _ = 20 * (Nat.pow 2 (format.fractionBits + 1) : Nat) * format.gridStep exponent := by ring
  have bound : ((format.shortest tie rank).digits : ℚ) * format.gridStep exponent ≤
      (20 * Nat.pow 2 (format.fractionBits + 1) + 1 : Nat) * format.gridStep exponent := by
    push_cast
    linarith
  exact_mod_cast le_of_mul_le_mul_right bound step

/-- Decimals with one near the middle in front of a rank are not much closer than its step. -/
theorem IsFound.wide_of_near_previous {digits : Nat}
    (found : format.IsFound (rank + 1) exponent digits)
    (near : 16 * |2 * (digits * format.gridStep exponent) -
      (format.units rank + format.units (rank + 1))| ≤ (Nat.pow 2 (format.stepBits rank) : Nat)) :
    6 * ((Nat.pow 2 (format.stepBits rank) : Nat) : ℚ) ≤ 10 * format.gridStep exponent := by
  have longer : ((Nat.pow 2 (format.stepBits rank) : Nat) : ℚ) ≤
      (Nat.pow 2 (format.stepBits (rank + 1)) : Nat) :=
    Nat.cast_le.mpr (format.step_le_step_succ rank)
  have positive := cast_two_pow_pos (format.stepBits rank)
  have step := format.cast_units_succ rank
  obtain ⟨least, greatest⟩ := abs_le.mp ((le_div_iff₀' (by decide)).mpr near)
  cases found with
  | below _ low next =>
      rw [format.cast_units_succ (rank + 1)] at next
      obtain beyond | close := next <;> linarith
  | above low high previous =>
      push_cast at greatest
      linarith

/-- Decimals with one near the middle behind a rank are not much closer than its step. -/
theorem IsFound.wide_of_near_next {digits : Nat} (nonzero : rank ≠ 0)
    (found : format.IsFound rank exponent digits)
    (near : 16 * |2 * (digits * format.gridStep exponent) -
      (format.units rank + format.units (rank + 1))| ≤ (Nat.pow 2 (format.stepBits rank) : Nat)) :
    6 * ((Nat.pow 2 (format.stepBits rank) : Nat) : ℚ) ≤ 10 * format.gridStep exponent := by
  have positive := cast_two_pow_pos (format.stepBits rank)
  obtain ⟨least, greatest⟩ := abs_le.mp ((le_div_iff₀' (by decide)).mpr near)
  rw [format.cast_units_succ rank] at least greatest
  cases found with
  | below _ low next => linarith
  | @above digits low high previous =>
      push_cast at least greatest
      obtain ⟨before, rfl⟩ := Nat.exists_eq_add_one.mpr (Nat.pos_of_ne_zero nonzero)
      have shorter : ((Nat.pow 2 (format.stepBits (before + 1)) : Nat) : ℚ) ≤
          2 * (Nat.pow 2 (format.stepBits before) : Nat) := by
        exact_mod_cast format.step_succ_le before
      have first : ((Nat.pow 2 (format.stepBits (before + 1)) : Nat) : ℚ) ≤
          format.units (before + 1) := Nat.cast_le.mpr (format.step_le_units nonzero)
      have gap := format.cast_units_succ before
      rw [Nat.add_sub_cancel] at previous
      obtain rfl | beyond | close := previous
      · rw [Nat.cast_zero] at high
        linarith
      · linarith
      · linarith

end Format

end FieldQuery.Number
