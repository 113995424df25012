/-
This file bounds what is lost when an integer is scaled by a power of ten.
-/
import FieldQuery.Number.Reading
import FieldQuery.Proofs.Number.Grid
import FieldQuery.Proofs.Number.Separation

namespace FieldQuery.Number.Format

variable {numerator denominator : Nat}

/-- Values of this order of magnitude are neither too small nor too great for double numbers. -/
structure IsModerate (value : ℚ) : Prop where
  low : (double.scale : ℚ) ≤ value * 10 ^ 70
  high : value ≤ double.scale * 10 ^ 100

/-- A moderate value lies in a binade with an exponent. -/
theorem IsModerate.normal {value : ℚ} (moderate : IsModerate value) :
    (Nat.pow 2 double.fractionBits : Nat) ≤ value := by
  have tens : (0 : ℚ) < 10 ^ 70 := by positivity
  have least : ((Nat.pow 2 double.fractionBits : Nat) : ℚ) * 10 ^ 70 ≤ double.scale := by
    exact_mod_cast (by decide +kernel : Nat.pow 2 52 * 10 ^ 70 ≤ double.scale)
  exact le_of_mul_le_mul_right (least.trans moderate.low) tens

/-- Twice a moderate value is less than infinity. -/
theorem IsModerate.finite {value : ℚ} (moderate : IsModerate value) :
    2 * value < double.units double.infinity := by
  have greatest : 2 * (double.scale * 10 ^ 100) < (double.units double.infinity : ℚ) := by
    exact_mod_cast
      (by decide +kernel : 2 * (double.scale * 10 ^ 100) < double.units double.infinity)
  linarith [moderate.high]

/-- A moderate quotient is rounded to a finite rank, and little of it is lost. -/
theorem nearestRank_of_isModerate (positive : 0 < denominator)
    (moderate : IsModerate (numerator / denominator)) :
    double.RoundsTo (numerator / denominator) (double.nearestRank numerator denominator) ∧
      |(double.units (double.nearestRank numerator denominator) : ℚ) - numerator / denominator| *
        2 ^ 53 ≤ numerator / denominator ∧
      double.nearestRank numerator denominator < double.infinity := by
  have divisor : (0 : ℚ) < denominator := Nat.cast_pos.mpr positive
  have normal := moderate.normal
  have finite := moderate.finite
  have small : numerator < double.units double.ranks * denominator := by
    have infinite := double.cast_units_lt double.infinity_lt_ranks
    have less : (numerator / denominator : ℚ) < double.units double.ranks := by
      have nonnegative : (0 : ℚ) ≤ numerator / denominator :=
        div_nonneg (Nat.cast_nonneg _) divisor.le
      linarith
    rw [div_lt_iff₀ divisor] at less
    exact_mod_cast less
  have rounds := roundsTo_nearestRank positive small
  have error := rounds.abs_sub_le normal
  have bits : ((Nat.pow 2 (double.fractionBits + 1) : Nat) : ℚ) = 2 ^ 53 := by
    exact_mod_cast (by decide : Nat.pow 2 (double.fractionBits + 1) = 2 ^ 53)
  rw [bits] at error
  refine ⟨rounds, error, double.units_strictMono.lt_iff_lt.mp ?_⟩
  have below : (double.units (double.nearestRank numerator denominator) : ℚ) <
      double.units double.infinity := by
    have previous : (0 : ℚ) ≤ double.units (double.nearestRank numerator denominator - 1) :=
      Nat.cast_nonneg _
    linarith [rounds.1]
  exact_mod_cast below

/-- An integer with few leading bits is an exact double number. -/
theorem units_double_ofNat {significand : Nat} (few : significand < Nat.pow 2 53) (exponent : Nat)
    (small : significand * Nat.pow 2 exponent < Nat.pow 2 200) :
    double.units (double.ofNat (significand * Nat.pow 2 exponent)) =
      significand * Nat.pow 2 exponent * double.scale := by
  refine units_ofNat few exponent ?_
  calc significand * Nat.pow 2 exponent * double.scale
      < Nat.pow 2 200 * double.scale :=
        Nat.mul_lt_mul_of_pos_right small (by decide +kernel)
    _ < double.units double.ranks := by decide +kernel

/-- A moderate factor makes a moderate number of smallest magnitudes. -/
theorem isModerate_mul_scale {factor : ℚ} (low : 1 ≤ factor * 10 ^ 70) (high : factor ≤ 10 ^ 100) :
    IsModerate (factor * double.scale) := by
  have scale : (0 : ℚ) ≤ double.scale := Nat.cast_nonneg _
  constructor
  · calc (double.scale : ℚ) ≤ factor * 10 ^ 70 * double.scale := le_mul_of_one_le_left scale low
      _ = factor * double.scale * 10 ^ 70 := by ring
  · calc factor * double.scale ≤ 10 ^ 100 * double.scale := mul_le_mul_of_nonneg_right high scale
      _ = double.scale * 10 ^ 100 := mul_comm _ _

/-- A power of ten is read as this number. -/
def roundedPower (power : Nat) : ℚ :=
  double.units (double.ofNat (Nat.pow 10 power)) / double.scale

/-- A rounded power of ten is counted in smallest magnitudes. -/
theorem units_ofNat_pow (power : Nat) :
    (double.units (double.ofNat (Nat.pow 10 power)) : ℚ) = roundedPower power * double.scale :=
  (div_mul_cancel₀ _ double.cast_scale_pos.ne').symm

/-- Powers of ten up to 22 are exact. -/
theorem roundedPower_eq {power : Nat} (small : power ≤ 22) : roundedPower power = 10 ^ power := by
  have split : Nat.pow 10 power = Nat.pow 5 power * Nat.pow 2 power := Nat.mul_pow 5 2 power
  have few : Nat.pow 5 power < Nat.pow 2 53 :=
    (Nat.pow_le_pow_right (by decide) small).trans_lt (by decide : Nat.pow 5 22 < Nat.pow 2 53)
  have less : Nat.pow 10 power < Nat.pow 2 200 :=
    (Nat.pow_le_pow_right (by decide) small).trans_lt (by decide : Nat.pow 10 22 < Nat.pow 2 200)
  have exact : double.units (double.ofNat (Nat.pow 10 power)) =
      Nat.pow 10 power * double.scale := by
    rw [split] at less ⊢
    exact units_double_ofNat few power less
  rw [roundedPower, exact, Nat.cast_mul, mul_div_cancel_right₀ _ double.cast_scale_pos.ne']
  exact_mod_cast rfl

/-- Greater powers of ten are rounded. -/
theorem abs_roundedPower_sub_le {power : Nat} (small : power ≤ 60) :
    |roundedPower power - 10 ^ power| * 2 ^ 53 ≤ 10 ^ power := by
  have scale := double.cast_scale_pos
  have same : ((Nat.pow 10 power * double.scale : Nat) / (1 : Nat) : ℚ) =
      10 ^ power * double.scale := by
    rw [Nat.cast_one, div_one, Nat.cast_mul]
    exact_mod_cast rfl
  have least : (1 : ℚ) ≤ 10 ^ power := one_le_pow₀ (by decide)
  have greatest : (10 : ℚ) ^ power ≤ 10 ^ 60 := pow_le_pow_right₀ (by decide) small
  have moderate : IsModerate ((Nat.pow 10 power * double.scale : Nat) / (1 : Nat)) := by
    rw [same]
    refine isModerate_mul_scale ?_ (greatest.trans (by norm_num))
    linarith
  have error := (nearestRank_of_isModerate Nat.one_pos moderate).2.1
  rw [same] at error
  change |(double.units (double.ofNat (Nat.pow 10 power)) : ℚ) - _| * _ ≤ _ at error
  rw [units_ofNat_pow, ← sub_mul, abs_mul, abs_of_pos scale, mul_right_comm] at error
  exact le_of_mul_le_mul_right error scale

/-- A rounded power of ten is at least half of it and at most twice as great. -/
theorem roundedPower_bounds {power : Nat} (small : power ≤ 60) :
    10 ^ power ≤ 2 * roundedPower power ∧ roundedPower power ≤ 2 * 10 ^ power := by
  have tens : (0 : ℚ) < 10 ^ power := pow_pos (by decide) power
  obtain ⟨low, high⟩ :=
    abs_le.mp ((le_div_iff₀ (by positivity)).mpr (abs_roundedPower_sub_le small))
  constructor <;> linarith

/-- This value is rounded when an integer is scaled by a power of ten. -/
def scaledValue (value : Nat) (exponent : Int) : ℚ :=
  if exponent < 0 then value / roundedPower exponent.natAbs * double.scale
  else value * roundedPower exponent.natAbs * double.scale

variable {value : Nat} {exponent : Int}

/-- Integers of few digits are scaled to moderate values. -/
theorem isModerate_scaledValue (positive : 0 < value) (few : value < Nat.pow 2 53)
    (near : exponent.natAbs ≤ 60) : IsModerate (scaledValue value exponent) := by
  obtain ⟨low, high⟩ := roundedPower_bounds near
  have least : (1 : ℚ) ≤ 10 ^ exponent.natAbs := one_le_pow₀ (by decide)
  have greatest : (10 : ℚ) ^ exponent.natAbs ≤ 10 ^ 60 := pow_le_pow_right₀ (by decide) near
  have first : (1 : ℚ) ≤ value := Nat.one_le_cast.mpr positive
  have last : (value : ℚ) ≤ 10 ^ 16 := by
    exact_mod_cast few.le.trans (by decide : Nat.pow 2 53 ≤ 10 ^ 16)
  rw [scaledValue]
  generalize roundedPower exponent.natAbs = power at low high
  have divisor : 0 < power := by linarith
  split
  · refine isModerate_mul_scale ?_ ?_
    · rw [div_mul_eq_mul_div, le_div_iff₀ divisor]
      linarith
    · rw [div_le_iff₀ divisor]
      linarith
  · refine isModerate_mul_scale ?_ ?_
    · have product := mul_le_mul first (by linarith : 1 / 2 ≤ power) (by norm_num) (by linarith)
      linarith
    · have product :=
        mul_le_mul last (by linarith : power ≤ 2 * 10 ^ 60) (by linarith) (by norm_num)
      linarith

/-- With a negative exponent an integer is divided by a power of ten. -/
theorem scaled?_of_neg (negative : exponent < 0) (near : exponent.natAbs ≤ 60) :
    scaled? value exponent = some (double.quotient (double.ofNat value)
      (double.ofNat (Nat.pow 10 exponent.natAbs))) := by
  have once : exponent.natAbs ≤ greatestPower := near.trans (by decide)
  rw [scaled?, if_pos negative, shrink, if_pos once]

/-- An integer of few digits is scaled to the nearest double number. -/
theorem exists_scaled?_eq (positive : 0 < value) (few : value < Nat.pow 2 53)
    (near : exponent.natAbs ≤ 60) : ∃ rank < double.infinity, scaled? value exponent = some rank ∧
      double.RoundsTo (scaledValue value exponent) rank ∧
      |(double.units rank : ℚ) - scaledValue value exponent| * 2 ^ 53 ≤
        scaledValue value exponent := by
  have moderate := isModerate_scaledValue positive few near
  have scale := double.cast_scale_pos
  have power : 0 < roundedPower exponent.natAbs := by
    have tens : (0 : ℚ) < 10 ^ exponent.natAbs := pow_pos (by decide) _
    linarith [(roundedPower_bounds near).1]
  have unit : value * Nat.pow 2 0 = value := Nat.mul_one value
  have exact : double.units (double.ofNat value) = value * double.scale := by
    have whole := units_double_ofNat few 0
    rw [unit] at whole
    exact whole (few.trans (by decide))
  have divisor : 0 < double.units (double.ofNat (Nat.pow 10 exponent.natAbs)) := by
    have positive : (0 : ℚ) < double.units (double.ofNat (Nat.pow 10 exponent.natAbs)) := by
      rw [units_ofNat_pow]
      exact mul_pos power scale
    exact_mod_cast positive
  by_cases negative : exponent < 0
  · have same : ((double.units (double.ofNat value) * double.scale : Nat) /
        (double.units (double.ofNat (Nat.pow 10 exponent.natAbs)) : Nat) : ℚ) =
        scaledValue value exponent := by
      rw [scaledValue, if_pos negative, units_ofNat_pow, exact]
      push_cast
      field_simp
    rw [← same] at moderate ⊢
    obtain ⟨rounds, error, finite⟩ := nearestRank_of_isModerate divisor moderate
    exact ⟨_, finite, scaled?_of_neg negative near, rounds, error⟩
  · have same : ((double.units (double.ofNat value) *
        double.units (double.ofNat (Nat.pow 10 exponent.natAbs)) : Nat) /
        (double.scale : Nat) : ℚ) = scaledValue value exponent := by
      rw [scaledValue, if_neg negative, Nat.cast_mul, units_ofNat_pow, exact]
      push_cast
      field_simp
    rw [← same] at moderate ⊢
    obtain ⟨rounds, error, finite⟩ :=
      nearestRank_of_isModerate (Nat.cast_pos.mp scale) moderate
    have once : exponent.natAbs ≤ greatestPower := near.trans (by decide)
    have whole : exponent.toNat = exponent.natAbs := by omega
    refine ⟨_, finite, ?_, rounds, error⟩
    rw [scaled?, if_neg negative, grow?, whole, if_pos once]
    exact if_pos finite

/-- A power of ten with a negative exponent is a divisor. -/
theorem gridStep_eq (exponent : Int) : double.gridStep exponent =
    (if exponent < 0 then 1 / 10 ^ exponent.natAbs else 10 ^ exponent.natAbs) * double.scale := by
  split
  · rename_i negative
    have same : exponent = -(exponent.natAbs : Int) := by omega
    rw [gridStep, mul_comm, same, zpow_neg, zpow_natCast, Int.natAbs_neg, Int.natAbs_natCast,
      one_div]
  · rename_i whole
    have same : exponent = (exponent.natAbs : Int) := by omega
    rw [gridStep, mul_comm, same, zpow_natCast, Int.natAbs_natCast]

/-- With an exact power of ten the value of the decimal is rounded. -/
theorem scaledValue_eq (small : exponent.natAbs ≤ 22) :
    scaledValue value exponent = value * double.gridStep exponent := by
  rw [scaledValue, gridStep_eq, roundedPower_eq small]
  split <;> ring

/-- With a rounded power of ten little more than its error is passed on. -/
theorem abs_scaledValue_sub_le (value : Nat) (near : exponent.natAbs ≤ 60) :
    |scaledValue value exponent - value * double.gridStep exponent| * (2 ^ 53 - 1) ≤
      value * double.gridStep exponent := by
  have error := abs_roundedPower_sub_le near
  have tens : (0 : ℚ) < 10 ^ exponent.natAbs := pow_pos (by decide) _
  have power : 0 < roundedPower exponent.natAbs := by linarith [(roundedPower_bounds near).1]
  have units : (0 : ℚ) ≤ value * double.scale :=
    mul_nonneg (Nat.cast_nonneg _) double.cast_scale_pos.le
  rw [scaledValue, gridStep_eq]
  generalize (double.scale : ℚ) = scale at units
  generalize roundedPower exponent.natAbs = rounded at error power
  generalize (10 : ℚ) ^ exponent.natAbs = exact at error tens
  have nonnegative := abs_nonneg (rounded - exact)
  split
  · have difference : value / rounded * scale - value * (1 / exact * scale) =
        value * scale * ((exact - rounded) / (rounded * exact)) := by
      field_simp
    have part : |exact - rounded| * (2 ^ 53 - 1) ≤ rounded := by
      rw [abs_sub_comm]
      linarith [neg_abs_le (rounded - exact)]
    rw [difference, abs_mul, abs_of_nonneg units, abs_div, abs_of_pos (mul_pos power tens)]
    calc value * scale * (|exact - rounded| / (rounded * exact)) * (2 ^ 53 - 1)
        = value * scale * (|exact - rounded| * (2 ^ 53 - 1) / (rounded * exact)) := by ring
      _ ≤ value * scale * (rounded / (rounded * exact)) := by
          gcongr
      _ = value * (1 / exact * scale) := by field_simp
  · have difference : value * rounded * scale - value * (exact * scale) =
        value * scale * (rounded - exact) := by ring
    rw [difference, abs_mul, abs_of_nonneg units]
    calc value * scale * |rounded - exact| * (2 ^ 53 - 1)
        = value * scale * (|rounded - exact| * (2 ^ 53 - 1)) := by ring
      _ ≤ value * scale * exact := by
          gcongr
          linarith
      _ = value * (exact * scale) := by ring

/--
An integer of few digits is scaled to a double number. With an exact power of ten this is the
nearest one, and otherwise it is not much further away.
-/
theorem exists_scaled?_near (positive : 0 < value) (few : value < Nat.pow 2 53)
    (near : exponent.natAbs ≤ 60) : ∃ rank < double.infinity, scaled? value exponent = some rank ∧
      (exponent.natAbs ≤ 22 → double.RoundsTo (value * double.gridStep exponent) rank) ∧
      |(double.units rank : ℚ) - value * double.gridStep exponent| *
          (2 ^ (readingPrecision exponent + 25) - 1) ≤ value * double.gridStep exponent := by
  obtain ⟨rank, finite, read, rounds, error⟩ := exists_scaled?_eq positive few near
  refine ⟨rank, finite, read, fun small => scaledValue_eq small ▸ rounds, ?_⟩
  by_cases small : exponent.natAbs ≤ 22
  · have bits : readingPrecision exponent + 25 = 53 := by rw [readingPrecision, if_pos small]
    rw [scaledValue_eq small] at error
    rw [bits]
    linarith [abs_nonneg ((double.units rank : ℚ) - value * double.gridStep exponent)]
  · have bits : readingPrecision exponent + 25 = 52 := by rw [readingPrecision, if_neg small]
    have passed := abs_scaledValue_sub_le value near
    have together := abs_sub_le (double.units rank : ℚ) (scaledValue value exponent)
      (value * double.gridStep exponent)
    have greater := le_abs_self (scaledValue value exponent - value * double.gridStep exponent)
    have nonnegative := abs_nonneg ((double.units rank : ℚ) - scaledValue value exponent)
    rw [bits]
    linarith

end FieldQuery.Number.Format
