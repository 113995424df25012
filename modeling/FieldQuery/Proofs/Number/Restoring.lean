/-
This file proves that every finite boost is read back from its shortest decimal, although the
decimal is rounded to a double number in between.
-/
import FieldQuery.Number.Layout
import FieldQuery.Proofs.Number.Reading
import FieldQuery.Proofs.Number.Scaling

namespace FieldQuery.Number

namespace Format

variable {format : Format} {rank digits : Nat} {exponent : Int} {value approximation : ℚ}

/-- What rounds to another rank than a value is no nearer to it than a middle next to its rank. -/
theorem exists_middle_of_not_roundsTo (rounds : format.RoundsTo value rank)
    (other : ¬ format.RoundsTo approximation rank) :
    |2 * value - (format.units (rank - 1) + format.units rank)| ≤ 2 * |approximation - value| ∨
      |2 * value - (format.units rank + format.units (rank + 1))| ≤
        2 * |approximation - value| := by
  obtain ⟨low, high, _⟩ := rounds
  rw [abs_of_nonneg (sub_nonneg.mpr low), abs_of_nonpos (sub_nonpos.mpr high)]
  by_contra far
  obtain ⟨first, second⟩ := not_or.mp far
  have less := neg_abs_le (approximation - value)
  have greater := le_abs_self (approximation - value)
  refine other ⟨?_, ?_, fun _ => ⟨?_, ?_⟩⟩ <;> linarith

/--
If an approximation of a decimal rounds to another rank, a middle is near to the decimal, and the
decimals with its exponent are not much closer to each other than the ranks around this middle.
-/
theorem exists_wide_middle (nonzero : rank ≠ 0) (found : format.IsFound rank exponent digits)
    (rounds : format.RoundsTo (digits * format.gridStep exponent) rank)
    (other : ¬ format.RoundsTo approximation rank) :
    ∃ below ≤ rank, |2 * (digits * format.gridStep exponent) -
          (format.units below + format.units (below + 1))| ≤
        2 * |approximation - digits * format.gridStep exponent| ∧
      (16 * |2 * (digits * format.gridStep exponent) -
          (format.units below + format.units (below + 1))| ≤
            (Nat.pow 2 (format.stepBits below) : Nat) →
        6 * ((Nat.pow 2 (format.stepBits below) : Nat) : ℚ) ≤ 10 * format.gridStep exponent) := by
  obtain previous | next := exists_middle_of_not_roundsTo rounds other
  · obtain ⟨before, rfl⟩ := Nat.exists_eq_add_one.mpr (Nat.pos_of_ne_zero nonzero)
    exact ⟨before, Nat.le_succ before, previous, found.wide_of_near_previous⟩
  · exact ⟨rank, Nat.le_refl rank, next, found.wide_of_near_next nonzero⟩

/-- The step of a decimal is counted in halves of the smallest magnitude, without a denominator. -/
theorem cast_decimalStep (exponent : Int) : (decimalStep exponent : ℚ) =
    2 * single.gridStep exponent * (Nat.pow 10 (-exponent).toNat : Nat) := by
  have double : Nat.pow 2 150 = 2 * single.scale := by decide
  rw [decimalStep, double, mul_assoc 2 (single.gridStep exponent), gridStep_mul_pow]
  push_cast
  ring

/-- The step of a middle is counted in halves of the smallest magnitude, without a denominator. -/
theorem cast_binaryStep (exponent : Int) (bits : Nat) : (binaryStep exponent bits : ℚ) =
    (Nat.pow 2 bits : Nat) * (Nat.pow 10 (-exponent).toNat : Nat) := by
  rw [binaryStep, Nat.mul_comm, Nat.cast_mul]

/-- The steps are compared without the denominator of the decimal. -/
theorem binaryStep_le_decimalStep_iff {bits : Nat} :
    6 * binaryStep exponent bits ≤ 5 * decimalStep exponent ↔
      6 * ((Nat.pow 2 bits : Nat) : ℚ) ≤ 10 * single.gridStep exponent := by
  have casts : 6 * binaryStep exponent bits ≤ 5 * decimalStep exponent ↔
      6 * (binaryStep exponent bits : ℚ) ≤ 5 * decimalStep exponent := by norm_cast
  have common : 5 * (2 * single.gridStep exponent * (Nat.pow 10 (-exponent).toNat : Nat)) =
      10 * single.gridStep exponent * (Nat.pow 10 (-exponent).toNat : Nat) := by ring
  rw [casts, cast_binaryStep, cast_decimalStep, common, ← mul_assoc,
    mul_le_mul_iff_left₀ (cast_ten_pow_pos _)]

/-- Multiples of the steps are compared without the denominator of the decimal. -/
theorem mul_decimalStep_eq_iff {significand bits : Nat} :
    digits * decimalStep exponent = significand * binaryStep exponent bits ↔
      2 * (digits * single.gridStep exponent) = significand * (Nat.pow 2 bits : Nat) := by
  have casts : digits * decimalStep exponent = significand * binaryStep exponent bits ↔
      (digits * decimalStep exponent : ℚ) = significand * binaryStep exponent bits := by norm_cast
  have common : digits * (2 * single.gridStep exponent * (Nat.pow 10 (-exponent).toNat : Nat)) =
      2 * (digits * single.gridStep exponent) * (Nat.pow 10 (-exponent).toNat : Nat) := by ring
  rw [casts, cast_binaryStep, cast_decimalStep, common, ← mul_assoc (significand : ℚ),
    mul_left_inj' (cast_ten_pow_pos _).ne']

/-- A positive factor is taken out of a distance. -/
theorem abs_sub_mul_of_pos {factor : ℚ} (positive : 0 < factor) (left right : ℚ) :
    |left * factor - right * factor| = |left - right| * factor := by
  rw [← sub_mul, abs_mul, abs_of_pos positive]

theorem cast_dist_rat (left right : Nat) : (Nat.dist left right : ℚ) = |(left : ℚ) - right| := by
  exact_mod_cast congrArg (Int.cast : ℤ → ℚ) (cast_dist left right)

/-- Distances of multiples of the steps are compared without the denominator of the decimal. -/
theorem dist_steps_lt_iff {significand bits precision : Nat} :
    20 * Nat.pow 2 precision *
        Nat.dist (digits * decimalStep exponent) (significand * binaryStep exponent bits) <
      21 * binaryStep exponent bits ↔
    20 * 2 ^ precision * |2 * (digits * single.gridStep exponent) -
      significand * (Nat.pow 2 bits : Nat)| < 21 * ((Nat.pow 2 bits : Nat) : ℚ) := by
  have places := cast_ten_pow_pos (-exponent).toNat
  have casts : 20 * Nat.pow 2 precision *
        Nat.dist (digits * decimalStep exponent) (significand * binaryStep exponent bits) <
      21 * binaryStep exponent bits ↔
      (20 * 2 ^ precision * (Nat.dist (digits * decimalStep exponent)
        (significand * binaryStep exponent bits) : Nat) : ℚ) < 21 * binaryStep exponent bits := by
    norm_cast
  have common : |(digits * decimalStep exponent - significand * binaryStep exponent bits : ℚ)| =
      |2 * (digits * single.gridStep exponent) - significand * (Nat.pow 2 bits : Nat)| *
        (Nat.pow 10 (-exponent).toNat : Nat) := by
    rw [← abs_sub_mul_of_pos places, cast_decimalStep, cast_binaryStep]
    exact congrArg abs (by ring)
  rw [casts, cast_dist_rat, Nat.cast_mul, Nat.cast_mul, common, cast_binaryStep, ← mul_assoc,
    ← mul_assoc (21 : ℚ), mul_lt_mul_iff_left₀ places]

/-- A middle is an odd multiple of the step behind the rank below it. -/
theorem exists_middle_eq (below : Nat) : ∃ significand < Nat.pow 2 25, significand % 2 = 1 ∧
    single.units below + single.units (below + 1) =
      significand * Nat.pow 2 (single.stepBits below) := by
  obtain ⟨significand, small, same, _⟩ := single.exists_units_eq below
  have bits : Nat.pow 2 25 = 2 * Nat.pow 2 (single.fractionBits + 1) := by decide
  refine ⟨2 * significand + 1, by omega, by omega, ?_⟩
  rw [units_succ, same]
  ring

/-- Below infinity the steps are not long. -/
theorem stepBits_lt {below : Nat} (finite : below < single.infinity) :
    single.stepBits below < 254 := by
  have infinite : single.infinity = 255 * Nat.pow 2 single.fractionBits := by decide
  rw [infinite] at finite
  have less := (Nat.div_lt_iff_lt_mul (Nat.two_pow_pos single.fractionBits)).mpr finite
  rw [stepBits]
  change below / Nat.pow 2 single.fractionBits < 255 at less
  omega

/-- What is no further from a middle than from an approximation is near to the middle. -/
theorem near_of_error {significand : Nat} (small : significand < Nat.pow 2 25) {step : ℚ}
    (positive : 0 < step)
    (between : |2 * value - significand * step| ≤ 2 * |approximation - value|)
    (error : |approximation - value| * (2 ^ (readingPrecision exponent + 25) - 1) ≤ value) :
    20 * 2 ^ readingPrecision exponent * |2 * value - significand * step| < 21 * step := by
  have above := le_abs_self (2 * value - significand * step)
  have bounded : (significand : ℚ) * step ≤ 2 ^ 25 * step :=
    mul_le_mul_of_nonneg_right (by exact_mod_cast small.le) positive.le
  generalize |2 * value - significand * step| = distance at between above ⊢
  by_cases exact : exponent.natAbs ≤ 22
  · rw [readingPrecision, if_pos exact] at error ⊢
    norm_num at error ⊢
    linarith
  · rw [readingPrecision, if_neg exact] at error ⊢
    norm_num at error ⊢
    linarith

/--
If an approximation of a shortest decimal rounds to another rank, the decimal is equal to a middle
and has an exact power of ten, or it is one of the exceptions.
-/
theorem eq_middle_or_mem_of_not_roundsTo (nonzero : rank ≠ 0) (finite : rank < single.infinity)
    (found : single.IsFound rank exponent digits)
    (rounds : single.RoundsTo (digits * single.gridStep exponent) rank)
    (other : ¬ single.RoundsTo approximation rank)
    (error : |approximation - digits * single.gridStep exponent| *
      (2 ^ (readingPrecision exponent + 25) - 1) ≤ digits * single.gridStep exponent) :
    (∃ below ≤ rank, 2 * (digits * single.gridStep exponent) =
        single.units below + single.units (below + 1)) ∧ exponent.natAbs ≤ 22 ∨
      digits ∈ nearDigits exponent := by
  obtain ⟨below, atMost, near, wide⟩ := exists_wide_middle nonzero found rounds other
  obtain ⟨significand, small, odd, middle⟩ := exists_middle_eq below
  have value : (single.units below + single.units (below + 1) : ℚ) =
      significand * (Nat.pow 2 (single.stepBits below) : Nat) := by exact_mod_cast middle
  have step := cast_two_pow_pos (single.stepBits below)
  rw [value] at near wide
  have close := near_of_error small step near error
  have weight : (20 * 16 : ℚ) * 21 ≤ 20 * 2 ^ readingPrecision exponent := by
    rw [readingPrecision]
    split <;> norm_num
  have scaled := mul_le_mul_of_nonneg_right weight (abs_nonneg (2 * (digits *
    single.gridStep exponent) - significand * (Nat.pow 2 (single.stepBits below) : Nat)))
  have broad := wide (by linarith)
  obtain ⟨same, exact⟩ | member := eq_or_mem_of_near found.digits_pos odd small
    (stepBits_lt (atMost.trans_lt finite)) (binaryStep_le_decimalStep_iff.mpr broad)
    (dist_steps_lt_iff.mpr close)
  · exact .inl ⟨⟨below, atMost, (mul_decimalStep_eq_iff.mp same).trans value.symm⟩, exact⟩
  · exact .inr member

/-- A middle between single numbers, brought to a finer scale, is a double number. -/
theorem exists_units_double_eq {below : Nat}
    (middle : 2 * value = single.units below + single.units (below + 1)) (bits : Nat) :
    ∃ rank, (double.units rank : ℚ) = value * (Nat.pow 2 (bits + 1) : Nat) := by
  obtain ⟨significand, small, _, same⟩ := exists_middle_eq below
  obtain ⟨rank, exact⟩ := double.exists_rank_of_lt
    (small.trans (by decide : Nat.pow 2 25 < Nat.pow 2 53)) (single.stepBits below + bits)
  have split : Nat.pow 2 (single.stepBits below + bits) =
      Nat.pow 2 (single.stepBits below) * Nat.pow 2 bits := Nat.pow_add 2 _ bits
  have double : Nat.pow 2 (bits + 1) = Nat.pow 2 bits * 2 := rfl
  have sum : 2 * value = significand * (Nat.pow 2 (single.stepBits below) : Nat) := by
    rw [middle]
    exact_mod_cast same
  refine ⟨rank, ?_⟩
  rw [exact, split, double, Nat.cast_mul, Nat.cast_mul, Nat.cast_mul, ← mul_assoc, ← sum]
  push_cast
  ring

/-- The smallest magnitude of single numbers consists of many smallest ones of double numbers. -/
theorem exists_double_scale_eq : ∃ bits, double.scale = single.scale * Nat.pow 2 (bits + 1) :=
  ⟨924, by decide +kernel⟩

/--
A double number that is read for a shortest decimal is rounded to the rank of that decimal, but for
the exceptions.
-/
theorem nearestRank_eq_or_mem {read : Nat} (nonzero : rank ≠ 0) (finite : rank < single.infinity)
    (found : single.IsFound rank exponent digits)
    (rounds : single.RoundsTo (digits * single.gridStep exponent) rank)
    (exact : exponent.natAbs ≤ 22 → double.RoundsTo (digits * double.gridStep exponent) read)
    (error : |(double.units read : ℚ) - digits * double.gridStep exponent| *
      (2 ^ (readingPrecision exponent + 25) - 1) ≤ digits * double.gridStep exponent) :
    single.nearestRank (double.units read * single.scale) double.scale = rank ∨
      digits ∈ nearDigits exponent := by
  obtain ⟨bits, scale⟩ := exists_double_scale_eq
  have scales : (double.scale : ℚ) = single.scale * (Nat.pow 2 (bits + 1) : Nat) := by
    rw [scale, Nat.cast_mul]
  have factor := cast_two_pow_pos (bits + 1)
  have finer : (digits * double.gridStep exponent : ℚ) =
      digits * single.gridStep exponent * (Nat.pow 2 (bits + 1) : Nat) := by
    rw [gridStep, gridStep, scales]
    ring
  rw [finer] at exact error
  have quotient : ((double.units read * single.scale : Nat) / (double.scale : Nat) : ℚ) =
      double.units read / (Nat.pow 2 (bits + 1) : Nat) := by
    rw [scales, Nat.cast_mul, mul_comm (single.scale : ℚ)]
    exact mul_div_mul_right _ _ single.cast_scale_pos.ne'
  by_cases same : single.RoundsTo (double.units read / (Nat.pow 2 (bits + 1) : Nat)) rank
  · refine .inl (nearestRank_eq_of_roundsTo (Nat.cast_pos.mp double.cast_scale_pos)
      (finite.trans single.infinity_lt_ranks) ?_)
    rwa [quotient]
  · have coarser : |double.units read / (Nat.pow 2 (bits + 1) : Nat) -
        digits * single.gridStep exponent| * (2 ^ (readingPrecision exponent + 25) - 1) ≤
        digits * single.gridStep exponent := by
      have difference : double.units read / (Nat.pow 2 (bits + 1) : Nat) -
          digits * single.gridStep exponent = (double.units read -
            digits * single.gridStep exponent * (Nat.pow 2 (bits + 1) : Nat)) /
              (Nat.pow 2 (bits + 1) : Nat) := by
        rw [sub_div, mul_div_cancel_right₀ _ factor.ne']
      rw [difference, abs_div, abs_of_pos factor, div_mul_eq_mul_div, div_le_iff₀ factor]
      exact error
    obtain ⟨⟨below, _, middle⟩, power⟩ | member :=
      eq_middle_or_mem_of_not_roundsTo nonzero finite found rounds same coarser
    · obtain ⟨other, equal⟩ := exists_units_double_eq middle bits
      have taken := exact power
      rw [← equal] at taken
      have own := double.roundsTo_units other
      obtain rfl := taken.eq own
      rw [equal, mul_div_cancel_right₀ _ factor.ne'] at same
      exact absurd rounds same
    · exact .inr member

/-- The exceptions are restored from what is read for them. -/
theorem nearestRank_eq_of_mem {read : Nat} (member : digits ∈ nearDigits exponent)
    (rounds : single.RoundsTo (digits * single.gridStep exponent) rank)
    (scaled : scaled? digits exponent = some read) :
    single.nearestRank (double.units read * single.scale) double.scale = rank := by
  have unique {other : Nat} (admitted : single.admits other ⟨digits, exponent⟩ = true) :
      other = rank := (admits_iff_roundsTo_mul.mp admitted).eq rounds
  rw [nearDigits] at member
  split at member
  · rename_i power
    subst power
    rw [scaled?_of_neg (by decide) (by decide)] at scaled
    obtain rfl := Option.some.inj scaled
    simp only [List.mem_cons, List.not_mem_nil, or_false] at member
    obtain rfl | rfl := member
    · rw [← unique (by decide : single.admits 363742205 ⟨7038531, -32⟩ = true)]
      decide +kernel
    · rw [← unique (by decide : single.admits 372130813 ⟨14077062, -32⟩ = true)]
      decide +kernel
  · cases member

/-- A short decimal of a magnitude other than zero is not tiny. -/
theorem neg_sixty_le_exponent (nonzero : rank ≠ 0) (few : digits < Nat.pow 2 29)
    (rounds : single.RoundsTo (digits * single.gridStep exponent) rank) : -60 ≤ exponent := by
  by_contra small
  have tens : (10 : ℚ) ^ exponent ≤ 10 ^ (-61 : Int) := zpow_le_zpow_right₀ (by decide) (by omega)
  have steps : single.gridStep exponent ≤ single.scale * 10 ^ (-61 : Int) :=
    mul_le_mul_of_nonneg_left tens single.cast_scale_pos.le
  have product : (digits * single.gridStep exponent : ℚ) ≤
      2 ^ 29 * (single.scale * 10 ^ (-61 : Int)) :=
    mul_le_mul (by exact_mod_cast few.le) steps (single.gridStep_pos exponent).le (by positivity)
  have tiny : 2 * (2 ^ 29 * (single.scale * 10 ^ (-61 : Int))) < (1 : ℚ) := by
    have less : (2 * (2 ^ 29 * single.scale) : ℚ) < 10 ^ 61 := by
      exact_mod_cast (by decide : 2 * (2 ^ 29 * single.scale) < 10 ^ 61)
    rw [zpow_neg, ← mul_assoc, ← mul_assoc, mul_inv_lt_iff₀ (by positivity), one_mul, mul_assoc]
    exact_mod_cast less
  have least : (1 : ℚ) ≤ single.units rank := by
    exact_mod_cast (Nat.two_pow_pos _).trans_le (single.step_le_units nonzero)
  have before : (0 : ℚ) ≤ single.units (rank - 1) := Nat.cast_nonneg _
  have low := rounds.1
  linarith

/-- A decimal of a finite magnitude is not huge. -/
theorem exponent_le_sixty (finite : rank < single.infinity) (positive : 0 < digits)
    (rounds : single.RoundsTo (digits * single.gridStep exponent) rank) : exponent ≤ 60 := by
  by_contra great
  have tens : (10 : ℚ) ^ (61 : Int) ≤ 10 ^ exponent := zpow_le_zpow_right₀ (by decide) (by omega)
  have steps : single.scale * 10 ^ (61 : Int) ≤ single.gridStep exponent :=
    mul_le_mul_of_nonneg_left tens single.cast_scale_pos.le
  have product : single.gridStep exponent ≤ digits * single.gridStep exponent :=
    le_mul_of_one_le_left (single.gridStep_pos exponent).le (Nat.one_le_cast.mpr positive)
  have huge : (single.units single.infinity : ℚ) < single.scale * 10 ^ (61 : Int) := by
    exact_mod_cast (by decide : single.units single.infinity < single.scale * 10 ^ 61)
  have own := single.cast_units_le finite.le
  have next := single.cast_units_le (Nat.succ_le_of_lt finite)
  have high := rounds.2.1
  linarith

/-- The exponents of short decimals of finite single numbers are not far from zero. -/
theorem natAbs_exponent_le (nonzero : rank ≠ 0) (finite : rank < single.infinity)
    (positive : 0 < digits) (few : digits < Nat.pow 2 29)
    (rounds : single.RoundsTo (digits * single.gridStep exponent) rank) :
    exponent.natAbs ≤ 60 := by
  have low := neg_sixty_le_exponent nonzero few rounds
  have high := exponent_le_sixty finite positive rounds
  omega

end Format

namespace Binary

/-- A positive finite boost is read back from the numeral of its shortest decimal. -/
theorem exists_doubleRank?_numeral (negative : Bool) {rank : Nat} (nonzero : rank ≠ 0)
    (finite : rank < Format.single.infinity) : ∃ read < Format.double.infinity,
    (Layout.single.numeral negative (Format.single.shortest .even rank)).doubleRank? = some read ∧
      Format.single.nearestRank (Format.double.units read * Format.single.scale)
        Format.double.scale = rank := by
  have bits : 0 < Format.single.scaleBits := by decide
  have found := Format.isFound_shortest .even bits nonzero
  have digits := Format.digits_shortest_le .even bits nonzero
  have rounds := Format.admits_iff_roundsTo_mul.mp (Format.single.admits_shortest rank .even)
  generalize Format.single.shortest .even rank = decimal at found digits rounds
  have few : decimal.digits < Nat.pow 2 29 := digits.trans_lt (by decide)
  have positive := found.digits_pos
  obtain ⟨value, exponent, read, isRead⟩ :=
    Layout.exists_doubleRank?_numeral negative (few.trans (by decide))
  have near := isRead.natAbs_le (Format.natAbs_exponent_le nonzero finite positive few rounds)
  obtain ⟨number, below, scaled, exact, error⟩ :=
    Format.exists_scaled?_near (isRead.value_pos positive) isRead.few near
  have precision : readingPrecision exponent = readingPrecision decimal.exponent := by
    rw [readingPrecision, readingPrecision, if_congr isRead.natAbs_le_iff rfl rfl]
  rw [isRead.mul_gridStep] at exact error
  rw [precision] at error
  refine ⟨number, below, read.trans scaled, ?_⟩
  obtain restored | member := Format.nearestRank_eq_or_mem nonzero finite found rounds
    (fun power => exact (isRead.natAbs_le_iff.mpr power)) error
  · exact restored
  · obtain ⟨rfl, rfl⟩ := isRead.eq_of_lt (natAbs_of_mem_nearDigits member)
    exact Format.nearestRank_eq_of_mem member rounds scaled

/-- Zero is read back from the numeral of its shortest decimal. -/
theorem exists_doubleRank?_numeral_zero (negative : Bool) : ∃ read < Format.double.infinity,
    (Layout.single.numeral negative (Format.single.shortest .even 0)).doubleRank? = some read ∧
      Format.single.nearestRank (Format.double.units read * Format.single.scale)
        Format.double.scale = 0 := by
  have zero : Format.single.shortest .even 0 = ⟨0, 0⟩ := rfl
  have positional : Layout.single.numeral negative ⟨0, 0⟩ =
      (Numeral.positional negative ⟨0, 0⟩).pointed := if_pos (by decide)
  have read := @Layout.doubleRank?_pointed_of_whole negative ⟨0, 0⟩ (by decide) (by decide)
  rw [Format.scaled?_of_neg (by decide) (by decide)] at read
  rw [zero, positional, read]
  exact ⟨_, by decide +kernel, rfl, by decide +kernel⟩

/-- A finite double number is rounded to a single number. -/
theorem convert_ofRank (negative : Bool) {read : Nat} (finite : read < Format.double.infinity) :
    (ofRank negative read : Double).convert = (ofRank negative (Format.single.nearestRank
      (Format.double.units read * Format.single.scale) Format.double.scale) : Single) := by
  have rank : (ofRank negative read : Double).rank.val = read := Nat.min_eq_left finite.le
  have number : ¬ (ofRank negative read : Double).isNotANumber = true := by
    rw [isNotANumber, rank, decide_eq_true_iff]
    exact Nat.not_lt_of_gt finite
  have isFinite : (ofRank negative read : Double).isFinite = true := by
    rw [Binary.isFinite, rank]
    exact decide_eq_true finite
  rw [convert, if_neg number, if_pos isFinite, nearest, rank]
  rfl

/-- A finite boost is read back from its numeral. -/
theorem single?_numeral (negative : Bool) {rank : Nat} (finite : rank < Format.single.infinity) :
    (Layout.single.numeral negative (Format.single.shortest .even rank)).single? =
      some (ofRank negative rank) := by
  obtain ⟨read, below, same, restored⟩ : ∃ read < Format.double.infinity,
      (Layout.single.numeral negative (Format.single.shortest .even rank)).doubleRank? = some read ∧
        Format.single.nearestRank (Format.double.units read * Format.single.scale)
          Format.double.scale = rank := by
    obtain rfl | nonzero := Nat.eq_zero_or_pos rank
    · exact exists_doubleRank?_numeral_zero negative
    · exact exists_doubleRank?_numeral negative (Nat.ne_of_gt nonzero) finite
  have pointed := Layout.isWord_numeral negative .single (Format.single.shortest .even rank)
  rw [Numeral.single?, if_neg (Bool.eq_false_iff.mp pointed), Numeral.double?, same,
    Layout.negative_numeral, Option.map_some, Option.map_some, convert_ofRank negative below,
    restored]

/-- The numeral that is written for a finite boost is read back as this boost. -/
theorem bind_single?_numeral? {boost : Single} (finite : boost.isFinite = true) :
    (boost.numeral? .single).bind Numeral.single? = some boost := by
  have below : boost.rank.val < Format.single.infinity := of_decide_eq_true finite
  have same : (ofRank boost.negative boost.rank.val : Single) = boost := by
    rw [ofRank]
    congr
    exact Nat.min_eq_left below.le
  rw [numeral?, if_pos finite, Option.bind_some, single?_numeral boost.negative below, same]

end Binary

end FieldQuery.Number
