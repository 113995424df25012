/-
This file proves that rounding finds the one rank whose magnitude is nearest to a value and bounds
the difference between the two.
-/
import FieldQuery.Number.Rounding
import FieldQuery.Proofs.Number.Shortest
import Mathlib.Data.Rat.Cast.Order
import Mathlib.Tactic.FieldSimp
import Mathlib.Tactic.Linarith
import Mathlib.Tactic.Positivity

namespace FieldQuery.Number

theorem cast_two_pow_pos (power : Nat) : (0 : ℚ) < (Nat.pow 2 power : Nat) :=
  Nat.cast_pos.mpr (Nat.two_pow_pos power)

theorem cast_ten_pow_pos (power : Nat) : (0 : ℚ) < (Nat.pow 10 power : Nat) :=
  Nat.cast_pos.mpr (Nat.pow_pos (by decide))

namespace Format

section Spacing

variable (format : Format)

/-- The first binade with an exponent starts at its own magnitude. -/
theorem units_two_pow_fractionBits :
    format.units (Nat.pow 2 format.fractionBits) = Nat.pow 2 format.fractionBits := by
  simpa using format.units_of_fraction_lt 0 (Nat.two_pow_pos _)

/-- A magnitude consists of some steps to the next rank; a binade bounds their number. -/
theorem exists_units_eq (rank : Nat) : ∃ significand < Nat.pow 2 (format.fractionBits + 1),
    format.units rank = significand * Nat.pow 2 (format.stepBits rank) ∧
      (Nat.pow 2 format.fractionBits ≤ rank → Nat.pow 2 format.fractionBits ≤ significand) := by
  have positive : 0 < Nat.pow 2 format.fractionBits := Nat.two_pow_pos _
  have double : Nat.pow 2 (format.fractionBits + 1) = Nat.pow 2 format.fractionBits * 2 := rfl
  have fraction := format.units_of_fraction_lt
  have first (rank : Nat) (small : rank < Nat.pow 2 format.fractionBits) :
      format.units rank = rank := format.units_of_lt small
  rw [double]
  simp only [stepBits]
  generalize Nat.pow 2 format.fractionBits = binade at positive fraction first
  by_cases small : rank < binade
  · refine ⟨rank, by omega, ?_, fun above => absurd small (Nat.not_lt_of_le above)⟩
    rw [first rank small, Nat.div_eq_of_lt small]
    exact (Nat.mul_one rank).symm
  · obtain ⟨exponent, quotient⟩ : ∃ exponent, rank / binade = exponent + 1 :=
      Nat.exists_eq_add_one.mpr (Nat.div_pos (by omega) positive)
    have split := Nat.div_add_mod rank binade
    have below := Nat.mod_lt rank positive
    refine ⟨binade + rank % binade, by omega, ?_, fun _ => Nat.le_add_right _ _⟩
    rw [quotient] at split ⊢
    rw [Nat.add_sub_cancel, ← fraction exponent below, split]

/-- A binade is no shorter than as many steps as there are fractions. -/
theorem step_mul_le_units {rank : Nat} (normal : Nat.pow 2 format.fractionBits ≤ rank) :
    Nat.pow 2 (format.stepBits rank) * Nat.pow 2 format.fractionBits ≤ format.units rank := by
  obtain ⟨significand, _, same, least⟩ := format.exists_units_eq rank
  rw [same, Nat.mul_comm]
  exact Nat.mul_le_mul_right _ (least normal)

/-- The next rank is no more steps away from zero than there are fractions in two binades. -/
theorem units_succ_le (rank : Nat) : format.units (rank + 1) ≤
    Nat.pow 2 (format.fractionBits + 1) * Nat.pow 2 (format.stepBits rank) := by
  obtain ⟨significand, small, same, _⟩ := format.exists_units_eq rank
  rw [units_succ, same, ← Nat.succ_mul]
  exact Nat.mul_le_mul_right _ small

/-- The step in front of a rank is no longer than the one behind it. -/
theorem step_le_step_succ (rank : Nat) :
    Nat.pow 2 (format.stepBits rank) ≤ Nat.pow 2 (format.stepBits (rank + 1)) :=
  Nat.pow_le_pow_right (by decide)
    (Nat.sub_le_sub_right (Nat.div_le_div_right (Nat.le_succ rank)) 1)

/-- The step behind a rank is at most twice as long as the one in front of it. -/
theorem step_succ_le (rank : Nat) :
    Nat.pow 2 (format.stepBits (rank + 1)) ≤ 2 * Nat.pow 2 (format.stepBits rank) := by
  have positive : 0 < Nat.pow 2 format.fractionBits := Nat.two_pow_pos _
  have next : (rank + 1) / Nat.pow 2 format.fractionBits ≤
      rank / Nat.pow 2 format.fractionBits + 1 := by
    rw [← Nat.add_div_right rank positive]
    exact Nat.div_le_div_right (Nat.add_le_add_left positive rank)
  have double : 2 * Nat.pow 2 (format.stepBits rank) = Nat.pow 2 (format.stepBits rank + 1) :=
    Nat.mul_comm _ _
  rw [double]
  refine Nat.pow_le_pow_right (by decide) ?_
  rw [stepBits, stepBits]
  omega

/-- A positive magnitude is no shorter than the step behind it. -/
theorem step_le_units {rank : Nat} (nonzero : rank ≠ 0) :
    Nat.pow 2 (format.stepBits rank) ≤ format.units rank := by
  obtain ⟨significand, _, same, _⟩ := format.exists_units_eq rank
  have positive : 0 < significand := by
    refine Nat.pos_of_ne_zero fun zero => ?_
    have less : format.units 0 < format.units rank :=
      format.units_strictMono (Nat.pos_of_ne_zero nonzero)
    rw [same, zero, Nat.zero_mul] at less
    exact Nat.not_lt_zero _ less
  rw [same]
  exact Nat.le_mul_of_pos_left _ positive

/-- A number of few bits is a magnitude, also when it is doubled any number of times. -/
theorem exists_rank_of_lt {significand : Nat}
    (small : significand < Nat.pow 2 (format.fractionBits + 1)) (exponent : Nat) :
    ∃ rank, format.units rank = significand * Nat.pow 2 exponent := by
  have double : Nat.pow 2 (format.fractionBits + 1) = Nat.pow 2 format.fractionBits * 2 := rfl
  have subnormal {rank : Nat} : rank < Nat.pow 2 format.fractionBits → format.units rank = rank :=
    format.units_of_lt
  have fraction := format.units_of_fraction_lt
  rw [double] at small
  generalize Nat.pow 2 format.fractionBits = binade at small subnormal fraction
  by_cases normal : binade ≤ significand
  · obtain ⟨rest, rfl⟩ := Nat.exists_eq_add_of_le normal
    exact ⟨_, fraction exponent (by omega)⟩
  · induction exponent generalizing significand with
    | zero => exact ⟨significand, (subnormal (by omega)).trans (Nat.mul_one _).symm⟩
    | succ exponent inductionHypothesis =>
        have shifted : significand * 2 * Nat.pow 2 exponent =
            significand * Nat.pow 2 (exponent + 1) := by
          rw [Nat.mul_right_comm, Nat.mul_assoc]
          rfl
        rw [← shifted]
        by_cases enough : binade ≤ significand * 2
        · obtain ⟨rest, same⟩ := Nat.exists_eq_add_of_le enough
          rw [same]
          exact ⟨_, fraction exponent (by omega)⟩
        · exact inductionHypothesis (by omega) enough

/-- The next magnitude is one step away from a magnitude. -/
theorem cast_units_succ (rank : Nat) : (format.units (rank + 1) : ℚ) =
    format.units rank + (Nat.pow 2 (format.stepBits rank) : Nat) := by
  rw [units_succ, Nat.cast_add]

theorem cast_units_le {first second : Nat} (le : first ≤ second) :
    (format.units first : ℚ) ≤ format.units second :=
  Nat.cast_le.mpr (format.units_strictMono.monotone le)

theorem cast_units_lt {first second : Nat} (less : first < second) :
    (format.units first : ℚ) < format.units second :=
  Nat.cast_lt.mpr (format.units_strictMono less)

end Spacing

/--
A value, counted in smallest magnitudes, rounds to a rank when it lies between the middles to the
neighbouring ranks. The middles themselves round to the even one of their ranks.
-/
def RoundsTo (format : Format) (value : ℚ) (rank : Nat) : Prop :=
  (format.units (rank - 1) + format.units rank : ℚ) ≤ 2 * value ∧
    2 * value ≤ format.units rank + format.units (rank + 1) ∧
    (rank % 2 = 1 →
      (format.units (rank - 1) + format.units rank : ℚ) < 2 * value ∧
        2 * value < format.units rank + format.units (rank + 1))

variable {format : Format} {rank numerator denominator : Nat} {value : ℚ}

/-- A quotient is compared with the middles without any division. -/
theorem roundsTo_div_iff (positive : 0 < denominator) :
    format.RoundsTo (numerator / denominator) rank ↔
      (format.units (rank - 1) + format.units rank) * denominator ≤ 2 * numerator ∧
        2 * numerator ≤ (format.units rank + format.units (rank + 1)) * denominator ∧
        (rank % 2 = 1 →
          (format.units (rank - 1) + format.units rank) * denominator < 2 * numerator ∧
            2 * numerator < (format.units rank + format.units (rank + 1)) * denominator) := by
  have divisor : (0 : ℚ) < denominator := Nat.cast_pos.mpr positive
  have twice : 2 * ((numerator : ℚ) / denominator) = (2 * numerator) / denominator := by ring
  simp only [RoundsTo, twice, le_div_iff₀ divisor, lt_div_iff₀ divisor, div_le_iff₀ divisor,
    div_lt_iff₀ divisor]
  norm_cast

/-- A decimal belongs to a rank exactly when its value rounds to it. -/
theorem admits_iff_roundsTo {decimal : Decimal} :
    format.admits rank decimal = true ↔
      format.RoundsTo ((format.scale * decimal.numerator : Nat) / decimal.denominator) rank := by
  rw [admits_iff, roundsTo_div_iff decimal.denominator_pos, ← Nat.mul_assoc]

/-- The search from the highest bit down finds the last rank that does not exceed a quotient. -/
theorem floorRank_spec {bits : Nat} (low : format.units rank * denominator ≤ numerator)
    (high : numerator < format.units (rank + Nat.pow 2 bits) * denominator) :
    format.units (format.floorRank numerator denominator bits rank) * denominator ≤ numerator ∧
      numerator <
        format.units (format.floorRank numerator denominator bits rank + 1) * denominator := by
  induction bits generalizing rank with
  | zero => exact ⟨low, high⟩
  | succ bits inductionHypothesis =>
      have double : rank + Nat.pow 2 (bits + 1) = rank + Nat.pow 2 bits + Nat.pow 2 bits := by
        rw [Nat.add_assoc, ← Nat.mul_two]
        rfl
      rw [double] at high
      rw [floorRank]
      split
      · rename_i kept
        exact inductionHypothesis kept high
      · rename_i dropped
        exact inductionHypothesis low (Nat.lt_of_not_le dropped)

/-- A quotient below the first magnitude that has no rank rounds to its nearest rank. -/
theorem roundsTo_nearestRank (positive : 0 < denominator)
    (small : numerator < format.units format.ranks * denominator) :
    format.RoundsTo (numerator / denominator) (format.nearestRank numerator denominator) := by
  have start : format.units 0 * denominator ≤ numerator := by
    rw [format.units_of_lt (Nat.two_pow_pos _), Nat.zero_mul]
    exact Nat.zero_le _
  have wide : format.ranks = 0 + Nat.pow 2 (format.exponentBits + format.fractionBits) :=
    (Nat.zero_add _).symm
  obtain ⟨low, high⟩ := floorRank_spec start (wide ▸ small)
  rw [nearestRank]
  generalize format.floorRank numerator denominator
    (format.exponentBits + format.fractionBits) 0 = below at low high
  have order (first second : Nat) (less : first < second) :
      format.units first * denominator < format.units second * denominator :=
    Nat.mul_lt_mul_of_pos_right (format.units_strictMono less) positive
  have next := order (below + 1) (below + 2) (by omega)
  have previous : below ≠ 0 → format.units (below - 1) * denominator <
      format.units below * denominator := fun nonzero => order (below - 1) below (by omega)
  have bottom : below = 0 → format.units (below - 1) * denominator =
      format.units below * denominator := fun zero => by rw [zero]
  rw [roundsTo_div_iff positive]
  split
  · rename_i near
    simp only [Nat.add_mul] at *
    omega
  · split
    · rename_i _ near
      simp only [Nat.add_mul, Nat.add_sub_cancel, Nat.add_assoc, Nat.reduceAdd] at *
      omega
    · split
      · rename_i even
        simp only [Nat.add_mul] at *
        omega
      · rename_i odd
        simp only [Nat.add_mul, Nat.add_sub_cancel, Nat.add_assoc, Nat.reduceAdd] at *
        omega

/-- No value rounds to two ranks. -/
theorem RoundsTo.le {other : Nat} (rounds : format.RoundsTo value rank)
    (also : format.RoundsTo value other) : other ≤ rank := by
  by_contra greater
  obtain ⟨_, high, strict⟩ := rounds
  obtain ⟨low, _, alsoStrict⟩ := also
  by_cases next : other = rank + 1
  · -- One of two neighbours is odd and does not take the middle between them.
    subst next
    rw [Nat.add_sub_cancel] at low alsoStrict
    obtain even | odd := Nat.mod_two_eq_zero_or_one rank
    · exact absurd (alsoStrict (by omega)).1 (not_lt_of_ge high)
    · exact absurd (strict odd).2 (not_lt_of_ge low)
  · have first := format.cast_units_lt (by omega : rank < other - 1)
    have second := format.cast_units_le (by omega : rank + 1 ≤ other)
    linarith

/-- A value rounds to one rank only. -/
theorem RoundsTo.eq {other : Nat} (rounds : format.RoundsTo value rank)
    (also : format.RoundsTo value other) : rank = other :=
  Nat.le_antisymm (also.le rounds) (rounds.le also)

/-- Equal fractions are decimals of one rank. -/
theorem eq_of_admits {decimal another : Decimal} {other : Nat}
    (admitted : format.admits rank decimal = true)
    (alsoAdmitted : format.admits other another = true)
    (numerators : decimal.numerator = another.numerator)
    (denominators : decimal.denominator = another.denominator) : rank = other := by
  rw [admits_iff_roundsTo, numerators, denominators] at admitted
  exact admitted.eq (admits_iff_roundsTo.mp alsoAdmitted)

/-- The nearest rank of a quotient is the rank to which the quotient rounds. -/
theorem nearestRank_eq_of_roundsTo (positive : 0 < denominator) (valid : rank < format.ranks)
    (rounds : format.RoundsTo (numerator / denominator) rank) :
    format.nearestRank numerator denominator = rank := by
  have small : numerator < format.units format.ranks * denominator := by
    have high := ((roundsTo_div_iff positive).mp rounds).2.1
    have first := format.units_strictMono valid
    have second : format.units (rank + 1) ≤ format.units format.ranks :=
      format.units_strictMono.monotone valid
    have sum := Nat.mul_lt_mul_of_pos_right (Nat.add_lt_add_of_lt_of_le first second) positive
    rw [← Nat.two_mul, Nat.mul_assoc] at sum
    omega
  exact (roundsTo_nearestRank positive small).eq rounds

/-- A magnitude rounds to its own rank. -/
theorem roundsTo_units (rank : Nat) : format.RoundsTo (format.units rank) rank := by
  have previous := format.cast_units_le (Nat.sub_le rank 1)
  have next := format.cast_units_lt rank.lt_succ_self
  refine ⟨by linarith, by linarith, fun odd => ⟨?_, by linarith⟩⟩
  have strict := format.cast_units_lt (by omega : rank - 1 < rank)
  linarith

/-- An integer with few leading bits is exact. -/
theorem units_ofNat {significand : Nat}
    (few : significand < Nat.pow 2 (format.fractionBits + 1)) (exponent : Nat)
    (small : significand * Nat.pow 2 exponent * format.scale < format.units format.ranks) :
    format.units (format.ofNat (significand * Nat.pow 2 exponent)) =
      significand * Nat.pow 2 exponent * format.scale := by
  obtain ⟨rank, same⟩ := format.exists_rank_of_lt few (exponent + format.scaleBits)
  have split : Nat.pow 2 (exponent + format.scaleBits) = Nat.pow 2 exponent * format.scale :=
    Nat.pow_add 2 exponent format.scaleBits
  rw [split, ← Nat.mul_assoc] at same
  have valid : rank < format.ranks := by
    rwa [← format.units_strictMono.lt_iff_lt, same]
  have rounds := format.roundsTo_units rank
  rw [same] at rounds
  rw [ofNat, nearestRank_eq_of_roundsTo Nat.one_pos valid (by rwa [Nat.cast_one, div_one]), same]

/-- What is at most half a step away from a magnitude of a full binade differs little from it. -/
theorem mul_two_pow_le_of_step (normal : Nat.pow 2 format.fractionBits ≤ rank) {difference : ℚ}
    (close : 2 * difference ≤ (Nat.pow 2 (format.stepBits rank) : Nat)) :
    difference * (Nat.pow 2 (format.fractionBits + 1) : Nat) ≤ format.units rank := by
  have double : ((Nat.pow 2 (format.fractionBits + 1) : Nat) : ℚ) =
      (Nat.pow 2 format.fractionBits : Nat) * 2 := by
    exact_mod_cast (rfl : Nat.pow 2 (format.fractionBits + 1) = Nat.pow 2 format.fractionBits * 2)
  calc difference * (Nat.pow 2 (format.fractionBits + 1) : Nat)
      = 2 * difference * (Nat.pow 2 format.fractionBits : Nat) := by rw [double]; ring
    _ ≤ (Nat.pow 2 (format.stepBits rank) : Nat) * (Nat.pow 2 format.fractionBits : Nat) :=
        mul_le_mul_of_nonneg_right close (Nat.cast_nonneg _)
    _ ≤ format.units rank := by exact_mod_cast format.step_mul_le_units normal

/-- Rounding changes a value that is not too small by a small part of it. -/
theorem RoundsTo.abs_sub_le (rounds : format.RoundsTo value rank)
    (normal : (Nat.pow 2 format.fractionBits : Nat) ≤ value) :
    |(format.units rank : ℚ) - value| * (Nat.pow 2 (format.fractionBits + 1) : Nat) ≤ value := by
  obtain ⟨low, high, _⟩ := rounds
  have step (rank : Nat) : (0 : ℚ) ≤ (Nat.pow 2 (format.stepBits rank) : Nat) := Nat.cast_nonneg _
  obtain above | below := le_total value (format.units rank)
  · rw [abs_of_nonneg (sub_nonneg.mpr above)]
    have start : Nat.pow 2 format.fractionBits ≤ rank := by
      rw [← format.units_strictMono.le_iff_le, units_two_pow_fractionBits]
      exact_mod_cast normal.trans above
    obtain same | later := Nat.eq_or_lt_of_le start
    · rw [← same, units_two_pow_fractionBits] at above ⊢
      rw [le_antisymm above normal, sub_self, zero_mul]
      exact Nat.cast_nonneg _
    · obtain ⟨previous, rfl⟩ := Nat.exists_eq_add_one.mpr (Nat.zero_lt_of_lt later)
      rw [Nat.add_sub_cancel, cast_units_succ] at low
      rw [cast_units_succ]
      have close := mul_two_pow_le_of_step (Nat.le_of_lt_succ later)
        (by linarith : 2 * (format.units previous + (Nat.pow 2 (format.stepBits previous) : Nat) -
          value) ≤ (Nat.pow 2 (format.stepBits previous) : Nat))
      linarith [step previous]
  · rw [abs_of_nonpos (sub_nonpos.mpr below), neg_sub]
    have start : Nat.pow 2 format.fractionBits ≤ rank := by
      have next : value < format.units (rank + 1) := by
        linarith [format.cast_units_lt rank.lt_succ_self]
      have less := normal.trans_lt next
      rw [← units_two_pow_fractionBits, Nat.cast_lt, format.units_strictMono.lt_iff_lt] at less
      exact Nat.le_of_lt_succ less
    rw [cast_units_succ] at high
    have close := mul_two_pow_le_of_step start
      (by linarith : 2 * (value - format.units rank) ≤ (Nat.pow 2 (format.stepBits rank) : Nat))
    linarith

end Format

end FieldQuery.Number
