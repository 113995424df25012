/-
This file proves that short decimals keep away from the middles between neighbouring single numbers.
A decimal is a multiple of a power of ten, and a middle is an odd multiple of a power of two. One
multiplier from the continued fraction of the two powers shows how near their multiples can be.
-/
import Mathlib.Algebra.Order.Ring.Abs
import Mathlib.Data.Nat.Dist
import Mathlib.Tactic.Linarith
import Mathlib.Tactic.Ring

namespace FieldQuery.Number

/--
The continued fraction of a quotient gives multipliers at which the multiple of the quotient is very
near to a whole number. This is the last one within a limit.
-/
def nearMultiplier (limit : Nat) : Nat → Nat → Nat → Nat → Nat → Nat
  | 0, _, _, _, last => last
  | steps + 1, divisor, remainder, before, last =>
    let next := divisor / remainder * last + before
    bif remainder == 0 || Nat.blt limit next then last
    else nearMultiplier limit steps remainder (divisor % remainder) last next

/--
A multiplier shows that up to `count` multiples of `decimal` keep away from the odd multiples of
`binary`, except for some. Those may be equal to odd multiples if the precision is that of a number
that is rounded once.
-/
def separates (decimal binary count precision : Nat) (except : List Nat) (multiplier : Nat) :
    Bool :=
  let nearest := (2 * multiplier * decimal + binary) / (2 * binary)
  let error := Nat.dist (multiplier * decimal) (nearest * binary)
  let weight := 20 * Nat.pow 2 precision
  Nat.blt (count * error * weight + multiplier * (21 * binary)) (binary * weight) &&
    Nat.gcd nearest multiplier == 1 &&
    (nearest % 2 == 0 || Nat.ble (21 * binary) (error * weight) || Nat.blt count multiplier ||
      (error == 0 && precision == 28) ||
      (except.contains multiplier && Nat.blt count (2 * multiplier)))

section Separates

variable {decimal binary count precision multiplier digits significand : Nat} {except : List Nat}

/-- A distance is the absolute value of a difference. -/
theorem cast_dist (left right : Nat) : (Nat.dist left right : ℤ) = |(left : ℤ) - right| := by
  rw [Nat.dist]
  obtain less | greater := Nat.le_total left right
  · rw [abs_of_nonpos (by omega)]
    omega
  · rw [abs_of_nonneg (by omega)]
    omega

/-- Multiples that are near to each other are in the ratio of a multiplier that separates others. -/
theorem mul_eq_mul_of_near {nearest weight : Nat} (few : digits ≤ count)
    (separated : count * Nat.dist (multiplier * decimal) (nearest * binary) * weight +
      multiplier * (21 * binary) < binary * weight)
    (near : weight * Nat.dist (digits * decimal) (significand * binary) < 21 * binary) :
    multiplier * significand = nearest * digits := by
  by_contra different
  -- The difference is a whole number, and both distances together are too small for it.
  have apart : (nearest * digits - multiplier * significand : ℤ) ≠ 0 :=
    fun zero => different (by exact_mod_cast (sub_eq_zero.mp zero).symm)
  have product : (binary * (nearest * digits - multiplier * significand) : ℤ) =
      multiplier * (digits * decimal - significand * binary) -
        digits * (multiplier * decimal - nearest * binary) := by ring
  have whole : binary ≤ multiplier * Nat.dist (digits * decimal) (significand * binary) +
      digits * Nat.dist (multiplier * decimal) (nearest * binary) := by
    zify
    rw [cast_dist, cast_dist]
    push_cast
    calc (binary : ℤ) ≤ binary * |(nearest * digits - multiplier * significand : ℤ)| :=
          le_mul_of_one_le_right (Int.natCast_nonneg _) (Int.one_le_abs apart)
      _ = |(multiplier * (digits * decimal - significand * binary) -
            digits * (multiplier * decimal - nearest * binary) : ℤ)| := by
          rw [← product, abs_mul, Nat.abs_cast]
      _ ≤ _ := by
          refine (abs_sub _ _).trans_eq ?_
          rw [abs_mul, abs_mul, Nat.abs_cast, Nat.abs_cast]
  have contradiction : binary * weight < binary * weight :=
    calc binary * weight
        ≤ (multiplier * Nat.dist (digits * decimal) (significand * binary) +
            digits * Nat.dist (multiplier * decimal) (nearest * binary)) * weight :=
          Nat.mul_le_mul_right _ whole
      _ = digits * Nat.dist (multiplier * decimal) (nearest * binary) * weight +
            multiplier * (weight * Nat.dist (digits * decimal) (significand * binary)) := by ring
      _ ≤ count * Nat.dist (multiplier * decimal) (nearest * binary) * weight +
            multiplier * (21 * binary) :=
          Nat.add_le_add (Nat.mul_le_mul_right _ (Nat.mul_le_mul_right _ few))
            (Nat.mul_le_mul_left _ near.le)
      _ < binary * weight := separated
  exact Nat.lt_irrefl _ contradiction

/-- Without a common factor, the multiplier and what is nearest to it divide the multiples. -/
theorem exists_factor_of_mul_eq_mul {nearest : Nat} (coprime : Nat.gcd nearest multiplier = 1)
    (ratio : multiplier * significand = nearest * digits) (positive : 0 < digits) :
    ∃ factor > 0, digits = multiplier * factor ∧ significand = nearest * factor := by
  obtain ⟨factor, rfl⟩ : multiplier ∣ digits :=
    (Nat.coprime_comm.mp coprime).dvd_of_dvd_mul_left ⟨significand, ratio.symm⟩
  have multiplied : 0 < multiplier := Nat.pos_of_mul_pos_right positive
  refine ⟨factor, Nat.pos_of_mul_pos_left positive, rfl, ?_⟩
  refine Nat.eq_of_mul_eq_mul_left multiplied ?_
  rw [ratio]
  ring

/-- A multiple near to an odd one is equal to it, if the precision allows that, or is excepted. -/
theorem eq_or_mem_of_separates (separated : separates decimal binary count precision except
      multiplier = true) (positive : 0 < digits) (few : digits ≤ count)
    (odd : significand % 2 = 1)
    (near : 20 * Nat.pow 2 precision * Nat.dist (digits * decimal) (significand * binary) <
      21 * binary) :
    digits * decimal = significand * binary ∧ precision = 28 ∨ digits ∈ except := by
  simp only [separates, Bool.and_eq_true, Bool.or_eq_true, Nat.blt_eq, Nat.ble_eq, beq_iff_eq,
    List.contains_iff_mem] at separated
  generalize (2 * multiplier * decimal + binary) / (2 * binary) = nearest at separated
  obtain ⟨⟨apart, coprime⟩, cases⟩ := separated
  have ratio := mul_eq_mul_of_near few apart near
  obtain ⟨factor, repeated, rfl, rfl⟩ := exists_factor_of_mul_eq_mul coprime ratio positive
  have scaled : Nat.dist (multiplier * factor * decimal) (nearest * factor * binary) =
      Nat.dist (multiplier * decimal) (nearest * binary) * factor := by
    rw [← Nat.dist_mul_right, Nat.mul_right_comm, Nat.mul_right_comm nearest]
  rw [scaled] at near
  obtain (((even | far) | long) | ⟨exact, once⟩) | ⟨member, alone⟩ := cases
  · rw [Nat.mul_mod, even, Nat.zero_mul] at odd
    cases odd
  · have larger : Nat.dist (multiplier * decimal) (nearest * binary) * (20 * Nat.pow 2 precision) ≤
        20 * Nat.pow 2 precision *
          (Nat.dist (multiplier * decimal) (nearest * binary) * factor) := by
      rw [Nat.mul_comm, ← Nat.mul_assoc]
      exact Nat.le_mul_of_pos_right _ repeated
    exact absurd near (Nat.not_lt_of_le (far.trans larger))
  · exact absurd few (Nat.not_le_of_lt (long.trans_le (Nat.le_mul_of_pos_right _ repeated)))
  · exact .inl ⟨Nat.eq_of_dist_eq_zero (by rw [scaled, exact, Nat.zero_mul]), once⟩
  · have single : factor = 1 := by
      have less : multiplier * factor < multiplier * 2 := by omega
      have small := Nat.lt_of_mul_lt_mul_left less
      omega
    rw [single, Nat.mul_one]
    exact .inr member

end Separates

/-- Multiples of this number stand for the decimals with an exponent. -/
def decimalStep (exponent : Int) : Nat := Nat.pow 10 exponent.toNat * Nat.pow 2 150

/--
Odd multiples of this number stand for the middles between single numbers, whose halves are two to
the power of `bits` halves of the smallest magnitude.
-/
def binaryStep (exponent : Int) (bits : Nat) : Nat :=
  Nat.pow 10 (-exponent).toNat * Nat.pow 2 bits

/-- Two decimals are too near to a middle for an estimate of what is lost when they are read. -/
def nearDigits (exponent : Int) : List Nat :=
  if exponent = -32 then [7038531, 14077062] else []

/-- The exceptions have no exact power of ten. -/
theorem natAbs_of_mem_nearDigits {exponent : Int} {digits : Nat}
    (member : digits ∈ nearDigits exponent) : 22 < exponent.natAbs := by
  rw [nearDigits] at member
  split at member
  · rename_i power
    rw [power]
    decide
  · cases member

/--
Up to an exponent of 22 the powers of ten are exact. Then one rounding is all that is lost in half
of the last of 53 bits, and otherwise that is lost twice.
-/
def readingPrecision (exponent : Int) : Nat := if exponent.natAbs ≤ 22 then 28 else 27

/-- Short decimals with an exponent keep away from the middles in a binade. -/
def isApart (exponent : Int) (bits : Nat) : Bool :=
  let decimal := decimalStep exponent
  let binary := binaryStep exponent bits
  let count := (Nat.pow 2 25 + 1) * binary / decimal
  Nat.blt (5 * decimal) (6 * binary) || count == 0 ||
    separates decimal binary count (readingPrecision exponent) (nearDigits exponent)
      (nearMultiplier (2 * count) 60 binary (decimal % binary) 0 1)

/-- No later binade has its middles at decimals with an exponent. -/
def lastBits (exponent : Int) : Nat :=
  Nat.log2 (decimalStep exponent / Nat.pow 10 (-exponent).toNat)

/-- Short decimals keep away from the middles in all binades of all exponents. -/
def areApart : Bool :=
  (List.range 84).all fun index => (List.range 26).all fun earlier =>
    isApart (index - 45) (lastBits (index - 45) - earlier)

/-- The multipliers for all exponents and binades are found. -/
theorem areApart_eq_true : areApart = true := by decide +kernel

section Near

variable {exponent : Int} {digits significand bits : Nat}

theorem decimalStep_pos (exponent : Int) : 0 < decimalStep exponent :=
  Nat.mul_pos (Nat.pow_pos (by decide)) (Nat.two_pow_pos _)

theorem binaryStep_pos (exponent : Int) (bits : Nat) : 0 < binaryStep exponent bits :=
  Nat.mul_pos (Nat.pow_pos (by decide)) (Nat.two_pow_pos _)

/-- A decimal near to a middle is not much greater than the middle. -/
theorem mul_decimalStep_le_of_near (small : significand < Nat.pow 2 25)
    (near : 20 * Nat.pow 2 (readingPrecision exponent) * Nat.dist (digits * decimalStep exponent)
      (significand * binaryStep exponent bits) < 21 * binaryStep exponent bits) :
    digits * decimalStep exponent ≤ (Nat.pow 2 25 + 1) * binaryStep exponent bits := by
  have weight : 21 ≤ 20 * Nat.pow 2 (readingPrecision exponent) := by
    rw [readingPrecision]
    split <;> decide
  have close := Nat.lt_of_mul_lt_mul_left
    ((Nat.mul_le_mul_right (Nat.dist (digits * decimalStep exponent)
      (significand * binaryStep exponent bits)) weight).trans_lt near)
  calc digits * decimalStep exponent
      ≤ significand * binaryStep exponent bits + binaryStep exponent bits := by
        rw [Nat.dist] at close
        omega
    _ = (significand + 1) * binaryStep exponent bits := (Nat.succ_mul _ _).symm
    _ ≤ (Nat.pow 2 25 + 1) * binaryStep exponent bits :=
        Nat.mul_le_mul_right _ (Nat.add_le_add_right small.le 1)

/-- Only the exponents that are checked occur. -/
theorem exponent_bounds (shallow : bits < 254)
    (wide : 6 * binaryStep exponent bits ≤ 5 * decimalStep exponent)
    (high : decimalStep exponent ≤ (Nat.pow 2 25 + 1) * binaryStep exponent bits) :
    -45 ≤ exponent ∧ exponent < 39 := by
  constructor
  · by_contra below
    have none : exponent.toNat = 0 := by omega
    have tens : Nat.pow 10 46 ≤ Nat.pow 10 (-exponent).toNat :=
      Nat.pow_le_pow_right (by decide) (by omega)
    have twos : 1 ≤ Nat.pow 2 bits := Nat.two_pow_pos bits
    have product := Nat.mul_le_mul tens twos
    have apart : 5 * (1 * Nat.pow 2 150) < 6 * (Nat.pow 10 46 * 1) := by decide
    rw [decimalStep, none] at wide
    exact absurd (wide.trans_lt (apart.trans_le (Nat.mul_le_mul_left 6 product))) (Nat.lt_irrefl _)
  · by_contra above
    have none : (-exponent).toNat = 0 := by omega
    have tens : Nat.pow 10 39 ≤ Nat.pow 10 exponent.toNat :=
      Nat.pow_le_pow_right (by decide) (by omega)
    have twos : Nat.pow 2 bits ≤ Nat.pow 2 253 :=
      Nat.pow_le_pow_right (by decide) (Nat.le_of_lt_succ shallow)
    have apart : (Nat.pow 2 25 + 1) * (1 * Nat.pow 2 253) < Nat.pow 10 39 * Nat.pow 2 150 := by
      decide
    rw [binaryStep, none] at high
    have upper := high.trans (Nat.mul_le_mul_left _ (Nat.mul_le_mul_left 1 twos))
    exact absurd ((Nat.mul_le_mul_right _ tens).trans upper) (Nat.not_le_of_lt apart)

/-- Only the binades that are checked occur. -/
theorem bits_bounds (wide : 6 * binaryStep exponent bits ≤ 5 * decimalStep exponent)
    (high : decimalStep exponent ≤ (Nat.pow 2 25 + 1) * binaryStep exponent bits) :
    bits ≤ lastBits exponent ∧ lastBits exponent < bits + 26 := by
  have positive : 0 < Nat.pow 10 (-exponent).toNat := Nat.pow_pos (by decide)
  have low : Nat.pow 2 bits ≤ decimalStep exponent / Nat.pow 10 (-exponent).toNat := by
    rw [Nat.le_div_iff_mul_le positive, Nat.mul_comm]
    change binaryStep exponent bits ≤ decimalStep exponent
    omega
  have nonzero : decimalStep exponent / Nat.pow 10 (-exponent).toNat ≠ 0 :=
    Nat.ne_of_gt ((Nat.two_pow_pos bits).trans_le low)
  have less : decimalStep exponent / Nat.pow 10 (-exponent).toNat < Nat.pow 2 (bits + 26) := by
    rw [Nat.div_lt_iff_lt_mul positive]
    calc decimalStep exponent ≤ (Nat.pow 2 25 + 1) * binaryStep exponent bits := high
      _ < Nat.pow 2 26 * binaryStep exponent bits :=
          Nat.mul_lt_mul_of_pos_right (by decide) (binaryStep_pos exponent bits)
      _ = Nat.pow 2 (bits + 26) * Nat.pow 10 (-exponent).toNat := by
          have split : Nat.pow 2 (bits + 26) = Nat.pow 2 bits * Nat.pow 2 26 :=
            Nat.pow_add 2 bits 26
          rw [binaryStep, split]
          ring
  exact ⟨(Nat.le_log2 nonzero).mpr low, (Nat.log2_lt nonzero).mpr less⟩

/--
A short decimal near to a middle is equal to it and has an exact power of ten, or it is one of the
two exceptions.
-/
theorem eq_or_mem_of_near (positive : 0 < digits) (odd : significand % 2 = 1)
    (small : significand < Nat.pow 2 25) (shallow : bits < 254)
    (wide : 6 * binaryStep exponent bits ≤ 5 * decimalStep exponent)
    (near : 20 * Nat.pow 2 (readingPrecision exponent) * Nat.dist (digits * decimalStep exponent)
      (significand * binaryStep exponent bits) < 21 * binaryStep exponent bits) :
    digits * decimalStep exponent = significand * binaryStep exponent bits ∧
        exponent.natAbs ≤ 22 ∨
      digits ∈ nearDigits exponent := by
  have bound := mul_decimalStep_le_of_near small near
  have high := (Nat.le_mul_of_pos_left (decimalStep exponent) positive).trans bound
  have few := (Nat.le_div_iff_mul_le (decimalStep_pos exponent)).mpr bound
  obtain ⟨least, greatest⟩ := exponent_bounds shallow wide high
  obtain ⟨first, last⟩ := bits_bounds wide high
  have apart : isApart exponent bits = true := by
    have exponents := List.all_eq_true.mp areApart_eq_true (exponent + 45).toNat
      (List.mem_range.mpr (by omega))
    have binades := List.all_eq_true.mp exponents (lastBits exponent - bits)
      (List.mem_range.mpr (by omega))
    have index : ((exponent + 45).toNat - 45 : Int) = exponent := by omega
    rw [index, Nat.sub_sub_self first] at binades
    exact binades
  simp only [isApart, Bool.or_eq_true, Nat.blt_eq, beq_iff_eq] at apart
  obtain (narrow | empty) | separated := apart
  · exact absurd wide (Nat.not_le_of_lt narrow)
  · exact absurd (positive.trans_le few) (empty ▸ Nat.lt_irrefl 0)
  · obtain ⟨same, once⟩ | member := eq_or_mem_of_separates separated positive few odd near
    · refine .inl ⟨same, ?_⟩
      by_contra beyond
      rw [readingPrecision, if_neg beyond] at once
      cases once
    · exact .inr member

end Near

end FieldQuery.Number
