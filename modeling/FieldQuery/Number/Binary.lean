/-
This file defines binary floating-point numbers as a sign and a rank among magnitudes.
-/

namespace FieldQuery.Number

/-- This structure contains the widths of the two fields that make up a magnitude. -/
structure Format where
  exponentBits : Nat
  fractionBits : Nat
deriving DecidableEq

namespace Format

/-- Boosts have eight exponent bits and twenty-three fraction bits. -/
def single : Format := ⟨8, 23⟩

/-- Constants have eleven exponent bits and fifty-two fraction bits. -/
def double : Format := ⟨11, 52⟩

/-- The ranks below this number are the ranks of a format. -/
def ranks (format : Format) : Nat :=
  Nat.pow 2 (format.exponentBits + format.fractionBits)

/-- This rank is the first one above every finite magnitude. -/
def infinity (format : Format) : Nat :=
  (Nat.pow 2 format.exponentBits - 1) * Nat.pow 2 format.fractionBits

/-- This rank is the magnitude one. -/
def unity (format : Format) : Nat :=
  (Nat.pow 2 (format.exponentBits - 1) - 1) * Nat.pow 2 format.fractionBits

/-- The smallest positive magnitude is two to the power of minus this number. -/
def scaleBits (format : Format) : Nat :=
  Nat.pow 2 (format.exponentBits - 1) + format.fractionBits - 2

/-- The magnitude one consists of this many smallest positive magnitudes. -/
def scale (format : Format) : Nat :=
  Nat.pow 2 format.scaleBits

/-- The magnitude of a rank consists of this many smallest positive magnitudes. -/
def units (format : Format) (rank : Nat) : Nat :=
  let binade := Nat.pow 2 format.fractionBits
  if rank < binade then rank
  else (binade + rank % binade) * Nat.pow 2 (rank / binade - 1)

/-- The rank of infinity is a rank. -/
theorem infinity_lt_ranks (format : Format) : format.infinity < format.ranks := by
  have positive : 0 < Nat.pow 2 format.fractionBits := Nat.two_pow_pos _
  have wide : Nat.pow 2 format.exponentBits - 1 < Nat.pow 2 format.exponentBits :=
    Nat.sub_lt (Nat.two_pow_pos _) Nat.one_pos
  have sum : format.ranks = Nat.pow 2 format.exponentBits * Nat.pow 2 format.fractionBits :=
    Nat.pow_add 2 format.exponentBits format.fractionBits
  rw [sum, infinity]
  exact Nat.mul_lt_mul_of_pos_right wide positive

end Format

/-- This structure contains a number of a format; ranks above infinity are not numbers. -/
structure Binary (format : Format) where
  negative : Bool
  rank : Fin format.ranks
deriving DecidableEq

namespace Binary

variable {format : Format}

/-- A rank above every finite magnitude becomes infinity. -/
def ofRank (negative : Bool) (rank : Nat) : Binary format :=
  ⟨negative, ⟨min rank format.infinity,
    Nat.lt_of_le_of_lt (Nat.min_le_right _ _) format.infinity_lt_ranks⟩⟩

def one : Binary format := ofRank false format.unity

def infinite (negative : Bool) : Binary format := ofRank negative format.infinity

/-- This value is the last rank, which is not a number. -/
def notANumber : Binary format :=
  ⟨false, ⟨format.ranks - 1, Nat.sub_lt (Nat.two_pow_pos _) Nat.one_pos⟩⟩

/-- A value above infinity is not a number. -/
def isNotANumber (number : Binary format) : Bool :=
  decide (format.infinity < number.rank.val)

def isFinite (number : Binary format) : Bool :=
  decide (number.rank.val < format.infinity)

def isZero (number : Binary format) : Bool :=
  number.rank.val == 0

/-- Numbers are equal when they are the same or both zero; what is not a number equals nothing. -/
def equals (left right : Binary format) : Bool :=
  !left.isNotANumber && (decide (left = right) || left.isZero && right.isZero)

end Binary

/-- Double numbers hold the values of constants. -/
abbrev Double := Binary Format.double

/-- Single numbers hold boosts. -/
abbrev Single := Binary Format.single

end FieldQuery.Number
