/-
This file proves that the lowercase neither leaves nor enters the blank and the reserved characters.
-/
import FieldQuery.Proofs.Text.Escape
import FieldQuery.Proofs.Text.Lowercase
import Mathlib.Data.List.Basic

namespace FieldQuery.Text

/-- Two ranges are apart when one of them ends before the other one begins. -/
def CodeRange.Apart (left right : CodeRange) : Prop :=
  left.last < right.first ∨ right.last < left.first
deriving Decidable

/-- Two sets are apart when all their ranges are. -/
def CharacterSet.Apart (left right : CharacterSet) : Prop :=
  ∀ range ∈ left, ∀ other ∈ right, range.Apart other
deriving Decidable

/-- No code point lies in two ranges that are apart. -/
theorem CodeRange.Apart.not_contains {left right : CodeRange} (apart : left.Apart right)
    {code : Nat} (found : left.contains code = true) (least : right.first ≤ code)
    (greatest : code ≤ right.last) : False := by
  simp only [CodeRange.contains, Bool.and_eq_true, decide_eq_true_eq] at found
  rcases apart with before | after
  · omega
  · omega

theorem CharacterSet.exists_of_contains {set : CharacterSet} {character : Char}
    (found : set.contains character = true) :
    ∃ range ∈ set, range.contains character.toNat = true :=
  List.any_eq_true.mp found

theorem CodeRange.bounds_of_contains {range : CodeRange} {code : Nat}
    (found : range.contains code = true) : range.first ≤ code ∧ code ≤ range.last := by
  simp only [CodeRange.contains, Bool.and_eq_true, decide_eq_true_eq] at found
  exact found.1

/-- No character belongs to two sets that are apart. -/
theorem CharacterSet.Apart.contains_eq_false {left right : CharacterSet} (apart : left.Apart right)
    {character : Char} (found : left.contains character = true) :
    right.contains character = false := by
  by_contra other
  obtain ⟨range, member, inRange⟩ := exists_of_contains found
  obtain ⟨second, alsoMember, inSecond⟩ := exists_of_contains (Bool.not_eq_false _ ▸ other)
  obtain ⟨least, greatest⟩ := CodeRange.bounds_of_contains inSecond
  exact (apart range member second alsoMember).not_contains inRange least greatest

/-- The image of a shift has the lowercase of each character of its range. -/
def CaseShift.image (shift : CaseShift) : CodeRange :=
  ⟨(shift.range.first + shift.distance).toNat, (shift.range.last + shift.distance).toNat,
    shift.range.step⟩

/-- These characters occur in lowercases that no shift explains. -/
def exceptionalChars : List Char := ['\x00', 'İ', 'i', '\u0307', 'Σ', 'σ', 'ς']

/-- A set is caseless when no shift starts from it or leads into it, and no exception does. -/
def CharacterSet.IsCaseless (set : CharacterSet) : Prop :=
  (∀ range ∈ set, ∀ shift ∈ lowercaseShifts, range.Apart shift.range ∧ range.Apart shift.image) ∧
    ∀ character ∈ exceptionalChars, set.contains character = false

-- The second instance is named since the search is to run over the list, not over all characters.
instance (set : CharacterSet) : Decidable set.IsCaseless :=
  @instDecidableAnd _ _ inferInstance (List.decidableBAll _ _)

section

variable {set : CharacterSet} {character : Char}

/-- A character of a caseless set is its own lowercase. -/
theorem CharacterSet.IsCaseless.lowercaseChar_eq (caseless : set.IsCaseless)
    (found : set.contains character = true) : lowercaseChar character = [character] := by
  obtain ⟨apart, special⟩ := caseless
  have other : character ≠ 'İ' := by
    rintro rfl
    have absent := special 'İ' (by decide)
    rw [absent] at found
    exact Bool.false_ne_true found
  have unshifted : lowercaseShifts.find? (fun shift => shift.range.contains character.toNat) =
      none := by
    rw [List.find?_eq_none]
    intro shift member inShift
    obtain ⟨range, inSet, inRange⟩ := exists_of_contains found
    obtain ⟨least, greatest⟩ := CodeRange.bounds_of_contains inShift
    exact (apart range inSet shift member).1.not_contains inRange least greatest
  rw [lowercaseChar, if_neg other, unshifted]

/-- A code point that a character can have is that of its character, and all others give null. -/
theorem toNat_ofNat_or_null (code : Nat) :
    (Char.ofNat code).toNat = code ∨ Char.ofNat code = '\x00' := by
  by_cases valid : code.isValidChar
  · left
    rw [Char.ofNat, dif_pos valid]
    rfl
  · right
    rw [Char.ofNat, dif_neg valid]
    rfl

/-- A shift takes a character of its range into its image, or to the null character. -/
theorem CaseShift.bounds_of_contains {shift : CaseShift}
    (found : shift.range.contains character.toNat = true) :
    let lower := Char.ofNat (character.toNat + shift.distance).toNat
    lower = '\x00' ∨ shift.image.first ≤ lower.toNat ∧ lower.toNat ≤ shift.image.last := by
  intro lower
  obtain ⟨least, greatest⟩ := CodeRange.bounds_of_contains found
  rcases toNat_ofNat_or_null (character.toNat + shift.distance).toNat with code | null
  · right
    change (Char.ofNat _).toNat = _ at code
    simp only [lower, code, CaseShift.image]
    omega
  · exact .inl null

/-- The lowercase of a character outside a caseless set stays outside. -/
theorem CharacterSet.IsCaseless.contains_of_mem_lowercaseChar (caseless : set.IsCaseless)
    (outside : set.contains character = false) :
    ∀ lower ∈ lowercaseChar character, set.contains lower = false := by
  obtain ⟨apart, special⟩ := caseless
  intro lower member
  unfold lowercaseChar at member
  split at member
  · rcases List.mem_pair.mp member with rfl | rfl
    · exact special _ (by decide)
    · exact special _ (by decide)
  · split at member
    · rename_i shift found
      obtain rfl := List.mem_singleton.mp member
      have inShift := List.find?_some found
      by_contra inside
      obtain ⟨range, inSet, inRange⟩ := exists_of_contains (Bool.not_eq_false _ ▸ inside)
      rcases CaseShift.bounds_of_contains inShift with null | ⟨least, greatest⟩
      · exact inside (null ▸ special '\x00' (by decide))
      · exact (apart range inSet shift (List.mem_of_find?_eq_some found)).2.not_contains inRange
          least greatest
    · obtain rfl := List.mem_singleton.mp member
      exact outside

/-- In its place in a text, a character of a caseless set is its own lowercase. -/
theorem CharacterSet.IsCaseless.lowercaseIn_eq (caseless : set.IsCaseless)
    (found : set.contains character = true) (before : Bool) (rest : List Char) :
    lowercaseIn before character rest = [character] := by
  have other : character ≠ 'Σ' := by
    rintro rfl
    have absent := caseless.2 'Σ' (by decide)
    rw [absent] at found
    exact Bool.false_ne_true found
  rw [lowercaseIn, if_neg other]
  exact caseless.lowercaseChar_eq found

/-- In its place in a text, a character outside a caseless set stays outside. -/
theorem CharacterSet.IsCaseless.contains_of_mem_lowercaseIn (caseless : set.IsCaseless)
    (outside : set.contains character = false) (before : Bool) (rest : List Char) :
    ∀ lower ∈ lowercaseIn before character rest, set.contains lower = false := by
  intro lower member
  unfold lowercaseIn at member
  split at member
  · split at member
    · obtain rfl := List.mem_singleton.mp member
      exact caseless.2 _ (by decide)
    · obtain rfl := List.mem_singleton.mp member
      exact caseless.2 _ (by decide)
  · exact caseless.contains_of_mem_lowercaseChar outside lower member

theorem CharacterSet.IsCaseless.lowercase_eq (caseless : set.IsCaseless) {text : String}
    (within : ∀ character ∈ text.toList, set.contains character = true) : lowercase text = text := by
  have settled : ∀ character ∈ text.toList, IsSettled character :=
    fun character member => caseless.lowercaseIn_eq (within character member)
  rw [lowercase, lowercaseChars, lowercaseFrom_of_settled settled, String.ofList_toList]

end

set_option maxRecDepth 1000 in
theorem isCaseless_blanks : blanks.IsCaseless := by decide

/-- The reserved characters as ranges of one code point each. -/
def reservedSet : CharacterSet :=
  reserved.map fun character => ⟨character.toNat, character.toNat, 1⟩

set_option maxRecDepth 1000 in
theorem isCaseless_reservedSet : reservedSet.IsCaseless := by decide

/-- The ranges contain exactly the reserved characters. -/
theorem contains_reservedSet_iff (character : Char) :
    reservedSet.contains character = true ↔ character ∈ reserved := by
  rw [CharacterSet.contains, reservedSet, List.any_map, List.any_eq_true]
  constructor
  · rintro ⟨other, member, found⟩
    obtain ⟨least, greatest⟩ := CodeRange.bounds_of_contains found
    have same : character = other := Char.toNat_inj.mp (Nat.le_antisymm greatest least)
    exact same ▸ member
  · intro member
    exact ⟨character, member, by simp [CodeRange.contains]⟩

end FieldQuery.Text
