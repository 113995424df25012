/-
This file proves that the collation of texts is a linear order, in both directions, and that it
keeps the case variants of a text together.
-/
import FieldQuery.SortOrder
import Mathlib.Data.List.Basic

namespace FieldQuery

namespace Text

/-- The code points of the folded form tell the characters of the lowercase apart. -/
theorem foldedCodes_eq_iff (left right : String) :
    foldedCodes left = foldedCodes right ↔
      left.toList.flatMap lowercaseChar = right.toList.flatMap lowercaseChar :=
  (List.map_injective_iff.mpr fun _ _ => Char.toNat_inj.mp).eq_iff

/-- Every code point lies below the weights of uppercase characters. -/
theorem toNat_lt_caseWeight_bound (character : Char) : character.toNat < 0x110000 := by
  have valid : character.toNat.isValidChar := character.valid
  unfold Nat.isValidChar at valid
  omega

/-- Characters are told apart by their case weights. -/
theorem caseWeight_injective : Function.Injective caseWeight := by
  intro left right same
  have leftBound := toNat_lt_caseWeight_bound left
  have rightBound := toNat_lt_caseWeight_bound right
  unfold caseWeight at same
  apply Char.toNat_inj.mp
  split at same <;> split at same <;> omega

/-- Texts are told apart by their case forms. -/
theorem caseWeights_injective : Function.Injective caseWeights := by
  intro left right same
  exact String.toList_inj.mp (List.map_injective_iff.mpr caseWeight_injective same)

instance : Std.TransCmp collate :=
  inferInstanceAs (Std.TransCmp (compareLex (compareOn foldedCodes) (compareOn caseWeights)))

instance : Std.LawfulEqCmp collate where
  compare_self := Std.ReflCmp.compare_self
  eq_of_compare same :=
    caseWeights_injective (Std.LawfulEqOrd.eq_of_compare (Ordering.then_eq_eq.mp same).2)

/-- The folded forms of collated texts stand in the order of the texts. -/
theorem isLE_compare_foldedCodes {left right : String} (ordered : (collate left right).isLE) :
    (compare (foldedCodes left) (foldedCodes right)).isLE := by
  obtain less | ⟨equal, _⟩ := Ordering.isLE_then_iff_or.mp ordered
  · rw [less]
    rfl
  · rw [equal]
    rfl

/-- A text between two others with one lowercase of all characters has this lowercase, too. -/
theorem lowercase_eq_of_between {first second third : String}
    (least : (collate first second).isLE) (greatest : (collate second third).isLE)
    (same : first.toList.flatMap lowercaseChar = third.toList.flatMap lowercaseChar) :
    second.toList.flatMap lowercaseChar = first.toList.flatMap lowercaseChar := by
  rw [← foldedCodes_eq_iff] at same ⊢
  have above := isLE_compare_foldedCodes greatest
  rw [← same] at above
  have equal := Std.OrientedCmp.isLE_antisymm above (isLE_compare_foldedCodes least)
  exact Std.LawfulEqOrd.eq_of_compare equal

/--
A comparison of texts is a collation when it is a linear order in which no other text stands between
two case variants of one text.
-/
structure IsCollation (order : String → String → Ordering) : Prop where
  opposite : ∀ first second, order first second = (order second first).swap
  eq_iff : ∀ first second, order first second = .eq ↔ first = second
  trans : ∀ first second third, (order first second).isLE → (order second third).isLE →
    (order first third).isLE
  variants : ∀ first second third, (order first second).isLE → (order second third).isLE →
    first.toList.flatMap lowercaseChar = third.toList.flatMap lowercaseChar →
    second.toList.flatMap lowercaseChar = first.toList.flatMap lowercaseChar

/-- The reverse of a collation is a collation. -/
theorem IsCollation.reverse {order : String → String → Ordering} (collation : IsCollation order) :
    IsCollation fun first second => (order first second).swap where
  opposite first second := congrArg Ordering.swap (collation.opposite first second)
  eq_iff first second := Ordering.swap_eq_eq.trans (collation.eq_iff first second)
  trans first second third least greatest := by
    rw [← collation.opposite] at least greatest ⊢
    exact collation.trans third second first greatest least
  variants first second third least greatest same := by
    rw [← collation.opposite] at least greatest
    exact (collation.variants third second first greatest least same.symm).trans same.symm

end Text

/-- Texts are collated in a linear order, and so are the values of a field in either direction. -/
theorem SortKey.isCollation_compare :
    Text.IsCollation Text.collate ∧ ∀ key : SortKey, Text.IsCollation key.compare := by
  have collation : Text.IsCollation Text.collate := by
    refine ⟨?_, ?_, ?_, ?_⟩
    · exact fun _ _ => Std.OrientedCmp.eq_swap
    · exact fun _ _ => Std.LawfulEqCmp.compare_eq_iff_eq
    · exact fun _ _ _ => Std.TransCmp.isLE_trans
    · exact fun _ _ _ => Text.lowercase_eq_of_between
  refine ⟨collation, fun key => ?_⟩
  obtain ⟨field, reversed⟩ := key
  cases reversed with
  | false => exact collation
  | true => exact collation.reverse

end FieldQuery
