/-
This file says when constants and predicates are equal and how the words of equal constants differ.
-/
import FieldQuery.Proofs.Expression.FoldCase
import Mathlib.Data.List.Forall2

namespace FieldQuery

namespace Number.Binary

/-- Equal numbers are the same number or two zeros. -/
theorem eq_or_isZero_of_equals {format : Format} {left right : Binary format}
    (equal : left.equals right = true) :
    left = right ∨ left.isZero = true ∧ right.isZero = true := by
  simp only [equals, Bool.and_eq_true, Bool.or_eq_true, decide_eq_true_eq] at equal
  exact equal.2

/-- A zero is written with its sign. -/
theorem text_of_isZero {number : Double} (zero : number.isZero = true) :
    number.text = if number.negative then "-0" else "0" := by
  obtain ⟨negative, rank, bound⟩ := number
  obtain rfl : rank = 0 := by simpa [isZero] using zero
  cases negative
  · exact (by decide : (ofRank false 0 : Double).text = "0")
  · exact (by decide : (ofRank true 0 : Double).text = "-0")

end Number.Binary

namespace Text

/-- A comma with a space ends a word, and the comma belongs to it. -/
theorem words_append_comma (left right : String) :
    words (left ++ (", " ++ right)) = words (left ++ ",") ++ words right := by
  have ends : ", " = "," ++ " " := rfl
  rw [← isGap_space.words_append, ends]
  simp only [String.append_assoc]

/-- What stands behind a comma with a space does not change the first word. -/
theorem take_one_words_append_comma (left right : String) :
    (words (left ++ (", " ++ right))).take 1 = (words (left ++ ",")).take 1 := by
  have some : words (left ++ ",") ≠ [] :=
    (words_ne_nil_iff _).mpr ⟨',', by simp, by decide⟩
  rw [words_append_comma, List.take_append_of_le_length (List.length_pos_iff.mpr some)]

/-- A negative zero loses its sign, also in front of the comma of a collection. -/
def unsignedZero (word : String) : String :=
  if word = "-0" then "0" else if word = "-0," then "0," else word

/-- Words that differ in the sign of a zero only are the same or spell two zeros. -/
theorem eq_or_mem_of_unsignedZero_eq {word other : String}
    (same : unsignedZero word = unsignedZero other) :
    word = other ∨ (word, other) ∈ [("0", "-0"), ("-0", "0"), ("0,", "-0,"), ("-0,", "0,")] := by
  unfold unsignedZero at same
  grind

/-- Texts are told apart by the signs of zeros only when this holds, also before a comma. -/
def SameButZeros (left right : String) : Prop :=
  ∀ tail ∈ ["", ","], (words (left ++ tail)).map unsignedZero =
    (words (right ++ tail)).map unsignedZero

theorem sameButZeros_zero (negative other : Bool) :
    SameButZeros (if negative then "-0" else "0") (if other then "-0" else "0") := by
  unfold SameButZeros
  revert negative other
  decide

/-- Joined texts differ in the signs of zeros only when the single ones do. -/
theorem sameButZeros_intercalate {lefts rights : List String}
    (members : List.Forall₂ SameButZeros lefts rights) :
    SameButZeros (", ".intercalate lefts) (", ".intercalate rights) := by
  induction members with
  | nil => exact fun _ _ => rfl
  | cons first following inductionHypothesis =>
      cases following with
      | nil => simpa using first
      | cons second later =>
          intro tail ends
          rw [String.intercalate_cons_cons, String.intercalate_cons_cons]
          simp only [String.append_assoc, words_append_comma, List.map_append,
            first "," (by simp), inductionHypothesis tail ends]

end Text

namespace Constant

/-- Lists of constants are equal when their members are, one by one. -/
theorem equalLists_iff {lefts rights : List Constant} :
    equalLists lefts rights = true ↔
      List.Forall₂ (·.equals · = true) lefts rights := by
  induction lefts generalizing rights with
  | nil => cases rights <;> simp [equalLists]
  | cons left others inductionHypothesis =>
      cases rights with
      | nil => simp [equalLists]
      | cons right rest => simp [equalLists, inductionHypothesis]

theorem equals_collection_iff {lefts : List Constant} {other : Constant} :
    (Constant.collection lefts).equals other = true ↔ ∃ rights, other = .collection rights ∧
      List.Forall₂ (·.equals · = true) lefts rights := by
  cases other <;> simp [equals, equalLists_iff]

/-- Whatever equals a collection is a collection. -/
theorem exists_collection_of_equals {left : Constant} {rights : List Constant}
    (equal : left.equals (.collection rights) = true) : ∃ lefts, left = .collection lefts := by
  cases left with
  | collection lefts => exact ⟨lefts, rfl⟩
  | _ => simp [equals] at equal

/-- The displays of equal constants differ in the signs of zeros only. -/
theorem sameButZeros_display {left right : Constant} (equal : left.equals right = true) :
    Text.SameButZeros left.display right.display := by
  induction left using inductionOnMembers generalizing right with
  | float value =>
      cases right with
      | float other =>
          obtain rfl | ⟨zero, alsoZero⟩ := Number.Binary.eq_or_isZero_of_equals equal
          · exact fun _ _ => rfl
          · rw [display, display, Number.Binary.text_of_isZero zero,
              Number.Binary.text_of_isZero alsoZero]
            exact Text.sameButZeros_zero value.negative other.negative
      | _ => simp [equals] at equal
  | collection values inductionHypothesis =>
      obtain ⟨others, rfl, members⟩ := equals_collection_iff.mp equal
      rw [display, display, displays_eq_map, displays_eq_map]
      refine Text.sameButZeros_intercalate ?_
      rw [List.forall₂_map_left_iff, List.forall₂_map_right_iff]
      refine (List.forall₂_and_left _ _ |>.mpr ⟨inductionHypothesis, members⟩).imp ?_
      exact fun value other both => both.1 both.2
  | text value => cases right <;> simp_all [equals, Text.SameButZeros]
  | integer value => cases right <;> simp_all [equals, Text.SameButZeros]
  | boolean value => cases right <;> simp_all [equals, Text.SameButZeros]
  | date value => cases right <;> simp_all [equals, Text.SameButZeros]

/-- Equal constants have the same words up to the signs of zeros. -/
theorem map_unsignedZero_words {left right : Constant} (equal : left.equals right = true) :
    (Text.words left.display).map Text.unsignedZero =
      (Text.words right.display).map Text.unsignedZero := by
  have same := sameButZeros_display equal "" (by simp)
  rwa [String.append_empty, String.append_empty] at same

/-- Equal constants hold equally many floats. -/
theorem length_floats_of_equals {left right : Constant} (equal : left.equals right = true) :
    left.floats.length = right.floats.length := by
  induction left using inductionOnMembers generalizing right with
  | collection values inductionHypothesis =>
      obtain ⟨others, rfl, members⟩ := equals_collection_iff.mp equal
      clear equal
      rw [floats, floats]
      induction members with
      | nil => rfl
      | cons first _ listHypothesis =>
          obtain ⟨head, tail⟩ := List.forall_mem_cons.mp inductionHypothesis
          rw [floatsOf, floatsOf, List.length_append, List.length_append, head first,
            listHypothesis tail]
  | _ => cases right <;> simp_all [equals, floats]

/-- Equal constants that hold the same floats are the same. -/
theorem eq_of_equals_of_floats {left right : Constant} (equal : left.equals right = true)
    (same : left.floats = right.floats) : left = right := by
  induction left using inductionOnMembers generalizing right with
  | collection values inductionHypothesis =>
      obtain ⟨others, rfl, members⟩ := equals_collection_iff.mp equal
      clear equal
      rw [floats, floats] at same
      congr 1
      induction members with
      | nil => rfl
      | cons first _ listHypothesis =>
          obtain ⟨head, tail⟩ := List.forall_mem_cons.mp inductionHypothesis
          rw [floatsOf, floatsOf] at same
          obtain ⟨own, rest⟩ := List.append_inj same (length_floats_of_equals first)
          rw [head first own, listHypothesis tail rest]
  | _ => cases right <;> simp_all [equals, floats]

mutual

/-- A float may stand in front of the display of a constant. -/
def leadingFloats : Constant → List Number.Double
  | .float value => [value]
  | .collection values => leadingFloatsOf values
  | _ => []

/-- Only the first value of a collection stands in front. -/
def leadingFloatsOf : List Constant → List Number.Double
  | [] => []
  | first :: _ => leadingFloats first

end

/-- Equal constants with the same float in front have the same first word, also before a comma. -/
theorem take_one_words_of_equals {left right : Constant} (equal : left.equals right = true)
    (same : left.leadingFloats = right.leadingFloats) {tail : String} (ends : tail ∈ ["", ","]) :
    (Text.words (left.display ++ tail)).take 1 = (Text.words (right.display ++ tail)).take 1 := by
  induction left using inductionOnMembers generalizing right tail with
  | collection values inductionHypothesis =>
      obtain ⟨others, rfl, members⟩ := equals_collection_iff.mp equal
      rw [display, display, displays_eq_map, displays_eq_map]
      cases members with
      | nil => rfl
      | cons first following =>
          obtain ⟨head, _⟩ := List.forall_mem_cons.mp inductionHypothesis
          cases following with
          | nil => simpa using head first same ends
          | cons second later =>
              simp only [List.map_cons, String.intercalate_cons_cons, String.append_assoc,
                Text.take_one_words_append_comma]
              exact head first same (by simp)
  | _ => cases right <;> simp_all [equals, leadingFloats]

end Constant

namespace Expression

/-- Lists of predicates are equal when their members are, one by one. -/
theorem equalLists_iff {lefts rights : List Expression} :
    equalLists lefts rights = true ↔
      List.Forall₂ (·.equals · = true) lefts rights := by
  induction lefts generalizing rights with
  | nil => cases rights <;> simp [equalLists]
  | cons left others inductionHypothesis =>
      cases rights with
      | nil => simp [equalLists]
      | cons right rest => simp [equalLists, inductionHypothesis]

theorem equals_path_iff {name : String} {other : Expression} :
    (Expression.path name).equals other = true ↔ other = .path name := by
  cases other with
  | path found => simpa [equals] using eq_comm
  | _ => simp [equals]

theorem equals_constant_iff {value : Constant} {other : Expression} :
    (Expression.constant value).equals other = true ↔
      ∃ found, other = .constant found ∧ value.equals found = true := by
  cases other <;> simp [equals]

/-- Operations with the same operator and equal arguments equal an operation. -/
theorem equals_operation_iff {operator : Operator} {lefts : List Expression} {other : Expression} :
    (Expression.operation operator lefts).equals other = true ↔
      ∃ rights, other = .operation operator rights ∧
        List.Forall₂ (·.equals · = true) lefts rights := by
  cases other with
  | operation found rights => simp [equals, equalLists_iff, @eq_comm _ operator]
  | path name => simp [equals]
  | constant value => simp [equals]

end Expression

end FieldQuery
