/-
This file proves how a text is collated with its own lowercase.
-/
import FieldQuery.Proofs.Text.CaseShift

namespace FieldQuery.Text

/-- This text has the lowercase of each character by itself. -/
def lowercaseEach (text : String) : String :=
  String.ofList (text.toList.flatMap lowercaseChar)

/-- The lowercase of each character by itself does not change when it is taken again. -/
theorem flatMap_lowercaseChar_flatMap (characters : List Char) :
    (characters.flatMap lowercaseChar).flatMap lowercaseChar =
      characters.flatMap lowercaseChar := by
  rw [List.flatMap_assoc]
  apply List.flatMap_congr
  intro character _
  rw [List.flatMap_congr fun lower member => lowercaseChar_of_mem_lowercaseChar member,
    List.flatMap_singleton']

/-- A text and its lowercase have one folded form. -/
theorem foldedCodes_lowercaseEach (text : String) :
    foldedCodes (lowercaseEach text) = foldedCodes text := by
  rw [foldedCodes_eq_iff, lowercaseEach, String.toList_ofList, flatMap_lowercaseChar_flatMap]

/-- This is the first character of a text that has another lowercase. -/
def firstCased? (characters : List Char) : Option Char :=
  characters.find? fun character => decide (lowercaseChar character ≠ [character])

/-- A text and its lowercase are told apart by the first character that has another one. -/
theorem compare_caseWeights_flatMap (characters : List Char) :
    compare ((characters.flatMap lowercaseChar).map caseWeight) (characters.map caseWeight) =
      match firstCased? characters with
      | none => .eq
      | some first => if first ∈ titlecaseDigraphs then .gt else .lt := by
  induction characters with
  | nil => rfl
  | cons character rest inductionHypothesis =>
      rw [List.flatMap_cons, firstCased?, List.find?_cons]
      by_cases same : lowercaseChar character = [character]
      · -- The characters in front of the first one with another lowercase stay where they are.
        simp only [same, ne_eq, not_true_eq_false, decide_false]
        rw [List.singleton_append, List.map_cons, List.map_cons, List.compare_cons_cons,
          inductionHypothesis, Std.compare_self]
        rfl
      · simp only [same, ne_eq, not_false_eq_true, decide_true]
        by_cases digraph : character ∈ titlecaseDigraphs
        · obtain ⟨lower, single, less⟩ := caseWeight_lt_of_mem_titlecaseDigraphs digraph
          rw [if_pos digraph, single, List.singleton_append, List.map_cons, List.map_cons,
            List.compare_cons_cons, Nat.compare_eq_gt.mpr less]
          rfl
        · obtain ⟨first, others, start, less⟩ := exists_caseWeight_lt same digraph
          rw [if_neg digraph, start, List.cons_append, List.map_cons, List.map_cons,
            List.compare_cons_cons, Nat.compare_eq_lt.mpr less]
          rfl

/--
The lowercase of a text is collated before the text, unless they are equal, or the first character
with another lowercase is one of four digraphs: the capital and the small letter that it is made of
do not make it an uppercase character, and its own code is less than that of its lowercase.
-/
theorem collate_lowercaseEach (text : String) :
    (collate (lowercaseEach text) text = .eq ↔ lowercaseEach text = text) ∧
    collate (lowercaseEach text) text =
      match firstCased? text.toList with
      | none => .eq
      | some first => if first ∈ titlecaseDigraphs then .gt else .lt := by
  refine ⟨Std.LawfulEqCmp.compare_eq_iff_eq, ?_⟩
  rw [collate, foldedCodes_lowercaseEach, Std.compare_self, Ordering.eq_then, caseWeights,
    lowercaseEach, String.toList_ofList]
  exact compare_caseWeights_flatMap text.toList

/-- The small form of a digraph is collated behind the digraph that is capital in part. -/
theorem collate_lowercaseEach_digraph :
    lowercaseEach "\u01C5" = "\u01C6" ∧ collate "\u01C6" "\u01C5" = .gt := by
  have lowered : lowercaseEach "\u01C5" = "\u01C6" := by decide
  have decided := (collate_lowercaseEach "\u01C5").2
  rw [lowered] at decided
  exact ⟨lowered, decided.trans (by decide)⟩

end FieldQuery.Text
