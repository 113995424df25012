/-
This file proves which laws the words of a text follow, and that no other way to split texts follows
them.
-/
import FieldQuery.Proofs.Text.Words
import Mathlib.Data.List.Basic

namespace FieldQuery.Text

/-- Closing a scan keeps all of its characters. -/
theorem WordScan.flatten_close (scan : WordScan) :
    scan.close.flatten = scan.word ++ scan.later.flatten := by
  obtain ⟨current, later⟩ := scan
  cases current with
  | nil => rfl
  | cons first rest => rfl

/-- The words of a text have all of its visible characters in order. -/
theorem flatten_splitWords (characters : List Char) :
    (splitWords characters).flatten = characters.filter fun character => !isBlank character := by
  induction characters with
  | nil => rfl
  | cons character rest inductionHypothesis =>
      by_cases blank : isBlank character = true
      · rw [splitWords_cons_of_isBlank rest blank, inductionHypothesis,
          List.filter_cons_of_neg (by simp [blank])]
      · have visible : isBlank character = false := by simpa using blank
        rw [splitWords_cons_of_visible visible, List.filter_cons_of_pos (by simp [visible]),
          ← inductionHypothesis, splitWords, WordScan.flatten_close]
        rfl

/-- The words of a text in a row are the text without its blank characters. -/
theorem join_words (text : String) :
    String.join (words text) =
      String.ofList (text.toList.filter fun character => !isBlank character) := by
  apply String.toList_injective
  rw [String.toList_join, words, List.flatMap_map, String.toList_ofList, ← flatten_splitWords]
  simp only [String.toList_ofList, List.flatMap_id']

/-- Words behind a space each are split again. -/
theorem words_intercalate_space {list : List String} (each : ∀ word ∈ list, IsWord word) :
    words (" ".intercalate list) = list := by
  induction list with
  | nil => rfl
  | cons first rest inductionHypothesis =>
      obtain ⟨head, tail⟩ := List.forall_mem_cons.mp each
      cases rest with
      | nil => exact head.words_eq
      | cons second others =>
          rw [String.intercalate_cons_cons, isGap_space.words_append, head.words_eq,
            inductionHypothesis tail]
          rfl

/--
A function splits texts when it gives words that have all visible characters of the text, when a gap
separates the words on its sides, and when words behind a space each are split again.
-/
structure IsSplitting (split : String → List String) : Prop where
  isWord : ∀ text, ∀ word ∈ split text, IsWord word
  complete : ∀ text, String.join (split text) =
    String.ofList (text.toList.filter fun character => !isBlank character)
  separated : ∀ left gap right, IsGap gap →
    split (left ++ gap ++ right) = split left ++ split right
  restored : ∀ list, (∀ word ∈ list, IsWord word) → split (" ".intercalate list) = list

/-- The words of texts follow the four laws. -/
theorem isSplitting_words : IsSplitting words where
  isWord _ _ found := isWord_of_mem_words found
  complete := join_words
  separated left _ right isGap := isGap.words_append left right
  restored _ each := words_intercalate_space each

/-- A text without blank characters is a word, unless it is empty. -/
theorem isWord_or_eq_empty {text : String}
    (visible : ∀ character ∈ text.toList, isBlank character = false) :
    IsWord text ∨ text = "" := by
  by_cases empty : text.toList = []
  · exact .inr (String.toList_injective empty)
  · exact .inl ⟨empty, visible⟩

/-- A text with a blank character stands on two sides of a gap. -/
theorem exists_sides_of_isBlank {text : String} {blank : Char} (found : blank ∈ text.toList)
    (hidden : isBlank blank = true) :
    ∃ left gap right, IsGap gap ∧ text = left ++ gap ++ right ∧ left.length < text.length ∧
      right.length < text.length := by
  obtain ⟨before, after, shape⟩ := List.append_of_mem found
  have isGap : IsGap (.ofList [blank]) := ⟨by simp, by simpa using hidden⟩
  have parts : text = .ofList before ++ .ofList [blank] ++ .ofList after := by
    apply String.toList_injective
    simp [shape]
  have length : text.length = before.length + (after.length + 1) := by
    rw [← String.length_toList, shape, List.length_append, List.length_cons]
  refine ⟨_, _, _, isGap, parts, ?_, ?_⟩
  · rw [String.length_ofList, length]
    omega
  · rw [String.length_ofList, length]
    omega

/-- The laws leave no choice. -/
theorem IsSplitting.eq_words {split : String → List String} (laws : IsSplitting split)
    (text : String) : split text = words text := by
  -- The induction is on the length of the text, which a gap divides into shorter ones.
  induction length : text.length using Nat.strongRecOn generalizing text with
  | ind count inductionHypothesis =>
      by_cases visible : ∀ character ∈ text.toList, isBlank character = false
      · obtain isWord | rfl := isWord_or_eq_empty visible
        · rw [isWord.words_eq]
          simpa using laws.restored [text] (List.forall_mem_singleton.mpr isWord)
        · exact laws.restored [] (List.forall_mem_nil _)
      · simp only [not_forall, Bool.not_eq_false] at visible
        obtain ⟨blank, found, hidden⟩ := visible
        obtain ⟨left, gap, right, isGap, rfl, leftShorter, rightShorter⟩ :=
          exists_sides_of_isBlank found hidden
        rw [laws.separated left gap right isGap, isGap.words_append,
          inductionHypothesis _ (length ▸ leftShorter) left rfl,
          inductionHypothesis _ (length ▸ rightShorter) right rfl]

/-- The words of texts follow the four laws, and nothing else does. -/
theorem isSplitting_iff_eq_words {split : String → List String} :
    IsSplitting split ↔ split = words :=
  ⟨fun laws => funext laws.eq_words, fun same => same ▸ isSplitting_words⟩

end FieldQuery.Text
