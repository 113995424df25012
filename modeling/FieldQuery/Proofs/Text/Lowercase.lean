/-
This file proves that the lowercase of a text does not look across a character that has no case, and
what carries over from the lowercases of the characters.
-/
import FieldQuery.Text.Lowercase

namespace FieldQuery.Text

/-- A neutral character has no case and ends the search for a cased neighbour. -/
structure IsNeutral (character : Char) : Prop where
  uncased : isCased character = false
  considered : isCaseIgnorable character = false

section

-- The tables of ranges are longer than the default depth.
set_option maxRecDepth 1000

theorem isCased_sigma : isCased 'Σ' = true := by decide

theorem isNeutral_star : IsNeutral '*' := ⟨by decide, by decide⟩

theorem lowercaseChar_star : lowercaseChar '*' = ['*'] := by decide

end

variable {character : Char}

/-- A neutral character is not a capital sigma. -/
theorem IsNeutral.ne_sigma (neutral : IsNeutral character) : character ≠ 'Σ' := by
  intro same
  have cased := isCased_sigma
  rw [← same, neutral.uncased] at cased
  exact Bool.false_ne_true cased

theorem IsNeutral.followsCased (neutral : IsNeutral character) (before : Bool) :
    followsCased before character = false := by
  simp [Text.followsCased, neutral.considered, neutral.uncased]

/-- In front of a neutral character the search for a cased one ends. -/
theorem IsNeutral.startsCased_append (neutral : IsNeutral character) (left right : List Char) :
    startsCased (left ++ character :: right) = startsCased left := by
  induction left with
  | nil => simp [startsCased, neutral.considered, neutral.uncased]
  | cons first rest inductionHypothesis =>
      rw [List.cons_append, startsCased, startsCased, inductionHypothesis]

/-- The lowercase of a neutral character depends on no neighbour. -/
theorem IsNeutral.lowercaseIn (neutral : IsNeutral character) (before : Bool)
    (rest : List Char) : lowercaseIn before character rest = lowercaseChar character := by
  rw [Text.lowercaseIn, if_neg neutral.ne_sigma]

/-- A character in front of a neutral one sees only what stands between them. -/
theorem IsNeutral.lowercaseIn_append (neutral : IsNeutral character) (before : Bool)
    (first : Char) (left right : List Char) :
    Text.lowercaseIn before first (left ++ character :: right) =
      Text.lowercaseIn before first left := by
  rw [Text.lowercaseIn, Text.lowercaseIn, neutral.startsCased_append]

/-- The parts of a text around a neutral character become lowercase by themselves. -/
theorem IsNeutral.lowercaseFrom_append (neutral : IsNeutral character) (before : Bool)
    (left right : List Char) :
    lowercaseFrom before (left ++ character :: right) =
      lowercaseFrom before left ++ (lowercaseChar character ++ lowercaseFrom false right) := by
  induction left generalizing before with
  | nil =>
      rw [List.nil_append, lowercaseFrom_cons, neutral.lowercaseIn, neutral.followsCased]
      rfl
  | cons first rest inductionHypothesis =>
      rw [List.cons_append, lowercaseFrom_cons, lowercaseFrom_cons, inductionHypothesis,
        neutral.lowercaseIn_append, List.append_assoc]

/-- A settled character is its own lowercase in every place of a text. -/
def IsSettled (character : Char) : Prop :=
  ∀ before rest, lowercaseIn before character rest = [character]

/-- A text of settled characters is its own lowercase. -/
theorem lowercaseFrom_of_settled {characters : List Char}
    (settled : ∀ character ∈ characters, IsSettled character) (before : Bool) :
    lowercaseFrom before characters = characters := by
  induction characters generalizing before with
  | nil => rfl
  | cons first rest inductionHypothesis =>
      obtain ⟨head, tail⟩ := List.forall_mem_cons.mp settled
      rw [lowercaseFrom_cons, head, inductionHypothesis tail]
      rfl

/-- What the lowercase of each character has in every place, the lowercase of the text has. -/
theorem forall_mem_lowercaseFrom {property : Char → Prop} {characters : List Char}
    (each : ∀ character ∈ characters, ∀ before rest,
      ∀ lower ∈ lowercaseIn before character rest, property lower) (before : Bool) :
    ∀ lower ∈ lowercaseFrom before characters, property lower := by
  induction characters generalizing before with
  | nil => exact List.forall_mem_nil _
  | cons first rest inductionHypothesis =>
      obtain ⟨head, tail⟩ := List.forall_mem_cons.mp each
      exact List.forall_mem_append.mpr ⟨head before rest, inductionHypothesis tail _⟩

theorem lowercase_star_append (text : String) : lowercase ("*" ++ text) = "*" ++ lowercase text := by
  have split := isNeutral_star.lowercaseFrom_append false [] text.toList
  rw [lowercaseChar_star] at split
  apply String.toList_injective
  simpa [lowercase, lowercaseChars, String.toList_ofList] using split

theorem lowercase_append_star (text : String) : lowercase (text ++ "*") = lowercase text ++ "*" := by
  have split := isNeutral_star.lowercaseFrom_append false text.toList []
  rw [lowercaseChar_star] at split
  apply String.toList_injective
  simpa [lowercase, lowercaseChars, String.toList_ofList] using split

end FieldQuery.Text
