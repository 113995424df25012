/-
This file proves that the lowercase of a text is made word by word, and keeps what is between them.
-/
import FieldQuery.Proofs.Text.Caseless

namespace FieldQuery.Text

variable {character : Char}

set_option maxRecDepth 2000 in
/-- No blank character has a case or is ignored in the search for one. -/
theorem isNeutral_of_isBlank (blank : isBlank character = true) : IsNeutral character := by
  have cased : blanks.Apart casedRanges := by decide
  have ignorable : blanks.Apart ignorableRanges := by decide
  exact ⟨cased.contains_eq_false blank, ignorable.contains_eq_false blank⟩

/-- The lowercase of a character is not empty. -/
theorem lowercaseIn_ne_nil (before : Bool) (character : Char) (rest : List Char) :
    lowercaseIn before character rest ≠ [] := by
  unfold lowercaseIn lowercaseChar
  split
  · split <;> simp
  · split
    · simp
    · split <;> simp

theorem lowercaseFrom_eq_nil_iff (before : Bool) (characters : List Char) :
    lowercaseFrom before characters = [] ↔ characters = [] := by
  cases characters with
  | nil => simp
  | cons character rest => simp [lowercaseFrom_cons, lowercaseIn_ne_nil]

theorem lowercaseChars_eq_nil_iff (characters : List Char) :
    lowercaseChars characters = [] ↔ characters = [] :=
  lowercaseFrom_eq_nil_iff false characters

theorem lowercaseIn_of_isBlank (blank : isBlank character = true) (before : Bool)
    (rest : List Char) : lowercaseIn before character rest = [character] :=
  isCaseless_blanks.lowercaseIn_eq blank before rest

theorem visible_lowercaseIn (visible : isBlank character = false) (before : Bool)
    (rest : List Char) : ∀ lower ∈ lowercaseIn before character rest, isBlank lower = false :=
  isCaseless_blanks.contains_of_mem_lowercaseIn visible before rest

/-- The search for a cased character looks no further than the word under the cursor. -/
theorem startsCased_word (characters : List Char) :
    startsCased (scanWords characters).word = startsCased characters := by
  induction characters with
  | nil => rfl
  | cons character rest inductionHypothesis =>
      rw [scanWords_cons]
      by_cases blank : isBlank character = true
      · have neutral := isNeutral_of_isBlank blank
        simp [WordScan.step_of_isBlank blank, startsCased, neutral.considered, neutral.uncased]
      · rw [WordScan.step_of_visible (by simpa using blank), startsCased, startsCased,
          inductionHypothesis]

/-- The lowercase of a character depends on the word under the cursor only. -/
theorem lowercaseIn_word (before : Bool) (character : Char) (rest : List Char) :
    lowercaseIn before character (scanWords rest).word = lowercaseIn before character rest := by
  rw [lowercaseIn, lowercaseIn, startsCased_word]

/-- The scan of a lowercase collects the lowercases of the words. -/
theorem scanWords_lowercaseFrom (before : Bool) (characters : List Char) :
    scanWords (lowercaseFrom before characters) =
      ⟨lowercaseFrom before (scanWords characters).word,
        (scanWords characters).later.map lowercaseChars⟩ := by
  induction characters generalizing before with
  | nil => rfl
  | cons character rest inductionHypothesis =>
      rw [lowercaseFrom_cons, scanWords, List.foldr_append]
      change (lowercaseIn before character rest).foldr WordScan.step
        (scanWords (lowercaseFrom (followsCased before character) rest)) = _
      rw [inductionHypothesis, scanWords_cons]
      by_cases blank : isBlank character = true
      · rw [lowercaseIn_of_isBlank blank, List.foldr_cons, List.foldr_nil,
          WordScan.step_of_isBlank blank, WordScan.step_of_isBlank blank,
          (isNeutral_of_isBlank blank).followsCased]
        change WordScan.mk [] (WordScan.close ⟨lowercaseChars _, _⟩) = _
        rw [WordScan.close_map lowercaseChars_eq_nil_iff]
        rfl
      · have visible : isBlank character = false := by simpa using blank
        rw [foldr_step_of_visible (visible_lowercaseIn visible before rest),
          WordScan.step_of_visible visible, lowercaseFrom_cons, lowercaseIn_word]

/-- The words of a lowercase are the lowercases of the words. -/
theorem splitWords_lowercaseChars (characters : List Char) :
    splitWords (lowercaseChars characters) = (splitWords characters).map lowercaseChars := by
  rw [splitWords, lowercaseChars, scanWords_lowercaseFrom]
  exact WordScan.close_map lowercaseChars_eq_nil_iff _

/-- Folding a text before or after it is split gives the same words. -/
theorem map_lowercase_words (text : String) :
    (words text).map lowercase = words (lowercase text) := by
  simp only [words, lowercase, String.toList_ofList, splitWords_lowercaseChars, List.map_map]
  apply List.map_congr_left
  intro word _
  simp [lowercase, String.toList_ofList]

/-- The lowercase of a word is a word. -/
theorem IsWord.lowercase {word : String} (isWord : IsWord word) : IsWord (lowercase word) := by
  constructor
  · rw [Text.lowercase, String.toList_ofList, ne_eq, lowercaseChars_eq_nil_iff]
    exact isWord.nonempty
  · rw [Text.lowercase, String.toList_ofList]
    exact forall_mem_lowercaseFrom
      (fun character member => visible_lowercaseIn (isWord.visible character member)) false

/-- A blank character stays between the lowercases of what is on its sides. -/
theorem lowercaseChars_append_of_isBlank (left : List Char) {blank : Char}
    (hidden : isBlank blank = true) (right : List Char) :
    lowercaseChars (left ++ blank :: right) =
      lowercaseChars left ++ blank :: lowercaseChars right := by
  rw [lowercaseChars, (isNeutral_of_isBlank hidden).lowercaseFrom_append,
    isCaseless_blanks.lowercaseChar_eq hidden]
  rfl

/-- Blank characters stay in front of the lowercase of what follows them. -/
theorem lowercaseChars_append_of_blanks {blanks : List Char}
    (hidden : ∀ character ∈ blanks, isBlank character = true) (rest : List Char) :
    lowercaseChars (blanks ++ rest) = blanks ++ lowercaseChars rest := by
  induction blanks with
  | nil => rfl
  | cons blank others inductionHypothesis =>
      obtain ⟨first, later⟩ := List.forall_mem_cons.mp hidden
      have split := lowercaseChars_append_of_isBlank [] first (others ++ rest)
      rw [inductionHypothesis later] at split
      exact split

/-- A gap stays between the lowercases of what is on its sides. -/
theorem IsGap.lowercase_append {gap : String} (isGap : IsGap gap) (left right : String) :
    lowercase (left ++ gap ++ right) = lowercase left ++ gap ++ lowercase right := by
  obtain ⟨first, rest, shape⟩ := List.exists_cons_of_ne_nil isGap.nonempty
  obtain ⟨head, tail⟩ := List.forall_mem_cons.mp (shape ▸ isGap.blank)
  have split : lowercaseChars (left.toList ++ first :: (rest ++ right.toList)) =
      lowercaseChars left.toList ++ first :: (rest ++ lowercaseChars right.toList) := by
    rw [lowercaseChars_append_of_isBlank _ head, lowercaseChars_append_of_blanks tail]
  apply String.toList_injective
  simpa [lowercase, String.toList_ofList, String.toList_append, shape] using split

set_option maxRecDepth 1000 in
/-- A comma and a space between two texts stay between their lowercases. -/
theorem lowercaseChars_append_comma (left right : List Char) :
    lowercaseChars (left ++ ',' :: ' ' :: right) =
      lowercaseChars left ++ ',' :: ' ' :: lowercaseChars right := by
  have comma : IsNeutral ',' := ⟨by decide, by decide⟩
  have kept : lowercaseChar ',' = [','] := by decide
  have space : isBlank ' ' = true := by decide
  rw [lowercaseChars, comma.lowercaseFrom_append, kept]
  change lowercaseChars left ++ ',' :: lowercaseChars ([] ++ ' ' :: right) = _
  rw [lowercaseChars_append_of_isBlank [] space]
  rfl

/-- The lowercase of texts in a row joins their lowercases. -/
theorem lowercase_intercalate (texts : List String) :
    lowercase (", ".intercalate texts) = ", ".intercalate (texts.map lowercase) := by
  induction texts with
  | nil => rfl
  | cons first rest inductionHypothesis =>
      cases rest with
      | nil => rfl
      | cons second others =>
          rw [List.map_cons, List.map_cons, String.intercalate_cons_cons,
            String.intercalate_cons_cons, ← List.map_cons, ← inductionHypothesis]
          have split := lowercaseChars_append_comma first.toList
            (", ".intercalate (second :: others)).toList
          apply String.toList_injective
          simpa [lowercase, String.toList_ofList, String.toList_append] using split

/--
Folding a text before or after it is split gives the same words. No letter looks across a gap for
its neighbours, and every gap stays as it is.
-/
theorem words_lowercase (text : String) :
    words (lowercase text) = (words text).map lowercase ∧
    ∀ left gap right, IsGap gap → text = left ++ gap ++ right →
      lowercase text = lowercase left ++ gap ++ lowercase right := by
  refine ⟨(map_lowercase_words text).symm, ?_⟩
  rintro left gap right isGap rfl
  exact isGap.lowercase_append left right

set_option maxRecDepth 2000 in
/-- The sigma in front of a gap is final, though a letter follows behind the gap. -/
theorem words_lowercase_sigma :
    IsGap " \u2003" ∧ "ΟΣ \u2003Σ" = "ΟΣ" ++ " \u2003" ++ "Σ" ∧
    words (lowercase "ΟΣ \u2003Σ") = ["ος", "σ"] ∧
    lowercase "ΟΣ \u2003Σ" = lowercase "ΟΣ" ++ " \u2003" ++ lowercase "Σ" := by
  have isGap : IsGap " \u2003" := isGap_of_all (by decide) (by decide)
  have parts : "ΟΣ \u2003Σ" = "ΟΣ" ++ " \u2003" ++ "Σ" := by decide
  have first : lowercase "ΟΣ" = "ος" := by decide
  have second : lowercase "Σ" = "σ" := by decide
  obtain ⟨split, separate⟩ := words_lowercase "ΟΣ \u2003Σ"
  have pieces : words "ΟΣ \u2003Σ" = ["ΟΣ", "Σ"] := by decide
  rw [pieces, List.map_cons, List.map_singleton, first, second] at split
  exact ⟨isGap, parts, split, separate "ΟΣ" " \u2003" "Σ" isGap parts⟩

end FieldQuery.Text
