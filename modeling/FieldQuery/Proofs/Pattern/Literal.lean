/-
This file proves that an escaped text is a pattern for itself, and what stars around it add.
-/
import FieldQuery.Proofs.Pattern.Matching
import FieldQuery.Text.Escape

namespace FieldQuery.Pattern

open FieldQuery.Text

/-- Tokens that have been read stay in front of those that are read later. -/
theorem tokensFrom_append (before earlier : List Token) (pattern : List Char) :
    tokensFrom (before ++ earlier) pattern = earlier.reverse ++ tokensFrom before pattern := by
  fun_induction tokensFrom before pattern with
  | case1 before => simp [tokensFrom]
  | case2 before character rest inductionHypothesis =>
      simpa only [tokensFrom, List.cons_append] using inductionHypothesis
  | case3 before rest inductionHypothesis =>
      simpa only [tokensFrom, List.cons_append] using inductionHypothesis
  | case4 before rest inductionHypothesis =>
      simpa only [tokensFrom, List.cons_append] using inductionHypothesis
  | case5 before character rest escape star question inductionHypothesis =>
      rw [tokensFrom]
      · exact inductionHypothesis
      · exact escape
      · exact star
      · exact question

/-- The token that has been read stands before the tokens of the rest. -/
theorem tokensFrom_singleton (token : Token) (pattern : List Char) :
    tokensFrom [token] pattern = token :: tokens pattern :=
  tokensFrom_append [] [token] pattern

@[simp] theorem tokens_nil : tokens [] = [] := rfl

@[simp] theorem tokens_backslash_cons (character : Char) (rest : List Char) :
    tokens ('\\' :: character :: rest) = .literal character :: tokens rest := by
  rw [tokens, tokensFrom, tokensFrom_singleton]

@[simp] theorem tokens_star_cons (rest : List Char) : tokens ('*' :: rest) = .many :: tokens rest := by
  rw [tokens, tokensFrom, tokensFrom_singleton]

/-- Any character without a meaning of its own is literal. -/
theorem tokens_cons_of_ne {character : Char} (backslash : character ≠ '\\')
    (star : character ≠ '*') (question : character ≠ '?') (rest : List Char) :
    tokens (character :: rest) = .literal character :: tokens rest := by
  rw [tokens, tokensFrom, tokensFrom_singleton]
  · exact fun _ _ same _ => backslash same
  · exact star
  · exact question

/-- A character that is not reserved is literal. -/
theorem tokens_cons_of_not_mem_reserved {character : Char} (free : character ∉ reserved)
    (rest : List Char) : tokens (character :: rest) = .literal character :: tokens rest := by
  have backslash : character ≠ '\\' := fun same => free (same ▸ by decide)
  have star : character ≠ '*' := fun same => free (same ▸ by decide)
  have question : character ≠ '?' := fun same => free (same ▸ by decide)
  exact tokens_cons_of_ne backslash star question rest

/-- The escape of a character is one literal token, whatever follows it. -/
theorem tokens_escapeChar_append (character : Char) (rest : List Char) :
    tokens (escapeChar character ++ rest) = .literal character :: tokens rest := by
  unfold escapeChar
  split
  · exact tokens_backslash_cons character rest
  · rename_i free
    exact tokens_cons_of_not_mem_reserved free rest

/-- The escape of a text is one literal token for each character, whatever follows it. -/
theorem tokens_escapeChars_append (characters rest : List Char) :
    tokens (escapeChars characters ++ rest) = characters.map .literal ++ tokens rest := by
  induction characters with
  | nil => rfl
  | cons character others inductionHypothesis =>
      rw [escapeChars_cons, List.append_assoc, tokens_escapeChar_append, inductionHypothesis]
      rfl

/-- Literal tokens match exactly their characters. -/
theorem matches_map_literal (characters term : List Char) :
    Matches (characters.map .literal) term ↔ term = characters := by
  induction characters generalizing term with
  | nil => simp
  | cons expected others inductionHypothesis =>
      cases term with
      | nil => simp [not_matches_literal_nil]
      | cons character rest =>
          rw [List.map_cons, matches_literal_cons, inductionHypothesis, List.cons.injEq]
          exact and_congr_left fun _ => eq_comm

/-- A term without a line feed has only characters that wildcards cover. -/
theorem forall_isCovered_iff (term : List Char) :
    (∀ character ∈ term, isCovered character = true) ↔ '\n' ∉ term := by
  simp only [isCovered, bne_iff_ne, ne_eq]
  exact ⟨fun covered found => covered _ found rfl, fun absent _ found same => absent (same ▸ found)⟩

/-- One run matches exactly the terms without a line feed. -/
theorem matches_many (term : List Char) : Matches [.many] term ↔ '\n' ∉ term := by
  rw [matches_cons, ← forall_isCovered_iff]
  constructor
  · intro matched
    obtain ⟨piece, later, rfl, covered, following⟩ := matched
    rw [matches_nil] at following
    rw [following, List.append_nil]
    exact covered
  · intro covered
    exact ⟨term, [], by simp, covered, by simp⟩

/-- A text with a star behind it matches the terms that start with the text. -/
theorem matches_escapeChars_star {word : List Char} (oneLine : '\n' ∉ word) (term : List Char) :
    Matches (tokens (escapeChars word ++ ['*'])) term ↔ '\n' ∉ term ∧ word <+: term := by
  rw [tokens_escapeChars_append, tokens_star_cons, tokens_nil, matches_append]
  simp only [matches_map_literal, matches_many]
  constructor
  · intro matched
    obtain ⟨_, right, rfl, rfl, covered⟩ := matched
    exact ⟨by simp [oneLine, covered], List.prefix_append _ _⟩
  · intro parts
    obtain ⟨absent, right, rfl⟩ := parts
    exact ⟨word, right, rfl, rfl, fun found => absent (List.mem_append_right _ found)⟩

/-- A pattern behind a star matches what ends with a match of the pattern. -/
theorem matches_star_append (pattern term : List Char) :
    Matches (tokens ('*' :: pattern)) term ↔
      ∃ left right, term = left ++ right ∧ '\n' ∉ left ∧ Matches (tokens pattern) right := by
  rw [tokens_star_cons, matches_cons]
  simp only [Token.Covers, forall_isCovered_iff]

/-- A text behind a star matches the terms that end with the text. -/
theorem matches_star_escapeChars {word : List Char} (oneLine : '\n' ∉ word) (term : List Char) :
    Matches (tokens ('*' :: escapeChars word)) term ↔ '\n' ∉ term ∧ word <:+ term := by
  have literal : tokens (escapeChars word) = word.map .literal := by
    simpa using tokens_escapeChars_append word []
  simp only [matches_star_append, literal, matches_map_literal]
  constructor
  · intro matched
    obtain ⟨left, _, rfl, covered, rfl⟩ := matched
    exact ⟨by simp [oneLine, covered], List.suffix_append _ _⟩
  · intro parts
    obtain ⟨absent, left, rfl⟩ := parts
    exact ⟨left, word, rfl, fun found => absent (List.mem_append_left _ found), rfl⟩

/-- A text between stars matches the terms that contain the text. -/
theorem matches_star_escapeChars_star {word : List Char} (oneLine : '\n' ∉ word)
    (term : List Char) :
    Matches (tokens ('*' :: (escapeChars word ++ ['*']))) term ↔ '\n' ∉ term ∧ word <:+: term := by
  simp only [matches_star_append, matches_escapeChars_star oneLine]
  constructor
  · intro matched
    obtain ⟨left, _, rfl, covered, absent, right, rfl⟩ := matched
    exact ⟨by simp_all, left, right, by simp⟩
  · intro parts
    obtain ⟨absent, left, right, rfl⟩ := parts
    refine ⟨left, word ++ right, by simp, ?_, ?_, List.prefix_append _ _⟩
    · simp_all
    · simp_all

end FieldQuery.Pattern
