/-
This file proves how the tokens and the matches of a pattern change when it stands between stars.
-/
import FieldQuery.Proofs.Pattern.Literal

namespace FieldQuery.Pattern

open FieldQuery.Text

/-- A pattern dangles when its last backslash has nothing to escape. -/
def dangles : List Char → Bool
  | [] => false
  | character :: rest =>
    if character = '\\' then
      match rest with
      | [] => true
      | _ :: later => dangles later
    else dangles rest

@[simp] theorem tokens_question_cons (rest : List Char) :
    tokens ('?' :: rest) = .one :: tokens rest := by
  rw [tokens, tokensFrom, tokensFrom_singleton]

/-- Every character but a backslash is one token, whatever follows it. -/
theorem exists_tokens_cons {character : Char} (other : character ≠ '\\') :
    ∃ token : Token, ∀ rest, tokens (character :: rest) = token :: tokens rest := by
  by_cases star : character = '*'
  · exact ⟨.many, star ▸ tokens_star_cons⟩
  · by_cases question : character = '?'
    · exact ⟨.one, question ▸ tokens_question_cons⟩
    · exact ⟨.literal character, tokens_cons_of_ne other star question⟩

theorem dangles_backslash_cons (character : Char) (rest : List Char) :
    dangles ('\\' :: character :: rest) = dangles rest := by
  rw [dangles, if_pos rfl]

theorem dangles_cons {character : Char} (other : character ≠ '\\') (rest : List Char) :
    dangles (character :: rest) = dangles rest := by
  rw [dangles.eq_def]
  exact if_neg other

variable {pattern : List Char}

/-- Behind a pattern that does not dangle the tokens start anew. -/
theorem tokens_append (whole : dangles pattern = false) (rest : List Char) :
    tokens (pattern ++ rest) = tokens pattern ++ tokens rest := by
  fun_induction dangles pattern with
  | case1 => rfl
  | case2 => cases whole
  | case3 character later inductionHypothesis =>
      simp only [List.cons_append, tokens_backslash_cons, inductionHypothesis whole]
  | case4 character later other inductionHypothesis =>
      obtain ⟨token, first⟩ := exists_tokens_cons other
      rw [List.cons_append, first, first, inductionHypothesis whole, List.cons_append]

/-- A pattern that dangles is one that does not, and a backslash. -/
theorem exists_stem_of_dangles (dangling : dangles pattern = true) :
    ∃ stem, pattern = stem ++ ['\\'] ∧ dangles stem = false := by
  fun_induction dangles pattern with
  | case1 => cases dangling
  | case2 => exact ⟨[], rfl, rfl⟩
  | case3 character later inductionHypothesis =>
      obtain ⟨stem, rfl, whole⟩ := inductionHypothesis dangling
      exact ⟨'\\' :: character :: stem, rfl, (dangles_backslash_cons _ _).trans whole⟩
  | case4 character later other inductionHypothesis =>
      obtain ⟨stem, rfl, whole⟩ := inductionHypothesis dangling
      exact ⟨character :: stem, rfl, (dangles_cons other _).trans whole⟩

/-- A pattern between stars matches what contains a match of the pattern. -/
theorem matches_star_append_star (whole : dangles pattern = false) (term : List Char) :
    Matches (tokens ('*' :: (pattern ++ ['*']))) term ↔
      ∃ before middle after, term = before ++ middle ++ after ∧ '\n' ∉ before ∧ '\n' ∉ after ∧
        Matches (tokens pattern) middle := by
  simp only [matches_star_append, tokens_append whole, matches_append,
    show tokens ['*'] = [.many] from rfl, matches_many]
  constructor
  · intro matched
    obtain ⟨before, _, rfl, oneLine, middle, after, rfl, found, alsoOneLine⟩ := matched
    exact ⟨before, middle, after, by simp, oneLine, alsoOneLine, found⟩
  · intro parts
    obtain ⟨before, middle, after, rfl, oneLine, alsoOneLine, found⟩ := parts
    exact ⟨before, middle ++ after, by simp, oneLine, middle, after, rfl, found, alsoOneLine⟩

/-- A backslash before the last star asks for a star at the end of the term. -/
theorem matches_star_append_backslash_star {stem : List Char} (whole : dangles stem = false)
    (term : List Char) :
    Matches (tokens ('*' :: (stem ++ ['\\', '*']))) term ↔
      ∃ before middle, term = before ++ middle ++ ['*'] ∧ '\n' ∉ before ∧
        Matches (tokens stem) middle := by
  have literal (last : List Char) : Matches [.literal '*'] last ↔ last = ['*'] :=
    matches_map_literal ['*'] last
  simp only [matches_star_append, tokens_append whole, matches_append,
    show tokens ['\\', '*'] = [.literal '*'] from rfl, literal]
  constructor
  · intro matched
    obtain ⟨before, _, rfl, oneLine, middle, _, rfl, found, rfl⟩ := matched
    exact ⟨before, middle, by simp, oneLine, found⟩
  · intro parts
    obtain ⟨before, middle, rfl, oneLine, found⟩ := parts
    exact ⟨before, middle ++ ['*'], by simp, oneLine, middle, ['*'], rfl, found, rfl⟩

/-- A backslash at the end of a pattern matches itself. -/
theorem matches_append_backslash {stem : List Char} (whole : dangles stem = false)
    {middle : List Char} (found : Matches (tokens stem) middle) :
    Matches (tokens (stem ++ ['\\'])) (middle ++ ['\\']) := by
  rw [tokens_append whole, matches_append]
  exact ⟨middle, ['\\'], rfl, found, (matches_map_literal ['\\'] ['\\']).mpr rfl⟩

/-- All tokens match some term. -/
theorem exists_matches (tokens : List Token) : ∃ term, Matches tokens term := by
  induction tokens with
  | nil => exact ⟨[], (matches_nil []).mpr rfl⟩
  | cons token others inductionHypothesis =>
      obtain ⟨later, found⟩ := inductionHypothesis
      obtain ⟨piece, covered⟩ : ∃ piece, token.Covers piece := by
        cases token with
        | literal expected => exact ⟨[expected], rfl⟩
        | one => exact ⟨[' '], ' ', rfl, rfl⟩
        | many => exact ⟨[], by simp [Token.Covers]⟩
      exact ⟨piece ++ later, (matches_cons _ _ _).mpr ⟨piece, later, rfl, covered, found⟩⟩

end FieldQuery.Pattern
