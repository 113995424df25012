/-
This file says how a pattern is read as tokens from left to right and proves that a wildcard query
accepts the terms that can be cut into one piece for each token.
-/
import FieldQuery.Proofs.Pattern.Concatenation
import FieldQuery.Proofs.Query.Verdict

namespace FieldQuery.Pattern

/--
A pattern is read from left to right: a backslash makes the next character literal, and at the end
itself; a star stands for a run, and a question mark for one character; any other character stands
for itself.
-/
inductive Reading : List Char → List Token → Prop where
  | done : Reading [] []
  | escaped (character : Char) {rest : List Char} {later : List Token}
      (following : Reading rest later) :
      Reading ('\\' :: character :: rest) (.literal character :: later)
  | loneBackslash : Reading ['\\'] [.literal '\\']
  | star {rest : List Char} {later : List Token} (following : Reading rest later) :
      Reading ('*' :: rest) (.many :: later)
  | question {rest : List Char} {later : List Token} (following : Reading rest later) :
      Reading ('?' :: rest) (.one :: later)
  | plain {character : Char} (other : character ∉ ['\\', '*', '?']) {rest : List Char}
      {later : List Token} (following : Reading rest later) :
      Reading (character :: rest) (.literal character :: later)

/-- A pattern has no other reading than its tokens. -/
theorem Reading.eq_tokens {pattern : List Char} {read : List Token}
    (reading : Reading pattern read) : read = tokens pattern := by
  induction reading with
  | done => rfl
  | escaped character _ inductionHypothesis =>
      rw [tokens_backslash_cons, inductionHypothesis]
  | loneBackslash => rfl
  | star _ inductionHypothesis => rw [tokens_star_cons, inductionHypothesis]
  | question _ inductionHypothesis => rw [tokens_question_cons, inductionHypothesis]
  | plain other _ inductionHypothesis =>
      simp only [List.mem_cons, List.not_mem_nil, or_false, not_or] at other
      obtain ⟨backslash, star, question⟩ := other
      rw [tokens_cons_of_ne backslash star question, inductionHypothesis]

/-- The tokens of a pattern are a reading of it. -/
theorem reading_tokens (pattern : List Char) : Reading pattern (tokens pattern) := by
  fun_induction dangles pattern with
  | case1 => exact .done
  | case2 => exact .loneBackslash
  | case3 character rest inductionHypothesis =>
      rw [tokens_backslash_cons]
      exact .escaped character inductionHypothesis
  | case4 character rest notBackslash inductionHypothesis =>
      by_cases star : character = '*'
      · subst star
        rw [tokens_star_cons]
        exact .star inductionHypothesis
      by_cases question : character = '?'
      · subst question
        rw [tokens_question_cons]
        exact .question inductionHypothesis
      rw [tokens_cons_of_ne notBackslash star question]
      exact .plain (by simp [notBackslash, star, question]) inductionHypothesis

/-- Every pattern is read in one way, which gives its tokens. -/
theorem reading_iff {pattern : List Char} {read : List Token} :
    Reading pattern read ↔ read = tokens pattern :=
  ⟨Reading.eq_tokens, fun same => same ▸ reading_tokens pattern⟩

end FieldQuery.Pattern

namespace FieldQuery.Query

open Pattern

/--
A pattern has one reading, and a wildcard query that runs accepts exactly the terms which can be cut
into consecutive pieces, one for each token of the reading, such that every token covers its piece.
A query that the engine refuses decides nothing.
-/
theorem decides_wildcard_of_reading (engine : Engine) (field pattern : String)
    (boost : Number.Single) :
    ∃ read, (∀ other, Reading pattern.toList other ↔ other = read) ∧
      (Query.wildcard field pattern boost).Decides engine (fun _ => True) fun term =>
        ∃ pieces : List (List Char),
          List.Forall₂ Token.Covers read pieces ∧ pieces.flatten = term.toList :=
  ⟨tokens pattern.toList, fun _ => reading_iff, decides_wildcard field pattern boost⟩

end FieldQuery.Query
