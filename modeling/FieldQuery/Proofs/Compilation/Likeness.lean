/-
This file proves which terms are found by the query for a pattern that a field is like.
-/
import FieldQuery.Proofs.Compilation.Operands
import FieldQuery.Proofs.Pattern.Concatenation
import FieldQuery.Proofs.Query.Verdict

namespace FieldQuery.Query

open Text Comparison

variable {engine : Pattern.Engine}

/-- A pattern matches a term when the engine takes it and its tokens match the term. -/
theorem wildcardMatches_eq_ok_true_iff (pattern term : String) :
    wildcardMatches engine pattern term = .ok true ↔
      engine.refusal? (Pattern.tokens pattern.toList) = none ∧
        Pattern.Matches (Pattern.tokens pattern.toList) term.toList := by
  rw [← Pattern.matchesTerm_eq_true_iff, wildcardMatches]
  cases engine.refusal? (Pattern.tokens pattern.toList) <;> simp

/-- A term is like a pattern when one part of it matches and the parts around it have one line. -/
def IsLike (engine : Pattern.Engine) (pattern term : String) : Prop :=
  ∃ before middle after : String, term = before ++ middle ++ after ∧ IsLine before ∧
    IsLine after ∧ wildcardMatches engine pattern middle = .ok true

/-- A term is starred when it ends with a match and a star and has one line before them. -/
def IsStarred (engine : Pattern.Engine) (pattern term : String) : Prop :=
  ∃ before middle : String, term = before ++ middle ++ "*" ∧ IsLine before ∧
    wildcardMatches engine pattern middle = .ok true

variable {field word stem : String}

theorem toList_inside (word : String) : (inside word).toList = '*' :: (word.toList ++ ['*']) := by
  rw [inside, String.toList_append, String.toList_append]
  rfl

/-- A word that does not dangle finds the terms that are like it, if it runs on its own. -/
theorem decides_inside (whole : Pattern.dangles word.toList = false)
    (alone : (pattern field word).RunsOn engine) :
    (pattern field (inside word)).Decides engine (fun _ => True) (IsLike engine word) := by
  refine (decides_wildcard field _ .one).mono (fun _ => id) fun _ term _ => ?_
  rw [toList_inside, Pattern.matches_star_append_star whole]
  constructor
  · intro found
    obtain ⟨before, middle, after, cut, first, last, matched⟩ := found
    refine ⟨.ofList before, .ofList middle, .ofList after, ?_, ?_, ?_, ?_⟩
    · rw [← String.toList_inj]
      simpa using cut
    · simpa [IsLine] using first
    · simpa [IsLine] using last
    · exact (wildcardMatches_eq_ok_true_iff _ _).mpr ⟨alone, by simpa using matched⟩
  · intro like
    obtain ⟨before, middle, after, rfl, first, last, matched⟩ := like
    refine ⟨before.toList, middle.toList, after.toList, by simp, first, last, ?_⟩
    exact ((wildcardMatches_eq_ok_true_iff _ _).mp matched).2

/-- A word that dangles is one that does not, and a backslash. -/
theorem exists_stem_of_dangles (dangling : Pattern.dangles word.toList = true) :
    ∃ stem : String, word = stem ++ "\\" ∧ Pattern.dangles stem.toList = false := by
  obtain ⟨characters, split, whole⟩ := Pattern.exists_stem_of_dangles dangling
  refine ⟨.ofList characters, ?_, by rwa [String.toList_ofList]⟩
  rw [← String.toList_inj, split, String.toList_append, String.toList_ofList]
  rfl

/-- The pattern of a word that dangles asks for a star at the end of the term. -/
theorem matches_inside_append_backslash (whole : Pattern.dangles stem.toList = false)
    (term : List Char) :
    Pattern.Matches (Pattern.tokens (inside (stem ++ "\\")).toList) term ↔
      ∃ before middle, term = before ++ middle ++ ['*'] ∧ '\n' ∉ before ∧
        Pattern.Matches (Pattern.tokens stem.toList) middle := by
  have escaped : (inside (stem ++ "\\")).toList = '*' :: (stem.toList ++ ['\\', '*']) := by
    rw [toList_inside, String.toList_append, List.append_assoc]
    rfl
  rw [escaped, Pattern.matches_star_append_backslash_star whole]

/-- A word that dangles finds the terms that end with a star behind what stands before it. -/
theorem decides_inside_append_backslash (whole : Pattern.dangles stem.toList = false)
    (alone : (pattern field stem).RunsOn engine) :
    (pattern field (inside (stem ++ "\\"))).Decides engine (fun _ => True)
      (IsStarred engine stem) := by
  refine (decides_wildcard field _ .one).mono (fun _ => id) fun _ term _ => ?_
  rw [matches_inside_append_backslash whole]
  constructor
  · intro found
    obtain ⟨before, middle, cut, first, matched⟩ := found
    refine ⟨.ofList before, .ofList middle, ?_, ?_, ?_⟩
    · rw [← String.toList_inj]
      simpa using cut
    · simpa [IsLine] using first
    · exact (wildcardMatches_eq_ok_true_iff _ _).mpr ⟨alone, by simpa using matched⟩
  · intro starred
    obtain ⟨before, middle, rfl, first, matched⟩ := starred
    refine ⟨before.toList, middle.toList, by simp, first, ?_⟩
    exact ((wildcardMatches_eq_ok_true_iff _ _).mp matched).2

/-- A word that dangles misses a term that it matches on its own. -/
theorem exists_isLike_of_dangles (whole : Pattern.dangles stem.toList = false)
    (alone : (pattern field (stem ++ "\\")).RunsOn engine) :
    ∃ term : String, IsLike engine (stem ++ "\\") term ∧
      ¬ Pattern.Matches (Pattern.tokens (inside (stem ++ "\\")).toList) term.toList := by
  obtain ⟨characters, matched⟩ := Pattern.exists_matches (Pattern.tokens stem.toList)
  refine ⟨.ofList characters ++ "\\", ⟨"", .ofList characters ++ "\\", "", by simp,
    by simp [IsLine], by simp [IsLine], ?_⟩, ?_⟩
  · refine (wildcardMatches_eq_ok_true_iff _ _).mpr ⟨alone, ?_⟩
    rw [String.toList_append, String.toList_append]
    exact Pattern.matches_append_backslash whole (by rwa [String.toList_ofList])
  · intro starred
    obtain ⟨before, middle, cut, _⟩ := (matches_inside_append_backslash whole _).mp starred
    have last := congrArg List.getLast? cut
    simp at last

/-- A pattern that is refused finds nothing, though it matches some term between stars. -/
theorem exists_not_isLike (refused : ¬ (pattern field word).RunsOn engine) :
    ∃ term : String, ¬ IsLike engine word term ∧
      Pattern.Matches (Pattern.tokens (inside word).toList) term.toList := by
  obtain ⟨characters, matched⟩ := Pattern.exists_matches (Pattern.tokens (inside word).toList)
  refine ⟨.ofList characters, ?_, by rwa [String.toList_ofList]⟩
  rintro ⟨_, middle, _, _, _, _, found⟩
  exact refused ((wildcardMatches_eq_ok_true_iff _ _).mp found).1

/--
A word finds exactly the terms that are like it when it does not dangle and runs on its own, or when
it is refused between stars.
-/
theorem decides_inside_isLike_iff :
    (pattern field (inside word)).Decides engine (fun _ => True) (IsLike engine word) ↔
      Pattern.dangles word.toList = false ∧ (pattern field word).RunsOn engine ∨
        ¬ (pattern field (inside word)).RunsOn engine := by
  constructor
  · intro decided
    by_cases runs : (pattern field (inside word)).RunsOn engine
    · have exactly (term : String) :
          Pattern.Matches (Pattern.tokens (inside word).toList) term.toList ↔
            IsLike engine word term :=
        (decides_wildcard field _ .one).iff_of_runsOn decided runs trivial trivial
      have alone : (pattern field word).RunsOn engine := by
        by_contra refused
        obtain ⟨term, unlike, matched⟩ := exists_not_isLike refused
        exact unlike ((exactly term).mp matched)
      refine .inl ⟨Bool.eq_false_iff.mpr fun dangling => ?_, alone⟩
      obtain ⟨stem, rfl, whole⟩ := exists_stem_of_dangles dangling
      obtain ⟨term, like, missed⟩ := exists_isLike_of_dangles whole alone
      exact missed ((exactly term).mpr like)
    · exact .inr runs
  · rintro (⟨whole, alone⟩ | refused)
    · exact decides_inside whole alone
    · exact (decides_wildcard field _ .one).mono (fun _ => id) fun runs => absurd runs refused

variable {target : Expression} {value : Constant}

/--
The query of a likeness to one word is a pattern of the word between stars. It finds the terms that
are like the word when the word does not dangle. Otherwise its last star is escaped, and it finds
the terms that end with this star. So it finds exactly the terms that are like the word when the
word does not dangle, as far as the engine takes the patterns.
-/
theorem outcome_like (engine : Pattern.Engine) (named : target.fieldName = .ok field)
    (split : words value.display = [word]) :
    (ofExpression .exact (.operation .like [target, .constant value])).outcome =
      .ok (pattern field (inside word)) ∧
    (Pattern.dangles word.toList = false → (pattern field word).RunsOn engine →
      (pattern field (inside word)).Decides engine (fun _ => True) (IsLike engine word)) ∧
    (Pattern.dangles word.toList = true → ∃ stem, word = stem ++ "\\" ∧
      ((pattern field stem).RunsOn engine → (pattern field (inside word)).Decides engine
        (fun _ => True) (IsStarred engine stem))) ∧
    ((pattern field (inside word)).Decides engine (fun _ => True) (IsLike engine word) ↔
      Pattern.dangles word.toList = false ∧ (pattern field word).RunsOn engine ∨
        ¬ (pattern field (inside word)).RunsOn engine) := by
  have taken : value.words = .ok [word] := split ▸ Constant.words_eq_ok (by simp [split])
  refine ⟨outcome_ofExpression_onWords .exact rfl (query_like .exact) named taken, decides_inside,
    ?_, decides_inside_isLike_iff⟩
  intro dangling
  obtain ⟨stem, rfl, whole⟩ := exists_stem_of_dangles dangling
  exact ⟨stem, rfl, decides_inside_append_backslash whole⟩

/-- A likeness finds all terms like a word with a question mark, but not those like a backslash. -/
theorem outcome_like_backslash :
    (Expression.path "name").fieldName = .ok "name" ∧
    words (Constant.text "a?").display = ["a?"] ∧
    words (Constant.text "a\\").display = ["a\\"] ∧
    (pattern "name" (inside "a?")).Decides .unlimited (fun _ => True)
      (IsLike .unlimited "a?") ∧
    (ofExpression .exact
        (.operation .like [.path "name", .constant (.text "a\\")])).outcome =
      .ok (pattern "name" (inside "a\\")) ∧
    ¬ (pattern "name" (inside "a\\")).Decides .unlimited (fun _ => True)
      (IsLike .unlimited "a\\") := by
  have named : (Expression.path "name").fieldName = .ok "name" := rfl
  have question : words (Constant.text "a?").display = ["a?"] := by decide
  have backslash : words (Constant.text "a\\").display = ["a\\"] := by decide
  obtain ⟨_, found, _⟩ := outcome_like .unlimited named question
  obtain ⟨outcome, _, _, exactly⟩ := outcome_like .unlimited named backslash
  refine ⟨named, question, backslash, found (by decide) rfl, outcome, fun decided => ?_⟩
  obtain ⟨whole, _⟩ | refused := exactly.mp decided
  · exact absurd whole (by decide)
  · exact refused rfl

end FieldQuery.Query
