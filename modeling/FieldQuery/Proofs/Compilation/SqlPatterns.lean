/-
This file compares the terms that a word describes by the rules of SQL patterns with the terms that
the query for a likeness to it finds: the query takes a percent sign and an underscore literally.
-/
import FieldQuery.Expression.Builder
import FieldQuery.Proofs.Compilation.Likeness
import FieldQuery.Proofs.Compilation.Search

namespace FieldQuery

namespace Pattern

open Text

/--
In SQL a percent sign stands for any run of characters, an underscore for one character, and any
other character for itself.
-/
inductive SqlMatches : List Char → List Char → Prop where
  | done : SqlMatches [] []
  | run (before : List Char) {pattern rest : List Char} (following : SqlMatches pattern rest) :
      SqlMatches ('%' :: pattern) (before ++ rest)
  | one (character : Char) {pattern rest : List Char} (following : SqlMatches pattern rest) :
      SqlMatches ('_' :: pattern) (character :: rest)
  | itself {character : Char} {pattern rest : List Char} (other : character ∉ ['%', '_'])
      (following : SqlMatches pattern rest) : SqlMatches (character :: pattern) (character :: rest)

/-- A pattern without these wildcards is fixed. -/
def IsFixed (pattern : List Char) : Prop := '%' ∉ pattern ∧ '_' ∉ pattern
deriving Decidable

/-- A fixed pattern describes itself alone. -/
theorem SqlMatches.eq_of_isFixed {pattern term : List Char} (matched : SqlMatches pattern term)
    (fixed : IsFixed pattern) : term = pattern := by
  obtain ⟨percent, underscore⟩ := fixed
  induction matched with
  | done => rfl
  | run => exact absurd List.mem_cons_self percent
  | one => exact absurd List.mem_cons_self underscore
  | itself _ _ inductionHypothesis =>
      rw [inductionHypothesis (List.not_mem_of_not_mem_cons percent)
        (List.not_mem_of_not_mem_cons underscore)]

/-- Nothing is put in the place of a percent sign, and a letter in that of an underscore. -/
def sqlFilling (character : Char) : List Char :=
  if character = '%' then [] else if character = '_' then ['x'] else [character]

/-- No filling has a wildcard of SQL, and only the letter is new in it. -/
theorem of_mem_sqlFilling {character filling : Char} (found : filling ∈ sqlFilling character) :
    filling ∉ ['%', '_'] ∧ (filling = 'x' ∨ filling = character) := by
  unfold sqlFilling at found
  split_ifs at found with percent underscore
  · simp at found
  · obtain rfl := List.mem_singleton.mp found
    exact ⟨by decide, .inl rfl⟩
  · obtain rfl := List.mem_singleton.mp found
    exact ⟨by simp [percent, underscore], .inr rfl⟩

/-- A pattern describes the term that is filled into its wildcards. -/
theorem sqlMatches_flatMap_sqlFilling (pattern : List Char) :
    SqlMatches pattern (pattern.flatMap sqlFilling) := by
  induction pattern with
  | nil => exact .done
  | cons character rest inductionHypothesis =>
      rw [List.flatMap_cons, sqlFilling]
      split_ifs with percent underscore
      · subst percent
        exact .run [] inductionHypothesis
      · subst underscore
        exact .one 'x' inductionHypothesis
      · exact .itself (by simp [percent, underscore]) inductionHypothesis

/-- Filling a pattern of one line gives one line. -/
theorem lineFeed_not_mem_flatMap_sqlFilling {pattern : List Char} (oneLine : '\n' ∉ pattern) :
    '\n' ∉ pattern.flatMap sqlFilling := by
  intro feed
  obtain ⟨character, member, inside⟩ := List.mem_flatMap.mp feed
  obtain ⟨_, letter | same⟩ := of_mem_sqlFilling inside
  · exact absurd letter (by decide)
  · exact oneLine (same ▸ member)

/-- Only a fixed pattern is contained in the term that is filled into it. -/
theorem isFixed_of_infix_flatMap_sqlFilling {pattern : List Char}
    (contained : pattern <:+: pattern.flatMap sqlFilling) : IsFixed pattern := by
  have other {character : Char} (found : character ∈ pattern) : character ∉ ['%', '_'] := by
    obtain ⟨_, _, inside⟩ := List.mem_flatMap.mp (contained.subset found)
    exact (of_mem_sqlFilling inside).1
  exact ⟨fun percent => other percent (by decide), fun underscore => other underscore (by decide)⟩

/-- A plain word has no character with a meaning in wildcard queries. -/
def IsPlainWord (word : List Char) : Prop := '\\' ∉ word ∧ '*' ∉ word ∧ '?' ∉ word
deriving Decidable

/-- A plain word is one literal token for each character, whatever follows it. -/
theorem tokens_append_of_isPlainWord {word : List Char} (plain : IsPlainWord word)
    (rest : List Char) : tokens (word ++ rest) = word.map .literal ++ tokens rest := by
  induction word with
  | nil => rfl
  | cons character others inductionHypothesis =>
      simp only [IsPlainWord, List.mem_cons, not_or] at plain
      obtain ⟨⟨backslash, noBackslash⟩, ⟨star, noStar⟩, question, noQuestion⟩ := plain
      rw [List.cons_append, tokens_cons_of_ne (Ne.symm backslash) (Ne.symm star)
        (Ne.symm question),
        inductionHypothesis ⟨noBackslash, noStar, noQuestion⟩]
      rfl

end Pattern

namespace Query

open Comparison Text Pattern

variable {engine : Pattern.Engine} {field word : String}

/-- A plain word between stars is found where its escape is found. -/
theorem decides_inside_of_isPlainWord (line : IsLine word) (plain : IsPlainWord word.toList) :
    (pattern field (inside word)).Decides engine (fun _ => True)
      (fun term => IsLine term ∧ word.toList <:+: term.toList) := by
  refine (decides_wildcard field _ .one).mono (fun _ => id) fun _ term _ => ?_
  rw [toList_inside, tokens_star_cons, tokens_append_of_isPlainWord plain,
    ← tokens_escapeChars_append, ← tokens_star_cons]
  exact matches_star_escapeChars_star line term.toList

variable {target : Expression} {value : Constant}

/--
The query of a likeness to one plain word finds the lines that contain the word as it is written.
So it finds all lines that the word describes by the rules of SQL only if the engine takes it and
the word has neither a percent sign nor an underscore; then the word describes itself alone.
-/
theorem outcome_like_sql (engine : Pattern.Engine) (named : target.fieldName = .ok field)
    (split : words value.display = [word]) (plain : IsPlainWord word.toList) :
    (ofExpression .exact (target.like value)).outcome = .ok (pattern field (inside word)) ∧
    (pattern field (inside word)).Decides engine (fun _ => True)
      (fun term => IsLine term ∧ word.toList <:+: term.toList) ∧
    ((∀ term : String, IsLine term → SqlMatches word.toList term.toList →
        (pattern field (inside word)).matches? engine term = some (.ok true)) ↔
      (pattern field (inside word)).RunsOn engine ∧ IsFixed word.toList) := by
  have taken : value.words = .ok [word] := split ▸ Constant.words_eq_ok (by simp [split])
  have line : IsLine word := isLine_of_mem_words (by rw [split]; exact List.mem_cons_self)
  have decided : (pattern field (inside word)).Decides engine (fun _ => True) _ :=
    decides_inside_of_isPlainWord line plain
  refine ⟨outcome_ofExpression_onWords .exact rfl (query_like .exact) named taken, decided, ?_⟩
  simp only [decided.accepts_iff trivial]
  constructor
  · intro found
    -- The term that is filled into the word is described, and a word in it has no wildcard of SQL.
    have filled := found (.ofList (word.toList.flatMap sqlFilling))
    simp only [IsLine, String.toList_ofList] at filled
    obtain ⟨runs, _, contained⟩ :=
      filled (lineFeed_not_mem_flatMap_sqlFilling line) (sqlMatches_flatMap_sqlFilling word.toList)
    exact ⟨runs, isFixed_of_infix_flatMap_sqlFilling contained⟩
  · rintro ⟨runs, fixed⟩ term oneLine described
    have same : term.toList = word.toList := described.eq_of_isFixed fixed
    exact ⟨runs, oneLine, same ▸ List.infix_rfl⟩

/-- A likeness to a%c misses abc, though a%c describes it in SQL; one to abc finds it. -/
theorem outcome_like_sql_percent :
    (Expression.path "name").fieldName = .ok "name" ∧
    words (Constant.text "a%c").display = ["a%c"] ∧
    IsPlainWord "a%c".toList ∧
    SqlMatches "a%c".toList "abc".toList ∧
    (ofExpression .exact ((Expression.path "name").like (.text "a%c"))).outcome =
      .ok (pattern "name" (inside "a%c")) ∧
    (pattern "name" (inside "a%c")).matches? .unlimited "abc" ≠ some (.ok true) ∧
    words (Constant.text "abc").display = ["abc"] ∧
    (∀ term : String, IsLine term → SqlMatches "abc".toList term.toList →
      (pattern "name" (inside "abc")).matches? .unlimited term = some (.ok true)) := by
  have named : (Expression.path "name").fieldName = .ok "name" := rfl
  have percent : words (Constant.text "a%c").display = ["a%c"] := by decide
  have letters : words (Constant.text "abc").display = ["abc"] := by decide
  have plain : IsPlainWord "a%c".toList := by decide
  have described : SqlMatches "a%c".toList "abc".toList :=
    .itself (by decide) (.run ['b'] (.itself (by decide) .done))
  obtain ⟨outcome, decided, _⟩ := outcome_like_sql .unlimited named percent plain
  obtain ⟨_, _, exactly⟩ := outcome_like_sql .unlimited named letters (by decide)
  refine ⟨named, percent, plain, described, outcome, ?_, letters, exactly.mpr ?_⟩
  · rw [ne_eq, decided.accepts_iff trivial]
    rintro ⟨_, _, contained⟩
    exact absurd contained (by decide)
  · exact ⟨rfl, by decide⟩

end Query

end FieldQuery
