/-
This file says when the tokens of a pattern match a term and proves that the rows decide it.
-/
import FieldQuery.Query.Pattern
import Mathlib.Data.List.Forall2

namespace FieldQuery.Pattern

/-- A token covers itself, any one character, or any run; a wildcard covers no line feed. -/
def Token.Covers : Token → List Char → Prop
  | .literal expected, piece => piece = [expected]
  | .one, piece => ∃ character, piece = [character] ∧ isCovered character = true
  | .many, piece => ∀ character ∈ piece, isCovered character = true

/-- Tokens match a term that can be cut into consecutive pieces which they cover in order. -/
def Matches (tokens : List Token) (term : List Char) : Prop :=
  ∃ pieces : List (List Char), List.Forall₂ Token.Covers tokens pieces ∧ pieces.flatten = term

variable {tokens : List Token} {character : Char} {rest : List Char}

@[simp] theorem matches_nil (term : List Char) : Matches [] term ↔ term = [] := by
  constructor
  · intro matched
    obtain ⟨pieces, covered, rfl⟩ := matched
    cases covered
    rfl
  · intro empty
    exact ⟨[], .nil, empty.symm⟩

/-- The first token covers the first piece, and the other tokens match what stands after it. -/
theorem matches_cons (token : Token) (tokens : List Token) (term : List Char) :
    Matches (token :: tokens) term ↔
      ∃ piece later, term = piece ++ later ∧ token.Covers piece ∧ Matches tokens later := by
  constructor
  · intro matched
    obtain ⟨pieces, covered, rfl⟩ := matched
    obtain ⟨piece, others, first, following, rfl⟩ := List.forall₂_cons_left_iff.mp covered
    exact ⟨piece, others.flatten, List.flatten_cons, first, others, following, rfl⟩
  · intro parts
    obtain ⟨piece, later, rfl, first, others, following, rfl⟩ := parts
    exact ⟨piece :: others, .cons first following, List.flatten_cons⟩

/-- Two sequences of tokens match the two parts of a term. -/
theorem matches_append (first second : List Token) (term : List Char) :
    Matches (first ++ second) term ↔
      ∃ left right, term = left ++ right ∧ Matches first left ∧ Matches second right := by
  induction first generalizing term with
  | nil => simp
  | cons token others inductionHypothesis =>
      simp only [List.cons_append, matches_cons, inductionHypothesis]
      constructor
      · intro matched
        obtain ⟨piece, _, rfl, covered, left, right, rfl, before, after⟩ := matched
        exact ⟨piece ++ left, right, by simp, ⟨piece, left, rfl, covered, before⟩, after⟩
      · intro parts
        obtain ⟨_, right, rfl, ⟨piece, left, rfl, covered, before⟩, after⟩ := parts
        exact ⟨piece, left ++ right, by simp, covered, left, right, rfl, before, after⟩

/-- A literal matches nothing at the end of a term. -/
theorem not_matches_literal_nil (expected : Char) : ¬ Matches (.literal expected :: tokens) [] := by
  rw [matches_cons]
  intro matched
  obtain ⟨piece, later, cut, covered, _⟩ := matched
  simp [Token.Covers] at covered
  simp [covered] at cut

/-- A literal matches itself. -/
theorem matches_literal_cons (expected : Char) :
    Matches (.literal expected :: tokens) (character :: rest) ↔
      expected = character ∧ Matches tokens rest := by
  rw [matches_cons]
  constructor
  · intro matched
    obtain ⟨_, later, cut, rfl, following⟩ := matched
    obtain ⟨rfl, rfl⟩ := List.cons.inj cut
    exact ⟨rfl, following⟩
  · intro parts
    obtain ⟨rfl, following⟩ := parts
    exact ⟨[expected], rest, rfl, rfl, following⟩

theorem not_matches_one_nil : ¬ Matches (.one :: tokens) [] := by
  rw [matches_cons]
  intro matched
  obtain ⟨_, later, cut, ⟨character, rfl, _⟩, _⟩ := matched
  simp at cut

/-- A wildcard for one character matches any character but a line feed. -/
theorem matches_one_cons :
    Matches (.one :: tokens) (character :: rest) ↔
      isCovered character = true ∧ Matches tokens rest := by
  rw [matches_cons]
  constructor
  · intro matched
    obtain ⟨_, later, cut, ⟨found, rfl, covered⟩, following⟩ := matched
    obtain ⟨rfl, rfl⟩ := List.cons.inj cut
    exact ⟨covered, following⟩
  · intro parts
    obtain ⟨covered, following⟩ := parts
    exact ⟨[character], rest, rfl, ⟨character, rfl, covered⟩, following⟩

/-- At the end of a term a run is empty. -/
theorem matches_many_nil : Matches (.many :: tokens) [] ↔ Matches tokens [] := by
  rw [matches_cons]
  constructor
  · intro matched
    obtain ⟨piece, later, cut, _, following⟩ := matched
    obtain ⟨rfl, rfl⟩ := List.append_eq_nil_iff.mp cut.symm
    exact following
  · intro following
    exact ⟨[], [], rfl, by simp [Token.Covers], following⟩

/-- A run is empty, or it takes one more character that is not a line feed. -/
theorem matches_many_cons :
    Matches (.many :: tokens) (character :: rest) ↔
      Matches tokens (character :: rest) ∨
        isCovered character = true ∧ Matches (.many :: tokens) rest := by
  simp only [matches_cons]
  constructor
  · intro matched
    obtain ⟨piece, later, cut, covered, following⟩ := matched
    cases piece with
    | nil => exact .inl (cut ▸ following)
    | cons first others =>
        obtain ⟨rfl, rfl⟩ := List.cons.inj cut
        obtain ⟨head, tail⟩ := List.forall_mem_cons.mp covered
        exact .inr ⟨head, others, later, rfl, tail, following⟩
  · intro parts
    obtain following | ⟨head, piece, later, rfl, covered, following⟩ := parts
    · exact ⟨[], character :: rest, rfl, by simp [Token.Covers], following⟩
    · exact ⟨character :: piece, later, rfl, List.forall_mem_cons.mpr ⟨head, covered⟩, following⟩

/-- A row describes tokens along a term when it tells which suffixes they match. -/
def Describes (tokens : List Token) (term : List Char) (row : List Bool) : Prop :=
  List.Forall₂ (fun suffix value => value = true ↔ Matches tokens suffix) term.tails row

/-- The row at the end of a term has one value. -/
theorem describes_nil {row : List Bool} :
    Describes tokens [] row ↔ ∃ value, row = [value] ∧ (value = true ↔ Matches tokens []) := by
  simp only [Describes, List.tails, List.forall₂_cons_left_iff, List.forall₂_nil_left_iff]
  constructor
  · intro matched
    obtain ⟨value, _, first, rfl, rfl⟩ := matched
    exact ⟨value, rfl, first⟩
  · intro parts
    obtain ⟨value, rfl, first⟩ := parts
    exact ⟨value, [], first, rfl, rfl⟩

/-- The row of a longer term has one more value in front. -/
theorem describes_cons {row : List Bool} :
    Describes tokens (character :: rest) row ↔
      ∃ value later, row = value :: later ∧
        (value = true ↔ Matches tokens (character :: rest)) ∧ Describes tokens rest later := by
  simp only [Describes, List.tails, List.forall₂_cons_left_iff]
  constructor
  · intro matched
    obtain ⟨value, later, first, following, rfl⟩ := matched
    exact ⟨value, later, rfl, first, following⟩
  · intro parts
    obtain ⟨value, later, rfl, first, following⟩ := parts
    exact ⟨value, later, first, following, rfl⟩

/-- The first value of a row is that of the whole term. -/
theorem Describes.headD {term : List Char} {row : List Bool} (described : Describes tokens term row) :
    row.headD false = true ↔ Matches tokens term := by
  cases term with
  | nil =>
      obtain ⟨value, rfl, first⟩ := describes_nil.mp described
      exact first
  | cons character rest =>
      obtain ⟨value, later, rfl, first, _⟩ := describes_cons.mp described
      exact first

/-- The end row describes no tokens. -/
theorem describes_endRow (term : List Char) : Describes [] term (endRow term) := by
  induction term with
  | nil => exact describes_nil.mpr ⟨true, rfl, by simp⟩
  | cons character rest inductionHypothesis =>
      exact describes_cons.mpr ⟨false, endRow rest, rfl, by simp, inductionHypothesis⟩

/-- One token is put before the tokens that a row describes. -/
theorem Describes.extendRow (token : Token) {term : List Char} {row : List Bool}
    (described : Describes tokens term row) :
    Describes (token :: tokens) term (token.extendRow term row) := by
  induction term generalizing row with
  | nil =>
      obtain ⟨value, rfl, first⟩ := describes_nil.mp described
      refine describes_nil.mpr ?_
      cases token with
      | literal expected => exact ⟨false, rfl, by simp [not_matches_literal_nil]⟩
      | one => exact ⟨false, rfl, by simp [not_matches_one_nil]⟩
      | many => exact ⟨value, rfl, first.trans matches_many_nil.symm⟩
  | cons character rest inductionHypothesis =>
      obtain ⟨value, later, rfl, first, following⟩ := describes_cons.mp described
      refine describes_cons.mpr ?_
      have extended := inductionHypothesis following
      cases token with
      | literal expected =>
          refine ⟨_, _, rfl, ?_, extended⟩
          simp [matches_literal_cons, ← following.headD]
      | one =>
          refine ⟨_, _, rfl, ?_, extended⟩
          simp [matches_one_cons, ← following.headD]
      | many =>
          refine ⟨_, _, rfl, ?_, extended⟩
          simp [matches_many_cons, ← first, ← extended.headD]

/-- The row of a sequence of tokens describes it. -/
theorem describes_row (tokens : List Token) (term : List Char) :
    Describes tokens term (row term tokens) := by
  induction tokens with
  | nil => exact describes_endRow term
  | cons token others inductionHypothesis => exact inductionHypothesis.extendRow token

/-- The rows decide whether tokens match a term. -/
theorem matchesTerm_eq_true_iff (tokens : List Token) (term : List Char) :
    matchesTerm tokens term = true ↔ Matches tokens term :=
  (describes_row tokens term).headD

end FieldQuery.Pattern
