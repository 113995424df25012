/-
This file says which predicates are well formed and proves that exactly these have a query.
-/
import FieldQuery.Proofs.Compilation.Outcome

namespace FieldQuery

/-- A constant has a word when a character of its display is visible. -/
def Constant.HasWord (value : Constant) : Prop :=
  ∃ character ∈ value.display.toList, Text.isBlank character = false

/-- These operators compare a field with the words of one constant. -/
def Operator.ofWords : List Operator :=
  [.like, .equals, .equalsPrimitive, .equalsIgnoreCase, .notEquals, .notEqualsPrimitive,
    .startsWith, .startsWithIgnoreCase, .endsWith, .endsWithIgnoreCase, .contains,
    .containsIgnoreCase]

/--
A well-formed predicate combines or negates well-formed ones, or compares a field with constants
that have words. A collection may be empty, but each of its values must have a word.
-/
inductive Expression.WellFormed : Expression → Prop where
  | combination {operator : Operator} {left right : Expression}
      (kind : operator = .and ∨ operator = .or) (first : WellFormed left)
      (second : WellFormed right) : WellFormed (.operation operator [left, right])
  | negation {operand : Expression} (inner : WellFormed operand) :
      WellFormed (.operation .not [operand])
  | comparison {operator : Operator} {target : Expression} {value : Constant}
      (kind : operator ∈ Operator.ofWords) (field : target.IsField) (word : value.HasWord) :
      WellFormed (.operation operator [target, .constant value])
  | interval {target : Expression} {lower upper : Constant} (field : target.IsField)
      (least : lower.HasWord) (greatest : upper.HasWord) :
      WellFormed (.operation .between [target, .constant lower, .constant upper])
  | membership {target : Expression} {values : List Constant} (field : target.IsField)
      (words : ∀ value ∈ values, value.HasWord) :
      WellFormed (.operation .oneOf [target, .constant (.collection values)])

/-- The words of a constant can be taken exactly when it has one. -/
theorem Constant.words_isOk_iff_hasWord (value : Constant) :
    (∃ words, value.words = .ok words) ↔ value.HasWord := by
  rw [Constant.words_isOk_iff, Text.words_ne_nil_iff]
  rfl

/-- The escaped words of a constant can be taken exactly when it has a word. -/
theorem Constant.escapedWords_isOk_iff_hasWord (value : Constant) :
    (∃ words, value.escapedWords = .ok words) ↔ value.HasWord := by
  rw [← Constant.words_isOk_iff_hasWord, Constant.escapedWords_eq_map]
  cases value.words with
  | error fault => simp [Except.map]
  | ok words => simp [Except.map]

namespace Comparison

variable (config : Config) (operator : Operator) (arguments : List Expression)

/-- A comparison of one constant succeeds for a field and a constant whose words can be taken. -/
theorem onWords_isOk_iff {take : Constant → Except Fault (List String)}
    {build : String → List String → Query}
    (taken : ∀ value, (∃ words, take value = .ok words) ↔ value.HasWord) :
    (∃ result, onWords take build operator arguments = .ok result) ↔
      ∃ target value, arguments = [target, .constant value] ∧ target.IsField ∧ value.HasWord := by
  simp only [onWords, exists_bind_eq_ok_iff, Prod.exists, pair_eq_ok_iff]
  constructor
  · intro found
    obtain ⟨target, value, shape, field, named, words, used, _⟩ := found
    exact ⟨target, value, shape, (target.fieldName_isOk_iff).mp ⟨field, named⟩,
      (taken value).mp ⟨words, used⟩⟩
  · intro found
    obtain ⟨target, value, shape, isField, hasWord⟩ := found
    obtain ⟨field, named⟩ := (target.fieldName_isOk_iff).mpr isField
    obtain ⟨words, used⟩ := (taken value).mpr hasWord
    exact ⟨target, value, shape, field, named, words, used, build field words, rfl⟩

/-- Every comparison but two succeeds for a field and a constant with a word. -/
theorem query_isOk_iff_of_words {comparison : Comparison}
    (one : comparison ≠ .between ∧ comparison ≠ .oneOf) :
    (∃ result, query config comparison operator arguments = .ok result) ↔
      ∃ target value, arguments = [target, .constant value] ∧ target.IsField ∧ value.HasWord := by
  obtain ⟨take, build, kind, same⟩ := query_eq_onWords config one
  have taken : ∀ value, (∃ words, take value = .ok words) ↔ value.HasWord := by
    rcases kind with rfl | rfl
    · exact Constant.words_isOk_iff_hasWord
    · exact Constant.escapedWords_isOk_iff_hasWord
  rw [same]
  exact onWords_isOk_iff operator arguments taken

/-- A range succeeds for a field and two constants with words. -/
theorem query_between_isOk_iff :
    (∃ result, query config .between operator arguments = .ok result) ↔
      ∃ target lower upper, arguments = [target, .constant lower, .constant upper] ∧
        target.IsField ∧ lower.HasWord ∧ upper.HasWord := by
  simp only [query, exists_bind_eq_ok_iff, Prod.exists, triple_eq_ok_iff]
  constructor
  · intro found
    obtain ⟨target, lower, upper, shape, field, named, least, first, greatest, last, _⟩ := found
    exact ⟨target, lower, upper, shape, (target.fieldName_isOk_iff).mp ⟨field, named⟩,
      (lower.words_isOk_iff_hasWord).mp ⟨least, first⟩,
      (upper.words_isOk_iff_hasWord).mp ⟨greatest, last⟩⟩
  · intro found
    obtain ⟨target, lower, upper, shape, isField, lowerWord, upperWord⟩ := found
    obtain ⟨field, named⟩ := (target.fieldName_isOk_iff).mpr isField
    obtain ⟨least, first⟩ := (lower.words_isOk_iff_hasWord).mpr lowerWord
    obtain ⟨greatest, last⟩ := (upper.words_isOk_iff_hasWord).mpr upperWord
    exact ⟨target, lower, upper, shape, field, named, least, first, greatest, last, _, rfl⟩

/-- Equalities with all constants of a collection succeed when each constant has a word. -/
theorem equalities_isOk_iff (field : String) (values : List Constant) :
    (∃ queries, equalities config field values = .ok queries) ↔
      ∀ value ∈ values, value.HasWord := by
  induction values with
  | nil => simp [equalities]
  | cons value rest inductionHypothesis =>
      simp only [equalities, exists_bind_eq_ok_iff, List.forall_mem_cons]
      constructor
      · intro found
        obtain ⟨words, used, queries, following, _⟩ := found
        exact ⟨(value.words_isOk_iff_hasWord).mp ⟨words, used⟩,
          inductionHypothesis.mp ⟨queries, following⟩⟩
      · intro all
        obtain ⟨words, used⟩ := (value.words_isOk_iff_hasWord).mpr all.1
        obtain ⟨queries, following⟩ := inductionHypothesis.mpr all.2
        exact ⟨words, used, queries, following, _, rfl⟩

/-- A membership succeeds for a field and a collection of constants with words. -/
theorem query_oneOf_isOk_iff :
    (∃ result, query config .oneOf operator arguments = .ok result) ↔
      ∃ target values, arguments = [target, .constant (.collection values)] ∧
        target.IsField ∧ ∀ value ∈ values, value.HasWord := by
  constructor
  · intro found
    obtain ⟨target, values, rfl⟩ | ⟨target, argument, rfl, other⟩ | wrong :=
      membership_cases arguments
    · simp only [query_oneOf_collection, exists_bind_eq_ok_iff] at found
      obtain ⟨field, named, queries, following, _⟩ := found
      exact ⟨target, values, rfl, (target.fieldName_isOk_iff).mp ⟨field, named⟩,
        (equalities_isOk_iff config field values).mp ⟨queries, following⟩⟩
    · simp [query_oneOf_of_ne_collection config operator target other,
        exists_bind_eq_ok_iff] at found
    · simp [query_oneOf_of_length_ne config wrong] at found
  · intro found
    obtain ⟨target, values, rfl, isField, words⟩ := found
    obtain ⟨field, named⟩ := (target.fieldName_isOk_iff).mpr isField
    obtain ⟨queries, following⟩ := (equalities_isOk_iff config field values).mpr words
    simp only [query_oneOf_collection, exists_bind_eq_ok_iff]
    exact ⟨field, named, queries, following, _, rfl⟩

end Comparison

/-- A well-formed operation has a supported operator with the right number of arguments. -/
theorem Expression.WellFormed.arity {operator : Operator} {arguments : List Expression}
    (wellFormed : (Expression.operation operator arguments).WellFormed) :
    operator.role ≠ .unsupported ∧ arguments.length = operator.arity := by
  cases wellFormed with
  | combination kind =>
      rcases kind with rfl | rfl
      · exact ⟨by decide, rfl⟩
      · exact ⟨by decide, rfl⟩
  | negation => exact ⟨by decide, rfl⟩
  | comparison kind =>
      have all : ∀ operator ∈ Operator.ofWords,
          operator.role ≠ .unsupported ∧ 2 = operator.arity := by decide
      exact all operator kind
  | interval => exact ⟨by decide, rfl⟩
  | membership => exact ⟨by decide, rfl⟩

theorem Operator.mem_ofWords {operator : Operator} {comparison : Comparison}
    (role : operator.role = .compare comparison)
    (one : comparison ≠ .between ∧ comparison ≠ .oneOf) : operator ∈ ofWords := by
  cases operator <;> cases role <;> simp_all [ofWords]

/-- A comparison with words is well formed for a field and a constant with a word. -/
theorem Expression.wellFormed_ofWords_iff {operator : Operator} (kind : operator ∈ Operator.ofWords)
    (arguments : List Expression) :
    (Expression.operation operator arguments).WellFormed ↔
      ∃ target value, arguments = [target, .constant value] ∧ target.IsField ∧ value.HasWord := by
  constructor
  · intro wellFormed
    cases wellFormed with
    | combination other => rcases other with rfl | rfl <;> simp [Operator.ofWords] at kind
    | negation => simp [Operator.ofWords] at kind
    | comparison _ field word => exact ⟨_, _, rfl, field, word⟩
    | interval => simp [Operator.ofWords] at kind
    | membership => simp [Operator.ofWords] at kind
  · intro found
    obtain ⟨target, value, rfl, field, word⟩ := found
    exact .comparison kind field word

/-- A range is well formed for a field and two constants with words. -/
theorem Expression.wellFormed_between_iff (arguments : List Expression) :
    (Expression.operation .between arguments).WellFormed ↔
      ∃ target lower upper, arguments = [target, .constant lower, .constant upper] ∧
        target.IsField ∧ lower.HasWord ∧ upper.HasWord := by
  constructor
  · intro wellFormed
    cases wellFormed with
    | combination other => simp at other
    | comparison kind => simp [Operator.ofWords] at kind
    | interval field least greatest => exact ⟨_, _, _, rfl, field, least, greatest⟩
  · intro found
    obtain ⟨target, lower, upper, rfl, field, least, greatest⟩ := found
    exact .interval field least greatest

/-- A membership is well formed for a field and a collection of constants with words. -/
theorem Expression.wellFormed_oneOf_iff (arguments : List Expression) :
    (Expression.operation .oneOf arguments).WellFormed ↔
      ∃ target values, arguments = [target, .constant (.collection values)] ∧
        target.IsField ∧ ∀ value ∈ values, value.HasWord := by
  constructor
  · intro wellFormed
    cases wellFormed with
    | combination other => simp at other
    | comparison kind => simp [Operator.ofWords] at kind
    | membership field words => exact ⟨_, _, rfl, field, words⟩
  · intro found
    obtain ⟨target, values, rfl, field, words⟩ := found
    exact .membership field words

/-- A comparison succeeds exactly when it is well formed. -/
theorem Comparison.query_isOk_iff_wellFormed (config : Config) {comparison : Comparison}
    {operator : Operator} (role : operator.role = .compare comparison)
    (arguments : List Expression) :
    (∃ result, comparison.query config operator arguments = .ok result) ↔
      (Expression.operation operator arguments).WellFormed := by
  cases comparison with
  | between =>
      have same : operator = .between := by
        cases operator <;> simp_all [Operator.role]
      rw [query_between_isOk_iff, same, Expression.wellFormed_between_iff]
  | oneOf =>
      have same : operator = .oneOf := by
        cases operator <;> simp_all [Operator.role]
      rw [query_oneOf_isOk_iff, same, Expression.wellFormed_oneOf_iff]
  | _ =>
      rw [query_isOk_iff_of_words config operator arguments (by decide),
        Expression.wellFormed_ofWords_iff (Operator.mem_ofWords role (by decide))]

/-- A combination is well formed when both sides are. -/
theorem Expression.wellFormed_combination_iff {operator : Operator} {occur : Occur}
    (role : operator.role = .combine occur) (left right : Expression) :
    (Expression.operation operator [left, right]).WellFormed ↔
      left.WellFormed ∧ right.WellFormed := by
  have kind : operator = .and ∨ operator = .or := by
    cases operator <;> simp_all [Operator.role]
  constructor
  · intro wellFormed
    cases wellFormed with
    | combination _ first second => exact ⟨first, second⟩
    | comparison other => rcases kind with rfl | rfl <;> simp [Operator.ofWords] at other
    | membership => simp at kind
  · intro both
    exact .combination kind both.1 both.2

/-- A negation is well formed when its operand is. -/
theorem Expression.wellFormed_negation_iff {operator : Operator} (role : operator.role = .negate)
    (operand : Expression) :
    (Expression.operation operator [operand]).WellFormed ↔ operand.WellFormed := by
  have same : operator = .not := by
    cases operator <;> simp_all [Operator.role]
  subst same
  constructor
  · intro wellFormed
    cases wellFormed with
    | negation inner => exact inner
  · exact .negation

namespace Query

/-- A predicate has a query, under every configuration, exactly when it is well formed. -/
theorem exists_ofExpression_iff_wellFormed (config : Config) (expression : Expression) :
    (∃ query, (ofExpression config expression).outcome = .ok query) ↔ expression.WellFormed := by
  simp only [outcome_ofExpression]
  induction expression using Expression.inductionOnRoles with
  | path name =>
      constructor
      · intro found
        simp at found
      · intro wellFormed
        cases wellFormed
  | constant value =>
      constructor
      · intro found
        simp at found
      · intro wellFormed
        cases wellFormed
  | unsupported operator arguments role =>
      rw [outcome_walk_unsupported config role]
      constructor
      · intro found
        simp at found
      · intro wellFormed
        exact absurd role wellFormed.arity.1
  | miscounted operator arguments supported wrong =>
      rw [outcome_walk_of_arity_ne config supported wrong]
      constructor
      · intro found
        simp at found
      · intro wellFormed
        exact absurd wellFormed.arity.2 wrong
  | combination operator occur left right role first second =>
      rw [outcome_walk_combine config role, Expression.wellFormed_combination_iff role, ← first,
        ← second]
      simp only [exists_bind_eq_ok_iff]
      constructor
      · intro found
        obtain ⟨leftQuery, leftFound, rightQuery, rightFound, _⟩ := found
        exact ⟨⟨leftQuery, leftFound⟩, ⟨rightQuery, rightFound⟩⟩
      · intro both
        obtain ⟨⟨leftQuery, leftFound⟩, ⟨rightQuery, rightFound⟩⟩ := both
        exact ⟨leftQuery, leftFound, rightQuery, rightFound, _, rfl⟩
  | negation operator operand role inner =>
      rw [outcome_walk_negate config role, Expression.wellFormed_negation_iff role, ← inner]
      simp only [exists_bind_eq_ok_iff]
      constructor
      · intro found
        obtain ⟨query, operandFound, _⟩ := found
        exact ⟨query, operandFound⟩
      · intro found
        obtain ⟨query, operandFound⟩ := found
        exact ⟨query, operandFound, _, rfl⟩
  | comparison operator comparison arguments role =>
      rw [outcome_walk_compare config role]
      exact Comparison.query_isOk_iff_wellFormed config role arguments

end Query

end FieldQuery
