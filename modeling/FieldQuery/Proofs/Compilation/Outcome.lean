/-
This file says how each node of a predicate is compiled and what its compilation ends with.
-/
import FieldQuery.Compilation.Predicate
import FieldQuery.Proofs.Expression.Structure
import FieldQuery.Proofs.Text.Escape

namespace FieldQuery

/-- Two steps succeed when the first one does and the second one does on its result. -/
theorem exists_bind_eq_ok_iff {Result Next : Type} (first : Except Fault Result)
    (second : Result → Except Fault Next) :
    (∃ next, first >>= second = .ok next) ↔
      ∃ result, first = .ok result ∧ ∃ next, second result = .ok next := by
  cases first with
  | error fault => simp [bind, Except.bind]
  | ok result => simp [bind, Except.bind]

theorem Constant.escapedWords_eq_map (value : Constant) :
    value.escapedWords = value.words.map (List.map Text.escape) := by
  unfold escapedWords words
  rw [Text.words_escape]
  cases Text.words value.display <;> rfl

/-- A constant with words gives exactly those. -/
theorem Constant.words_eq_ok {value : Constant} (some : Text.words value.display ≠ []) :
    value.words = .ok (Text.words value.display) := by
  unfold words
  split
  · contradiction
  · simp_all

/-- A constant with words gives exactly the escapes of those. -/
theorem Constant.escapedWords_eq_ok {value : Constant} (some : Text.words value.display ≠ []) :
    value.escapedWords = .ok ((Text.words value.display).map Text.escape) := by
  rw [escapedWords_eq_map, words_eq_ok some]
  rfl

/-- A constant gives its words exactly when it has some. -/
theorem Constant.words_isOk_iff (value : Constant) :
    (∃ words, value.words = .ok words) ↔ Text.words value.display ≠ [] := by
  constructor
  · intro found none
    obtain ⟨list, taken⟩ := found
    simp [words, none] at taken
  · intro some
    exact ⟨_, words_eq_ok some⟩

namespace Comparison

/-- This comparison takes the words of its one constant in a given way and builds a query of them. -/
def onWords (take : Constant → Except Fault (List String)) (build : String → List String → Query)
    (operator : Operator) (arguments : List Expression) : Except Fault Query := do
  let (target, value) ← pair operator arguments
  let field ← target.fieldName
  let words ← take value
  return build field words

section

variable (config : Config)

theorem query_like : query config .like = onWords Constant.words (containment config) := rfl

theorem query_equal : query config .equal = onWords Constant.words (equality config) := rfl

theorem query_different : query config .different =
    onWords Constant.words (fun field words => .allWith .mustNot [equality config field words]) :=
  rfl

theorem query_startsWith :
    query config .startsWith = onWords Constant.escapedWords (opening config) := rfl

theorem query_endsWith :
    query config .endsWith = onWords Constant.escapedWords (ending config) := rfl

theorem query_contains :
    query config .contains = onWords Constant.escapedWords (containment config) := rfl

/-- Every comparison but two takes the words of one constant, as they are or escaped. -/
theorem query_eq_onWords {comparison : Comparison}
    (one : comparison ≠ .between ∧ comparison ≠ .oneOf) :
    ∃ take build, (take = Constant.words ∨ take = Constant.escapedWords) ∧
      query config comparison = onWords take build := by
  cases comparison with
  | like => exact ⟨_, _, .inl rfl, query_like config⟩
  | equal => exact ⟨_, _, .inl rfl, query_equal config⟩
  | different => exact ⟨_, _, .inl rfl, query_different config⟩
  | startsWith => exact ⟨_, _, .inr rfl, query_startsWith config⟩
  | endsWith => exact ⟨_, _, .inr rfl, query_endsWith config⟩
  | contains => exact ⟨_, _, .inr rfl, query_contains config⟩
  | between => exact absurd rfl one.1
  | oneOf => exact absurd rfl one.2

end

/-- A target and a constant are found exactly in a list of these two. -/
theorem pair_eq_ok_iff {operator : Operator} {arguments : List Expression} {target : Expression}
    {value : Constant} :
    pair operator arguments = .ok (target, value) ↔ arguments = [target, .constant value] := by
  unfold pair
  split <;> simp_all

/-- A target and two constants are found exactly in a list of these three. -/
theorem triple_eq_ok_iff {operator : Operator} {arguments : List Expression}
    {target : Expression} {lower upper : Constant} :
    triple operator arguments = .ok (target, lower, upper) ↔
      arguments = [target, .constant lower, .constant upper] := by
  unfold triple
  split <;> simp_all

/-- A list that is no pair is refused for its length. -/
theorem pair_of_length_ne {operator : Operator} {arguments : List Expression}
    (wrong : arguments.length ≠ 2) :
    pair operator arguments = .error (.argumentCount operator arguments.length) := by
  unfold pair
  split <;> simp_all

/-- A list that is no triple is refused for its length. -/
theorem triple_of_length_ne {operator : Operator} {arguments : List Expression}
    (wrong : arguments.length ≠ 3) :
    triple operator arguments = .error (.argumentCount operator arguments.length) := by
  unfold triple
  split <;> simp_all

/-- A comparison of one constant with a wrong number of arguments is refused. -/
theorem onWords_of_length_ne {take : Constant → Except Fault (List String)}
    {build : String → List String → Query} {operator : Operator} {arguments : List Expression}
    (wrong : arguments.length ≠ 2) :
    onWords take build operator arguments =
      .error (.argumentCount operator arguments.length) := by
  rw [onWords, pair_of_length_ne wrong]
  rfl

/-- A membership with a wrong number of arguments is refused. -/
theorem query_oneOf_of_length_ne (config : Config) {operator : Operator}
    {arguments : List Expression} (wrong : arguments.length ≠ 2) :
    query config .oneOf operator arguments =
      .error (.argumentCount operator arguments.length) := by
  match arguments, wrong with
  | [], _ => rfl
  | [_], _ => rfl
  | [_, _], wrong => exact absurd rfl wrong
  | _ :: _ :: _ :: _, _ => rfl

theorem query_oneOf_collection (config : Config) (operator : Operator) (target : Expression)
    (values : List Constant) :
    query config .oneOf operator [target, .constant (.collection values)] = (do
      let field ← target.fieldName
      let queries ← equalities config field values
      return .allWith .should queries) := rfl

/-- A membership in anything else is refused after its field has been found. -/
theorem query_oneOf_of_ne_collection (config : Config) (operator : Operator) (target : Expression)
    {argument : Expression} (other : ∀ values, argument ≠ .constant (.collection values)) :
    query config .oneOf operator [target, argument] = (do
      let _ ← target.fieldName
      .error (.notACollection argument)) := by
  cases argument with
  | path name => rfl
  | operation inner arguments => rfl
  | constant value =>
      cases value with
      | collection values => exact absurd rfl (other values)
      | _ => rfl

/-- The arguments of a membership are a target and a collection, or wrong in kind or in number. -/
theorem membership_cases (arguments : List Expression) :
    (∃ target values, arguments = [target, .constant (.collection values)]) ∨
    (∃ target argument, arguments = [target, argument] ∧
      ∀ values, argument ≠ .constant (.collection values)) ∨
    arguments.length ≠ 2 := by
  by_cases two : arguments.length = 2
  · obtain ⟨target, argument, rfl⟩ := List.length_eq_two.mp two
    by_cases collected : ∃ values, argument = .constant (.collection values)
    · obtain ⟨values, rfl⟩ := collected
      exact .inl ⟨target, values, rfl⟩
    · have other : ∀ values, argument ≠ .constant (.collection values) := by
        intro values same
        exact collected ⟨values, same⟩
      exact .inr (.inl ⟨target, argument, rfl, other⟩)
  · exact .inr (.inr two)

/-- A comparison with a wrong number of arguments is refused before anything else. -/
theorem query_of_arity_ne (config : Config) {comparison : Comparison} {operator : Operator}
    {arguments : List Expression} (role : operator.role = .compare comparison)
    (wrong : arguments.length ≠ operator.arity) :
    comparison.query config operator arguments =
      .error (.argumentCount operator arguments.length) := by
  have two (notBetween : comparison ≠ .between) : arguments.length ≠ 2 := by
    cases operator <;> simp_all [Operator.role, Operator.arity]
  have three (isBetween : comparison = .between) : arguments.length ≠ 3 := by
    cases operator <;> simp_all [Operator.role, Operator.arity]
  cases comparison with
  | between =>
      rw [query, triple_of_length_ne (three rfl)]
      rfl
  | oneOf => exact query_oneOf_of_length_ne config (two (by decide))
  | _ => exact onWords_of_length_ne (two (by decide))

end Comparison

namespace Query

variable (config : Config) {operator : Operator}

@[simp] theorem outcome_ofExpression (expression : Expression) :
    (ofExpression config expression).outcome = (walk config expression).outcome := rfl

@[simp] theorem outcome_walk_path (name : String) :
    (walk config (.path name)).outcome = .error (.notAnOperation (.path name)) := by
  rw [walk.eq_def]
  rfl

@[simp] theorem outcome_walk_constant (value : Constant) :
    (walk config (.constant value)).outcome = .error (.notAnOperation (.constant value)) := by
  rw [walk.eq_def]
  rfl

/-- The role of its operator decides about an operation. -/
theorem walk_operation (operator : Operator) (arguments : List Expression) :
    walk config (.operation operator arguments) = .note (.operator operator)
      (match operator.role with
        | .combine occur =>
          match arguments with
          | [left, right] => do
            let first ← walk config left
            let second ← walk config right
            return .allWith occur [first, second]
          | _ => .fail (.argumentCount operator arguments.length)
        | .negate =>
          match arguments with
          | [operand] => do
            let inner ← walk config operand
            return .allWith .mustNot [inner]
          | _ => .fail (.argumentCount operator arguments.length)
        | .compare comparison => .ofOutcome (comparison.query config operator arguments)
        | .unsupported => .fail (.unsupported operator arguments)) :=
  walk.eq_def config (.operation operator arguments)

/-- A combination is a record of its operator and a run through both sides. -/
theorem walk_combine {occur : Occur} (role : operator.role = .combine occur)
    (left right : Expression) :
    walk config (.operation operator [left, right]) = .note (.operator operator) (do
      let first ← walk config left
      let second ← walk config right
      return allWith occur [first, second]) := by
  simp only [walk_operation, role]

/-- A negation is a record of its operator and a run through its operand. -/
theorem walk_negate (role : operator.role = .negate) (operand : Expression) :
    walk config (.operation operator [operand]) = .note (.operator operator) (do
      let inner ← walk config operand
      return allWith .mustNot [inner]) := by
  simp only [walk_operation, role]

/-- A comparison is a record of its operator. -/
theorem walk_compare {comparison : Comparison} (role : operator.role = .compare comparison)
    (arguments : List Expression) :
    walk config (.operation operator arguments) = .note (.operator operator)
      (.ofOutcome (comparison.query config operator arguments)) := by
  simp only [walk_operation, role]

theorem walk_unsupported (role : operator.role = .unsupported) (arguments : List Expression) :
    walk config (.operation operator arguments) = .note (.operator operator)
      (.fail (.unsupported operator arguments)) := by
  simp only [walk_operation, role]

/-- Every supported operator is recorded before the number of its arguments is checked. -/
theorem walk_of_arity_ne (supported : operator.role ≠ .unsupported)
    {arguments : List Expression} (wrong : arguments.length ≠ operator.arity) :
    walk config (.operation operator arguments) = .note (.operator operator)
      (.fail (.argumentCount operator arguments.length)) := by
  cases role : operator.role with
  | combine occur =>
      have two : operator.arity = 2 := Operator.arity_of_combine role
      simp only [walk_operation, role]
      split
      · simp [two] at wrong
      · rfl
  | negate =>
      have one : operator.arity = 1 := Operator.arity_of_negate role
      simp only [walk_operation, role]
      split
      · simp [one] at wrong
      · rfl
  | compare comparison =>
      rw [walk_compare config role, Comparison.query_of_arity_ne config role wrong]
      rfl
  | unsupported => exact absurd role supported

theorem outcome_walk_combine {occur : Occur} (role : operator.role = .combine occur)
    (left right : Expression) :
    (walk config (.operation operator [left, right])).outcome = (do
      let first ← (walk config left).outcome
      let second ← (walk config right).outcome
      return allWith occur [first, second]) := by
  simp only [walk_combine config role, Journal.outcome_note, Journal.outcome_bind]
  rfl

theorem outcome_walk_negate (role : operator.role = .negate) (operand : Expression) :
    (walk config (.operation operator [operand])).outcome = (do
      let inner ← (walk config operand).outcome
      return allWith .mustNot [inner]) := by
  simp only [walk_negate config role, Journal.outcome_note, Journal.outcome_bind]
  rfl

theorem outcome_walk_compare {comparison : Comparison} (role : operator.role = .compare comparison)
    (arguments : List Expression) :
    (walk config (.operation operator arguments)).outcome =
      comparison.query config operator arguments := by
  rw [walk_compare config role]
  rfl

/-- A comparison builds its query of the field that it finds and of the words that it takes. -/
theorem outcome_ofExpression_onWords {comparison : Comparison}
    (role : operator.role = .compare comparison)
    {take : Constant → Except Fault (List String)} {build : String → List String → Query}
    (built : comparison.query config = Comparison.onWords take build) {target : Expression}
    {field : String} (named : target.fieldName = .ok field) {value : Constant} {words : List String}
    (taken : take value = .ok words) :
    (ofExpression config (.operation operator [target, .constant value])).outcome =
      .ok (build field words) := by
  have found : Comparison.pair operator [target, .constant value] = .ok (target, value) := rfl
  rw [outcome_ofExpression, outcome_walk_compare config role, built, Comparison.onWords, found]
  change (target.fieldName >>= fun field => take value >>= fun words => _) = _
  rw [named, taken]
  rfl

theorem outcome_walk_unsupported (role : operator.role = .unsupported)
    (arguments : List Expression) :
    (walk config (.operation operator arguments)).outcome =
      .error (.unsupported operator arguments) := by
  rw [walk_unsupported config role]
  rfl

/-- Every supported operator checks the number of its arguments before it looks at one of them. -/
theorem outcome_walk_of_arity_ne (supported : operator.role ≠ .unsupported)
    {arguments : List Expression} (wrong : arguments.length ≠ operator.arity) :
    (walk config (.operation operator arguments)).outcome =
      .error (.argumentCount operator arguments.length) := by
  rw [walk_of_arity_ne config supported wrong]
  rfl

end Query

end FieldQuery
