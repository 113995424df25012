/-
This file proves which wrong numbers of arguments are refused on the way through a predicate.
-/
import FieldQuery.Proofs.Compilation.Faults
import FieldQuery.Proofs.Compilation.Reading

namespace FieldQuery

namespace Expression

/-- These operations fold the case of a field; each of them wraps the next one or the field. -/
def foldings : Expression → List Expression
  | .path _ => []
  | .constant _ => []
  | .operation operator arguments =>
    if operator.isCaseFolding then
      .operation operator arguments ::
        match arguments with
        | [] => []
        | inner :: _ => inner.foldings
    else []

/-- A comparison looks for its field through the operations that wrap its first argument. -/
def targetFoldings : Expression → List Expression
  | .operation operator (target :: _) =>
    match operator.role with
    | .compare _ => target.foldings
    | _ => []
  | _ => []

def wrappers (expression : Expression) : List Expression :=
  expression.reached.flatMap targetFoldings

/-- Whatever names a field wraps something in each operation around it. -/
theorem Names.ne_nil_of_mem_foldings {expression : Expression} {name : String}
    (named : expression.Names name) {operator : Operator} {arguments : List Expression}
    (found : .operation operator arguments ∈ expression.foldings) : arguments ≠ [] := by
  induction named with
  | path name => simp [foldings] at found
  | @folded outer inner name others folds inside inductionHypothesis =>
      rw [foldings, if_pos ((isCaseFolding_iff _).mpr folds)] at found
      obtain same | deeper := List.mem_cons.mp found
      · cases same
        exact List.cons_ne_nil _ _
      · exact inductionHypothesis deeper

/-- Fields agree when they differ only behind the first arguments of the operations around them. -/
inductive AgreeInside : Expression → Expression → Prop where
  | same (expression : Expression) : AgreeInside expression expression
  | folded {operator : Operator} {inner other : Expression} (rest others : List Expression)
      (folds : operator = .lower ∨ operator = .upper) (inside : AgreeInside inner other) :
      AgreeInside (.operation operator (inner :: rest)) (.operation operator (other :: others))

/-- Predicates agree when they differ only in fields, and these agree. -/
inductive AgreeInFields : Expression → Expression → Prop where
  | same (expression : Expression) : AgreeInFields expression expression
  | comparison {operator : Operator} {comparison : Comparison} {target other : Expression}
      (role : operator.role = .compare comparison) (inside : AgreeInside target other)
      (rest : List Expression) :
      AgreeInFields (.operation operator (target :: rest)) (.operation operator (other :: rest))
  | combination {operator : Operator} {occur : Occur} {left right first second : Expression}
      (role : operator.role = .combine occur) (lefts : AgreeInFields left first)
      (rights : AgreeInFields right second) :
      AgreeInFields (.operation operator [left, right]) (.operation operator [first, second])
  | negation {operator : Operator} {operand other : Expression} (role : operator.role = .negate)
      (inside : AgreeInFields operand other) :
      AgreeInFields (.operation operator [operand]) (.operation operator [other])

/-- Fields that agree have one name or one fault. -/
theorem AgreeInside.fieldName_eq {left right : Expression} (agree : AgreeInside left right) :
    left.fieldName = right.fieldName := by
  induction agree with
  | same => rfl
  | folded rest others folds _ inductionHypothesis =>
      have isFolding := (isCaseFolding_iff _).mpr folds
      rw [fieldName, fieldName, if_pos isFolding, if_pos isFolding]
      exact inductionHypothesis

end Expression

namespace Comparison

variable {target other : Expression} (config : Config) (operator : Operator)

/-- A comparison of one constant depends on its target only through the name of the field. -/
theorem onWords_congr (same : target.fieldName = other.fieldName)
    (take : Constant → Except Fault (List String)) (build : String → List String → Query)
    (argument : Expression) :
    onWords take build operator [target, argument] =
      onWords take build operator [other, argument] := by
  cases argument with
  | constant value =>
      change (target.fieldName >>= fun _ => take value >>= _) = (other.fieldName >>= _)
      rw [same]
  | _ => rfl

/-- A range depends on its target only through the name of the field. -/
theorem query_between_congr (same : target.fieldName = other.fieldName)
    (lower upper : Expression) :
    query config .between operator [target, lower, upper] =
      query config .between operator [other, lower, upper] := by
  cases lower with
  | constant least =>
      cases upper with
      | constant greatest =>
          change (target.fieldName >>= fun _ => least.words >>= _) = (other.fieldName >>= _)
          rw [same]
      | _ => rfl
  | _ => rfl

/-- Every comparison depends on its target only through the name of the field. -/
theorem query_congr {comparison : Comparison} {operator : Operator}
    (role : operator.role = .compare comparison) (same : target.fieldName = other.fieldName)
    (rest : List Expression) :
    comparison.query config operator (target :: rest) =
      comparison.query config operator (other :: rest) := by
  by_cases count : (target :: rest).length = operator.arity
  · rw [Operator.arity_of_compare role] at count
    by_cases interval : comparison = .between
    · subst interval
      obtain ⟨lower, upper, rfl⟩ := List.length_eq_two.mp (Nat.succ.inj count)
      exact query_between_congr config operator same lower upper
    · rw [if_neg interval] at count
      obtain ⟨argument, rfl⟩ := List.length_eq_one_iff.mp (Nat.succ.inj count)
      cases comparison with
      | between => exact absurd rfl interval
      | oneOf =>
          change (target.fieldName >>= _) = (other.fieldName >>= _)
          rw [same]
      | _ => exact onWords_congr operator same _ _ argument
  · have alsoWrong : (other :: rest).length ≠ operator.arity := count
    rw [query_of_arity_ne config role count, query_of_arity_ne config role alsoWrong]
    rfl

end Comparison

namespace Query

open Expression

variable (config : Config)

/-- Predicates that agree are compiled alike. -/
theorem outcome_walk_congr {left right : Expression} (agree : AgreeInFields left right) :
    (walk config left).outcome = (walk config right).outcome := by
  induction agree with
  | same => rfl
  | comparison role inside rest =>
      rw [outcome_walk_compare config role, outcome_walk_compare config role]
      exact Comparison.query_congr config role inside.fieldName_eq rest
  | combination role _ _ firstHypothesis secondHypothesis =>
      rw [outcome_walk_combine config role, outcome_walk_combine config role, firstHypothesis,
        secondHypothesis]
  | negation role _ inductionHypothesis =>
      rw [outcome_walk_negate config role, outcome_walk_negate config role, inductionHypothesis]

variable {config} {expression : Expression} {operator : Operator} {arguments : List Expression}

/-- An operation with a wrong number of arguments is faulty, with or without a query. -/
theorem faulty_of_miscounted (wrong : arguments.length ≠ operator.arity) :
    Faulty config (.operation operator arguments) := by
  by_cases unsupported : operator.role = .unsupported
  · have other : operator ∉ Operator.connectives := by
      simp [Operator.mem_connectives_iff, unsupported]
    exact .refused other (outcome_walk_unsupported config unsupported arguments)
  · exact faulty_of_arity_ne unsupported wrong

/-- The operations around the field of a sound comparison wrap something. -/
theorem ne_nil_of_mem_targetFoldings {node : Expression} (sound : ¬ Faulty config node)
    (found : .operation operator arguments ∈ node.targetFoldings) : arguments ≠ [] := by
  match node with
  | .path _ => simp [targetFoldings] at found
  | .constant _ => simp [targetFoldings] at found
  | .operation _ [] => simp [targetFoldings] at found
  | .operation outer (target :: others) =>
      cases role : outer.role with
      | compare comparison =>
          simp only [targetFoldings, role] at found
          have other : outer ∉ Operator.connectives := by simp [Operator.mem_connectives_iff, role]
          have compiled := outcome_walk_compare config role (target :: others)
          rw [Comparison.query_eq_build] at compiled
          cases read : Comparison.operands comparison outer (target :: others) with
          | error fault =>
              rw [read] at compiled
              exact absurd (.refused other compiled) sound
          | ok supply =>
              obtain ⟨_, _, same, named⟩ := (Comparison.ensures_operands supply read).field
              obtain ⟨rfl, _⟩ := List.cons.inj same
              exact named.ne_nil_of_mem_foldings found
      | _ => simp [targetFoldings, role] at found

/-- A predicate is refused when it reaches an operation with a wrong number of arguments. -/
theorem not_compiled_of_mem_reached (wrong : arguments.length ≠ operator.arity)
    (found : .operation operator arguments ∈ expression.reached) :
    ¬ ∃ query, (walk config expression).outcome = .ok query := by
  rw [exists_compiled_iff]
  exact fun sound => sound _ found (faulty_of_miscounted wrong)

/-- A predicate is refused when an operation around one of its fields wraps nothing. -/
theorem not_compiled_of_mem_wrappers
    (found : .operation operator [] ∈ expression.wrappers) :
    ¬ ∃ query, (walk config expression).outcome = .ok query := by
  rw [exists_compiled_iff]
  intro sound
  obtain ⟨node, reached, inside⟩ := List.mem_flatMap.mp found
  exact ne_nil_of_mem_targetFoldings (sound node reached) inside rfl

/-- A predicate that is not compiled has a fault. -/
theorem exists_fault_of_not_compiled
    (none : ¬ ∃ query, (ofExpression config expression).outcome = .ok query) :
    ∃ fault, (ofExpression config expression).outcome = .error fault := by
  cases outcome : (ofExpression config expression).outcome with
  | error fault => exact ⟨fault, rfl⟩
  | ok query => exact absurd ⟨query, outcome⟩ none

/--
An operation with a wrong number of arguments is refused by itself for this number, unless its
operator has no query, and every predicate that reaches it is refused. Around a field, only an
operation without arguments is refused: arguments behind the first one do not change the outcome.
-/
theorem fault_of_miscounted (config : Config) (wrong : arguments.length ≠ operator.arity) :
    (operator ∉ Operator.withoutQuery → ∃ fault,
      (ofExpression config (.operation operator arguments)).outcome = .error fault ∧
      fault = .argumentCount operator arguments.length ∧ fault.kind = .invalidArgument) ∧
    (operator ∈ Operator.withoutQuery → ∃ fault,
      (ofExpression config (.operation operator arguments)).outcome = .error fault ∧
      fault = .unsupported operator arguments ∧ fault.kind = .unsupportedOperation) ∧
    (∀ expression : Expression, .operation operator arguments ∈ expression.reached →
      ∃ fault, (ofExpression config expression).outcome = .error fault) ∧
    (∀ expression : Expression, .operation operator arguments ∈ expression.wrappers →
      arguments = [] → ∃ fault, (ofExpression config expression).outcome = .error fault) ∧
    ∀ left right, AgreeInFields left right →
      (ofExpression config left).outcome = (ofExpression config right).outcome := by
  refine ⟨?_, ?_, ?_, ?_, fun _ _ => outcome_walk_congr config⟩
  · intro supported
    rw [Operator.mem_withoutQuery_iff] at supported
    exact ⟨_, outcome_walk_of_arity_ne config supported wrong, rfl, rfl⟩
  · intro unsupported
    rw [Operator.mem_withoutQuery_iff] at unsupported
    exact ⟨_, outcome_walk_unsupported config unsupported arguments, rfl, rfl⟩
  · intro expression found
    exact exists_fault_of_not_compiled (not_compiled_of_mem_reached wrong found)
  · rintro expression found rfl
    exact exists_fault_of_not_compiled (not_compiled_of_mem_wrappers found)

/--
A second argument of a lowercase field is ignored, and a check for null with two arguments is
unsupported; but three sides, two operands and an uppercase of nothing are refused.
-/
theorem fault_of_miscounted_lower :
    let equal := fun target => Expression.operation .equals [target, .constant (.text "x")]
    let field := Expression.operation .lower [.path "a"]
    (ofExpression .exact (equal (.operation .lower [.path "a", .path "b"]))).outcome =
      .ok (.term "a" "x" .one) ∧
    (∃ fault, (ofExpression .exact (.operation .isNull [field, field])).outcome = .error fault ∧
      fault = .unsupported .isNull [field, field] ∧ fault.kind = .unsupportedOperation) ∧
    (∃ fault, (ofExpression .exact (.operation .or [field, field, field])).outcome = .error fault ∧
      fault = .argumentCount .or 3 ∧ fault.kind = .invalidArgument) ∧
    (∃ fault, (ofExpression .exact (.operation .and
      [equal field, .operation .not [equal field, equal field]])).outcome = .error fault) ∧
    (∃ fault, (ofExpression .exact (.operation .not [equal (.operation .upper [])])).outcome =
      .error fault) := by
  intro equal field
  have paths : [field, field].length ≠ Operator.isNull.arity := by decide
  have sides : [field, field, field].length ≠ Operator.or.arity := by decide
  have operands : [equal field, equal field].length ≠ Operator.not.arity := by decide
  have nothing : ([] : List Expression).length ≠ Operator.upper.arity := by decide
  obtain ⟨_, unsupported, _, _, agree⟩ := fault_of_miscounted .exact paths
  refine ⟨?_, unsupported (by decide), (fault_of_miscounted .exact sides).1 (by decide), ?_, ?_⟩
  · have inside : AgreeInside (.operation .lower [.path "a", .path "b"]) field :=
      .folded _ _ (.inl rfl) (.same _)
    exact agree _ _ (.comparison rfl inside [.constant (.text "x")])
  · refine (fault_of_miscounted .exact operands).2.2.1 _ ?_
    simp [reached, Operator.role]
  · refine (fault_of_miscounted .exact nothing).2.2.2.1 _ ?_ rfl
    simp [wrappers, reached, targetFoldings, foldings, equal, Operator.role, Operator.isCaseFolding]

end Query

end FieldQuery
