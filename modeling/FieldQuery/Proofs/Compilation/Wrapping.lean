/-
This file proves that a comparison sees through the operations that fold the case of its field: they
change neither its query nor its fault, and no record but the first one. Every other operator tells
an argument inside of such operations from the bare one.
-/
import FieldQuery.Proofs.Compilation.ArgumentCounts

namespace FieldQuery

/-- This type gives the operators that fold the case of a field. -/
abbrev CaseFolding := { operator : Operator // operator.isCaseFolding = true }

namespace Expression

/-- Every wrapper takes what stands inside of it as its one argument; the first one is outermost. -/
def wrapped (wrappers : List CaseFolding) (inner : Expression) : Expression :=
  wrappers.foldr (fun wrapper expression => .operation wrapper.val [expression]) inner

/-- Wrappers change neither the name of a field nor the fault of an expression that names none. -/
theorem fieldName_wrapped (wrappers : List CaseFolding) (expression : Expression) :
    (expression.wrapped wrappers).fieldName = expression.fieldName := by
  induction wrappers with
  | nil => rfl
  | cons wrapper others inductionHypothesis =>
      change (operation wrapper.val [expression.wrapped others]).fieldName = _
      rw [fieldName, if_pos wrapper.property]
      exact inductionHypothesis

end Expression

namespace Operator

/-- These operators compare a field with constants. -/
def comparing : List Operator :=
  [like, equals, equalsPrimitive, equalsIgnoreCase, notEquals, notEqualsPrimitive, startsWith,
    startsWithIgnoreCase, endsWith, endsWithIgnoreCase, contains, containsIgnoreCase, between,
    oneOf]

theorem mem_comparing_iff (operator : Operator) :
    operator ∈ comparing ↔ ∃ comparison, operator.role = .compare comparison := by
  cases operator <;> simp [comparing, role]

/--
An operator sees through wrappers when, with any arguments behind its first one, its operation comes
to one outcome with wrappers around the first argument and without them, and writes the same records
behind the record of the whole predicate.
-/
def SeesThroughWrappers (operator : Operator) : Prop :=
  ∀ (config : Config) (wrappers : List CaseFolding) (target : Expression) (rest : List Expression),
    let bare := Query.ofExpression config (.operation operator (target :: rest))
    let covered := Query.ofExpression config (.operation operator (target.wrapped wrappers :: rest))
    covered.outcome = bare.outcome ∧ covered.records.tail = bare.records.tail

end Operator

namespace Query

variable {operator : Operator}

/-- A comparison of a wrapped field is compiled like that of the bare one. -/
theorem walk_wrapped (config : Config) {comparison : Comparison}
    (role : operator.role = .compare comparison) (wrappers : List CaseFolding)
    (target : Expression) (rest : List Expression) :
    walk config (.operation operator (target.wrapped wrappers :: rest)) =
      walk config (.operation operator (target :: rest)) := by
  rw [walk_compare config role, walk_compare config role,
    Comparison.query_congr config role (target.fieldName_wrapped wrappers) rest]

/-- A comparing operator sees through wrappers. -/
theorem seesThroughWrappers_of_compare {comparison : Comparison}
    (role : operator.role = .compare comparison) : operator.SeesThroughWrappers := by
  intro config wrappers target rest bare covered
  have same := walk_wrapped config role wrappers target rest
  constructor
  · change (walk config _).outcome = (walk config _).outcome
    rw [same]
  · change (walk config _).records = (walk config _).records
    rw [same]

/-- A wrapped path is refused for its operator, and a bare one for being no operation. -/
theorem outcome_walk_wrapped_path (config : Config) (wrapper : CaseFolding) (name : String) :
    (walk config ((Expression.path name).wrapped [wrapper])).outcome =
      .error (.unsupported wrapper.val [.path name]) := by
  have unsupported : wrapper.val.role = .unsupported := by
    obtain ⟨operator, folds⟩ := wrapper
    obtain rfl | rfl := (Expression.isCaseFolding_iff operator).mp folds <;> rfl
  exact outcome_walk_unsupported config unsupported [.path name]

/-- An operator that does not compare tells a wrapped path from a bare one. -/
theorem role_of_seesThroughWrappers (sees : operator.SeesThroughWrappers) :
    ∃ comparison, operator.role = .compare comparison := by
  have wrapper : CaseFolding := ⟨.lower, rfl⟩
  have both (rest : List Expression) :
      (walk .exact (.operation operator ((Expression.path "").wrapped [wrapper] :: rest))).outcome =
        (walk .exact (.operation operator (.path "" :: rest))).outcome :=
    (sees .exact [wrapper] (.path "") rest).1
  cases role : operator.role with
  | compare comparison => exact ⟨comparison, rfl⟩
  | combine occur =>
      have same := both [.path ""]
      rw [outcome_walk_combine _ role, outcome_walk_combine _ role, outcome_walk_wrapped_path,
        outcome_walk_path] at same
      cases same
  | negate =>
      have same := both []
      rw [outcome_walk_negate _ role, outcome_walk_negate _ role, outcome_walk_wrapped_path,
        outcome_walk_path] at same
      cases same
  | unsupported =>
      have same := both []
      rw [outcome_walk_unsupported _ role, outcome_walk_unsupported _ role] at same
      cases same

/--
Exactly the comparing operators see through wrappers around their first argument, and wrappers never
change which field an expression names, or why it names none.
-/
theorem seesThroughWrappers_iff :
    (∀ operator : Operator, operator.SeesThroughWrappers ↔ operator ∈ Operator.comparing) ∧
    ∀ (wrappers : List CaseFolding) (expression : Expression),
      (expression.wrapped wrappers).fieldName = expression.fieldName := by
  refine ⟨fun operator => ?_, fun wrappers expression => expression.fieldName_wrapped wrappers⟩
  rw [Operator.mem_comparing_iff]
  constructor
  · exact role_of_seesThroughWrappers
  · rintro ⟨comparison, role⟩
    exact seesThroughWrappers_of_compare role

end Query

end FieldQuery
