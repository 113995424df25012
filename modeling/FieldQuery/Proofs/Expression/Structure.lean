/-
This file proves principles of induction over constants and predicates. It says which floats constants
hold and which predicates name a field.
-/
import FieldQuery.Compilation.Comparison
import Mathlib.Data.List.Basic

namespace FieldQuery

theorem Operator.arity_of_combine {operator : Operator} {occur : Occur}
    (role : operator.role = .combine occur) : operator.arity = 2 := by
  cases operator <;> simp_all [Operator.role, Operator.arity]

theorem Operator.arity_of_negate {operator : Operator} (role : operator.role = .negate) :
    operator.arity = 1 := by
  cases operator <;> simp_all [Operator.role, Operator.arity]

/-- A range takes a field and two constants, and every other comparison one constant. -/
theorem Operator.arity_of_compare {operator : Operator} {comparison : Comparison}
    (role : operator.role = .compare comparison) :
    operator.arity = if comparison = .between then 3 else 2 := by
  cases operator <;> cases role <;> rfl

namespace Constant

/-- What passes from all members to every collection, and holds for single values, always holds. -/
@[elab_as_elim]
theorem inductionOnMembers {motive : Constant → Prop} (text : ∀ value, motive (.text value))
    (integer : ∀ value, motive (.integer value)) (float : ∀ value, motive (.float value))
    (boolean : ∀ value, motive (.boolean value)) (date : ∀ value, motive (.date value))
    (collection : ∀ values, (∀ value ∈ values, motive value) → motive (.collection values))
    (value : Constant) : motive value :=
  @Constant.rec motive (fun values => ∀ value ∈ values, motive value) text integer float boolean
    date collection (by simp) (fun _ _ first others => List.forall_mem_cons.mpr ⟨first, others⟩)
    value

mutual

/-- The floats of a constant are its own number or those of its values. -/
def floats : Constant → List Number.Double
  | .float value => [value]
  | .collection values => floatsOf values
  | _ => []

def floatsOf : List Constant → List Number.Double
  | [] => []
  | first :: rest => floats first ++ floatsOf rest

end

theorem floatsOf_eq_flatMap (values : List Constant) : floatsOf values = values.flatMap floats := by
  induction values with
  | nil => rfl
  | cons first rest inductionHypothesis => rw [floatsOf, inductionHypothesis, List.flatMap_cons]

end Constant

namespace Expression

/-- What passes from all arguments to every operation holds for every predicate. -/
@[elab_as_elim]
theorem inductionOnArguments {motive : Expression → Prop}
    (path : ∀ name, motive (.path name)) (constant : ∀ value, motive (.constant value))
    (operation : ∀ operator arguments, (∀ argument ∈ arguments, motive argument) →
      motive (.operation operator arguments)) (expression : Expression) : motive expression :=
  @Expression.rec motive (fun arguments => ∀ argument ∈ arguments, motive argument)
    path constant operation (by simp)
    (fun _ _ first others => List.forall_mem_cons.mpr ⟨first, others⟩) expression

/--
What holds for every predicate that is refused at its root or compares a field, and passes through
combinations and negations, holds for every predicate.
-/
@[elab_as_elim]
theorem inductionOnRoles {motive : Expression → Prop}
    (path : ∀ name, motive (.path name)) (constant : ∀ value, motive (.constant value))
    (unsupported : ∀ operator arguments, operator.role = .unsupported →
      motive (.operation operator arguments))
    (miscounted : ∀ operator arguments, operator.role ≠ .unsupported →
      arguments.length ≠ operator.arity → motive (.operation operator arguments))
    (combination : ∀ operator occur left right, operator.role = .combine occur →
      motive left → motive right → motive (.operation operator [left, right]))
    (negation : ∀ operator operand, operator.role = .negate → motive operand →
      motive (.operation operator [operand]))
    (comparison : ∀ operator comparison arguments, operator.role = .compare comparison →
      motive (.operation operator arguments)) (expression : Expression) : motive expression := by
  induction expression using inductionOnArguments with
  | path name => exact path name
  | constant value => exact constant value
  | operation operator arguments inductionHypothesis =>
      by_cases supported : operator.role = .unsupported
      · exact unsupported operator arguments supported
      by_cases count : arguments.length = operator.arity
      · cases role : operator.role with
        | combine occur =>
            have two : operator.arity = 2 := Operator.arity_of_combine role
            obtain ⟨left, right, rfl⟩ := List.length_eq_two.mp (count.trans two)
            have first := inductionHypothesis left (by simp)
            have second := inductionHypothesis right (by simp)
            exact combination operator occur left right role first second
        | negate =>
            have one : operator.arity = 1 := Operator.arity_of_negate role
            obtain ⟨operand, rfl⟩ := List.length_eq_one_iff.mp (count.trans one)
            exact negation operator operand role (inductionHypothesis operand (by simp))
        | compare kind => exact comparison operator kind arguments role
        | unsupported => exact absurd role supported
      · exact miscounted operator arguments supported count

mutual

/-- These are the comparisons that a predicate combines and negates, from left to right. -/
def comparisons : Expression → List Expression
  | .path _ => []
  | .constant _ => []
  | .operation operator arguments =>
    match operator.role with
    | .combine _ | .negate => comparisonsOf arguments
    | .compare _ => [.operation operator arguments]
    | .unsupported => []

def comparisonsOf : List Expression → List Expression
  | [] => []
  | first :: rest => comparisons first ++ comparisonsOf rest

end

theorem comparisons_combine {operator : Operator} {occur : Occur}
    (role : operator.role = .combine occur) (left right : Expression) :
    (operation operator [left, right]).comparisons = left.comparisons ++ right.comparisons := by
  simp [comparisons, comparisonsOf, role]

theorem comparisons_negate {operator : Operator} (role : operator.role = .negate)
    (operand : Expression) : (operation operator [operand]).comparisons = operand.comparisons := by
  simp [comparisons, comparisonsOf, role]

theorem comparisons_compare {operator : Operator} {comparison : Comparison}
    (role : operator.role = .compare comparison) (arguments : List Expression) :
    (operation operator arguments).comparisons = [.operation operator arguments] := by
  simp [comparisons, role]

/-- A field is a path, also inside any number of operators that fold case. -/
inductive IsField : Expression → Prop where
  | path (name : String) : IsField (.path name)
  | folded {operator : Operator} {inner : Expression} (others : List Expression)
      (folds : operator = .lower ∨ operator = .upper) (field : IsField inner) :
      IsField (.operation operator (inner :: others))

/-- A field is named by its path, also inside any number of operators that fold case. -/
inductive Names : Expression → String → Prop where
  | path (name : String) : Names (.path name) name
  | folded {operator : Operator} {inner : Expression} {name : String} (others : List Expression)
      (folds : operator = .lower ∨ operator = .upper) (inside : Names inner name) :
      Names (.operation operator (inner :: others)) name

theorem isCaseFolding_iff (operator : Operator) :
    operator.isCaseFolding = true ↔ operator = .lower ∨ operator = .upper := by
  cases operator <;> simp [Operator.isCaseFolding]

/-- A predicate has a field name exactly when it is a field. -/
theorem fieldName_isOk_iff (expression : Expression) :
    (∃ field, expression.fieldName = .ok field) ↔ expression.IsField := by
  constructor
  · induction expression using inductionOnArguments with
    | path name => exact fun _ => .path name
    | constant value => simp [fieldName]
    | operation operator arguments inductionHypothesis =>
        intro named
        cases arguments with
        | nil =>
            unfold fieldName at named
            split at named <;> simp at named
        | cons inner others =>
            unfold fieldName at named
            split at named
            · rename_i folds
              exact .folded others ((isCaseFolding_iff operator).mp folds)
                (inductionHypothesis inner (by simp) named)
            · simp at named
  · intro field
    induction field with
    | path name => exact ⟨name, rfl⟩
    | folded others folds _ inductionHypothesis =>
        obtain ⟨name, named⟩ := inductionHypothesis
        refine ⟨name, ?_⟩
        rw [fieldName, if_pos ((isCaseFolding_iff _).mpr folds)]
        exact named

end Expression

end FieldQuery
