/-
This file defines the fold of a predicate, which forgets the case of its texts, and proves what two
predicates with one fold have in common.
-/
import FieldQuery.Proofs.Expression.Structure
import FieldQuery.Proofs.Text.FoldedWords

namespace FieldQuery

namespace Constant

mutual

/-- The fold of a constant has the lowercase of each text and all other values. -/
def foldCase : Constant → Constant
  | .text value => .text (Text.lowercase value)
  | .integer value => .integer value
  | .float value => .float value
  | .boolean value => .boolean value
  | .date value => .date value
  | .collection values => .collection (foldCaseItems values)

def foldCaseItems : List Constant → List Constant
  | [] => []
  | first :: rest => foldCase first :: foldCaseItems rest

end

theorem foldCaseItems_eq_map (values : List Constant) :
    foldCaseItems values = values.map foldCase := by
  induction values with
  | nil => rfl
  | cons first rest inductionHypothesis => rw [foldCaseItems, inductionHypothesis, List.map_cons]

theorem foldCase_eq_collection_iff {value : Constant} {folded : List Constant} :
    value.foldCase = .collection (foldCaseItems folded) ↔
      ∃ values, value = .collection values ∧ values.map foldCase = folded.map foldCase := by
  cases value <;> simp [foldCase, foldCaseItems_eq_map]

theorem displays_eq_map (values : List Constant) : displays values = values.map display := by
  induction values with
  | nil => rfl
  | cons first rest inductionHypothesis => rw [displays, inductionHypothesis, List.map_cons]

end Constant

/-- Lists with equal images of one kind have equal images of another that depends on it. -/
theorem map_eq_map_of_imp {Source First Second : Type} {first : Source → First}
    {second : Source → Second} {left right : List Source}
    (depends : ∀ item ∈ left, ∀ other, first item = first other → second item = second other)
    (same : left.map first = right.map first) : left.map second = right.map second := by
  induction left generalizing right with
  | nil =>
      have empty : right = [] := by simpa using same.symm
      rw [empty]
  | cons item rest inductionHypothesis =>
      cases right with
      | nil => simp at same
      | cons other others =>
          obtain ⟨head, tail⟩ := List.cons.inj same
          obtain ⟨headDepends, tailDepends⟩ := List.forall_mem_cons.mp depends
          rw [List.map_cons, List.map_cons, headDepends other head,
            inductionHypothesis tailDepends tail]

namespace Constant

/-- The lowercase of a display depends on the fold of the constant only. -/
theorem lowercase_display_congr {left right : Constant} (same : left.foldCase = right.foldCase) :
    Text.lowercase left.display = Text.lowercase right.display := by
  induction left using inductionOnMembers generalizing right with
  | text value => cases right <;> simp_all [foldCase, display]
  | integer value => cases right <;> simp_all [foldCase]
  | float value => cases right <;> simp_all [foldCase]
  | boolean value => cases right <;> simp_all [foldCase]
  | date value => cases right <;> simp_all [foldCase]
  | collection values inductionHypothesis =>
      cases right with
      | collection others =>
          rw [foldCase, foldCase, Constant.collection.injEq, foldCaseItems_eq_map,
            foldCaseItems_eq_map] at same
          rw [display, display, Text.lowercase_intercalate, Text.lowercase_intercalate,
            displays_eq_map, displays_eq_map, List.map_map, List.map_map]
          apply congrArg
          exact map_eq_map_of_imp
            (fun value member other => inductionHypothesis value member) same
      | _ => simp [foldCase] at same

/-- The folded words of a constant depend on its fold only. -/
theorem map_lowercase_words_congr {left right : Constant}
    (same : left.foldCase = right.foldCase) :
    (Text.words left.display).map Text.lowercase =
      (Text.words right.display).map Text.lowercase := by
  rw [Text.map_lowercase_words, Text.map_lowercase_words, lowercase_display_congr same]

end Constant

namespace Expression

mutual

/-- The fold of a predicate has the folds of its constants and all else. -/
def foldCase : Expression → Expression
  | .path name => .path name
  | .constant value => .constant value.foldCase
  | .operation operator arguments => .operation operator (foldCaseItems arguments)

def foldCaseItems : List Expression → List Expression
  | [] => []
  | first :: rest => foldCase first :: foldCaseItems rest

end

theorem foldCaseItems_eq_map (arguments : List Expression) :
    foldCaseItems arguments = arguments.map foldCase := by
  induction arguments with
  | nil => rfl
  | cons first rest inductionHypothesis => rw [foldCaseItems, inductionHypothesis, List.map_cons]

theorem foldCase_eq_path_iff {expression : Expression} {name : String} :
    expression.foldCase = .path name ↔ expression = .path name := by
  cases expression <;> simp [foldCase]

theorem foldCase_eq_constant_iff {expression : Expression} {folded : Constant} :
    expression.foldCase = .constant folded ↔
      ∃ value, expression = .constant value ∧ value.foldCase = folded := by
  cases expression <;> simp [foldCase]

/-- Only an operation has the fold of an operation. -/
theorem foldCase_eq_operation_iff {expression : Expression} {operator : Operator}
    {folded : List Expression} :
    expression.foldCase = .operation operator folded ↔
      ∃ arguments, expression = .operation operator arguments ∧
        arguments.map foldCase = folded := by
  cases expression <;> simp [foldCase, foldCaseItems_eq_map]

section

variable {operator : Operator} {arguments : List Expression} {right : Expression}

/-- A predicate with the fold of an operation applies the operator to arguments with one fold. -/
theorem exists_of_foldCase_operation
    (same : (Expression.operation operator arguments).foldCase = right.foldCase) :
    ∃ others, right = .operation operator others ∧
      arguments.map foldCase = others.map foldCase := by
  rw [foldCase, foldCaseItems_eq_map] at same
  obtain ⟨others, shape, images⟩ := foldCase_eq_operation_iff.mp same.symm
  exact ⟨others, shape, images.symm⟩

/-- A list with the fold of one predicate has one predicate. -/
theorem exists_of_map_foldCase_singleton {operand : Expression}
    (same : [operand].map foldCase = arguments.map foldCase) :
    ∃ other, arguments = [other] ∧ operand.foldCase = other.foldCase := by
  obtain ⟨other, rest, rfl, head, tail⟩ := List.map_eq_cons_iff.mp same.symm
  obtain rfl := List.map_eq_nil_iff.mp tail
  exact ⟨other, rfl, head.symm⟩

/-- A list with the folds of two predicates has two predicates. -/
theorem exists_of_map_foldCase_pair {first second : Expression}
    (same : [first, second].map foldCase = arguments.map foldCase) :
    ∃ left right, arguments = [left, right] ∧ first.foldCase = left.foldCase ∧
      second.foldCase = right.foldCase := by
  obtain ⟨left, rest, rfl, head, tail⟩ := List.map_eq_cons_iff.mp same.symm
  obtain ⟨right, rfl, last⟩ := exists_of_map_foldCase_singleton tail.symm
  exact ⟨left, right, rfl, head.symm, last⟩

end

/-- Predicates with one fold name the same field, if any. -/
theorem fieldName_congr {left right : Expression} (same : left.foldCase = right.foldCase)
    (field : String) : left.fieldName = .ok field → right.fieldName = .ok field := by
  induction left using inductionOnArguments generalizing right with
  | path name =>
      obtain rfl := foldCase_eq_path_iff.mp same.symm
      exact id
  | constant value => simp [fieldName]
  | operation operator arguments inductionHypothesis =>
      obtain ⟨others, rfl, images⟩ := exists_of_foldCase_operation same
      intro named
      unfold fieldName at named ⊢
      split at named
      · rename_i folds
        rw [if_pos folds]
        cases arguments with
        | nil => simp at named
        | cons inner rest =>
            obtain ⟨first, later, rfl, head, _⟩ := List.map_eq_cons_iff.mp images.symm
            exact inductionHypothesis inner List.mem_cons_self head.symm named
      · simp at named

end Expression

end FieldQuery
