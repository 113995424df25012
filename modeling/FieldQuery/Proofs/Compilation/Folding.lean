/-
This file proves that folding case while a predicate is compiled folds the finished query.
-/
import FieldQuery.Proofs.Compilation.Operands

namespace FieldQuery

/-- The fold of a bound is of the same kind with the lowercase of its value. -/
def Bound.fold : Bound → Bound
  | .included value => .included (Text.lowercase value)
  | .excluded value => .excluded (Text.lowercase value)
  | .unbounded => .unbounded

namespace Query

mutual

/-- The fold of a query has the lowercase of each word, pattern, start and bound, and all else. -/
def fold : Query → Query
  | .term field word boost => .term field (Text.lowercase word) boost
  | .phrase field words boost => .phrase field (words.map Text.lowercase) boost
  | .wildcard field pattern boost => .wildcard field (Text.lowercase pattern) boost
  | .prefixed field start boost => .prefixed field (Text.lowercase start) boost
  | .range field lower upper boost => .range field lower.fold upper.fold boost
  | .boolean clauses boost => .boolean (foldClauses clauses) boost

def foldClauses : List Clause → List Clause
  | [] => []
  | ⟨occur, query⟩ :: rest => ⟨occur, fold query⟩ :: foldClauses rest

end

/-- The folds of clauses have the folds of their queries. -/
theorem foldClauses_eq_map (clauses : List Clause) :
    foldClauses clauses = clauses.map fun clause => ⟨clause.occur, clause.query.fold⟩ := by
  induction clauses with
  | nil => rfl
  | cons clause rest inductionHypothesis =>
      obtain ⟨occur, query⟩ := clause
      rw [foldClauses, inductionHypothesis, List.map_cons]

theorem foldClauses_map (occur : Occur) (queries : List Query) :
    foldClauses (queries.map fun query => ⟨occur, query⟩) =
      (queries.map fold).map fun query => ⟨occur, query⟩ := by
  rw [foldClauses_eq_map, List.map_map, List.map_map]
  rfl

theorem fold_allWith (occur : Occur) (queries : List Query) :
    (allWith occur queries).fold = allWith occur (queries.map fold) := by
  rw [allWith, fold, foldClauses_map]
  rfl

end Query

namespace Comparison

open Query

/-- Queries that hold together are folded one by one. -/
theorem fold_together (queries : List Query) :
    (together queries).fold = together (queries.map fold) := by
  match queries with
  | [] => exact fold_allWith .must []
  | [query] => rfl
  | first :: second :: rest => exact fold_allWith .must (first :: second :: rest)

theorem fold_pattern (field text : String) :
    (pattern field text).fold = pattern field (Text.lowercase text) := rfl

/-- Folding the words of an equality folds it. -/
theorem equality_folding (field : String) (words : List String) :
    equality .folding field words = (equality .exact field words).fold := by
  match words with
  | [] => rfl
  | [word] => rfl
  | first :: second :: rest =>
      have same : (first :: second :: rest).map Config.exact.normalize =
          first :: second :: rest := List.map_id _
      change Query.phrase field _ .one = Query.phrase field _ .one
      rw [same]
      rfl

/-- Folding the words before the stars are put around them folds a containment. -/
theorem containment_folding (field : String) (words : List String) :
    containment .folding field words = (containment .exact field words).fold := by
  rw [containment, containment, fold_together, List.map_map]
  apply congrArg together
  apply List.map_congr_left
  intro word _
  have stars := Config.folding.normalize_inside word
  rw [Config.normalize_folding, Config.normalize_folding] at stars
  rw [Function.comp_apply, fold_pattern, Config.normalize_exact, Config.normalize_folding, stars]

/-- Folding the patterns of an opening folds it. -/
theorem opening_folding (field : String) (words : List String) :
    opening .folding field words = (opening .exact field words).fold := by
  match words with
  | [] => rfl
  | [word] => rfl
  | first :: second :: rest =>
      change allWith .must (_ :: (second :: rest).map _) =
        (allWith .must (_ :: (second :: rest).map _)).fold
      simp only [fold_allWith, List.map_cons, List.map_map]
      rfl

/-- Folding the patterns of an ending folds it. -/
theorem ending_folding (field : String) (words : List String) :
    ending .folding field words = (ending .exact field words).fold := by
  match words with
  | [] => rfl
  | [word] =>
      change pattern field ("*" ++ Text.lowercase word) = (pattern field ("*" ++ word)).fold
      rw [fold_pattern, Text.lowercase_star_append]
  | first :: second :: rest =>
      change allWith .must ((endingPatterns (first :: second :: rest)).map _) =
        (allWith .must ((endingPatterns (first :: second :: rest)).map _)).fold
      rw [fold_allWith, List.map_map]
      rfl

theorem interval_folding (field : String) (lower upper : List String) :
    interval .folding field lower upper = (interval .exact field lower upper).fold := rfl

/-- Folding the words that a comparison reads folds the query it builds of them. -/
theorem build_folding (comparison : Comparison) (field : String) (lists : List (List String)) :
    comparison.build .folding field lists = (comparison.build .exact field lists).fold := by
  cases comparison with
  | like => exact containment_folding field _
  | equal => exact equality_folding field _
  | different =>
      rw [build, build, equality_folding, fold_allWith]
      rfl
  | startsWith => exact opening_folding field _
  | endsWith => exact ending_folding field _
  | contains => exact containment_folding field _
  | between => exact interval_folding field _ _
  | oneOf =>
      rw [build, build, fold_allWith, List.map_map]
      apply congrArg (allWith .should)
      apply List.map_congr_left
      intro words _
      exact equality_folding field words

/-- Folding while a comparison is compiled folds its query and keeps its fault. -/
theorem query_folding (comparison : Comparison) (operator : Operator)
    (arguments : List Expression) :
    comparison.query .folding operator arguments =
      (comparison.query .exact operator arguments).map Query.fold := by
  rw [query_eq_build, query_eq_build]
  cases operands comparison operator arguments with
  | error fault => rfl
  | ok found => exact congrArg Except.ok (comparison.build_folding found.1 found.2)

end Comparison

namespace Query

/-- A predicate compiled with folding has the folded query, or the same fault, as without. -/
theorem outcome_ofExpression_folding (expression : Expression) :
    (ofExpression .folding expression).outcome =
      (ofExpression .exact expression).outcome.map fold := by
  simp only [outcome_ofExpression]
  induction expression using Expression.inductionOnRoles with
  | path name =>
      rw [outcome_walk_path, outcome_walk_path]
      rfl
  | constant value =>
      rw [outcome_walk_constant, outcome_walk_constant]
      rfl
  | unsupported operator arguments role =>
      rw [outcome_walk_unsupported _ role, outcome_walk_unsupported _ role]
      rfl
  | miscounted operator arguments supported wrong =>
      rw [outcome_walk_of_arity_ne _ supported wrong, outcome_walk_of_arity_ne _ supported wrong]
      rfl
  | combination operator occur left right role first second =>
      rw [outcome_walk_combine _ role, outcome_walk_combine _ role, first, second]
      cases (walk .exact left).outcome with
      | error fault => rfl
      | ok leftQuery =>
          cases (walk .exact right).outcome with
          | error fault => rfl
          | ok rightQuery =>
              exact congrArg Except.ok (fold_allWith occur [leftQuery, rightQuery]).symm
  | negation operator operand role inner =>
      rw [outcome_walk_negate _ role, outcome_walk_negate _ role, inner]
      cases (walk .exact operand).outcome with
      | error fault => rfl
      | ok query => exact congrArg Except.ok (fold_allWith .mustNot [query]).symm
  | comparison operator comparison arguments role =>
      rw [outcome_walk_compare _ role, outcome_walk_compare _ role]
      exact comparison.query_folding operator arguments

end Query

end FieldQuery
