/-
This file proves that nothing is left to fold in a query that was compiled with folding.
-/
import FieldQuery.Proofs.Compilation.Folding
import FieldQuery.Proofs.Compilation.Reading
import FieldQuery.Proofs.Query.Structure
import FieldQuery.Proofs.Text.CaseShift

namespace FieldQuery

namespace Bound

theorem fold_fold (bound : Bound) : bound.fold.fold = bound.fold := by
  cases bound with
  | included value => exact congrArg included (Text.lowercase_lowercase value)
  | excluded value => exact congrArg excluded (Text.lowercase_lowercase value)
  | unbounded => rfl

theorem value?_fold (bound : Bound) : bound.fold.value? = bound.value?.map Text.lowercase := by
  cases bound <;> rfl

end Bound

namespace Query

/-- The own texts of a node are its word, its words, its pattern, its start or its bounds. -/
def ownTexts : Query → List String
  | .term _ word _ => [word]
  | .phrase _ words _ => words
  | .wildcard _ pattern _ => [pattern]
  | .prefixed _ start _ => [start]
  | .range _ lower upper _ => lower.value?.toList ++ upper.value?.toList
  | .boolean _ _ => []

/-- The texts of a query are the own texts of all its nodes. -/
def texts (query : Query) : List String := query.nodes.flatMap ownTexts

/-- A folded query does not change when it is folded again. -/
theorem fold_fold (query : Query) : query.fold.fold = query.fold := by
  induction query using inductionOnClauses with
  | term field word boost => simp only [fold, Text.lowercase_lowercase]
  | phrase field words boost =>
      simp only [fold, List.map_map, Function.comp_def, Text.lowercase_lowercase]
  | wildcard field pattern boost => simp only [fold, Text.lowercase_lowercase]
  | prefixed field start boost => simp only [fold, Text.lowercase_lowercase]
  | range field lower upper boost => simp only [fold, Bound.fold_fold]
  | boolean clauses boost inductionHypothesis =>
      rw [fold, fold, foldClauses_eq_map, foldClauses_eq_map, List.map_map]
      congr 1
      refine List.map_congr_left fun clause member => ?_
      rw [Function.comp_apply, inductionHypothesis clause member]

theorem ownTexts_fold (query : Query) : query.fold.ownTexts = query.ownTexts.map Text.lowercase := by
  cases query with
  | range field lower upper boost =>
      simp only [fold, ownTexts, Bound.value?_fold, List.map_append, Option.toList_map]
  | _ => rfl

theorem nodes_fold (query : Query) : query.fold.nodes = query.nodes.map fold := by
  induction query using inductionOnClauses with
  | boolean clauses boost inductionHypothesis =>
      have inner : clauseNodes (foldClauses clauses) = (clauseNodes clauses).map fold := by
        rw [clauseNodes_eq_flatMap, clauseNodes_eq_flatMap, foldClauses_eq_map, List.flatMap_map,
          List.map_flatMap]
        exact List.flatMap_congr inductionHypothesis
      rw [fold, nodes, nodes, inner, List.map_cons, fold]
  | _ => rfl

theorem texts_fold (query : Query) : query.fold.texts = query.texts.map Text.lowercase := by
  rw [texts, texts, nodes_fold, List.flatMap_map, List.map_flatMap]
  exact List.flatMap_congr fun node _ => ownTexts_fold node

/-- A query that folding does not change has texts that are their own lowercases. -/
theorem lowercase_of_mem_texts_of_fold_eq {query : Query} (settled : query.fold = query) :
    ∀ text ∈ query.texts, Text.lowercase text = text := by
  have same : query.texts.map Text.lowercase = query.texts.map id := by
    rw [← texts_fold, settled, List.map_id]
  exact List.map_inj_left.mp same

/-- A combination of queries that folding does not change is one, too. -/
theorem fold_allWith_of_fold_eq (occur : Occur) {queries : List Query}
    (settled : ∀ query ∈ queries, query.fold = query) :
    (allWith occur queries).fold = allWith occur queries := by
  rw [fold_allWith, List.map_congr_left settled, List.map_id']

/-- Folding does not change what was compiled with folding. -/
theorem ensures_fold_eq (expression : Expression) :
    Ensures (walk .folding expression).outcome fun query => query.fold = query := by
  refine ensures_walk .folding (fun _ query => query.fold = query) ?_ ?_ ?_ expression
  · intro operator occur left right first second _ firstSettled secondSettled
    refine fold_allWith_of_fold_eq occur (List.forall_mem_cons.mpr ⟨firstSettled, ?_⟩)
    exact List.forall_mem_singleton.mpr secondSettled
  · intro operator operand inner _ settled
    exact fold_allWith_of_fold_eq .mustNot (List.forall_mem_singleton.mpr settled)
  · intro operator comparison arguments _
    rw [comparison.query_folding]
    have anything : Ensures (comparison.query .exact operator arguments) fun _ => True :=
      fun _ _ => trivial
    exact anything.map fun query _ => fold_fold query

/--
A query that was compiled with folding does not change when it is folded again: each of its words,
patterns, starts and bounds is its own lowercase.
-/
theorem fold_eq_self_of_compiled {expression : Expression} {query : Query}
    (compiled : (ofExpression .folding expression).outcome = .ok query) :
    query.fold = query ∧ ∀ text ∈ query.texts, Text.lowercase text = text := by
  have settled : query.fold = query := ensures_fold_eq expression query compiled
  exact ⟨settled, lowercase_of_mem_texts_of_fold_eq settled⟩

set_option maxRecDepth 4000 in
/-- The escape of a colon makes the sigma before it final, and it stays so. -/
theorem fold_eq_self_of_compiled_sigma :
    let search := Expression.operation .contains [.path "F", .constant (.text "AΣ:B")]
    (ofExpression .folding search).outcome = .ok (.wildcard "F" "*aς\\:b*" .one) ∧
    Text.lowercase "*aς\\:b*" = "*aς\\:b*" := by
  intro search
  have compiled : (ofExpression .folding search).outcome =
      .ok (.wildcard "F" "*aς\\:b*" .one) := by rfl
  obtain ⟨_, own⟩ := fold_eq_self_of_compiled compiled
  exact ⟨compiled, own _ (by decide)⟩

end Query

end FieldQuery
