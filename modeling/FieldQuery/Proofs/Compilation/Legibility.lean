/-
This file proves that compiled queries with plain fields are told apart by their syntax.
-/
import FieldQuery.Proofs.Compilation.Building
import FieldQuery.Proofs.Query.Legibility

namespace FieldQuery

namespace Expression

mutual

/-- These are the names of all paths in a predicate. -/
def paths : Expression → List String
  | .path name => [name]
  | .constant _ => []
  | .operation _ arguments => pathsOf arguments

def pathsOf : List Expression → List String
  | [] => []
  | first :: rest => paths first ++ pathsOf rest

end

/-- A predicate is plain when all names of paths in it are. -/
def IsPlain (expression : Expression) : Prop := ∀ name ∈ expression.paths, Query.IsPlain name

/-- An operation is plain exactly when all its arguments are. -/
theorem isPlain_operation {operator : Operator} {arguments : List Expression} :
    (Expression.operation operator arguments).IsPlain ↔
      ∀ argument ∈ arguments, argument.IsPlain := by
  simp only [IsPlain, paths]
  induction arguments with
  | nil => simp [pathsOf]
  | cons first rest inductionHypothesis =>
      simp only [pathsOf, List.forall_mem_append, List.forall_mem_cons, inductionHypothesis]

/-- The field of a plain predicate is plain. -/
theorem IsPlain.of_names {expression : Expression} {name : String} (plain : expression.IsPlain)
    (named : expression.Names name) : Query.IsPlain name := by
  induction named with
  | path name => exact plain name (List.mem_singleton.mpr rfl)
  | folded others folds inside inductionHypothesis =>
      exact inductionHypothesis (isPlain_operation.mp plain _ List.mem_cons_self)

end Expression

namespace Comparison

open Text Query

variable (config : Config) {comparison : Comparison} {field : String}

/-- Legible queries with one occurrence are legible together. -/
theorem legible_allWith {occur : Occur} {queries : List Query}
    (each : ∀ query ∈ queries, Legible query) : Legible (.allWith occur queries) := by
  refine .boolean fun clause member => ?_
  obtain ⟨query, found, rfl⟩ := List.mem_map.mp member
  exact each query found

/-- Whatever a comparison with a plain field builds is legible. -/
theorem Builds.legible (plain : IsPlain field) {query : Query}
    (built : comparison.Builds field query) : Legible query := by
  induction built with
  | term taken => exact .leaf plain (.term taken.isWord) rfl
  | phrase several each =>
      obtain ⟨first, others, rfl⟩ := List.exists_cons_of_length_pos (Nat.zero_lt_of_lt several)
      exact .leaf plain (.phrase fun word member => (each word member).isWord) rfl
  | start searches taken =>
      obtain ⟨source, isWord, rfl⟩ := taken.isEscape searches
      exact .leaf plain (.opening isWord) rfl
  | opening searches taken =>
      obtain ⟨source, isWord, rfl⟩ := taken.isEscape searches
      exact .leaf plain (.opening isWord) rfl
  | @inside word taken =>
      have rest : StarRest (word ++ "*").toList := by
        rw [String.toList_append]
        exact .starred taken.isWord.visible
      refine .leaf plain (.starred rest) ?_
      rw [← String.append_assoc]
      rfl
  | ending searches taken =>
      obtain ⟨source, isWord, rfl⟩ := taken.isEscape searches
      have rest : StarRest (escape source).toList := by
        rw [escape, String.toList_ofList]
        exact .escaped isWord.visible
      exact .leaf plain (.starred rest) rfl
  | range low high => exact .leaf plain (.range low.isWord high.isWord) rfl
  | without _ inductionHypothesis =>
      exact legible_allWith (List.forall_mem_singleton.mpr inductionHypothesis)
  | every _ _ inductionHypothesis => exact legible_allWith inductionHypothesis
  | any _ _ inductionHypothesis => exact legible_allWith inductionHypothesis

/-- A comparison with a plain field builds a legible query of the words that it reads. -/
theorem legible_build (plain : IsPlain field) {lists : List (List String)}
    (reads : comparison.Reads lists) : Legible (comparison.build config field lists) := by
  by_cases none : lists = []
  · subst none
    rw [(build_nil config reads).2]
    exact .boolean (List.forall_mem_nil _)
  · exact (builds_build config reads none).legible plain

end Comparison

namespace Query

variable (config : Config)

/-- The query of a plain predicate is legible. -/
theorem ensures_legible (expression : Expression) :
    Ensures (walk config expression).outcome fun query => expression.IsPlain → Legible query := by
  refine ensures_walk config (fun expression query => expression.IsPlain → Legible query)
    ?_ ?_ ?_ expression
  · intro operator occur left right first second _ firstLegible secondLegible plain
    have parts := Expression.isPlain_operation.mp plain
    refine Comparison.legible_allWith (List.forall_mem_cons.mpr ⟨firstLegible (parts _ ?_), ?_⟩)
    · exact List.mem_cons_self
    · exact List.forall_mem_singleton.mpr (secondLegible (parts right (by simp)))
  · intro operator operand inner _ innerLegible plain
    have part := Expression.isPlain_operation.mp plain operand List.mem_cons_self
    exact Comparison.legible_allWith (List.forall_mem_singleton.mpr (innerLegible part))
  · intro operator comparison arguments _
    rw [Comparison.query_eq_build]
    refine Comparison.ensures_operands.map fun found supplied plain => ?_
    obtain ⟨target, others, rfl, named⟩ := supplied.field
    have part := Expression.isPlain_operation.mp plain target List.mem_cons_self
    exact Comparison.legible_build config (part.of_names named) supplied.reads

/--
Two predicates whose fields have no blank and no reserved character, compiled with or without
folding to boolean queries with one text, have one query, if a start is read as a pattern that ends
with a star.
-/
theorem unprefixed_eq_of_render_eq {left right : Expression} {config other : Config}
    (plain : ∀ name ∈ left.paths, IsPlain name) (alsoPlain : ∀ name ∈ right.paths, IsPlain name)
    {clauses others : List Clause} {boost another : Number.Single}
    (compiled : (ofExpression config left).outcome = .ok (.boolean clauses boost))
    (alsoCompiled : (ofExpression other right).outcome = .ok (.boolean others another))
    (same : render (.boolean clauses boost) = render (.boolean others another)) :
    unprefixed (.boolean clauses boost) = unprefixed (.boolean others another) := by
  have legible := ensures_legible config left _ compiled plain
  have alsoLegible := ensures_legible other right _ alsoCompiled alsoPlain
  obtain rfl := legible.boost_eq_one
  obtain rfl := alsoLegible.boost_eq_one
  exact unprefixed_boolean_inj legible alsoLegible same

/-- A start with two words and a combination of a start and a content have one text. -/
theorem unprefixed_eq_of_render_eq_start :
    let search := fun operator text =>
      Expression.operation operator [.path "f", .constant (.text text)]
    let both := Expression.operation .and [search .startsWith "a", search .contains "b"]
    let patterns := [Clause.mk .must (.wildcard "f" "a*" .one), ⟨.must, .wildcard "f" "*b*" .one⟩]
    let start := [Clause.mk .must (.prefixed "f" "a" .one), ⟨.must, .wildcard "f" "*b*" .one⟩]
    (ofExpression .exact (search .startsWith "a b")).outcome = .ok (.boolean patterns .one) ∧
    (ofExpression .folding both).outcome = .ok (.boolean start .one) ∧
    render (.boolean patterns .one) = "+f:a* +f:*b*" ∧
    render (.boolean start .one) = "+f:a* +f:*b*" ∧
    unprefixed (.boolean patterns .one) = unprefixed (.boolean start .one) := by
  intro search both patterns start
  have compiled : (ofExpression .exact (search .startsWith "a b")).outcome =
      .ok (.boolean patterns .one) := rfl
  have alsoCompiled : (ofExpression .folding both).outcome = .ok (.boolean start .one) := rfl
  have text : render (.boolean patterns .one) = "+f:a* +f:*b*" := by decide
  have alsoText : render (.boolean start .one) = "+f:a* +f:*b*" := by decide
  have field : IsPlain "f" := by
    intro character member
    obtain rfl := List.mem_singleton.mp member
    decide
  have plain : ∀ name ∈ (search .startsWith "a b").paths, IsPlain name := by
    simpa [search, Expression.paths, Expression.pathsOf] using field
  have alsoPlain : ∀ name ∈ both.paths, IsPlain name := by
    simpa [both, search, Expression.paths, Expression.pathsOf] using field
  exact ⟨compiled, alsoCompiled, text, alsoText, unprefixed_eq_of_render_eq plain alsoPlain compiled
    alsoCompiled (text.trans alsoText.symm)⟩

end Query

end FieldQuery
