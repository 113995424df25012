/-
This file proves a principle of induction over queries and collects their boosts and their nodes.
-/
import FieldQuery.Query.Basic
import Mathlib.Data.List.Basic

namespace FieldQuery.Query

/-- What passes from the queries of all clauses to a boolean query holds for every query. -/
@[elab_as_elim]
theorem inductionOnClauses {motive : Query → Prop}
    (term : ∀ field word boost, motive (.term field word boost))
    (phrase : ∀ field words boost, motive (.phrase field words boost))
    (wildcard : ∀ field pattern boost, motive (.wildcard field pattern boost))
    (prefixed : ∀ field start boost, motive (.prefixed field start boost))
    (range : ∀ field lower upper boost, motive (.range field lower upper boost))
    (boolean : ∀ clauses boost, (∀ clause ∈ clauses, motive clause.query) →
      motive (.boolean clauses boost)) (query : Query) : motive query :=
  @Query.rec motive (fun clause => motive clause.query)
    (fun clauses => ∀ clause ∈ clauses, motive clause.query)
    term phrase wildcard prefixed range boolean (fun _ _ inner => inner)
    (by simp) (fun _ _ first others => List.forall_mem_cons.mpr ⟨first, others⟩) query

mutual

/-- The boosts of a query are its own one and those of its clauses. -/
def boosts : Query → List Number.Single
  | .term _ _ boost => [boost]
  | .phrase _ _ boost => [boost]
  | .wildcard _ _ boost => [boost]
  | .prefixed _ _ boost => [boost]
  | .range _ _ _ boost => [boost]
  | .boolean clauses boost => boost :: clauseBoosts clauses

def clauseBoosts : List Clause → List Number.Single
  | [] => []
  | ⟨_, query⟩ :: rest => boosts query ++ clauseBoosts rest

end

/-- The boosts of clauses are those of one query after another. -/
theorem clauseBoosts_eq_flatMap (clauses : List Clause) :
    clauseBoosts clauses = clauses.flatMap fun clause => clause.query.boosts := by
  induction clauses with
  | nil => rfl
  | cons clause others inductionHypothesis =>
      obtain ⟨occur, query⟩ := clause
      rw [clauseBoosts, inductionHypothesis, List.flatMap_cons]

theorem mem_clauseBoosts {boost : Number.Single} {clauses : List Clause} :
    boost ∈ clauseBoosts clauses ↔ ∃ clause ∈ clauses, boost ∈ clause.query.boosts := by
  rw [clauseBoosts_eq_flatMap, List.mem_flatMap]

mutual

/-- The nodes of a query are the query itself and then those of its clauses from left to right. -/
def nodes : Query → List Query
  | .boolean clauses boost => .boolean clauses boost :: clauseNodes clauses
  | query => [query]

def clauseNodes : List Clause → List Query
  | [] => []
  | ⟨_, query⟩ :: rest => nodes query ++ clauseNodes rest

end

/-- A tip is a node without clauses. -/
def isTip : Query → Bool
  | .boolean (_ :: _) _ => false
  | _ => true

/-- The tips of a query stand in the order of its nodes. -/
def tips (query : Query) : List Query := query.nodes.filter isTip

/-- The nodes of clauses are those of one query after another. -/
theorem clauseNodes_eq_flatMap (clauses : List Clause) :
    clauseNodes clauses = clauses.flatMap fun clause => clause.query.nodes := by
  induction clauses with
  | nil => rfl
  | cons clause rest inductionHypothesis =>
      obtain ⟨occur, query⟩ := clause
      rw [clauseNodes, inductionHypothesis, List.flatMap_cons]

theorem mem_clauseNodes {node : Query} {clauses : List Clause} :
    node ∈ clauseNodes clauses ↔ ∃ clause ∈ clauses, node ∈ clause.query.nodes := by
  rw [clauseNodes_eq_flatMap, List.mem_flatMap]

theorem clauseNodes_map (occur : Occur) (queries : List Query) :
    clauseNodes (queries.map fun query => ⟨occur, query⟩) = queries.flatMap nodes := by
  rw [clauseNodes_eq_flatMap, List.flatMap_map]

theorem nodes_allWith (occur : Occur) (queries : List Query) :
    (allWith occur queries).nodes = allWith occur queries :: queries.flatMap nodes := by
  rw [allWith, nodes, clauseNodes_map]

/-- The tips of a combination of at least one query are those of its parts. -/
theorem tips_allWith (occur : Occur) {queries : List Query} (some : queries ≠ []) :
    (allWith occur queries).tips = queries.flatMap tips := by
  obtain ⟨first, rest, rfl⟩ := List.exists_cons_of_ne_nil some
  have inner : isTip (allWith occur (first :: rest)) = false := rfl
  rw [tips, nodes_allWith, List.filter_cons_of_neg (by simp [inner]), List.filter_flatMap]
  rfl

/-- Every node with a field is a tip. -/
theorem filterMap_field?_tips (query : Query) :
    query.tips.filterMap field? = query.nodes.filterMap field? := by
  rw [tips, List.filterMap_filter]
  apply List.filterMap_congr
  intro node _
  match node with
  | .boolean [] _ => rfl
  | .boolean (_ :: _) _ => rfl
  | .term _ _ _ | .phrase _ _ _ | .wildcard _ _ _ | .prefixed _ _ _ | .range _ _ _ _ => rfl

end FieldQuery.Query
