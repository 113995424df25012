/-
This file proves which nodes a compiled query has and in which order its fields stand.
-/
import FieldQuery.Proofs.Compilation.Building
import FieldQuery.Proofs.Query.Structure

namespace FieldQuery

namespace Query

open Text

/-- A pattern has a star at its start or at its end. -/
def HasOuterStar (pattern : String) : Prop :=
  pattern.toList.head? = some '*' ∨ pattern.toList.getLast? = some '*'

/--
The nodes of compiled queries have these shapes, and every boost is one. All clauses of a boolean
query have one occurrence; it has one clause if this must not hold, and several if they must hold.
-/
inductive IsShaped : Query → Prop where
  | term {field word : String} (isWord : IsWord word) : IsShaped (.term field word .one)
  | phrase {field : String} {words : List String} (several : 2 ≤ words.length)
      (each : ∀ word ∈ words, IsWord word) : IsShaped (.phrase field words .one)
  | wildcard {field pattern : String} (isWord : IsWord pattern) (starred : HasOuterStar pattern) :
      IsShaped (.wildcard field pattern .one)
  | prefixed {field start : String} (isWord : IsWord start) : IsShaped (.prefixed field start .one)
  | range {field lower upper : String} (low : IsWord lower) (high : IsWord upper) :
      IsShaped (.range field (.included lower) (.included upper) .one)
  | boolean {occur : Occur} {clauses : List Clause} (same : ∀ clause ∈ clauses, clause.occur = occur)
      (single : occur = .mustNot → clauses.length = 1)
      (several : occur = .must → 2 ≤ clauses.length) : IsShaped (.boolean clauses .one)

/--
Comparisons yield tips in their order: a membership in an empty collection yields an empty boolean
query, and every comparison may yield some queries of the field that it names.
-/
inductive Yield : List Expression → List Query → Prop where
  | nothing : Yield [] []
  | empty {target : Expression} {name : String} {rest : List Expression} {tips : List Query}
      (named : target.Names name) (later : Yield rest tips) :
      Yield (.operation .oneOf [target, .constant (.collection [])] :: rest)
        (.boolean [] .one :: tips)
  | found {operator : Operator} {target : Expression} {others : List Expression} {name : String}
      {run : List Query} {rest : List Expression} {tips : List Query} (named : target.Names name)
      (nonempty : run ≠ []) (each : ∀ tip ∈ run, tip.field? = some name) (later : Yield rest tips) :
      Yield (.operation operator (target :: others) :: rest) (run ++ tips)

theorem Yield.append {left right : List Expression} {first second : List Query}
    (leftYield : Yield left first) (rightYield : Yield right second) :
    Yield (left ++ right) (first ++ second) := by
  induction leftYield with
  | nothing => exact rightYield
  | empty named _ inductionHypothesis => exact .empty named inductionHypothesis
  | found named nonempty each _ inductionHypothesis =>
      rw [List.append_assoc]
      exact .found named nonempty each inductionHypothesis

/-- A query of a field has shaped nodes, and its tips search this field. -/
structure Concerns (field : String) (query : Query) : Prop where
  shaped : ∀ node ∈ query.nodes, node.IsShaped
  nonempty : query.tips ≠ []
  each : ∀ tip ∈ query.tips, tip.field? = some field

variable {field : String} {occur : Occur} {queries : List Query}

/-- Combined queries have shaped nodes when each of them has and their number fits. -/
theorem isShaped_allWith (single : occur = .mustNot → queries.length = 1)
    (several : occur = .must → 2 ≤ queries.length)
    (each : ∀ query ∈ queries, ∀ node ∈ query.nodes, node.IsShaped) :
    ∀ node ∈ (allWith occur queries).nodes, node.IsShaped := by
  rw [nodes_allWith]
  refine List.forall_mem_cons.mpr ⟨?_, ?_⟩
  · have same : ∀ clause ∈ queries.map (Clause.mk occur), clause.occur = occur :=
      List.forall_mem_map.mpr fun query _ => rfl
    exact .boolean same (by simpa using single) (by simpa using several)
  · intro node member
    obtain ⟨query, found, inside⟩ := List.mem_flatMap.mp member
    exact each query found node inside

/-- Combined queries of one field concern it together. -/
theorem Concerns.allWith (single : occur = .mustNot → queries.length = 1)
    (several : occur = .must → 2 ≤ queries.length) (nonempty : queries ≠ [])
    (each : ∀ query ∈ queries, Concerns field query) : Concerns field (allWith occur queries) := by
  refine ⟨isShaped_allWith single several fun query member => (each query member).shaped, ?_, ?_⟩
  · obtain ⟨first, rest, rfl⟩ := List.exists_cons_of_ne_nil nonempty
    rw [tips_allWith occur nonempty, List.flatMap_cons]
    exact List.append_ne_nil_of_left_ne_nil (each first List.mem_cons_self).nonempty _
  · rw [tips_allWith occur nonempty]
    intro tip member
    obtain ⟨query, found, inside⟩ := List.mem_flatMap.mp member
    exact (each query found).each tip inside

/-- A shaped query with a field concerns it. -/
theorem IsShaped.concerns {query : Query} (shaped : query.IsShaped)
    (searches : query.field? = some field) : Concerns field query := by
  have alone : query.nodes = [query] ∧ query.tips = [query] := by
    cases query with
    | boolean clauses boost => cases searches
    | _ => exact ⟨rfl, rfl⟩
  exact ⟨by simpa [alone.1] using shaped, by simp [alone.2], by simpa [alone.2] using searches⟩

end Query

namespace Comparison

open Text Query

variable {comparison : Comparison} {field : String}

theorem visible_star : ∀ character ∈ "*".toList, isBlank character = false :=
  List.forall_mem_singleton.mpr (by decide)

/-- A star in front of a text without blanks makes a word. -/
theorem isWord_star_append {text : String}
    (visible : ∀ character ∈ text.toList, isBlank character = false) : IsWord ("*" ++ text) := by
  refine ⟨?_, ?_⟩
  · rw [String.toList_append]
    exact List.cons_ne_nil _ _
  · rw [String.toList_append]
    exact List.forall_mem_append.mpr ⟨visible_star, visible⟩

/-- A star behind a text without blanks makes a word. -/
theorem isWord_append_star {text : String}
    (visible : ∀ character ∈ text.toList, isBlank character = false) : IsWord (text ++ "*") := by
  refine ⟨?_, ?_⟩
  · rw [String.toList_append]
    exact List.append_ne_nil_of_right_ne_nil _ (List.cons_ne_nil _ _)
  · rw [String.toList_append]
    exact List.forall_mem_append.mpr ⟨visible, visible_star⟩

theorem hasOuterStar_append_star (text : String) : HasOuterStar (text ++ "*") := by
  refine .inr ?_
  rw [String.toList_append]
  exact List.getLast?_concat

theorem hasOuterStar_star_append (text : String) : HasOuterStar ("*" ++ text) := by
  refine .inl ?_
  rw [String.toList_append]
  rfl

/-- Whatever a comparison builds concerns its field. -/
theorem Builds.concerns {query : Query} (built : comparison.Builds field query) :
    Concerns field query := by
  induction built with
  | term taken => exact (IsShaped.term taken.isWord).concerns rfl
  | phrase several each =>
      exact (IsShaped.phrase several fun word member => (each word member).isWord).concerns rfl
  | start _ taken => exact (IsShaped.prefixed taken.isWord).concerns rfl
  | opening _ taken =>
      have isWord := isWord_append_star taken.isWord.visible
      exact (IsShaped.wildcard isWord (hasOuterStar_append_star _)).concerns rfl
  | inside taken =>
      have isWord := isWord_append_star (isWord_star_append taken.isWord.visible).visible
      exact (IsShaped.wildcard isWord (hasOuterStar_append_star _)).concerns rfl
  | ending _ taken =>
      have isWord := isWord_star_append taken.isWord.visible
      exact (IsShaped.wildcard isWord (hasOuterStar_star_append _)).concerns rfl
  | range low high => exact (IsShaped.range low.isWord high.isWord).concerns rfl
  | without _ inductionHypothesis =>
      exact .allWith (fun _ => rfl) (fun must => by cases must) (List.cons_ne_nil _ _)
        (List.forall_mem_singleton.mpr inductionHypothesis)
  | every several _ inductionHypothesis =>
      have nonempty := List.ne_nil_of_length_pos (Nat.zero_lt_of_lt several)
      exact .allWith (fun mustNot => by cases mustNot) (fun _ => several) nonempty
        inductionHypothesis
  | any nonempty _ inductionHypothesis =>
      exact .allWith (fun mustNot => by cases mustNot) (fun must => by cases must) nonempty
        inductionHypothesis

end Comparison

namespace Query

variable (config : Config)

/-- A query is made of some comparisons when its nodes are shaped and the comparisons yield its tips. -/
structure IsMadeOf (comparisons : List Expression) (query : Query) : Prop where
  shaped : ∀ node ∈ query.nodes, node.IsShaped
  yield : Yield comparisons query.tips

/-- A comparison is compiled to a query that is made of it alone. -/
theorem ensures_isMadeOf_compare {operator : Operator} {comparison : Comparison}
    (role : operator.role = .compare comparison) (arguments : List Expression) :
    Ensures (comparison.query config operator arguments)
      (IsMadeOf [.operation operator arguments]) := by
  rw [Comparison.query_eq_build]
  refine Comparison.ensures_operands.map fun found supplied => ?_
  obtain ⟨target, others, rfl, named⟩ := supplied.field
  by_cases none : found.2 = []
  · obtain ⟨other, same⟩ := supplied.empty none
    obtain ⟨rfl, rfl⟩ := List.cons.inj same
    obtain ⟨rfl, built⟩ : comparison = .oneOf ∧
        comparison.build config found.1 [] = .boolean [] .one :=
      Comparison.build_nil config (none ▸ supplied.reads)
    have membership : operator = .oneOf := by
      cases operator <;> simp_all [Operator.role]
    subst membership
    rw [none, built]
    have none : ∀ clause ∈ ([] : List Clause), clause.occur = .should := by simp
    refine ⟨List.forall_mem_singleton.mpr ?_, .empty named .nothing⟩
    exact .boolean none (fun mustNot => by cases mustNot) (fun must => by cases must)
  · have concerns : Concerns found.1 (comparison.build config found.1 found.2) :=
      (Comparison.builds_build config supplied.reads none).concerns
    have yielded : Yield [.operation operator (target :: others)] (Query.tips _ ++ []) :=
      .found named concerns.nonempty concerns.each .nothing
    rw [List.append_nil] at yielded
    exact ⟨concerns.shaped, yielded⟩

/-- A predicate is compiled to a query that is made of its comparisons. -/
theorem ensures_isMadeOf (expression : Expression) :
    Ensures (walk config expression).outcome (IsMadeOf expression.comparisons) := by
  refine ensures_walk config (fun expression => IsMadeOf expression.comparisons) ?_ ?_ ?_ expression
  · intro operator occur left right first second role firstMade secondMade
    have positive : occur ≠ .mustNot := by
      rintro rfl
      cases operator <;> cases role
    rw [Expression.comparisons_combine role]
    refine ⟨isShaped_allWith (fun negative => absurd negative positive) (fun _ => Nat.le_refl 2) ?_,
      ?_⟩
    · exact List.forall_mem_cons.mpr
        ⟨firstMade.shaped, List.forall_mem_singleton.mpr secondMade.shaped⟩
    · rw [tips_allWith occur (List.cons_ne_nil _ _)]
      simpa using firstMade.yield.append secondMade.yield
  · intro operator operand inner role made
    rw [Expression.comparisons_negate role]
    refine ⟨isShaped_allWith (fun _ => rfl) (fun must => by cases must) ?_, ?_⟩
    · exact List.forall_mem_singleton.mpr made.shaped
    · rw [tips_allWith .mustNot (List.cons_ne_nil _ _)]
      simpa using made.yield
  · intro operator comparison arguments role
    rw [Expression.comparisons_compare role]
    exact ensures_isMadeOf_compare config role arguments

/--
Every node of a compiled query is shaped, and the tips of the query are what the comparisons of the
predicate yield in their order. The tips hold all fields of the query.
-/
theorem isShaped_of_compiled {config : Config} {expression : Expression} {query : Query}
    (compiled : (ofExpression config expression).outcome = .ok query) :
    (∀ node ∈ query.nodes, node.IsShaped) ∧ Yield expression.comparisons query.tips ∧
      query.nodes.filterMap field? = query.tips.filterMap field? := by
  have made := ensures_isMadeOf config expression query compiled
  exact ⟨made.shaped, made.yield, query.filterMap_field?_tips.symm⟩

/-- A membership in an empty collection yields no field, and a start with two words yields two. -/
theorem isShaped_of_compiled_empty :
    let nowhere := Expression.operation .oneOf [.path "f", .constant (.collection [])]
    let start := Expression.operation .startsWith
      [.operation .lower [.path "g"], .constant (.text "A b")]
    let both := Expression.operation .and [nowhere, .operation .not [start]]
    let words := allWith .must [.wildcard "g" "a*" .one, .wildcard "g" "*b*" .one]
    let query := allWith .must [.boolean [] .one, allWith .mustNot [words]]
    (ofExpression .folding both).outcome = .ok query ∧
    (∀ node ∈ query.nodes, node.IsShaped) ∧
    Yield [nowhere, start]
      [.boolean [] .one, .wildcard "g" "a*" .one, .wildcard "g" "*b*" .one] ∧
    query.nodes.filterMap field? = ["g", "g"] := by
  intro nowhere start both words query
  have compiled : (ofExpression .folding both).outcome = .ok query := rfl
  obtain ⟨shaped, yielded, fields⟩ := isShaped_of_compiled compiled
  exact ⟨compiled, shaped, yielded, fields⟩

end Query

end FieldQuery
