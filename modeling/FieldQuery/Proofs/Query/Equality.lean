/-
This file proves that queries whose boosts are all one are equal when they are the same.
-/
import FieldQuery.Proofs.Query.Structure

namespace FieldQuery.Query

theorem one_equals_iff (boost : Number.Single) :
    Number.Binary.one.equals boost = true ↔ Number.Binary.one = boost := by
  have positive : (Number.Binary.one : Number.Single).isZero = false := by decide
  have number : (Number.Binary.one : Number.Single).isNotANumber = false := by decide
  simp [Number.Binary.equals, positive, number]

/-- Lists of clauses are equal as values when they are the same, if this holds for their queries. -/
theorem equalClauses_iff {clauses others : List Clause}
    (each : ∀ clause ∈ clauses, ∀ other, clause.query.equals other = true ↔ clause.query = other) :
    equalClauses clauses others = true ↔ clauses = others := by
  induction clauses generalizing others with
  | nil => cases others <;> simp [equalClauses]
  | cons clause rest inductionHypothesis =>
      obtain ⟨occur, query⟩ := clause
      obtain ⟨head, tail⟩ := List.forall_mem_cons.mp each
      cases others with
      | nil => simp [equalClauses]
      | cons other later =>
          obtain ⟨otherOccur, otherQuery⟩ := other
          simp [equalClauses, head, inductionHypothesis tail]

/-- Queries whose boosts are all one are equal as values when they are the same. -/
theorem equals_iff_of_nodes {query other : Query}
    (plain : ∀ node ∈ query.nodes, node.boost = .one) :
    query.equals other = true ↔ query = other := by
  induction query using inductionOnClauses generalizing other with
  | boolean clauses boost inductionHypothesis =>
      obtain ⟨rfl, inside⟩ := List.forall_mem_cons.mp plain
      have each : ∀ clause ∈ clauses, ∀ other,
          clause.query.equals other = true ↔ clause.query = other := by
        intro clause member other
        exact inductionHypothesis clause member fun node found =>
          inside node (mem_clauseNodes.mpr ⟨clause, member, found⟩)
      cases other with
      | boolean others another =>
          simp [equals, equalClauses_iff each, one_equals_iff]
      | _ => simp [equals]
  | _ =>
      obtain rfl := plain _ List.mem_cons_self
      cases other <;> simp [equals, one_equals_iff, and_assoc]

end FieldQuery.Query
