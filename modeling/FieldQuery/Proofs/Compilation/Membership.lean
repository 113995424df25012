/-
This file proves that memberships and differences are compiled through equalities.
-/
import FieldQuery.Expression.Builder
import FieldQuery.Proofs.Compilation.Faults

namespace FieldQuery

section

variable {Item Result : Type} {step : Item → Except Fault Result}

/-- Steps over a list have the results of each step in order. -/
theorem mapM_eq_ok_of_forall₂ {list : List Item} {results : List Result}
    (all : List.Forall₂ (fun item result => step item = .ok result) list results) :
    list.mapM step = .ok results := by
  induction all with
  | nil => rfl
  | cons found _ inductionHypothesis =>
      rw [List.mapM_cons, found, inductionHypothesis]
      rfl

/-- Steps over a list succeed exactly when each of them does. -/
theorem exists_mapM_eq_ok_iff (list : List Item) :
    (∃ results, list.mapM step = .ok results) ↔
      ∀ item ∈ list, ∃ result, step item = .ok result := by
  induction list with
  | nil => exact iff_of_true ⟨[], rfl⟩ (List.forall_mem_nil _)
  | cons item rest inductionHypothesis =>
      rw [List.mapM_cons, exists_bind_eq_ok_iff, List.forall_mem_cons, ← inductionHypothesis]
      constructor
      · rintro ⟨result, found, later, following⟩
        exact ⟨⟨result, found⟩, ((exists_bind_eq_ok_iff _ _).mp ⟨later, following⟩).imp
          fun _ both => both.1⟩
      · rintro ⟨⟨result, found⟩, results, following⟩
        exact ⟨result, found, result :: results, by rw [following]; rfl⟩

/-- Steps over a list end with the fault of the first one that is refused. -/
theorem mapM_eq_error_of_first {before : List Item} {item : Item} (after : List Item)
    {fault : Fault} (sound : ∀ earlier ∈ before, ∃ result, step earlier = .ok result)
    (refused : step item = .error fault) :
    (before ++ item :: after).mapM step = .error fault := by
  induction before with
  | nil =>
      rw [List.nil_append, List.mapM_cons, refused]
      rfl
  | cons earlier rest inductionHypothesis =>
      obtain ⟨⟨result, found⟩, others⟩ := List.forall_mem_cons.mp sound
      rw [List.cons_append, List.mapM_cons, found, inductionHypothesis others]
      rfl

end

namespace Query

open Comparison Expression

variable (config : Config)

/-- This is what the comparison of a target with one constant ends with. -/
def outcomeOf (operator : Operator) (target : Expression) (value : Constant) :
    Except Fault Query :=
  (ofExpression config (comparison operator target value)).outcome

variable {equal : Operator} (target : Expression)

/-- An equality finds its field first, and then the words of its constant. -/
theorem outcomeOf_equal (role : equal.role = .compare .equal) (value : Constant) :
    outcomeOf config equal target value = (do
      let field ← target.fieldName
      let words ← value.words
      return equality config field words) := by
  rw [outcomeOf, comparison, outcome_ofExpression, outcome_walk_compare config role]
  rfl

/-- The equalities with all constants of a collection are found one by one. -/
theorem equalities_eq_mapM (field : String) (values : List Constant) :
    equalities config field values = values.mapM fun value => do
      let words ← value.words
      return equality config field words := by
  induction values with
  | nil => rfl
  | cons value rest inductionHypothesis =>
      rw [equalities, inductionHypothesis, List.mapM_cons]
      cases value.words <;> rfl

/--
A membership in some constants asks for any of the equalities with them. In an empty collection
there is no equality that would report a target without a field.
-/
theorem outcomeOf_oneOf (role : equal.role = .compare .equal) {values : List Constant}
    (nonempty : values ≠ []) :
    outcomeOf config .oneOf target (.collection values) =
      (do
        let queries ← values.mapM (outcomeOf config equal target)
        return allWith .should queries) := by
  have membership : outcomeOf config .oneOf target (.collection values) = (do
      let field ← target.fieldName
      let queries ← equalities config field values
      return allWith .should queries) := by
    rw [outcomeOf, comparison, outcome_ofExpression, outcome_walk_compare config rfl,
      query_oneOf_collection]
  have each := funext (outcomeOf_equal config target role)
  rw [membership, each]
  cases target.fieldName with
  | error fault =>
      obtain ⟨first, rest, rfl⟩ := List.exists_cons_of_ne_nil nonempty
      rw [List.mapM_cons]
      rfl
  | ok field =>
      change (equalities config field values >>= _) = (values.mapM _ >>= _)
      rw [equalities_eq_mapM]
      rfl

/-- Only a list that is no pair tells the operators of two comparisons apart. -/
theorem pair_eq_or (operator other : Operator) (arguments : List Expression) :
    pair operator arguments = pair other arguments ∨
      ∃ fault another, pair operator arguments = .error fault ∧
        pair other arguments = .error another := by
  cases first : pair operator arguments with
  | ok found =>
      have shape := pair_eq_ok_iff.mp first
      exact .inl (pair_eq_ok_iff.mpr shape).symm
  | error fault =>
      cases second : pair other arguments with
      | ok found =>
          rw [pair_eq_ok_iff.mpr (pair_eq_ok_iff.mp second)] at first
          cases first
      | error another => exact .inr ⟨fault, another, rfl, rfl⟩

variable {different : Operator}

/-- A difference is the negation of an equality, or neither of them has two arguments. -/
theorem outcome_different_eq_or (isEqual : equal.role = .compare .equal)
    (isDifferent : different.role = .compare .different) (arguments : List Expression) :
    (ofExpression config (.operation different arguments)).outcome =
        (ofExpression config (.not (.operation equal arguments))).outcome ∨
      ∃ fault other, (ofExpression config (.operation different arguments)).outcome = .error fault ∧
        (ofExpression config (.not (.operation equal arguments))).outcome = .error other := by
  rw [Expression.not, outcome_ofExpression, outcome_ofExpression, outcome_walk_negate config rfl,
    outcome_walk_compare config isEqual, outcome_walk_compare config isDifferent, query_different,
    query_equal, onWords, onWords]
  obtain same | ⟨fault, other, first, second⟩ := pair_eq_or different equal arguments
  · left
    rw [same]
    cases pair equal arguments with
    | error fault => rfl
    | ok found =>
        change (found.1.fieldName >>= fun _ => found.2.words >>= _) =
          ((found.1.fieldName >>= fun _ => found.2.words >>= _) >>= _)
        cases found.1.fieldName with
        | error fault => rfl
        | ok field => cases found.2.words <;> rfl
  · right
    rw [first, second]
    exact ⟨fault, other, rfl, rfl⟩

/-- A difference and the negation of an equality have one query, or both blame their arguments. -/
theorem outcome_different_or_negation (isEqual : equal.role = .compare .equal)
    (isDifferent : different.role = .compare .different) (arguments : List Expression) :
    (∃ query, (ofExpression config (.operation different arguments)).outcome = .ok query ∧
      (ofExpression config (.not (.operation equal arguments))).outcome = .ok query) ∨
    ∃ fault other, (ofExpression config (.operation different arguments)).outcome = .error fault ∧
      (ofExpression config (.not (.operation equal arguments))).outcome = .error other ∧
      fault.kind = .invalidArgument ∧ other.kind = .invalidArgument := by
  have blames : BlamesArguments (ofExpression config (.operation different arguments)).outcome := by
    rw [outcome_ofExpression, outcome_walk_compare config isDifferent]
    exact blamesArguments_query different arguments config .different
  have alsoBlames :
      BlamesArguments (ofExpression config (.not (.operation equal arguments))).outcome := by
    rw [Expression.not, outcome_ofExpression, outcome_walk_negate config rfl,
      outcome_walk_compare config isEqual]
    exact (blamesArguments_query equal arguments config .equal).bind fun _ => .ok _
  obtain same | ⟨fault, other, first, second⟩ :=
    outcome_different_eq_or config isEqual isDifferent arguments
  · cases outcome : (ofExpression config (.operation different arguments)).outcome with
    | ok query => exact .inl ⟨query, rfl, same ▸ outcome⟩
    | error fault =>
        exact .inr ⟨fault, fault, rfl, same ▸ outcome, blames fault outcome, blames fault outcome⟩
  · exact .inr ⟨fault, other, first, second, blames fault first, alsoBlames other second⟩

/--
A membership in some constants has a query exactly when each equality with one of them has, and asks
for any of these queries in their order; otherwise it has the fault of the first equality that is
refused. A difference and the negation of an equality have one query, or both are refused for their
arguments.
-/
theorem outcomeOf_oneOf_and_different (isEqual : equal.role = .compare .equal)
    (isDifferent : different.role = .compare .different) :
    (∀ target values, values ≠ [] →
      ((∃ query, outcomeOf config .oneOf target (.collection values) = .ok query) ↔
        ∀ value ∈ values, ∃ query, outcomeOf config equal target value = .ok query) ∧
      (∀ queries,
        List.Forall₂ (fun value query => outcomeOf config equal target value = .ok query) values
          queries →
        outcomeOf config .oneOf target (.collection values) = .ok (allWith .should queries)) ∧
      (∀ before value after fault, values = before ++ value :: after →
        (∀ earlier ∈ before, ∃ query, outcomeOf config equal target earlier = .ok query) →
        outcomeOf config equal target value = .error fault →
        outcomeOf config .oneOf target (.collection values) = .error fault)) ∧
    (∀ arguments,
      (∃ query, (ofExpression config (.operation different arguments)).outcome = .ok query ∧
        (ofExpression config (.not (.operation equal arguments))).outcome = .ok query) ∨
      ∃ fault other, (ofExpression config (.operation different arguments)).outcome = .error fault ∧
        (ofExpression config (.not (.operation equal arguments))).outcome = .error other ∧
        fault.kind = .invalidArgument ∧ other.kind = .invalidArgument) := by
  refine ⟨fun target values nonempty => ?_,
    outcome_different_or_negation config isEqual isDifferent⟩
  rw [outcomeOf_oneOf config target isEqual nonempty]
  refine ⟨?_, ?_, ?_⟩
  · rw [← exists_mapM_eq_ok_iff, exists_bind_eq_ok_iff]
    exact exists_congr fun queries => and_iff_left ⟨_, rfl⟩
  · intro queries all
    rw [mapM_eq_ok_of_forall₂ all]
    rfl
  · rintro before value after fault rfl sound refused
    rw [mapM_eq_error_of_first after sound refused]
    rfl

/--
A nested collection is one phrase of its display, a blank constant is the first one that is refused,
and differences are refused for a third argument.
-/
theorem outcomeOf_oneOf_and_different_nested :
    let surplus := [Expression.path "f", .constant (.text "a"), .constant (.text "b")]
    outcomeOf .folding .oneOf (.path "f")
        (.collection [.text "A", .collection [.text "b", .collection [.text "c"]]]) =
      .ok (allWith .should [.term "f" "a" .one, .phrase "f" ["b,", "c"] .one]) ∧
    outcomeOf .folding .oneOf (.path "f") (.collection [.text "A", .text " ", .text ""]) =
      .error (.noWords (.text " ")) ∧
    (∃ fault other,
      (ofExpression .folding (.operation .notEquals surplus)).outcome = .error fault ∧
      (ofExpression .folding (.not (.operation .equals surplus))).outcome = .error other ∧
      fault.kind = .invalidArgument ∧ other.kind = .invalidArgument) := by
  intro surplus
  have isEqual : Operator.equals.role = .compare .equal := rfl
  have isDifferent : Operator.notEquals.role = .compare .different := rfl
  obtain ⟨memberships, differences⟩ := outcomeOf_oneOf_and_different .folding isEqual isDifferent
  have word : outcomeOf .folding .equals (.path "f") (.text "A") = .ok (.term "f" "a" .one) := rfl
  have nested : outcomeOf .folding .equals (.path "f")
      (.collection [.text "b", .collection [.text "c"]]) = .ok (.phrase "f" ["b,", "c"] .one) := rfl
  have blank : outcomeOf .folding .equals (.path "f") (.text " ") =
      .error (.noWords (.text " ")) := rfl
  refine ⟨?_, ?_, ?_⟩
  · exact (memberships _ _ (List.cons_ne_nil _ _)).2.1 _ (.cons word (.cons nested .nil))
  · exact (memberships _ _ (List.cons_ne_nil _ _)).2.2 [.text "A"] _ [.text ""] _ rfl
      (List.forall_mem_singleton.mpr ⟨_, word⟩) blank
  · obtain ⟨query, compiled, _⟩ | refused := differences surplus
    · cases compiled
    · exact refused

end Query

end FieldQuery
