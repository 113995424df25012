/-
This file proves which operators a run records: those that it visits from the outside in and from
left to right, up to the first fault.
-/
import FieldQuery.Proofs.Compilation.Faults

namespace FieldQuery

namespace Expression

mutual

/--
These operators are visited from the outside in and from left to right, and only connectives are
entered.
-/
def visited : Expression → List Operator
  | .path _ => []
  | .constant _ => []
  | .operation operator arguments =>
    operator :: if operator ∈ Operator.connectives then visitedOf arguments else []

/-- This function collects the visited operators of all expressions of a list. -/
def visitedOf : List Expression → List Operator
  | [] => []
  | first :: rest => visited first ++ visitedOf rest

end

variable {operator : Operator}

theorem visited_combine {occur : Occur} (role : operator.role = .combine occur)
    (left right : Expression) :
    (operation operator [left, right]).visited = operator :: (left.visited ++ right.visited) := by
  have connective : operator ∈ Operator.connectives := by
    simp [Operator.mem_connectives_iff, role]
  simp [visited, visitedOf, connective]

theorem visited_negate (role : operator.role = .negate) (operand : Expression) :
    (operation operator [operand]).visited = operator :: operand.visited := by
  have connective : operator ∈ Operator.connectives := by
    simp [Operator.mem_connectives_iff, role]
  simp [visited, visitedOf, connective]

theorem visited_compare {comparison : Comparison} (role : operator.role = .compare comparison)
    (arguments : List Expression) : (operation operator arguments).visited = [operator] := by
  have other : operator ∉ Operator.connectives := by simp [Operator.mem_connectives_iff, role]
  simp [visited, other]

def operator? : Expression → Option Operator
  | .operation operator _ => some operator
  | _ => none

end Expression

namespace Record

/-- The record at the start of a run shows the whole predicate. -/
theorem display_predicate (expression : Expression) :
    (predicate expression).display = "DEBUG serializing expression " ++ expression.display := by
  have heading : "DEBUG" ++ " " ++ "serializing expression " = "DEBUG serializing expression " := by
    decide
  change "DEBUG" ++ " " ++ ("serializing expression " ++ expression.display) = _
  exact String.append_assoc.symm.trans (congrArg (· ++ expression.display) heading)

/-- The record of an operator shows its name. -/
theorem display_operator (visited : Operator) :
    (operator visited).display = "TRACE translating " ++ visited.name := by
  have heading : "TRACE" ++ " " ++ "translating " = "TRACE translating " := by decide
  change "TRACE" ++ " " ++ ("translating " ++ visited.name) = _
  exact String.append_assoc.symm.trans (congrArg (· ++ visited.name) heading)

end Record

namespace Journal

variable {Result Next : Type}

/--
A run traces operators when its records are the first ones of them, and all of them if the run ends
with a result.
-/
structure Traces (journal : Journal Result) (operators : List Operator) : Prop where
  begins : ∃ trace, trace <+: operators ∧ journal.records = trace.map .operator
  complete : ∀ result, journal.outcome = .ok result → journal.records = operators.map .operator

/-- A run that fails at once traces the start of anything. -/
theorem traces_fail (fault : Fault) (operators : List Operator) :
    (fail fault : Journal Result).Traces operators where
  begins := ⟨[], List.nil_prefix, rfl⟩
  complete _ found := by cases found

theorem traces_ofOutcome (outcome : Except Fault Result) : (ofOutcome outcome).Traces [] where
  begins := ⟨[], List.nil_prefix, rfl⟩
  complete _ _ := rfl

theorem traces_pure (result : Result) : (pure result : Journal Result).Traces [] :=
  traces_ofOutcome (.ok result)

theorem Traces.note {journal : Journal Result} {operators : List Operator}
    (traces : journal.Traces operators) (operator : Operator) :
    (note (.operator operator) journal).Traces (operator :: operators) where
  begins := by
    obtain ⟨trace, start, records⟩ := traces.begins
    exact ⟨operator :: trace, (List.prefix_cons_inj operator).mpr start,
      congrArg (Record.operator operator :: ·) records⟩
  complete result found := congrArg (Record.operator operator :: ·) (traces.complete result found)

/-- The records of a second run follow when the first one ends with a result. -/
theorem records_bind_of_ok {journal : Journal Result} {result : Result}
    (found : journal.outcome = .ok result) (continuation : Result → Journal Next) :
    (journal >>= continuation).records = journal.records ++ (continuation result).records := by
  change (next journal continuation).records = _
  rw [next, found]

/-- Nothing is recorded after a fault. -/
theorem records_bind_of_error {journal : Journal Result} {fault : Fault}
    (refused : journal.outcome = .error fault) (continuation : Result → Journal Next) :
    (journal >>= continuation).records = journal.records := by
  change (next journal continuation).records = _
  rw [next, refused]

/-- Two runs trace the operators of the first one and then those of the second one. -/
theorem Traces.bind {journal : Journal Result} {first second : List Operator}
    (traces : journal.Traces first) {continuation : Result → Journal Next}
    (following : ∀ result, (continuation result).Traces second) :
    (journal >>= continuation).Traces (first ++ second) := by
  cases outcome : journal.outcome with
  | error fault =>
      have records := records_bind_of_error outcome continuation
      obtain ⟨trace, start, written⟩ := traces.begins
      refine ⟨⟨trace, start.trans (List.prefix_append first second), records.trans written⟩, ?_⟩
      intro result found
      rw [outcome_bind, outcome] at found
      cases found
  | ok result =>
      have records := records_bind_of_ok outcome continuation
      rw [traces.complete result outcome] at records
      constructor
      · obtain ⟨trace, start, written⟩ := (following result).begins
        refine ⟨first ++ trace, (List.prefix_append_right_inj first).mpr start, ?_⟩
        rw [records, written, List.map_append]
      · intro last found
        rw [outcome_bind, outcome] at found
        rw [records, (following result).complete last found, List.map_append]

/-- Two runs agree when they write the same records and both end with a result or both do not. -/
structure Agrees (left right : Journal Result) : Prop where
  records : left.records = right.records
  results : (∃ result, left.outcome = .ok result) ↔ ∃ result, right.outcome = .ok result

theorem Agrees.refl (journal : Journal Result) : journal.Agrees journal := ⟨rfl, Iff.rfl⟩

/-- Runs without records agree when both end with a result or both do not. -/
theorem agrees_ofOutcome {left right : Except Fault Result}
    (results : (∃ result, left = .ok result) ↔ ∃ result, right = .ok result) :
    (ofOutcome left).Agrees (ofOutcome right) := ⟨rfl, results⟩

theorem Agrees.note {left right : Journal Result} (agrees : left.Agrees right) (record : Record) :
    (note record left).Agrees (note record right) where
  records := congrArg (record :: ·) agrees.records
  results := agrees.results

/-- Runs that agree are followed by runs that agree. -/
theorem Agrees.bind {left right : Journal Result} (agrees : left.Agrees right)
    {continuation other : Result → Journal Next}
    (following : ∀ result another, (continuation result).Agrees (other another)) :
    (left >>= continuation).Agrees (right >>= other) := by
  cases outcome : left.outcome with
  | error fault =>
      cases otherOutcome : right.outcome with
      | error another =>
          constructor
          · rw [records_bind_of_error outcome, records_bind_of_error otherOutcome, agrees.records]
          · rw [outcome_bind, outcome_bind, outcome, otherOutcome]
            exact iff_of_false (by rintro ⟨_, found⟩; cases found) (by rintro ⟨_, found⟩; cases found)
      | ok another =>
          obtain ⟨result, found⟩ := agrees.results.mpr ⟨another, otherOutcome⟩
          rw [outcome] at found
          cases found
  | ok result =>
      obtain ⟨another, otherOutcome⟩ := agrees.results.mp ⟨result, outcome⟩
      constructor
      · rw [records_bind_of_ok outcome, records_bind_of_ok otherOutcome, agrees.records,
          (following result another).records]
      · rw [outcome_bind, outcome_bind, outcome, otherOutcome]
        exact (following result another).results

end Journal

namespace Query

open Expression Journal

variable (config : Config)

/-- A run traces the visited operators. -/
theorem traces_walk (expression : Expression) :
    (walk config expression).Traces expression.visited := by
  induction expression using inductionOnRoles with
  | path name =>
      rw [walk.eq_def]
      exact traces_fail _ _
  | constant value =>
      rw [walk.eq_def]
      exact traces_fail _ _
  | unsupported operator arguments role =>
      rw [walk_unsupported config role, visited]
      exact (traces_fail _ _).note operator
  | miscounted operator arguments supported wrong =>
      rw [walk_of_arity_ne config supported wrong, visited]
      exact (traces_fail _ _).note operator
  | combination operator occur left right role first second =>
      rw [walk_combine config role, visited_combine role]
      refine Traces.note ?_ operator
      refine first.bind fun _ => ?_
      simpa using second.bind fun _ => traces_pure _
  | negation operator operand role inner =>
      rw [walk_negate config role, visited_negate role]
      refine Traces.note ?_ operator
      simpa using inner.bind fun _ => traces_pure _
  | comparison operator comparison arguments role =>
      rw [walk_compare config role, visited_compare role]
      exact (traces_ofOutcome _).note operator

/-- Runs of one predicate agree, whatever their configurations are. -/
theorem agrees_walk (other : Config) (expression : Expression) :
    (walk config expression).Agrees (walk other expression) := by
  induction expression using inductionOnRoles with
  | path name =>
      rw [walk.eq_def, walk.eq_def]
      exact .refl _
  | constant value =>
      rw [walk.eq_def, walk.eq_def]
      exact .refl _
  | unsupported operator arguments role =>
      rw [walk_unsupported config role, walk_unsupported other role]
      exact .refl _
  | miscounted operator arguments supported wrong =>
      rw [walk_of_arity_ne config supported wrong, walk_of_arity_ne other supported wrong]
      exact .refl _
  | combination operator occur left right role first second =>
      rw [walk_combine config role, walk_combine other role]
      refine Agrees.note (first.bind fun _ _ => second.bind fun _ _ => ?_) _
      exact ⟨rfl, iff_of_true ⟨_, rfl⟩ ⟨_, rfl⟩⟩
  | negation operator operand role inner =>
      rw [walk_negate config role, walk_negate other role]
      refine Agrees.note (inner.bind fun _ _ => ?_) _
      exact ⟨rfl, iff_of_true ⟨_, rfl⟩ ⟨_, rfl⟩⟩
  | comparison operator comparison arguments role =>
      rw [walk_compare config role, walk_compare other role]
      refine (agrees_ofOutcome ?_).note _
      rw [Comparison.query_eq_build, Comparison.query_eq_build]
      cases comparison.operands operator arguments with
      | error fault => exact Iff.rfl
      | ok found => exact iff_of_true ⟨_, rfl⟩ ⟨_, rfl⟩

/-- A predicate with a query reaches the operators that it visits. -/
theorem filterMap_operator?_reached {expression : Expression}
    (compiled : ∃ query, (walk config expression).outcome = .ok query) :
    expression.reached.filterMap operator? = expression.visited := by
  induction expression using inductionOnRoles with
  | path name => rfl
  | constant value => rfl
  | unsupported operator arguments role =>
      simp [outcome_walk_unsupported config role] at compiled
  | miscounted operator arguments supported wrong =>
      simp [outcome_walk_of_arity_ne config supported wrong] at compiled
  | combination operator occur left right role first second =>
      simp only [outcome_walk_combine config role, exists_bind_eq_ok_iff] at compiled
      obtain ⟨leftQuery, leftFound, rightQuery, rightFound, _⟩ := compiled
      rw [reached_combine role, visited_combine role, ← first ⟨leftQuery, leftFound⟩,
        ← second ⟨rightQuery, rightFound⟩, ← List.filterMap_append]
      rfl
  | negation operator operand role inner =>
      simp only [outcome_walk_negate config role, exists_bind_eq_ok_iff] at compiled
      obtain ⟨query, found, _⟩ := compiled
      rw [reached_negate role, visited_negate role, ← inner ⟨query, found⟩]
      rfl
  | comparison operator comparison arguments role =>
      rw [reached_compare role, visited_compare role]
      rfl

variable {config}

/-- A frame that is clear writes a record of itself, of what it passes, and of what is refused. -/
theorem records_fill {frame : Frame} (clear : IsClear config frame) {operand : Expression}
    {fault : Fault} (refused : (walk config operand).outcome = .error fault) :
    (walk config (frame.fill operand)).records =
      ((frame.fill operand :: frame.passed).filterMap operator?).map .operator ++
        (walk config operand).records := by
  cases frame with
  | before operator role right =>
      rw [Frame.fill, walk_combine config role]
      exact congrArg (Record.operator operator :: ·) (records_bind_of_error refused _)
  | after operator role left =>
      obtain ⟨first, found⟩ := (exists_compiled_iff left).mpr clear
      have passed := (traces_walk config left).complete first found
      rw [← filterMap_operator?_reached config ⟨first, found⟩] at passed
      rw [Frame.fill, walk_combine config role]
      refine congrArg (Record.operator operator :: ·) ((records_bind_of_ok found _).trans ?_)
      rw [records_bind_of_error refused, passed]
      rfl
  | under operator role =>
      rw [Frame.fill, walk_negate config role]
      exact congrArg (Record.operator operator :: ·) (records_bind_of_error refused _)

/-- A faulty node records nothing but its own operator. -/
theorem Faulty.records {node : Expression} (faulty : Faulty config node) :
    (walk config node).records = ([node].filterMap operator?).map .operator := by
  cases faulty with
  | path name => rw [walk.eq_def]; rfl
  | constant value => rw [walk.eq_def]; rfl
  | @miscounted operator arguments connective wrong =>
      rw [walk_of_arity_ne config ?_ wrong]
      · rfl
      · intro role
        simp [Operator.mem_connectives_iff, role] at connective
  | @refused operator arguments fault other refused =>
      cases role : operator.role with
      | compare comparison =>
          rw [walk_compare config role]
          rfl
      | unsupported =>
          rw [walk_unsupported config role]
          rfl
      | _ => simp [Operator.mem_connectives_iff, role] at other

/-- A refused predicate records the operators up to its first faulty node. -/
theorem IsFirstFaulty.records {expression node : Expression} {frames : List Frame}
    (first : IsFirstFaulty config expression frames node) :
    (walk config expression).records =
      ((Expression.earlier frames node ++ [node]).filterMap operator?).map .operator := by
  obtain ⟨rfl, sound, faulty⟩ := first
  obtain ⟨fault, refused⟩ := faulty.exists_fault
  have clear := not_faulty_earlier_iff.mp sound
  induction frames with
  | nil => exact faulty.records
  | cons frame rest inductionHypothesis =>
      obtain ⟨head, others⟩ := List.forall_mem_cons.mp clear
      have inner := inductionHypothesis (not_faulty_earlier_iff.mpr others) others
      change (walk config (frame.fill (place rest node))).records = _
      rw [records_fill head (outcome_place others refused), inner, ← List.map_append,
        ← List.filterMap_append]
      simp [Expression.earlier, place]

/--
A run writes a record of the whole predicate and then one for each of the first operators that are
visited, whatever the configuration is. These are all of them when there is a query, and else those
up to the first faulty node.
-/
theorem records_ofExpression (expression : Expression) :
    ∃ trace, trace <+: expression.visited ∧ ∀ config,
      (ofExpression config expression).records.map Record.display =
        ("DEBUG serializing expression " ++ expression.display) ::
          trace.map (fun operator => "TRACE translating " ++ operator.name) ∧
      ((∃ query, (ofExpression config expression).outcome = .ok query) →
        trace = expression.visited) ∧
      ∀ frames node, IsFirstFaulty config expression frames node →
        trace = (Expression.earlier frames node ++ [node]).filterMap operator? := by
  obtain ⟨trace, start, written⟩ := (traces_walk .exact expression).begins
  refine ⟨trace, start, fun config => ?_⟩
  have records : (walk config expression).records = trace.map .operator :=
    (agrees_walk config .exact expression).records.trans written
  have unique {operators : List Operator}
      (same : (walk config expression).records = operators.map .operator) : trace = operators := by
    refine List.map_injective_iff.mpr (fun _ _ => Record.operator.inj) ?_
    exact records.symm.trans same
  refine ⟨?_, ?_, ?_⟩
  · change Record.display (.predicate expression) ::
      (walk config expression).records.map Record.display = _
    rw [records, Record.display_predicate, List.map_map]
    exact congrArg (_ :: ·) (List.map_congr_left fun operator _ => Record.display_operator operator)
  · rintro ⟨query, compiled⟩
    exact unique ((traces_walk config expression).complete query compiled)
  · exact fun frames node first => unique first.records

/--
A check for null is the last operator that is recorded, and all operators are recorded without it.
-/
theorem records_ofExpression_isNull :
    let equal := Expression.operation .equals [.path "f", .constant (.text "a")]
    let check := Expression.operation .isNull [.path "f"]
    let sound := Expression.operation .and [.operation .not [equal], equal]
    let unsound := Expression.operation .or [check, sound]
    (∃ query, (ofExpression .folding sound).outcome = .ok query) ∧
    (ofExpression .folding sound).records.map Record.display =
      ["DEBUG serializing expression and(not(eq(f, a)), eq(f, a))", "TRACE translating and",
        "TRACE translating not", "TRACE translating eq", "TRACE translating eq"] ∧
    IsFirstFaulty .exact unsound [.before .or rfl sound] check ∧
    (ofExpression .exact unsound).records.map Record.display =
      ["DEBUG serializing expression or(is_null(f), and(not(eq(f, a)), eq(f, a)))",
        "TRACE translating or", "TRACE translating is_null"] := by
  intro equal check sound unsound
  have compiled : ∃ query, (ofExpression .folding sound).outcome = .ok query := ⟨_, rfl⟩
  have first : IsFirstFaulty .exact unsound [.before .or rfl sound] check := by
    refine ⟨rfl, ?_, .refused (by decide) rfl⟩
    rw [not_faulty_earlier_iff]
    exact List.forall_mem_singleton.mpr (by simp [IsClear, Frame.passed])
  obtain ⟨whole, _, written⟩ := records_ofExpression sound
  obtain ⟨start, _, alsoWritten⟩ := records_ofExpression unsound
  have complete : whole = [.and, .not, .equals, .equals] := (written .folding).2.1 compiled
  have partly : start = [.or, .isNull] := (alsoWritten .exact).2.2 _ _ first
  refine ⟨compiled, ?_, first, ?_⟩
  · rw [(written .folding).1, complete]
    decide
  · rw [(alsoWritten .exact).1, partly]
    decide

end Query

end FieldQuery
