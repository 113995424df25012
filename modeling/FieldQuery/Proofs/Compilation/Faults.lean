/-
This file finds the node of a refused predicate that is at fault and says which faults there are.
-/
import FieldQuery.Proofs.Compilation.Operands
import FieldQuery.Proofs.Expression.Frames

namespace FieldQuery

/-- A step blames its arguments when each fault that it may end with lies in them. -/
def BlamesArguments {Result : Type} (outcome : Except Fault Result) : Prop :=
  ∀ fault, outcome = .error fault → fault.kind = .invalidArgument

namespace BlamesArguments

variable {Result Next : Type} {outcome : Except Fault Result}

theorem ok (result : Result) : BlamesArguments (.ok result) :=
  fun _ found => by cases found

/-- A fault in the arguments blames them. -/
theorem error {fault : Fault} (kind : fault.kind = .invalidArgument) :
    BlamesArguments (.error fault : Except Fault Result) := by
  intro other found
  obtain rfl : fault = other := by simpa using found
  exact kind

/-- Two steps blame their arguments when each of them does. -/
theorem bind {next : Result → Except Fault Next} (blames : BlamesArguments outcome)
    (following : ∀ result, BlamesArguments (next result)) : BlamesArguments (outcome >>= next) := by
  cases outcome with
  | error fault => exact error (blames fault rfl)
  | ok result => exact following result

/-- A mapped outcome blames arguments when the outcome does. -/
theorem map (blames : BlamesArguments outcome) (next : Result → Next) :
    BlamesArguments (outcome.map next) := by
  cases outcome with
  | error fault => exact error (blames fault rfl)
  | ok result => exact ok (next result)

end BlamesArguments

/-- Constants without words are arguments. -/
theorem Constant.blamesArguments_words (value : Constant) : BlamesArguments value.words := by
  unfold words
  split
  · exact .error rfl
  · exact .ok _

/-- Whatever has no name is an argument. -/
theorem Expression.blamesArguments_fieldName (expression : Expression) :
    BlamesArguments expression.fieldName := by
  induction expression using inductionOnArguments with
  | path name => exact .ok name
  | constant value => exact .error rfl
  | operation operator arguments inductionHypothesis =>
      unfold fieldName
      split
      · cases arguments with
        | nil => exact .error rfl
        | cons inner others => exact inductionHypothesis inner List.mem_cons_self
      · exact .error rfl

namespace Comparison

variable (operator : Operator) (arguments : List Expression)

/-- A list that is no pair has a wrong argument or a wrong number of them. -/
theorem blamesArguments_pair : BlamesArguments (pair operator arguments) := by
  unfold pair
  split
  · exact .ok _
  · exact .error rfl
  · exact .error rfl

/-- A list that is no triple has a wrong argument or a wrong number of them. -/
theorem blamesArguments_triple : BlamesArguments (triple operator arguments) := by
  unfold triple
  split
  · exact .ok _
  · exact .error rfl
  · exact .error rfl
  · exact .error rfl

/-- Escaped or not, missing words are missing in an argument. -/
theorem blamesArguments_wordsOf (comparison : Comparison) (value : Constant) :
    BlamesArguments (comparison.wordsOf value) := by
  cases escaped : comparison.isEscaped with
  | true =>
      simp only [wordsOf, escaped]
      rw [Constant.escapedWords_eq_map]
      exact value.blamesArguments_words.map _
  | false =>
      simp only [wordsOf, escaped]
      exact value.blamesArguments_words

/-- Missing words of a collection are missing in an argument. -/
theorem blamesArguments_mapM_words (values : List Constant) :
    BlamesArguments (values.mapM Constant.words) := by
  induction values with
  | nil => exact .ok []
  | cons value rest inductionHypothesis =>
      rw [List.mapM_cons]
      exact value.blamesArguments_words.bind fun _ => inductionHypothesis.bind fun _ => .ok _

/-- Every comparison blames its arguments when it cannot read them. -/
theorem blamesArguments_operands (comparison : Comparison) :
    BlamesArguments (operands comparison operator arguments) := by
  cases comparison with
  | between =>
      refine (blamesArguments_triple operator arguments).bind fun found => ?_
      refine found.1.blamesArguments_fieldName.bind fun _ => ?_
      refine found.2.1.blamesArguments_words.bind fun _ => ?_
      exact found.2.2.blamesArguments_words.bind fun _ => .ok _
  | oneOf =>
      obtain ⟨target, values, rfl⟩ | ⟨target, argument, rfl, other⟩ | wrong :=
        membership_cases arguments
      · refine target.blamesArguments_fieldName.bind fun _ => ?_
        exact (blamesArguments_mapM_words values).bind fun _ => .ok _
      · rw [operands_oneOf_of_ne_collection operator target other]
        exact target.blamesArguments_fieldName.bind fun _ => .error rfl
      · rw [operands_oneOf_of_length_ne wrong]
        exact .error rfl
  | _ =>
      refine (blamesArguments_pair operator arguments).bind fun found => ?_
      refine found.1.blamesArguments_fieldName.bind fun _ => ?_
      exact (blamesArguments_wordsOf _ found.2).bind fun _ => .ok _

/-- Every comparison blames its arguments when it has no query. -/
theorem blamesArguments_query (config : Config) (comparison : Comparison) :
    BlamesArguments (comparison.query config operator arguments) := by
  rw [query_eq_build]
  exact (blamesArguments_operands operator arguments comparison).map _

end Comparison

namespace Operator

/-- These operators combine or negate predicates. -/
def connectives : List Operator := [.and, .or, .not]

/-- These operators have no query, with any arguments. -/
def withoutQuery : List Operator :=
  [.lower, .upper, .lessThan, .lessOrEqual, .greaterThan, .greaterOrEqual, .isNull, .isNotNull,
    .matching]

theorem mem_connectives_iff (operator : Operator) :
    operator ∈ connectives ↔ (∃ occur, operator.role = .combine occur) ∨ operator.role = .negate := by
  cases operator <;> simp [connectives, role]

theorem mem_withoutQuery_iff (operator : Operator) :
    operator ∈ withoutQuery ↔ operator.role = .unsupported := by
  cases operator <;> simp [withoutQuery, role]

end Operator

namespace Query

open Expression

variable (config : Config)

/--
A faulty node is no operation, a connective with a wrong number of operands, or another operation
that is refused by itself.
-/
inductive Faulty : Expression → Prop where
  | path (name : String) : Faulty (.path name)
  | constant (value : Constant) : Faulty (.constant value)
  | miscounted {operator : Operator} {arguments : List Expression}
      (connective : operator ∈ Operator.connectives) (wrong : arguments.length ≠ operator.arity) :
      Faulty (.operation operator arguments)
  | refused {operator : Operator} {arguments : List Expression} {fault : Fault}
      (other : operator ∉ Operator.connectives)
      (refused : (ofExpression config (.operation operator arguments)).outcome = .error fault) :
      Faulty (.operation operator arguments)

variable {config : Config}

/-- Every faulty node is refused by itself. -/
theorem Faulty.exists_fault {node : Expression} (faulty : Faulty config node) :
    ∃ fault, (walk config node).outcome = .error fault := by
  cases faulty with
  | path name => exact ⟨_, outcome_walk_path config name⟩
  | constant value => exact ⟨_, outcome_walk_constant config value⟩
  | miscounted connective wrong =>
      refine ⟨_, outcome_walk_of_arity_ne config (fun role => ?_) wrong⟩
      simp [Operator.mem_connectives_iff, role] at connective
  | refused other refused => exact ⟨_, refused⟩

/-- A connective with as many operands as it needs is not faulty. -/
theorem not_faulty_of_connective {operator : Operator} {arguments : List Expression}
    (connective : operator ∈ Operator.connectives) (count : arguments.length = operator.arity) :
    ¬ Faulty config (.operation operator arguments) := by
  intro faulty
  cases faulty with
  | miscounted _ wrong => exact wrong count
  | refused other _ => exact other connective

/-- A frame with the operand that it lacks is not faulty. -/
theorem not_faulty_fill (frame : Frame) (operand : Expression) :
    ¬ Faulty config (frame.fill operand) := by
  cases frame with
  | before operator role right =>
      exact not_faulty_of_connective (by simp [Operator.mem_connectives_iff, role])
        (Operator.arity_of_combine role).symm
  | after operator role left =>
      exact not_faulty_of_connective (by simp [Operator.mem_connectives_iff, role])
        (Operator.arity_of_combine role).symm
  | under operator role =>
      exact not_faulty_of_connective (by simp [Operator.mem_connectives_iff, role])
        (Operator.arity_of_negate role).symm

/-- A predicate that is faulty itself has no query. -/
theorem not_compiled_of_faulty {expression : Expression} (faulty : Faulty config expression) :
    ¬ ∃ query, (walk config expression).outcome = .ok query := by
  rintro ⟨query, compiled⟩
  obtain ⟨fault, refused⟩ := faulty.exists_fault
  rw [compiled] at refused
  cases refused

/-- An operation with a wrong number of arguments is faulty, whatever its operator is. -/
theorem faulty_of_arity_ne {operator : Operator} (supported : operator.role ≠ .unsupported)
    {arguments : List Expression} (wrong : arguments.length ≠ operator.arity) :
    Faulty config (.operation operator arguments) := by
  by_cases connective : operator ∈ Operator.connectives
  · exact .miscounted connective wrong
  · exact .refused connective (outcome_walk_of_arity_ne config supported wrong)

/-- A predicate that is faulty itself has no query and reaches a faulty node. -/
theorem exists_compiled_iff_of_faulty {expression : Expression}
    (faulty : Faulty config expression) :
    (∃ query, (walk config expression).outcome = .ok query) ↔
      ∀ node ∈ expression.reached, ¬ Faulty config node := by
  refine iff_of_false (not_compiled_of_faulty faulty) fun sound => ?_
  obtain ⟨inner, reached⟩ := exists_reached expression
  rw [reached] at sound
  exact sound expression List.mem_cons_self faulty

/-- A predicate has a query exactly when it reaches no faulty node. -/
theorem exists_compiled_iff (expression : Expression) :
    (∃ query, (walk config expression).outcome = .ok query) ↔
      ∀ node ∈ expression.reached, ¬ Faulty config node := by
  induction expression using inductionOnRoles with
  | path name => exact exists_compiled_iff_of_faulty (.path name)
  | constant value => exact exists_compiled_iff_of_faulty (.constant value)
  | unsupported operator arguments role =>
      have other : operator ∉ Operator.connectives := by simp [Operator.mem_connectives_iff, role]
      exact exists_compiled_iff_of_faulty
        (.refused other (outcome_walk_unsupported config role arguments))
  | miscounted operator arguments supported wrong =>
      exact exists_compiled_iff_of_faulty (faulty_of_arity_ne supported wrong)
  | combination operator occur left right role firstHypothesis secondHypothesis =>
      have sound : ¬ Faulty config (.operation operator [left, right]) :=
        not_faulty_fill (.before operator role right) left
      rw [outcome_walk_combine config role, reached_combine role, List.forall_mem_cons,
        List.forall_mem_append]
      simp only [exists_bind_eq_ok_iff]
      constructor
      · rintro ⟨first, firstFound, second, secondFound, _⟩
        exact ⟨sound, firstHypothesis.mp ⟨first, firstFound⟩,
          secondHypothesis.mp ⟨second, secondFound⟩⟩
      · rintro ⟨_, firstSound, secondSound⟩
        obtain ⟨first, firstFound⟩ := firstHypothesis.mpr firstSound
        obtain ⟨second, secondFound⟩ := secondHypothesis.mpr secondSound
        exact ⟨first, firstFound, second, secondFound, _, rfl⟩
  | negation operator operand role inductionHypothesis =>
      have sound : ¬ Faulty config (.operation operator [operand]) :=
        not_faulty_fill (.under operator role) operand
      rw [outcome_walk_negate config role, reached_negate role, List.forall_mem_cons]
      simp only [exists_bind_eq_ok_iff]
      constructor
      · rintro ⟨inner, found, _⟩
        exact ⟨sound, inductionHypothesis.mp ⟨inner, found⟩⟩
      · rintro ⟨_, innerSound⟩
        obtain ⟨inner, found⟩ := inductionHypothesis.mpr innerSound
        exact ⟨inner, found, _, rfl⟩
  | comparison operator comparison arguments role =>
      cases outcome : (walk config (.operation operator arguments)).outcome with
      | error fault =>
          have other : operator ∉ Operator.connectives := by
            simp [Operator.mem_connectives_iff, role]
          rw [← outcome]
          exact exists_compiled_iff_of_faulty (.refused other outcome)
      | ok query =>
          rw [reached_compare role, List.forall_mem_singleton]
          refine iff_of_true ⟨query, rfl⟩ fun faulty => ?_
          exact not_compiled_of_faulty faulty ⟨query, outcome⟩

/-- A frame is clear when it passes no faulty node. -/
def IsClear (config : Config) (frame : Frame) : Prop :=
  ∀ inner ∈ frame.passed, ¬ Faulty config inner

/-- Frames that agree with clear ones are clear. -/
theorem forall_isClear_of_agree {frames others : List Frame}
    (agree : List.Forall₂ Frame.Agree frames others)
    (clear : ∀ frame ∈ frames, IsClear config frame) : ∀ other ∈ others, IsClear config other := by
  induction agree with
  | nil => exact clear
  | cons same _ inductionHypothesis =>
      obtain ⟨first, following⟩ := List.forall_mem_cons.mp clear
      refine List.forall_mem_cons.mpr ⟨?_, inductionHypothesis following⟩
      cases same <;> exact first

/-- Only what the frames pass can be faulty before a node. -/
theorem not_faulty_earlier_iff {frames : List Frame} {node : Expression} :
    (∀ inner ∈ Expression.earlier frames node, ¬ Faulty config inner) ↔
      ∀ frame ∈ frames, IsClear config frame := by
  induction frames with
  | nil => exact iff_of_true (by simp [Expression.earlier]) (by simp)
  | cons frame rest inductionHypothesis =>
      have sound : ¬ Faulty config (place (frame :: rest) node) := not_faulty_fill frame _
      rw [Expression.earlier, List.forall_mem_cons, List.forall_mem_append, inductionHypothesis,
        List.forall_mem_cons]
      exact and_iff_right sound

/-- A frame that is clear has the fault of the operand that it lacks. -/
theorem outcome_fill {frame : Frame} (clear : IsClear config frame) {operand : Expression}
    {fault : Fault} (refused : (walk config operand).outcome = .error fault) :
    (walk config (frame.fill operand)).outcome = .error fault := by
  cases frame with
  | before operator role right =>
      rw [Frame.fill, outcome_walk_combine config role, refused]
      rfl
  | after operator role left =>
      -- The left side is passed as a whole, so it has a query and the fault is that of the right one.
      obtain ⟨first, found⟩ := (exists_compiled_iff left).mpr clear
      rw [Frame.fill, outcome_walk_combine config role, refused, found]
      rfl
  | under operator role =>
      rw [Frame.fill, outcome_walk_negate config role, refused]
      rfl

/-- A predicate has the fault of a node that is placed inside clear frames. -/
theorem outcome_place {frames : List Frame} (clear : ∀ frame ∈ frames, IsClear config frame)
    {node : Expression} {fault : Fault} (refused : (walk config node).outcome = .error fault) :
    (walk config (place frames node)).outcome = .error fault := by
  induction frames with
  | nil => exact refused
  | cons frame rest inductionHypothesis =>
      obtain ⟨first, others⟩ := List.forall_mem_cons.mp clear
      exact outcome_fill first (inductionHypothesis others)

/-- A predicate is the place of a node inside frames before which no node is faulty. -/
structure IsFirstFaulty (config : Config) (expression : Expression) (frames : List Frame)
    (node : Expression) : Prop where
  placed : expression = place frames node
  earlier : ∀ inner ∈ Expression.earlier frames node, ¬ Faulty config inner
  faulty : Faulty config node

/-- A faulty predicate is its own first faulty node. -/
theorem Faulty.isFirstFaulty {expression : Expression} (faulty : Faulty config expression) :
    IsFirstFaulty config expression [] expression :=
  ⟨rfl, by simp [Expression.earlier], faulty⟩

/-- What is faulty first in an operand is so in a clear frame around it. -/
theorem IsFirstFaulty.fill {expression node : Expression} {frames : List Frame}
    (first : IsFirstFaulty config expression frames node) {frame : Frame}
    (clear : IsClear config frame) :
    IsFirstFaulty config (frame.fill expression) (frame :: frames) node := by
  refine ⟨?_, ?_, first.faulty⟩
  · rw [first.placed]
    rfl
  · rw [not_faulty_earlier_iff]
    exact List.forall_mem_cons.mpr ⟨clear, not_faulty_earlier_iff.mp first.earlier⟩

/-- Every refused predicate has a first faulty node. -/
theorem exists_isFirstFaulty {expression : Expression} {fault : Fault}
    (refused : (walk config expression).outcome = .error fault) :
    ∃ frames node, IsFirstFaulty config expression frames node := by
  induction expression using inductionOnRoles generalizing fault with
  | path name => exact ⟨_, _, (Faulty.path name).isFirstFaulty⟩
  | constant value => exact ⟨_, _, (Faulty.constant value).isFirstFaulty⟩
  | unsupported operator arguments role =>
      have other : operator ∉ Operator.connectives := by simp [Operator.mem_connectives_iff, role]
      exact ⟨_, _, (Faulty.refused other refused).isFirstFaulty⟩
  | miscounted operator arguments supported wrong =>
      exact ⟨_, _, (faulty_of_arity_ne supported wrong).isFirstFaulty⟩
  | combination operator occur left right role firstHypothesis secondHypothesis =>
      -- A fault of the left side comes first, whatever the right side is.
      cases leftOutcome : (walk config left).outcome with
      | error leftFault =>
          obtain ⟨frames, node, first⟩ := firstHypothesis leftOutcome
          have clear : IsClear config (.before operator role right) := by simp [IsClear, Frame.passed]
          exact ⟨_, node, first.fill clear⟩
      | ok query =>
          have clear : IsClear config (.after operator role left) :=
            (exists_compiled_iff left).mp ⟨query, leftOutcome⟩
          cases rightOutcome : (walk config right).outcome with
          | error rightFault =>
              obtain ⟨frames, node, first⟩ := secondHypothesis rightOutcome
              exact ⟨_, node, first.fill clear⟩
          | ok other =>
              rw [outcome_walk_combine config role, leftOutcome, rightOutcome] at refused
              cases refused
  | negation operator operand role inductionHypothesis =>
      cases outcome : (walk config operand).outcome with
      | error inner =>
          obtain ⟨frames, node, first⟩ := inductionHypothesis outcome
          have clear : IsClear config (.under operator role) := by simp [IsClear, Frame.passed]
          exact ⟨_, node, first.fill clear⟩
      | ok query =>
          rw [outcome_walk_negate config role, outcome] at refused
          cases refused
  | comparison operator comparison arguments role =>
      have other : operator ∉ Operator.connectives := by simp [Operator.mem_connectives_iff, role]
      exact ⟨_, _, (Faulty.refused other refused).isFirstFaulty⟩

/-- The root of a predicate is unsupported when its operator has no query. -/
def IsUnsupported (expression : Expression) : Prop :=
  ∃ operator ∈ Operator.withoutQuery, ∃ arguments, expression = .operation operator arguments

/-- An operation is unsupported exactly when its operator has that role. -/
theorem isUnsupported_operation_iff (operator : Operator) (arguments : List Expression) :
    IsUnsupported (.operation operator arguments) ↔ operator.role = .unsupported := by
  rw [← Operator.mem_withoutQuery_iff]
  constructor
  · rintro ⟨other, without, inner, same⟩
    cases same
    exact without
  · intro without
    exact ⟨operator, without, arguments, rfl⟩

/-- A faulty node is unsupported, or its fault lies in its arguments. -/
theorem Faulty.kind {node : Expression} (faulty : Faulty config node) {fault : Fault}
    (refused : (walk config node).outcome = .error fault) :
    (IsUnsupported node ∧ fault.kind = .unsupportedOperation) ∨
      (¬ IsUnsupported node ∧ fault.kind = .invalidArgument) := by
  cases node with
  | path name =>
      rw [outcome_walk_path] at refused
      cases refused
      exact .inr ⟨by simp [IsUnsupported], rfl⟩
  | constant value =>
      rw [outcome_walk_constant] at refused
      cases refused
      exact .inr ⟨by simp [IsUnsupported], rfl⟩
  | operation operator arguments =>
      rw [isUnsupported_operation_iff]
      by_cases unsupported : operator.role = .unsupported
      · rw [outcome_walk_unsupported config unsupported] at refused
        cases refused
        exact .inl ⟨unsupported, rfl⟩
      · refine .inr ⟨unsupported, ?_⟩
        cases faulty with
        | miscounted _ wrong =>
            rw [outcome_walk_of_arity_ne config unsupported wrong] at refused
            cases refused
            rfl
        | refused other _ =>
            cases role : operator.role with
            | compare comparison =>
                rw [outcome_walk_compare config role] at refused
                exact Comparison.blamesArguments_query operator arguments config comparison fault
                  refused
            | unsupported => exact absurd role unsupported
            | _ => simp [Operator.mem_connectives_iff, role] at other

/--
Every refused predicate has a first faulty node. The predicate and this node have the same fault,
which stays when the frames around the node get other sides after it. The fault is that of an
unsupported operation exactly when this node is one, and it never lies in a query or in a document.
-/
theorem fault_of_first {config : Config} {expression : Expression} {fault : Fault}
    (refused : (ofExpression config expression).outcome = .error fault) :
    (∃ frames node, IsFirstFaulty config expression frames node) ∧
    ∀ frames node, IsFirstFaulty config expression frames node →
      (∃ later, expression.reached = Expression.earlier frames node ++ node :: later) ∧
      (ofExpression config node).outcome = .error fault ∧
      (∀ others, List.Forall₂ Frame.Agree frames others →
        (ofExpression config (place others node)).outcome = .error fault) ∧
      (fault.kind = .unsupportedOperation ↔ IsUnsupported node) ∧
      fault.kind ≠ .query ∧ fault.kind ≠ .json := by
  refine ⟨exists_isFirstFaulty refused, fun frames node first => ?_⟩
  have clear := not_faulty_earlier_iff.mp first.earlier
  obtain ⟨own, found⟩ := first.faulty.exists_fault
  obtain rfl : own = fault := by
    rw [outcome_ofExpression, first.placed, outcome_place clear found] at refused
    exact Except.error.inj refused
  refine ⟨?_, found, ?_, ?_⟩
  · rw [first.placed]
    exact exists_reached_place frames node
  · exact fun others agree => outcome_place (forall_isClear_of_agree agree clear) found
  · obtain ⟨unsupported, kind⟩ | ⟨supported, kind⟩ := first.faulty.kind found
    · exact ⟨iff_of_true kind unsupported, by simp [kind]⟩
    · exact ⟨iff_of_false (by simp [kind]) supported, by simp [kind]⟩

/-- A check for null after a sound equality is at fault, also when its right side is replaced. -/
theorem fault_of_first_isNull :
    let equal := Expression.operation .equals [.path "f", .constant (.text "a")]
    let node := Expression.operation .isNull [.path "f"]
    let whole := Expression.operation .and [equal, .operation .or [node, .path "g"]]
    let frames := [Frame.after .and rfl equal, .before .or rfl (.path "g")]
    let other := Expression.operation .and [equal, .operation .or [node, .constant (.text "")]]
    (ofExpression .folding whole).outcome = .error (.unsupported .isNull [.path "f"]) ∧
    IsFirstFaulty .folding whole frames node ∧
    (ofExpression .folding other).outcome = .error (.unsupported .isNull [.path "f"]) ∧
    IsUnsupported node := by
  intro equal node whole frames other
  have refused : (ofExpression .folding whole).outcome =
      .error (.unsupported .isNull [.path "f"]) := rfl
  have first : IsFirstFaulty .folding whole frames node := by
    refine ⟨rfl, ?_, .refused (by decide) rfl⟩
    rw [not_faulty_earlier_iff]
    refine List.forall_mem_cons.mpr ⟨?_, List.forall_mem_singleton.mpr ?_⟩
    · exact (exists_compiled_iff equal).mp ⟨_, rfl⟩
    · simp [IsClear, Frame.passed]
  obtain ⟨_, same⟩ := fault_of_first refused
  obtain ⟨_, _, stays, kind, _⟩ := same frames node first
  refine ⟨refused, first, ?_, kind.mp rfl⟩
  exact stays _ (.cons (.after _ _ _) (.cons (.before _ _ _ (.constant (.text ""))) .nil))

end Query

end FieldQuery
