/-
This file proves how far equal predicates are compiled to equal queries.
-/
import FieldQuery.Proofs.Compilation.EqualArguments
import FieldQuery.Proofs.Compilation.Faults
import FieldQuery.Proofs.Compilation.Shape
import FieldQuery.Proofs.Query.Equality

namespace FieldQuery

/-- Two outcomes agree in kind when both are faults of one kind, or their results are related. -/
inductive AgreeInKind {First Second : Type} (related : First → Second → Prop) :
    Except Fault First → Except Fault Second → Prop where
  | refused {fault other : Fault} (kind : fault.kind = other.kind) :
      AgreeInKind related (.error fault) (.error other)
  | found {first : First} {second : Second} (relation : related first second) :
      AgreeInKind related (.ok first) (.ok second)

/-- Steps that agree on related results agree after steps that give such results. -/
theorem AgreeInKind.bind {First Second NextFirst NextSecond : Type}
    {related : First → Second → Prop} {later : NextFirst → NextSecond → Prop}
    {left : Except Fault First} {right : Except Fault Second}
    {leftNext : First → Except Fault NextFirst} {rightNext : Second → Except Fault NextSecond}
    (agree : AgreeInKind related left right)
    (next : ∀ first second, related first second →
      AgreeInKind later (leftNext first) (rightNext second)) :
    AgreeInKind later (left >>= leftNext) (right >>= rightNext) := by
  cases agree with
  | refused kind => exact .refused kind
  | found relation => exact next _ _ relation

/-- Outcomes that agree do so in every way that follows from what one of them ensures. -/
theorem AgreeInKind.imp {First Second : Type} {property : First → Prop}
    {related weaker : First → Second → Prop} {left : Except Fault First}
    {right : Except Fault Second} (agree : AgreeInKind related left right)
    (ensures : Ensures left property)
    (implied : ∀ first second, property first → related first second → weaker first second) :
    AgreeInKind weaker left right := by
  cases agree with
  | refused kind => exact .refused kind
  | found relation => exact .found (implied _ _ (ensures _ rfl) relation)

/-- Outcomes that correspond and blame their arguments agree in kind. -/
theorem Corresponds.agreeInKind {First Second : Type} {related : First → Second → Prop}
    {left : Except Fault First} {right : Except Fault Second}
    (corresponds : Corresponds related left right) (first : BlamesArguments left)
    (second : BlamesArguments right) : AgreeInKind related left right := by
  cases corresponds with
  | refused fault other => exact .refused ((first fault rfl).trans (second other rfl).symm)
  | found relation => exact .found relation

namespace Expression

/-- The node of a comparison takes the words of its arguments. -/
def nodeWords : Expression → List (List String)
  | .operation operator arguments =>
    match operator.role with
    | .compare comparison => comparison.takenWords arguments
    | _ => []
  | _ => []

/-- The words that a predicate takes are those of its comparisons. -/
def takenWords (expression : Expression) : List (List String) :=
  expression.comparisons.flatMap nodeWords

/-- The comparisons of a list are those of its members. -/
theorem comparisonsOf_eq_flatMap (arguments : List Expression) :
    comparisonsOf arguments = arguments.flatMap comparisons := by
  induction arguments with
  | nil => rfl
  | cons first rest inductionHypothesis =>
      rw [comparisonsOf, inductionHypothesis, List.flatMap_cons]

/-- The role of its operator decides which words an operation takes. -/
theorem takenWords_operation (operator : Operator) (arguments : List Expression) :
    (Expression.operation operator arguments).takenWords =
      match operator.role with
      | .combine _ | .negate => arguments.flatMap takenWords
      | .compare comparison => comparison.takenWords arguments
      | .unsupported => [] := by
  rw [takenWords, comparisons, comparisonsOf_eq_flatMap]
  cases role : operator.role with
  | compare comparison => simp [nodeWords, role]
  | unsupported => rfl
  | combine occur => simp only [List.flatMap_assoc]; rfl
  | negate => simp only [List.flatMap_assoc]; rfl

/-- The node of a comparison reads the constants of its arguments. -/
def nodeConstants : Expression → List (Comparison × Constant)
  | .operation operator arguments =>
    match operator.role with
    | .compare comparison => (comparison.readConstants arguments).map (Prod.mk comparison)
    | _ => []
  | _ => []

/-- A predicate reads the constants of its comparisons, each one for its comparison. -/
def readConstants (expression : Expression) : List (Comparison × Constant) :=
  expression.comparisons.flatMap nodeConstants

/-- These are the floats that a predicate reads from each constant. -/
def readFloats (expression : Expression) : List (List Number.Double) :=
  expression.readConstants.map fun read => read.1.floatsRead read.2

/-- Words are taken from the constants that are read. -/
theorem takenWords_eq_map (expression : Expression) :
    expression.takenWords = expression.readConstants.map fun read => read.1.wordsTaken read.2 := by
  rw [takenWords, readConstants, List.map_flatMap]
  refine List.flatMap_congr fun node _ => ?_
  cases node with
  | operation operator arguments =>
      rw [nodeWords, nodeConstants]
      cases operator.role with
      | compare comparison =>
          simp only [Comparison.takenWords, List.map_map]
          rfl
      | _ => rfl
  | _ => rfl

/-- Equal predicates have equal comparisons. -/
theorem comparisons_of_equals {left right : Expression} (equal : left.equals right = true) :
    List.Forall₂ (·.equals · = true) left.comparisons right.comparisons := by
  induction left using inductionOnArguments generalizing right with
  | path name =>
      obtain rfl := equals_path_iff.mp equal
      exact .nil
  | constant value =>
      obtain ⟨other, rfl, _⟩ := equals_constant_iff.mp equal
      exact .nil
  | operation operator arguments inductionHypothesis =>
      obtain ⟨others, rfl, members⟩ := equals_operation_iff.mp equal
      have inner : List.Forall₂ (·.equals · = true) (arguments.flatMap comparisons)
          (others.flatMap comparisons) := by
        clear equal
        induction members with
        | nil => exact .nil
        | cons first _ listHypothesis =>
            obtain ⟨head, tail⟩ := List.forall_mem_cons.mp inductionHypothesis
            exact List.rel_append (head first) (listHypothesis tail)
      rw [comparisons, comparisons, comparisonsOf_eq_flatMap, comparisonsOf_eq_flatMap]
      cases operator.role with
      | combine occur => exact inner
      | negate => exact inner
      | compare comparison => exact .cons equal .nil
      | unsupported => exact .nil

/-- Equal predicates read equal constants for the same comparisons. -/
theorem readConstants_of_equals {left right : Expression} (equal : left.equals right = true) :
    List.Forall₂ (fun read other => read.1 = other.1 ∧ read.2.equals other.2 = true)
      left.readConstants right.readConstants := by
  refine List.rel_flatMap (comparisons_of_equals equal) fun node other same => ?_
  cases node with
  | path name =>
      obtain rfl := equals_path_iff.mp same
      exact .nil
  | constant value =>
      obtain ⟨found, rfl, _⟩ := equals_constant_iff.mp same
      exact .nil
  | operation operator arguments =>
      obtain ⟨others, rfl, members⟩ := equals_operation_iff.mp same
      rw [nodeConstants, nodeConstants]
      cases operator.role with
      | compare comparison =>
          rw [List.forall₂_map_left_iff, List.forall₂_map_right_iff]
          exact (comparison.readConstants_of_equals members).imp fun _ _ values => ⟨rfl, values⟩
      | _ => exact .nil

/-- Equal predicates take the same words up to the signs of zeros. -/
theorem map_unsignedZero_takenWords {left right : Expression} (equal : left.equals right = true) :
    left.takenWords.map (List.map Text.unsignedZero) =
      right.takenWords.map (List.map Text.unsignedZero) := by
  rw [takenWords_eq_map, takenWords_eq_map, List.map_map, List.map_map, ← List.forall₂_eq_eq_eq,
    List.forall₂_map_left_iff, List.forall₂_map_right_iff]
  refine (readConstants_of_equals equal).imp ?_
  rintro ⟨comparison, value⟩ ⟨_, other⟩ ⟨rfl, values⟩
  exact comparison.map_unsignedZero_wordsTaken values

/-- Equal predicates that read the same floats take the same words. -/
theorem takenWords_eq_of_equals {left right : Expression} (equal : left.equals right = true)
    (same : left.readFloats = right.readFloats) : left.takenWords = right.takenWords := by
  have read := readConstants_of_equals equal
  rw [readFloats, readFloats] at same
  rw [takenWords_eq_map, takenWords_eq_map]
  generalize left.readConstants = lefts at read same
  generalize right.readConstants = rights at read same
  induction read with
  | nil => rfl
  | @cons left right _ _ first _ inductionHypothesis =>
      obtain ⟨comparison, value⟩ := left
      obtain ⟨sameComparison, values⟩ := first
      subst sameComparison
      obtain ⟨floats, others⟩ := List.cons.inj same
      rw [List.map_cons, List.map_cons, inductionHypothesis others,
        right.1.wordsTaken_eq_of_equals values floats]

end Expression

namespace Query

theorem IsShaped.boost_eq_one {node : Query} (shaped : node.IsShaped) : node.boost = .one := by
  cases shaped <;> rfl

/-- Every boost of a compiled query is one. -/
theorem ensures_boost_eq_one (config : Config) (expression : Expression) :
    Ensures (ofExpression config expression).outcome
      fun query => ∀ node ∈ query.nodes, node.boost = .one :=
  fun query compiled node member =>
    ((ensures_isMadeOf config expression query compiled).shaped node member).boost_eq_one

/-- Equal predicates have the same query exactly when they take the same words. -/
theorem agreeInKind_outcome (config : Config) {left right : Expression}
    (equal : left.equals right = true) :
    AgreeInKind (fun query other => query = other ↔ left.takenWords = right.takenWords)
      (ofExpression config left).outcome (ofExpression config right).outcome := by
  simp only [outcome_ofExpression]
  induction left using Expression.inductionOnRoles generalizing right with
  | path name =>
      obtain rfl := Expression.equals_path_iff.mp equal
      rw [outcome_walk_path]
      exact .refused rfl
  | constant value =>
      obtain ⟨other, rfl, _⟩ := Expression.equals_constant_iff.mp equal
      rw [outcome_walk_constant, outcome_walk_constant]
      exact .refused rfl
  | unsupported operator arguments role =>
      obtain ⟨others, rfl, _⟩ := Expression.equals_operation_iff.mp equal
      rw [outcome_walk_unsupported _ role, outcome_walk_unsupported _ role]
      exact .refused rfl
  | miscounted operator arguments supported wrong =>
      obtain ⟨others, rfl, members⟩ := Expression.equals_operation_iff.mp equal
      rw [outcome_walk_of_arity_ne _ supported wrong,
        outcome_walk_of_arity_ne _ supported (members.length_eq ▸ wrong)]
      exact .refused rfl
  | combination operator occur first second role firstHypothesis secondHypothesis =>
      obtain ⟨others, rfl, members⟩ := Expression.equals_operation_iff.mp equal
      obtain ⟨left, rest, head, following, rfl⟩ := List.forall₂_cons_left_iff.mp members
      obtain ⟨right, nothing, last, none, rfl⟩ := List.forall₂_cons_left_iff.mp following
      obtain rfl := List.forall₂_nil_left_iff.mp none
      have length : first.takenWords.length = left.takenWords.length := by
        simpa using congrArg List.length (Expression.map_unsignedZero_takenWords head)
      rw [outcome_walk_combine _ role, outcome_walk_combine _ role]
      refine (firstHypothesis head).bind fun query other firstExact => ?_
      refine (secondHypothesis last).bind fun another final secondExact => .found ?_
      rw [allWith_pair_inj, firstExact, secondExact, Expression.takenWords_operation,
        Expression.takenWords_operation]
      simp only [role, List.flatMap_cons, List.flatMap_nil, List.append_nil]
      constructor
      · rintro ⟨heads, tails⟩
        rw [heads, tails]
      · intro joined
        exact List.append_inj joined length
  | negation operator operand role inductionHypothesis =>
      obtain ⟨others, rfl, members⟩ := Expression.equals_operation_iff.mp equal
      obtain ⟨other, nothing, inner, none, rfl⟩ := List.forall₂_cons_left_iff.mp members
      obtain rfl := List.forall₂_nil_left_iff.mp none
      rw [outcome_walk_negate _ role, outcome_walk_negate _ role]
      refine (inductionHypothesis inner).bind fun query other exact => .found ?_
      rw [allWith_singleton_inj, exact, Expression.takenWords_operation,
        Expression.takenWords_operation]
      simp only [role, List.flatMap_cons, List.flatMap_nil, List.append_nil]
  | comparison operator comparison arguments role =>
      obtain ⟨others, rfl, members⟩ := Expression.equals_operation_iff.mp equal
      rw [outcome_walk_compare _ role, outcome_walk_compare _ role,
        Expression.takenWords_operation, Expression.takenWords_operation]
      simp only [role]
      exact (comparison.query_corresponds_of_equals operator config members).agreeInKind
        (Comparison.blamesArguments_query _ _ _ _) (Comparison.blamesArguments_query _ _ _ _)

/--
Equal predicates both fail with one kind of fault, or both have queries. These are equal exactly
when the predicates take the same words, and their words are the same up to the signs of zeros. So
the queries are equal when the predicates read the same floats, with the same signs of zeros.
-/
theorem outcome_ofExpression_of_equals (config : Config) {left right : Expression}
    (equal : left.equals right = true) :
    AgreeInKind (fun query other => query.equals other = true ↔ left.takenWords = right.takenWords)
      (ofExpression config left).outcome (ofExpression config right).outcome ∧
    left.takenWords.map (List.map Text.unsignedZero) =
      right.takenWords.map (List.map Text.unsignedZero) ∧
    (left.readFloats = right.readFloats →
      AgreeInKind (fun query other => query.equals other = true)
        (ofExpression config left).outcome (ofExpression config right).outcome) := by
  have agree := agreeInKind_outcome config equal
  have plain := ensures_boost_eq_one config left
  refine ⟨?_, Expression.map_unsignedZero_takenWords equal, fun same => ?_⟩
  · exact agree.imp plain fun query other ones exact => (equals_iff_of_nodes ones).trans exact
  · have taken := Expression.takenWords_eq_of_equals equal same
    exact agree.imp plain fun query other ones exact =>
      (equals_iff_of_nodes ones).mpr (exact.mpr taken)

/-- A zero behind the first word of a bound may have any sign. -/
theorem outcome_ofExpression_of_equals_bound :
    let bound := fun negative => Constant.collection [.text "a", .float (.ofRank negative 0)]
    let range := fun negative =>
      Expression.operation .between [.path "f", .constant (bound negative), .constant (.text "b")]
    (range false).equals (range true) = true ∧
    ∃ query other, (ofExpression .exact (range false)).outcome = .ok query ∧
      (ofExpression .exact (range true)).outcome = .ok other ∧ query.equals other = true := by
  intro bound range
  have equal : (range false).equals (range true) = true := by decide
  have taken : (range false).takenWords = (range true).takenWords := by decide
  obtain ⟨agree, _⟩ := outcome_ofExpression_of_equals .exact equal
  have found : (ofExpression .exact (range false)).outcome.isOk = true := by decide
  revert agree found
  generalize (ofExpression .exact (range false)).outcome = left
  generalize (ofExpression .exact (range true)).outcome = right
  intro agree found
  cases agree with
  | refused => cases found
  | found relation => exact ⟨equal, _, _, rfl, rfl, relation.mpr taken⟩

/-- The two zeros are equal, and a field that equals them is searched for two different words. -/
theorem not_forall_equals_outcome :
    ¬ ∀ (config : Config) (left right : Expression), left.equals right = true →
      AgreeInKind (fun query other => query.equals other = true)
        (ofExpression config left).outcome (ofExpression config right).outcome := by
  intro always
  let zero (negative : Bool) :=
    Expression.operation .equals [.path "f", .constant (.float (.ofRank negative 0))]
  have agree := always .exact (zero false) (zero true) (by decide)
  have first : (ofExpression .exact (zero false)).outcome = .ok (.term "f" "0" .one) := rfl
  have second : (ofExpression .exact (zero true)).outcome = .ok (.term "f" "-0" .one) := rfl
  rw [first, second] at agree
  cases agree with
  | found relation => exact absurd relation (by decide)

end Query

end FieldQuery
