/-
This file proves how far the folding compilation of a predicate depends on the case of its texts.
-/
import FieldQuery.Proofs.Compilation.Correspondence
import FieldQuery.Proofs.Text.FoldedEscape

namespace FieldQuery

namespace Comparison

theorem inside_inj {left right : String} : inside left = inside right ↔ left = right := by
  rw [inside, inside, String.append_left_inj, String.append_right_inj]

/-- Patterns that hold together determine their texts. -/
theorem together_map_pattern_inj {field : String} {lefts rights : List String}
    (some : lefts ≠ []) (others : rights ≠ []) :
    together (lefts.map (pattern field)) = together (rights.map (pattern field)) ↔
      lefts = rights := by
  have injective : Function.Injective fun text => Clause.mk .must (pattern field text) := by
    intro left right same
    simpa [pattern] using same
  constructor
  · intro same
    match lefts, rights with
    | [], _ => exact absurd rfl some
    | _, [] => exact absurd rfl others
    | [left], [right] => simpa [together, pattern] using same
    | [left], right :: second :: rest => simp [together, pattern, Query.allWith] at same
    | left :: second :: rest, [right] => simp [together, pattern, Query.allWith] at same
    | left :: second :: rest, right :: third :: later =>
        simp only [together, Query.allWith, List.map_map, List.map_cons, Query.boolean.injEq,
          and_true] at same
        exact List.map_injective_iff.mpr injective (by simpa [Function.comp_def] using same)
  · intro same
    rw [same]

/-- The patterns of an ending determine its words. -/
theorem endingPatterns_inj {lefts rights : List String} (some : lefts ≠ []) (others : rights ≠ []) :
    endingPatterns lefts = endingPatterns rights ↔ lefts = rights := by
  have injective : Function.Injective inside := fun _ _ => inside_inj.mp
  obtain ⟨left, first, rfl⟩ := List.eq_nil_or_concat' lefts |>.resolve_left some
  obtain ⟨right, second, rfl⟩ := List.eq_nil_or_concat' rights |>.resolve_left others
  rw [endingPatterns_append_singleton, endingPatterns_append_singleton]
  constructor
  · intro same
    obtain ⟨earlier, last⟩ := List.append_inj' same rfl
    rw [List.map_injective_iff.mpr injective earlier]
    simpa [String.append_right_inj] using last
  · intro same
    obtain ⟨rfl, last⟩ := List.append_inj' same rfl
    rw [List.singleton_inj.mp last]

/-- An opening determines its words. -/
theorem opening_inj {field : String} {lefts rights : List String} (some : lefts ≠ [])
    (others : rights ≠ []) :
    opening .exact field lefts = opening .exact field rights ↔ lefts = rights := by
  have injective :
      Function.Injective fun text => Clause.mk .must (pattern field (inside text)) := by
    intro left right same
    simpa [pattern, inside_inj] using same
  constructor
  · intro same
    match lefts, rights with
    | [], _ => exact absurd rfl some
    | _, [] => exact absurd rfl others
    | [left], [right] => simpa [opening] using same
    | [left], right :: second :: rest => simp [opening, Query.allWith] at same
    | left :: second :: rest, [right] => simp [opening, Query.allWith] at same
    | left :: second :: rest, right :: third :: later =>
        simp only [opening, Query.allWith, List.map_map, List.map_cons, Query.boolean.injEq,
          List.cons.injEq, Clause.mk.injEq, true_and, and_true] at same
        obtain ⟨first, following⟩ := same
        have head : left = right := by
          simpa [pattern, String.append_left_inj] using first
        have tail : second :: rest = third :: later := by
          apply List.map_injective_iff.mpr injective
          simpa [Function.comp_def] using following
        rw [head, tail]
  · intro same
    rw [same]

/-- A comparison with escaped words determines them by its query. -/
theorem build_inj_of_isEscaped {comparison : Comparison} (escaped : comparison.isEscaped = true)
    {field : String} {lefts rights : List String} (some : lefts ≠ []) (others : rights ≠ []) :
    comparison.build .exact field [lefts] = comparison.build .exact field [rights] ↔
      lefts = rights := by
  have present {words : List String} (nonempty : words ≠ []) : endingPatterns words ≠ [] := by
    rw [← List.length_pos_iff, length_endingPatterns]
    exact List.length_pos_iff.mpr nonempty
  have injective : Function.Injective inside := fun _ _ => inside_inj.mp
  cases comparison with
  | contains =>
      change containment .exact field lefts = containment .exact field rights ↔ _
      rw [containment_eq_together, containment_eq_together,
        together_map_pattern_inj (by simpa) (by simpa)]
      exact (List.map_injective_iff.mpr injective).eq_iff
  | endsWith =>
      change ending .exact field lefts = ending .exact field rights ↔ _
      rw [ending_eq_together field some, ending_eq_together field others,
        together_map_pattern_inj (present some) (present others), endingPatterns_inj some others]
  | startsWith => exact opening_inj some others
  | like => exact absurd escaped (by decide)
  | equal => exact absurd escaped (by decide)
  | different => exact absurd escaped (by decide)
  | between => exact absurd escaped (by decide)
  | oneOf => exact absurd escaped (by decide)

variable {lefts rights : List Expression} (operator : Operator)

/-- A comparison that reads words as they are compiles arguments with one fold to one query. -/
theorem query_corresponds_of_plain {comparison : Comparison} (plain : comparison.isEscaped = false)
    (same : lefts.map Expression.foldCase = rights.map Expression.foldCase) :
    Corresponds (· = ·) (query .folding comparison operator lefts)
      (query .folding comparison operator rights) := by
  rw [query_eq_build, query_eq_build]
  refine (operands_corresponds operator plain same).map fun found other relation => ?_
  obtain ⟨fields, lists⟩ := relation
  have lowered : found.2.map (List.map Config.folding.normalize) =
      other.2.map (List.map Config.folding.normalize) := lists
  rw [build_normalize, build_normalize _ other.1, fields, lowered]

/-- The escapes of words fold to these texts. -/
def foldedEscapes (words : List String) : List String :=
  words.map fun word => Text.lowercase (Text.escape word)

/--
A comparison that escapes words compiles arguments with one fold to one query exactly when the
escapes of their words fold to the same texts.
-/
theorem query_corresponds_of_isEscaped {comparison : Comparison}
    (escaped : comparison.isEscaped = true)
    (same : lefts.map Expression.foldCase = rights.map Expression.foldCase) :
    Corresponds (fun left right => ∃ target value otherTarget otherValue,
        lefts = [target, .constant value] ∧ rights = [otherTarget, .constant otherValue] ∧
        (left = right ↔ foldedEscapes (Text.words value.display) =
          foldedEscapes (Text.words otherValue.display)))
      (query .folding comparison operator lefts) (query .folding comparison operator rights) := by
  have one : comparison ≠ .between ∧ comparison ≠ .oneOf := by
    constructor <;> rintro rfl <;> exact absurd escaped (by decide)
  have taken : comparison.wordsOf = Constant.escapedWords := by rw [wordsOf, escaped]
  rw [query_eq_onWords_build _ one, taken]
  refine (pair_corresponds operator same).bind fun found other relation => ?_
  obtain ⟨shape, otherShape, targets, values⟩ := relation
  refine (Expression.fieldName_corresponds targets).bind fun field _ sameField => ?_
  subst sameField
  have mapped (constant : Constant) (next : List String → Except Fault Query) :
      constant.escapedWords >>= next =
        constant.words >>= fun words => next (words.map Text.escape) := by
    rw [Constant.escapedWords_eq_map]
    cases constant.words <;> rfl
  rw [mapped, mapped]
  refine (Constant.words_corresponds values).bind fun words others alike => .found ?_
  refine ⟨found.1, found.2, other.1, other.2, shape, otherShape, ?_⟩
  have folds (list : List String) :
      [list.map Text.escape].map (List.map Config.folding.normalize) = [foldedEscapes list] := by
    rw [List.map_singleton, List.map_map]
    rfl
  have otherSome : others ≠ [] := by
    intro empty
    exact alike.nonempty (by simpa [empty] using alike.lowered)
  change comparison.build .folding field [words.map Text.escape] =
    comparison.build .folding field [others.map Text.escape] ↔ _
  rw [build_normalize, build_normalize _ _ _ [others.map Text.escape], folds, folds,
    build_inj_of_isEscaped escaped (by simpa [foldedEscapes] using alike.nonempty)
      (by simpa [foldedEscapes] using otherSome), ← alike.first, ← alike.second]

end Comparison

/-- A comparison that escapes words has two arguments. -/
theorem Operator.arity_of_isEscaped {operator : Operator} {comparison : Comparison}
    (role : operator.role = .compare comparison) (escaped : comparison.isEscaped = true) :
    operator.arity = 2 := by
  rw [Operator.arity_of_compare role, if_neg]
  rintro rfl
  cases escaped

namespace Expression

/-- The words that a predicate searches for stand in its starts, ends and contents. -/
def searchedWords : Expression → List String
  | .path _ => []
  | .constant _ => []
  | .operation operator arguments =>
    match operator.role, arguments with
    | .combine _, [left, right] => searchedWords left ++ searchedWords right
    | .negate, [operand] => searchedWords operand
    | .compare comparison, [_, .constant value] =>
      if comparison.isEscaped then Text.words value.display else []
    | _, _ => []

/-- The role of its operator decides for which words an operation searches. -/
theorem searchedWords_operation (operator : Operator) (arguments : List Expression) :
    (Expression.operation operator arguments).searchedWords =
      match operator.role, arguments with
      | .combine _, [left, right] => searchedWords left ++ searchedWords right
      | .negate, [operand] => searchedWords operand
      | .compare comparison, [_, .constant value] =>
        if comparison.isEscaped then Text.words value.display else []
      | _, _ => [] :=
  searchedWords.eq_def (.operation operator arguments)

variable {operator : Operator}

theorem searchedWords_combine {occur : Occur} (role : operator.role = .combine occur)
    (left right : Expression) : (Expression.operation operator [left, right]).searchedWords =
      left.searchedWords ++ right.searchedWords := by
  simp only [searchedWords_operation, role]

theorem searchedWords_negate (role : operator.role = .negate) (operand : Expression) :
    (Expression.operation operator [operand]).searchedWords = operand.searchedWords := by
  simp only [searchedWords_operation, role]

theorem searchedWords_compare {comparison : Comparison} (role : operator.role = .compare comparison)
    (escaped : comparison.isEscaped = true) (target : Expression) (value : Constant) :
    (Expression.operation operator [target, .constant value]).searchedWords =
      Text.words value.display := by
  simp only [searchedWords_operation, role, escaped, if_true]

/-- A comparison that reads words as they are searches for none. -/
theorem searchedWords_of_plain {comparison : Comparison}
    (role : operator.role = .compare comparison) (plain : comparison.isEscaped = false)
    (arguments : List Expression) :
    (Expression.operation operator arguments).searchedWords = [] := by
  simp only [searchedWords_operation, role]
  split <;> simp_all

/-- A comparison with other arguments than a target and a constant searches for no words. -/
theorem searchedWords_of_not_pair {comparison : Comparison}
    (role : operator.role = .compare comparison) {arguments : List Expression}
    (other : ¬ ∃ target value, arguments = [target, .constant value]) :
    (Expression.operation operator arguments).searchedWords = [] := by
  simp only [searchedWords_operation, role]
  split
  · simp_all
  · simp_all
  · rename_i target value _
    exact absurd ⟨target, value, rfl⟩ other
  · rfl

/-- A supported operation with a wrong number of arguments searches for no words. -/
theorem searchedWords_of_arity_ne {arguments : List Expression}
    (wrong : arguments.length ≠ operator.arity) :
    (Expression.operation operator arguments).searchedWords = [] := by
  rw [searchedWords_operation]
  split
  · rename_i role
    simp [Operator.arity_of_combine role] at wrong
  · rename_i role
    simp [Operator.arity_of_negate role] at wrong
  · rename_i comparison _ value role
    by_cases escaped : comparison.isEscaped = true
    · simp [Operator.arity_of_isEscaped role escaped] at wrong
    · exact if_neg escaped
  · rfl

theorem searchedWords_of_unsupported (role : operator.role = .unsupported)
    (arguments : List Expression) :
    (Expression.operation operator arguments).searchedWords = [] := by
  simp only [searchedWords_operation, role]

/-- Predicates with one fold search for words with the same lowercases. -/
theorem map_lowercase_searchedWords_congr {left right : Expression}
    (same : left.foldCase = right.foldCase) :
    left.searchedWords.map Text.lowercase = right.searchedWords.map Text.lowercase := by
  induction left using inductionOnRoles generalizing right with
  | path name =>
      obtain rfl := foldCase_eq_path_iff.mp same.symm
      rfl
  | constant value =>
      obtain ⟨other, rfl, _⟩ := foldCase_eq_constant_iff.mp same.symm
      rfl
  | unsupported operator arguments role =>
      obtain ⟨others, rfl, _⟩ := exists_of_foldCase_operation same
      rw [searchedWords_of_unsupported role, searchedWords_of_unsupported role]
  | miscounted operator arguments supported wrong =>
      obtain ⟨others, rfl, images⟩ := exists_of_foldCase_operation same
      have length : arguments.length = others.length := by
        simpa using congrArg List.length images
      rw [searchedWords_of_arity_ne wrong, searchedWords_of_arity_ne (length ▸ wrong)]
  | combination operator occur first second role firstHypothesis secondHypothesis =>
      obtain ⟨others, rfl, images⟩ := exists_of_foldCase_operation same
      obtain ⟨left, right, rfl, head, last⟩ := exists_of_map_foldCase_pair images
      rw [searchedWords_combine role, searchedWords_combine role, List.map_append,
        List.map_append, firstHypothesis head, secondHypothesis last]
  | negation operator operand role inductionHypothesis =>
      obtain ⟨others, rfl, images⟩ := exists_of_foldCase_operation same
      obtain ⟨other, rfl, inner⟩ := exists_of_map_foldCase_singleton images
      rw [searchedWords_negate role, searchedWords_negate role, inductionHypothesis inner]
  | comparison operator comparison arguments role =>
      obtain ⟨others, rfl, images⟩ := exists_of_foldCase_operation same
      by_cases escaped : comparison.isEscaped = true
      · by_cases shaped : ∃ target value, arguments = [target, .constant value]
        · obtain ⟨target, value, rfl⟩ := shaped
          obtain ⟨otherTarget, other, rfl, _, last⟩ := exists_of_map_foldCase_pair images
          obtain ⟨otherValue, rfl, folds⟩ := foldCase_eq_constant_iff.mp last.symm
          rw [searchedWords_compare role escaped, searchedWords_compare role escaped,
            Constant.map_lowercase_words_congr folds.symm]
        · have otherShape : ¬ ∃ target value, others = [target, .constant value] := by
            rintro ⟨otherTarget, otherValue, rfl⟩
            obtain ⟨target, argument, rfl, _, last⟩ := exists_of_map_foldCase_pair images.symm
            obtain ⟨value, rfl, _⟩ := foldCase_eq_constant_iff.mp last.symm
            exact shaped ⟨target, value, rfl⟩
          rw [searchedWords_of_not_pair role shaped, searchedWords_of_not_pair role otherShape]
      · have plain : comparison.isEscaped = false := by simpa using escaped
        rw [searchedWords_of_plain role plain, searchedWords_of_plain role plain]

/-- These texts are the folds of the escapes of all words that a predicate searches for. -/
def foldedEscapes (expression : Expression) : List String :=
  Comparison.foldedEscapes expression.searchedWords

/-- Predicates with one fold have as many folded escapes. -/
theorem length_foldedEscapes_congr {left right : Expression}
    (same : left.foldCase = right.foldCase) :
    left.foldedEscapes.length = right.foldedEscapes.length := by
  have length := congrArg List.length (map_lowercase_searchedWords_congr same)
  simpa [foldedEscapes, Comparison.foldedEscapes] using length

/-- Without colons and circumflexes the fold of a predicate determines its folded escapes. -/
theorem foldedEscapes_congr {left right : Expression} (same : left.foldCase = right.foldCase)
    (unjoined : ∀ word ∈ left.searchedWords, Text.IsUnjoined word.toList) :
    left.foldedEscapes = right.foldedEscapes := by
  refine map_eq_map_of_imp ?_ (map_lowercase_searchedWords_congr same)
  intro word member other lowered
  exact Text.lowercase_escape_congr lowered (unjoined word member)

end Expression

namespace Query

theorem allWith_pair_inj {occur : Occur} {left right other another : Query} :
    allWith occur [left, right] = allWith occur [other, another] ↔
      left = other ∧ right = another := by
  simp [allWith]

theorem allWith_singleton_inj {occur : Occur} {left right : Query} :
    allWith occur [left] = allWith occur [right] ↔ left = right := by
  simp [allWith]

/--
Of two predicates that differ in the case of their texts only, both or none can be compiled with
folding. They have one query exactly when the escapes of the words that they search for fold to the
same texts, and these do when no such word has a colon or a circumflex.
-/
theorem outcome_folding_corresponds {left right : Expression}
    (same : left.foldCase = right.foldCase) :
    Corresponds (fun query other => query = other ↔ left.foldedEscapes = right.foldedEscapes)
      (ofExpression .folding left).outcome (ofExpression .folding right).outcome ∧
    ((∀ word ∈ left.searchedWords, Text.IsUnjoined word.toList) →
      left.foldedEscapes = right.foldedEscapes) := by
  refine ⟨?_, Expression.foldedEscapes_congr same⟩
  simp only [outcome_ofExpression]
  induction left using Expression.inductionOnRoles generalizing right with
  | path name =>
      obtain rfl := Expression.foldCase_eq_path_iff.mp same.symm
      rw [outcome_walk_path]
      exact .refused _ _
  | constant value =>
      obtain ⟨other, rfl, _⟩ := Expression.foldCase_eq_constant_iff.mp same.symm
      rw [outcome_walk_constant, outcome_walk_constant]
      exact .refused _ _
  | unsupported operator arguments role =>
      obtain ⟨others, rfl, _⟩ := Expression.exists_of_foldCase_operation same
      rw [outcome_walk_unsupported _ role, outcome_walk_unsupported _ role]
      exact .refused _ _
  | miscounted operator arguments supported wrong =>
      obtain ⟨others, rfl, images⟩ := Expression.exists_of_foldCase_operation same
      have length : arguments.length = others.length := by
        simpa using congrArg List.length images
      rw [outcome_walk_of_arity_ne _ supported wrong,
        outcome_walk_of_arity_ne _ supported (length ▸ wrong)]
      exact .refused _ _
  | combination operator occur first second role firstHypothesis secondHypothesis =>
      obtain ⟨others, rfl, images⟩ := Expression.exists_of_foldCase_operation same
      obtain ⟨left, right, rfl, head, last⟩ := Expression.exists_of_map_foldCase_pair images
      have length := Expression.length_foldedEscapes_congr head
      rw [outcome_walk_combine _ role, outcome_walk_combine _ role]
      refine (firstHypothesis head).bind fun query other firstExact => ?_
      refine (secondHypothesis last).bind fun another final secondExact => .found ?_
      rw [allWith_pair_inj, firstExact, secondExact]
      simp only [Expression.foldedEscapes, Comparison.foldedEscapes,
        Expression.searchedWords_combine role, List.map_append] at length ⊢
      constructor
      · rintro ⟨heads, tails⟩
        rw [heads, tails]
      · intro joined
        exact List.append_inj joined length
  | negation operator operand role inductionHypothesis =>
      obtain ⟨others, rfl, images⟩ := Expression.exists_of_foldCase_operation same
      obtain ⟨other, rfl, inner⟩ := Expression.exists_of_map_foldCase_singleton images
      rw [outcome_walk_negate _ role, outcome_walk_negate _ role]
      refine (inductionHypothesis inner).bind fun query other exact => .found ?_
      rw [allWith_singleton_inj, exact]
      simp only [Expression.foldedEscapes, Expression.searchedWords_negate role]
  | comparison operator comparison arguments role =>
      obtain ⟨others, rfl, images⟩ := Expression.exists_of_foldCase_operation same
      rw [outcome_walk_compare _ role, outcome_walk_compare _ role]
      simp only [Expression.foldedEscapes]
      by_cases escaped : comparison.isEscaped = true
      · refine (Comparison.query_corresponds_of_isEscaped operator escaped images).mono
          fun query other relation => ?_
        obtain ⟨target, value, otherTarget, otherValue, rfl, rfl, exact⟩ := relation
        rw [exact, Expression.searchedWords_compare role escaped,
          Expression.searchedWords_compare role escaped]
      · have plain : comparison.isEscaped = false := by simpa using escaped
        refine (Comparison.query_corresponds_of_plain operator plain images).mono
          fun query other equal => ?_
        rw [Expression.searchedWords_of_plain role plain,
          Expression.searchedWords_of_plain role plain]
        exact iff_of_true equal rfl

/-- Two searches for a sigma before a colon differ in case only, and they have two queries. -/
theorem outcome_folding_corresponds_sigma :
    let search := fun text => Expression.operation .contains [.path "f", .constant (.text text)]
    (search "AΣ:B").foldCase = (search "aσ:b").foldCase ∧
    ∃ query other, (ofExpression .folding (search "AΣ:B")).outcome = .ok query ∧
      (ofExpression .folding (search "aσ:b")).outcome = .ok other ∧ query ≠ other := by
  intro search
  have lowered : Text.lowercase "AΣ:B" = Text.lowercase "aσ:b" := by decide +kernel
  have same : (search "AΣ:B").foldCase = (search "aσ:b").foldCase := by
    simp only [search, Expression.foldCase, Expression.foldCaseItems, Constant.foldCase, lowered]
  have differ : (search "AΣ:B").foldedEscapes ≠ (search "aσ:b").foldedEscapes := by decide +kernel
  obtain ⟨corresponds, _⟩ := outcome_folding_corresponds same
  have found : (ofExpression .folding (search "AΣ:B")).outcome.isOk = true := by decide +kernel
  revert corresponds found
  generalize (ofExpression .folding (search "AΣ:B")).outcome = left
  generalize (ofExpression .folding (search "aσ:b")).outcome = right
  intro corresponds found
  cases corresponds with
  | refused => cases found
  | found relation =>
      exact ⟨same, _, _, rfl, rfl, fun equal => differ (relation.mp equal)⟩

end Query

end FieldQuery
