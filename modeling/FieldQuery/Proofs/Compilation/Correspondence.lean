/-
This file proves that comparisons read fields and words alike from arguments with one fold.
-/
import FieldQuery.Proofs.Compilation.Operands
import FieldQuery.Proofs.Expression.FoldCase

namespace FieldQuery

/-- Two outcomes correspond when both are faults, or when their results are related. -/
inductive Corresponds {First Second : Type} (related : First → Second → Prop) :
    Except Fault First → Except Fault Second → Prop where
  | refused (fault other : Fault) : Corresponds related (.error fault) (.error other)
  | found {first : First} {second : Second} (relation : related first second) :
      Corresponds related (.ok first) (.ok second)

/-- Steps that correspond on related results correspond after steps that give such results. -/
theorem Corresponds.bind {First Second NextFirst NextSecond : Type}
    {related : First → Second → Prop} {later : NextFirst → NextSecond → Prop}
    {left : Except Fault First} {right : Except Fault Second}
    {leftNext : First → Except Fault NextFirst} {rightNext : Second → Except Fault NextSecond}
    (corresponds : Corresponds related left right)
    (next : ∀ first second, related first second →
      Corresponds later (leftNext first) (rightNext second)) :
    Corresponds later (left >>= leftNext) (right >>= rightNext) := by
  cases corresponds with
  | refused fault other => exact .refused fault other
  | found relation => exact next _ _ relation

theorem Corresponds.mono {First Second : Type} {related weaker : First → Second → Prop}
    {left : Except Fault First} {right : Except Fault Second}
    (corresponds : Corresponds related left right)
    (implied : ∀ first second, related first second → weaker first second) :
    Corresponds weaker left right := by
  cases corresponds with
  | refused fault other => exact .refused fault other
  | found relation => exact .found (implied _ _ relation)

theorem Corresponds.map {First Second NextFirst NextSecond : Type}
    {related : First → Second → Prop} {later : NextFirst → NextSecond → Prop}
    {left : Except Fault First} {right : Except Fault Second}
    {leftNext : First → NextFirst} {rightNext : Second → NextSecond}
    (corresponds : Corresponds related left right)
    (next : ∀ first second, related first second → later (leftNext first) (rightNext second)) :
    Corresponds later (left.map leftNext) (right.map rightNext) := by
  cases corresponds with
  | refused fault other => exact .refused fault other
  | found relation => exact .found (next _ _ relation)

namespace Constant

variable {left right : Constant}

/-- The words of two constants are read alike when they have the same lowercases. -/
structure ReadAlike (left right : Constant) (words others : List String) : Prop where
  first : words = Text.words left.display
  second : others = Text.words right.display
  nonempty : words ≠ []
  lowered : words.map Text.lowercase = others.map Text.lowercase

/-- Constants with one fold are read alike, or both have no words. -/
theorem words_corresponds (same : left.foldCase = right.foldCase) :
    Corresponds (ReadAlike left right) left.words right.words := by
  have lowered := map_lowercase_words_congr same
  by_cases none : Text.words left.display = []
  · have alsoNone : Text.words right.display = [] := by simpa [none] using lowered.symm
    rw [words, words, none, alsoNone]
    exact .refused _ _
  · have some : Text.words right.display ≠ [] := by
      intro empty
      simp [empty] at lowered
      exact none lowered
    rw [words_eq_ok none, words_eq_ok some]
    exact .found ⟨rfl, rfl, none, lowered⟩

/-- Constants of collections with one fold give words with the same lowercases. -/
theorem mapM_words_corresponds {lefts rights : List Constant}
    (same : lefts.map foldCase = rights.map foldCase) :
    Corresponds (fun lists others => lists.map (List.map Text.lowercase) =
      others.map (List.map Text.lowercase)) (lefts.mapM words) (rights.mapM words) := by
  induction lefts generalizing rights with
  | nil =>
      have empty : rights = [] := by simpa using same.symm
      rw [empty]
      exact .found rfl
  | cons value rest inductionHypothesis =>
      cases rights with
      | nil => simp at same
      | cons other others =>
          obtain ⟨head, tail⟩ := List.cons.inj same
          rw [List.mapM_cons, List.mapM_cons]
          refine (words_corresponds head).bind fun words found relation => ?_
          refine (inductionHypothesis tail).bind fun lists later lowered => .found ?_
          rw [List.map_cons, List.map_cons, relation.lowered, lowered]

end Constant

/-- Predicates with one fold name the same field, or both name none. -/
theorem Expression.fieldName_corresponds {left right : Expression}
    (same : left.foldCase = right.foldCase) :
    Corresponds (· = ·) left.fieldName right.fieldName := by
  cases named : left.fieldName with
  | ok field =>
      rw [fieldName_congr same field named]
      exact .found rfl
  | error fault =>
      cases alsoNamed : right.fieldName with
      | ok field =>
          have contrary := fieldName_congr same.symm field alsoNamed
          simp [named] at contrary
      | error other => exact .refused fault other

namespace Comparison

variable {lefts rights : List Expression} (operator : Operator)

/-- A target and a constant are found in both of two lists with one fold, or in none. -/
theorem pair_corresponds (same : lefts.map Expression.foldCase = rights.map Expression.foldCase) :
    Corresponds (fun found other => lefts = [found.1, .constant found.2] ∧
        rights = [other.1, .constant other.2] ∧ found.1.foldCase = other.1.foldCase ∧
        found.2.foldCase = other.2.foldCase)
      (pair operator lefts) (pair operator rights) := by
  have length : lefts.length = rights.length := by simpa using congrArg List.length same
  by_cases two : lefts.length = 2
  · obtain ⟨target, argument, rfl⟩ := List.length_eq_two.mp two
    obtain ⟨otherTarget, other, rfl⟩ := List.length_eq_two.mp (length.symm.trans two)
    simp only [List.map_cons, List.map_nil, List.cons.injEq, and_true] at same
    obtain ⟨targets, arguments⟩ := same
    cases argument with
    | constant value =>
        obtain ⟨otherValue, rfl, values⟩ := Expression.foldCase_eq_constant_iff.mp arguments.symm
        exact .found ⟨rfl, rfl, targets, values.symm⟩
    | path name =>
        obtain rfl := Expression.foldCase_eq_path_iff.mp arguments.symm
        exact .refused _ _
    | operation inner list =>
        obtain ⟨otherList, rfl, _⟩ := Expression.foldCase_eq_operation_iff.mp arguments.symm
        exact .refused _ _
  · rw [pair_of_length_ne two, pair_of_length_ne (length ▸ two)]
    exact .refused _ _

/-- A target and two constants are found in both of two lists with one fold, or in none. -/
theorem triple_corresponds
    (same : lefts.map Expression.foldCase = rights.map Expression.foldCase) :
    Corresponds (fun found other => found.1.foldCase = other.1.foldCase ∧
        found.2.1.foldCase = other.2.1.foldCase ∧ found.2.2.foldCase = other.2.2.foldCase)
      (triple operator lefts) (triple operator rights) := by
  have length : lefts.length = rights.length := by simpa using congrArg List.length same
  by_cases three : lefts.length = 3
  · obtain ⟨target, lower, upper, rfl⟩ := List.length_eq_three.mp three
    obtain ⟨otherTarget, otherLower, otherUpper, rfl⟩ :=
      List.length_eq_three.mp (length.symm.trans three)
    simp only [List.map_cons, List.map_nil, List.cons.injEq, and_true] at same
    obtain ⟨targets, lowers, uppers⟩ := same
    cases lower with
    | constant least =>
        obtain ⟨otherLeast, rfl, leasts⟩ := Expression.foldCase_eq_constant_iff.mp lowers.symm
        cases upper with
        | constant greatest =>
            obtain ⟨otherGreatest, rfl, greatests⟩ :=
              Expression.foldCase_eq_constant_iff.mp uppers.symm
            exact .found ⟨targets, leasts.symm, greatests.symm⟩
        | path name =>
            obtain rfl := Expression.foldCase_eq_path_iff.mp uppers.symm
            exact .refused _ _
        | operation inner list =>
            obtain ⟨otherList, rfl, _⟩ := Expression.foldCase_eq_operation_iff.mp uppers.symm
            exact .refused _ _
    | path name =>
        obtain rfl := Expression.foldCase_eq_path_iff.mp lowers.symm
        exact .refused _ _
    | operation inner list =>
        obtain ⟨otherList, rfl, _⟩ := Expression.foldCase_eq_operation_iff.mp lowers.symm
        exact .refused _ _
  · rw [triple_of_length_ne three, triple_of_length_ne (length ▸ three)]
    exact .refused _ _

/-- A membership reads words with the same lowercases from arguments with one fold. -/
theorem operands_oneOf_corresponds
    (same : lefts.map Expression.foldCase = rights.map Expression.foldCase) :
    Corresponds (fun found other => found.1 = other.1 ∧
        found.2.map (List.map Text.lowercase) = other.2.map (List.map Text.lowercase))
      (operands .oneOf operator lefts) (operands .oneOf operator rights) := by
  have length : lefts.length = rights.length := by simpa using congrArg List.length same
  by_cases two : lefts.length = 2
  · obtain ⟨target, argument, rfl⟩ := List.length_eq_two.mp two
    obtain ⟨otherTarget, other, rfl⟩ := List.length_eq_two.mp (length.symm.trans two)
    simp only [List.map_cons, List.map_nil, List.cons.injEq, and_true] at same
    obtain ⟨targets, arguments⟩ := same
    by_cases collected : ∃ values, argument = .constant (.collection values)
    · obtain ⟨values, rfl⟩ := collected
      obtain ⟨value, rfl, folded⟩ := Expression.foldCase_eq_constant_iff.mp arguments.symm
      obtain ⟨others, rfl, items⟩ := Constant.foldCase_eq_collection_iff.mp folded
      refine (Expression.fieldName_corresponds targets).bind fun field alike sameField => ?_
      exact (Constant.mapM_words_corresponds items.symm).bind fun lists later lowered =>
        .found ⟨sameField, lowered⟩
    · have notCollected : ∀ values, other ≠ .constant (.collection values) := by
        rintro values rfl
        obtain ⟨value, rfl, folded⟩ := Expression.foldCase_eq_constant_iff.mp arguments
        obtain ⟨others, rfl, items⟩ := Constant.foldCase_eq_collection_iff.mp folded
        exact collected ⟨others, rfl⟩
      rw [operands_oneOf_of_ne_collection operator target fun values is => collected ⟨values, is⟩,
        operands_oneOf_of_ne_collection operator otherTarget notCollected]
      exact (Expression.fieldName_corresponds targets).bind fun _ _ _ => .refused _ _
  · rw [operands_oneOf_of_length_ne two, operands_oneOf_of_length_ne (length ▸ two)]
    exact .refused _ _

/-- What a comparison reads as it is has one lowercase when the arguments have one fold. -/
theorem operands_corresponds {comparison : Comparison} (plain : comparison.isEscaped = false)
    (same : lefts.map Expression.foldCase = rights.map Expression.foldCase) :
    Corresponds (fun found other => found.1 = other.1 ∧
        found.2.map (List.map Text.lowercase) = other.2.map (List.map Text.lowercase))
      (operands comparison operator lefts) (operands comparison operator rights) := by
  by_cases one : comparison ≠ .between ∧ comparison ≠ .oneOf
  · have taken : comparison.wordsOf = Constant.words := by rw [wordsOf, plain]
    rw [operands_eq_operand one, taken]
    refine (pair_corresponds operator same).bind fun found other relation => ?_
    obtain ⟨_, _, targets, values⟩ := relation
    refine (Expression.fieldName_corresponds targets).bind fun field other sameField => ?_
    refine (Constant.words_corresponds values).bind fun words others alike => .found ?_
    exact ⟨sameField, by simp [alike.lowered]⟩
  · have two : comparison = .between ∨ comparison = .oneOf := by tauto
    rcases two with rfl | rfl
    · refine (triple_corresponds operator same).bind fun found other relation => ?_
      obtain ⟨targets, lowers, uppers⟩ := relation
      refine (Expression.fieldName_corresponds targets).bind fun field alike sameField => ?_
      refine (Constant.words_corresponds lowers).bind fun first second least => ?_
      refine (Constant.words_corresponds uppers).bind fun last final greatest => .found ?_
      exact ⟨sameField, by simp [least.lowered, greatest.lowered]⟩
    · exact operands_oneOf_corresponds operator same

end Comparison

end FieldQuery
