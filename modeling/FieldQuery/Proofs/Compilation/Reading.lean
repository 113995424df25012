/-
This file says what a compilation ensures of its result, and what a comparison reads from its
arguments if it reads them at all.
-/
import FieldQuery.Proofs.Compilation.Operands
import FieldQuery.Proofs.Text.Boundary
import FieldQuery.Proofs.Text.FoldedEscape
import FieldQuery.Proofs.Text.FoldedWords

namespace FieldQuery

/-- An outcome ensures a property when its result, if there is one, has it. -/
def Ensures {Result : Type} (outcome : Except Fault Result) (property : Result → Prop) : Prop :=
  ∀ result, outcome = .ok result → property result

section

variable {Result Next : Type} {outcome : Except Fault Result} {property : Result → Prop}
  {later : Next → Prop}

theorem Ensures.bind {next : Result → Except Fault Next} (ensures : Ensures outcome property)
    (following : ∀ result, property result → Ensures (next result) later) :
    Ensures (outcome >>= next) later := by
  cases outcome with
  | error fault => exact fun _ found => by cases found
  | ok result => exact following result (ensures result rfl)

theorem Ensures.map {next : Result → Next} (ensures : Ensures outcome property)
    (following : ∀ result, property result → later (next result)) :
    Ensures (outcome.map next) later := by
  cases outcome with
  | error fault => exact fun _ found => by cases found
  | ok result =>
      intro final found
      obtain rfl : next result = final := by simpa [Except.map] using found
      exact following result (ensures result rfl)

/-- A result ensures its properties. -/
theorem Ensures.ok {result : Result} (holds : property result) :
    Ensures (.ok result : Except Fault Result) property := by
  intro final found
  obtain rfl : result = final := by simpa using found
  exact holds

theorem Ensures.error (fault : Fault) : Ensures (.error fault : Except Fault Result) property :=
  fun _ found => by cases found

end

/--
What every comparison ensures of its query, and combinations and negations keep, every compilation
ensures of its query.
-/
theorem Query.ensures_walk (config : Config) (property : Expression → Query → Prop)
    (combination : ∀ operator occur left right first second, operator.role = .combine occur →
      property left first → property right second →
      property (.operation operator [left, right]) (allWith occur [first, second]))
    (negation : ∀ operator operand inner, operator.role = .negate → property operand inner →
      property (.operation operator [operand]) (allWith .mustNot [inner]))
    (comparison : ∀ operator comparison arguments, operator.role = .compare comparison →
      Ensures (comparison.query config operator arguments) (property (.operation operator arguments)))
    (expression : Expression) : Ensures (walk config expression).outcome (property expression) := by
  induction expression using Expression.inductionOnRoles with
  | path name =>
      rw [outcome_walk_path]
      exact .error _
  | constant value =>
      rw [outcome_walk_constant]
      exact .error _
  | unsupported operator arguments role =>
      rw [outcome_walk_unsupported config role]
      exact .error _
  | miscounted operator arguments supported wrong =>
      rw [outcome_walk_of_arity_ne config supported wrong]
      exact .error _
  | combination operator occur left right role firstHypothesis secondHypothesis =>
      rw [outcome_walk_combine config role]
      refine firstHypothesis.bind fun first firstHolds => ?_
      refine secondHypothesis.bind fun second secondHolds => .ok ?_
      exact combination operator occur left right first second role firstHolds secondHolds
  | negation operator operand role inductionHypothesis =>
      rw [outcome_walk_negate config role]
      exact inductionHypothesis.bind fun inner holds =>
        .ok (negation operator operand inner role holds)
  | comparison operator kind arguments role =>
      rw [outcome_walk_compare config role]
      exact comparison operator kind arguments role

/-- The name of a field is that of its path. -/
theorem Expression.ensures_names (expression : Expression) :
    Ensures expression.fieldName expression.Names := by
  induction expression using inductionOnArguments with
  | path name => exact .ok (.path name)
  | constant value => exact .error _
  | operation operator arguments inductionHypothesis =>
      unfold Expression.fieldName
      split
      · rename_i folds
        cases arguments with
        | nil => exact .error _
        | cons inner others =>
            intro name found
            exact .folded others ((isCaseFolding_iff operator).mp folds)
              (inductionHypothesis inner List.mem_cons_self name found)
      · exact .error _

/-- The words of a constant are those of its display, and there is one. -/
theorem Constant.ensures_words (value : Constant) :
    Ensures value.words fun list => list = Text.words value.display ∧ list ≠ [] := by
  unfold Constant.words
  split
  · exact .error _
  · rename_i found
    exact .ok ⟨found.symm, List.cons_ne_nil _ _⟩

namespace Comparison

open Text

/-- A comparison takes a word as it is, or the escape of a word. -/
structure Takes (comparison : Comparison) (word : String) : Prop where
  isWord : IsWord word
  isEscape : comparison.isEscaped = true → ∃ source, IsWord source ∧ word = escape source

/-- A comparison takes words when there is one and it takes each. -/
def TakesAll (comparison : Comparison) (words : List String) : Prop :=
  words ≠ [] ∧ ∀ word ∈ words, comparison.Takes word

variable {comparison : Comparison}

/-- The escape of a word is a word. -/
theorem isWord_escape {word : String} (isWord : IsWord word) : IsWord (escape word) := by
  constructor
  · rw [escape, String.toList_ofList, ne_eq, escapeChars_eq_nil_iff]
    exact isWord.nonempty
  · rw [escape, String.toList_ofList]
    exact AllVisible.escapeChars isWord.visible

/-- A comparison takes the words of its constants in its own way. -/
theorem ensures_wordsOf (comparison : Comparison) (value : Constant) :
    Ensures (comparison.wordsOf value) comparison.TakesAll := by
  have all : Ensures value.words fun list => list ≠ [] ∧ ∀ word ∈ list, IsWord word := by
    intro list found
    obtain ⟨rfl, nonempty⟩ := value.ensures_words list found
    exact ⟨nonempty, fun word member => isWord_of_mem_words member⟩
  cases escaped : comparison.isEscaped with
  | true =>
      simp only [wordsOf, escaped]
      rw [Constant.escapedWords_eq_map]
      refine all.map fun list taken => ⟨by simpa using taken.1, fun word member => ?_⟩
      obtain ⟨source, found, rfl⟩ := List.mem_map.mp member
      exact ⟨isWord_escape (taken.2 source found), fun _ => ⟨source, taken.2 source found, rfl⟩⟩
  | false =>
      simp only [wordsOf, escaped]
      intro list found
      obtain ⟨nonempty, isWord⟩ := all list found
      refine ⟨nonempty, fun word member => ⟨isWord word member, fun other => ?_⟩⟩
      rw [escaped] at other
      cases other

/-- A comparison reads lists of words that it takes, and as many as it needs. -/
structure Reads (comparison : Comparison) (lists : List (List String)) : Prop where
  each : ∀ words ∈ lists, comparison.TakesAll words
  first : comparison ≠ .oneOf → lists ≠ []
  second : comparison = .between → lists.tail ≠ []

/-- A comparison is supplied with a field by its first argument and with words by the others. -/
structure Supplied (comparison : Comparison) (arguments : List Expression)
    (found : String × List (List String)) : Prop where
  field : ∃ target others, arguments = target :: others ∧ target.Names found.1
  reads : comparison.Reads found.2
  empty : found.2 = [] → ∃ target, arguments = [target, .constant (.collection [])]

variable {operator : Operator} {arguments : List Expression}

/-- A comparison with one constant has a target and that constant as its arguments. -/
theorem ensures_pair : Ensures (pair operator arguments) fun found =>
    arguments = [found.1, .constant found.2] :=
  fun _ found => pair_eq_ok_iff.mp found

/-- A comparison with two constants has a target and those constants as its arguments. -/
theorem ensures_triple : Ensures (triple operator arguments) fun found =>
    arguments = [found.1, .constant found.2.1, .constant found.2.2] :=
  fun _ found => triple_eq_ok_iff.mp found

/-- A comparison of one constant is supplied with one list of words. -/
theorem ensures_operand (one : comparison ≠ .between) :
    Ensures (operand comparison.wordsOf operator arguments) (comparison.Supplied arguments) := by
  refine ensures_pair.bind fun found shape => found.1.ensures_names.bind fun field named => ?_
  refine (ensures_wordsOf comparison found.2).bind fun words taken => .ok ⟨?_, ⟨?_, ?_, ?_⟩, ?_⟩
  · exact ⟨found.1, _, shape, named⟩
  · exact List.forall_mem_singleton.mpr taken
  · exact fun _ => List.cons_ne_nil _ _
  · exact fun two => absurd two one
  · exact fun none => absurd none (List.cons_ne_nil _ _)

/-- A range is supplied with two lists of words. -/
theorem ensures_operands_between :
    Ensures (operands .between operator arguments) (Supplied .between arguments) := by
  have words (value : Constant) : Ensures value.words (TakesAll .between) :=
    ensures_wordsOf .between value
  refine ensures_triple.bind fun found shape => found.1.ensures_names.bind fun field named => ?_
  refine (words found.2.1).bind fun lower low => (words found.2.2).bind fun upper high => ?_
  refine .ok ⟨⟨found.1, _, shape, named⟩, ⟨?_, ?_, ?_⟩, fun none => absurd none (by simp)⟩
  · exact List.forall_mem_cons.mpr ⟨low, List.forall_mem_singleton.mpr high⟩
  · exact fun _ => List.cons_ne_nil _ _
  · exact fun _ => List.cons_ne_nil _ _

/-- All words of a collection are taken as they are, a list of them for each value. -/
theorem ensures_mapM_words (values : List Constant) :
    Ensures (values.mapM Constant.words) fun lists =>
      lists.length = values.length ∧ ∀ words ∈ lists, TakesAll .oneOf words := by
  induction values with
  | nil => exact .ok (by simp)
  | cons value rest inductionHypothesis =>
      have words : Ensures value.words (TakesAll .oneOf) := ensures_wordsOf .oneOf value
      rw [List.mapM_cons]
      refine words.bind fun first taken => inductionHypothesis.bind fun lists all => .ok ⟨?_, ?_⟩
      · exact congrArg (· + 1) all.1
      · exact List.forall_mem_cons.mpr ⟨taken, all.2⟩

/-- A membership is supplied with a list of words for each constant. -/
theorem ensures_operands_oneOf :
    Ensures (operands .oneOf operator arguments) (Supplied .oneOf arguments) := by
  obtain ⟨target, values, rfl⟩ | ⟨target, argument, rfl, other⟩ | wrong :=
    membership_cases arguments
  · refine target.ensures_names.bind fun field named => ?_
    refine (ensures_mapM_words values).bind fun lists all => .ok ⟨⟨target, _, rfl, named⟩, ?_, ?_⟩
    · exact ⟨all.2, fun other => absurd rfl other, fun two => Comparison.noConfusion two⟩
    · rintro rfl
      obtain rfl : values = [] := List.eq_nil_of_length_eq_zero all.1.symm
      exact ⟨target, rfl⟩
  · rw [operands_oneOf_of_ne_collection operator target other]
    exact target.ensures_names.bind fun _ _ => .error _
  · rw [operands_oneOf_of_length_ne wrong]
    exact .error _

/-- Every comparison is supplied by its arguments, if it reads them at all. -/
theorem ensures_operands :
    Ensures (operands comparison operator arguments) (comparison.Supplied arguments) := by
  cases comparison with
  | between => exact ensures_operands_between
  | oneOf => exact ensures_operands_oneOf
  | _ => exact ensures_operand (by decide)

/-- The lowercase of an escaped word is an escaped word. -/
theorem exists_lowercase_escape {source : String} (isWord : IsWord source) :
    ∃ lowered, IsWord lowered ∧ lowercase (escape source) = escape lowered := by
  obtain ⟨lowered, same⟩ := exists_lowercaseFrom_escapeChars false source.toList
  have folds : lowercase (escape source) = escape (String.ofList lowered) := by
    rw [escape, escape, lowercase, String.toList_ofList, String.toList_ofList, lowercaseChars, same]
  refine ⟨.ofList lowered, ?_, folds⟩
  have escaped : IsWord (escape (String.ofList lowered)) := folds ▸ (isWord_escape isWord).lowercase
  rw [escape, String.toList_ofList] at escaped
  constructor
  · have nonempty := escaped.nonempty
    rw [String.toList_ofList, ne_eq, escapeChars_eq_nil_iff] at nonempty
    rwa [String.toList_ofList]
  · intro character member
    rw [String.toList_ofList] at member
    refine escaped.visible character ?_
    rw [String.toList_ofList]
    refine List.mem_flatMap.mpr ⟨character, member, ?_⟩
    unfold escapeChar
    split <;> simp

variable (config : Config)

/-- A comparison takes the normal form of each word that it takes. -/
theorem Takes.normalize {word : String} (takes : comparison.Takes word) :
    comparison.Takes (config.normalize word) := by
  unfold Config.normalize
  split
  · refine ⟨takes.isWord.lowercase, fun escaped => ?_⟩
    obtain ⟨source, isWord, rfl⟩ := takes.isEscape escaped
    exact exists_lowercase_escape isWord
  · exact takes

/-- A comparison reads the normal forms of all words that it reads. -/
theorem Reads.normalize {lists : List (List String)} (reads : comparison.Reads lists) :
    comparison.Reads (lists.map (List.map config.normalize)) := by
  refine ⟨?_, fun other => by simpa using reads.first other, fun two => ?_⟩
  · intro words member
    obtain ⟨source, found, rfl⟩ := List.mem_map.mp member
    obtain ⟨nonempty, taken⟩ := reads.each source found
    refine ⟨by simpa using nonempty, fun word listed => ?_⟩
    obtain ⟨origin, inSource, rfl⟩ := List.mem_map.mp listed
    exact (taken origin inSource).normalize config
  · rw [← List.map_tail, ne_eq, List.map_eq_nil_iff]
    exact reads.second two

/-- The first member of a list is one of its members. -/
theorem headD_mem {Item : Type} {list : List Item} (nonempty : list ≠ []) (default : Item) :
    list.headD default ∈ list := by
  cases list with
  | nil => exact absurd rfl nonempty
  | cons first rest => exact List.mem_cons_self

end Comparison

end FieldQuery
