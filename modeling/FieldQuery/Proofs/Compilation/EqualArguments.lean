/-
This file proves how far equal arguments of a comparison are compiled to equal queries.
-/
import FieldQuery.Proofs.Compilation.CaseInsensitivity
import FieldQuery.Proofs.Expression.Equality

namespace FieldQuery

/-- Functions that tell as much apart on two lists tell as much apart on their members. -/
theorem map_eq_map_iff_of_forall {Item Key Image : Type} {key : Item → Key}
    {change : Item → Image}
    (exact : ∀ item other, key item = key other → (change item = change other ↔ item = other))
    {lefts rights : List Item} (same : lefts.map key = rights.map key) :
    lefts.map change = rights.map change ↔ lefts = rights := by
  induction lefts generalizing rights with
  | nil =>
      obtain rfl : rights = [] := by simpa using same.symm
      exact iff_of_true rfl rfl
  | cons item rest inductionHypothesis =>
      cases rights with
      | nil => simp at same
      | cons other others =>
          obtain ⟨head, tail⟩ := List.cons.inj same
          rw [List.map_cons, List.map_cons, List.cons.injEq, List.cons.injEq, exact item other head,
            inductionHypothesis tail]

/-- Equal constants have words, or both have none. -/
theorem Constant.words_corresponds_of_equals {left right : Constant}
    (equal : left.equals right = true) :
    Corresponds (fun words others => words = Text.words left.display ∧
        others = Text.words right.display ∧ words ≠ [] ∧ others ≠ []) left.words right.words := by
  have same := map_unsignedZero_words equal
  by_cases none : Text.words left.display = []
  · have alsoNone : Text.words right.display = [] := by simpa [none] using same.symm
    rw [words, words, none, alsoNone]
    exact .refused _ _
  · have some : Text.words right.display ≠ [] := by
      intro empty
      exact none (by simpa [empty] using same)
    rw [words_eq_ok none, words_eq_ok some]
    exact .found ⟨rfl, rfl, none, some⟩

/-- Equal constants are both collections of equal members, or none of them is one. -/
theorem Constant.members_of_equals {left right : Constant} (equal : left.equals right = true) :
    List.Forall₂ (·.equals · = true) (left.members?.getD [])
      (right.members?.getD []) := by
  cases left with
  | collection lefts =>
      obtain ⟨rights, rfl, members⟩ := equals_collection_iff.mp equal
      exact members
  | _ =>
      cases right with
      | collection rights => simp [equals] at equal
      | _ => exact .nil

/-- Equal members of collections have words, or a member of both has none. -/
theorem Constant.mapM_words_corresponds_of_equals {lefts rights : List Constant}
    (equal : List.Forall₂ (·.equals · = true) lefts rights) :
    Corresponds (fun lists others => lists = lefts.map (fun value => Text.words value.display) ∧
        others = rights.map fun value => Text.words value.display)
      (lefts.mapM words) (rights.mapM words) := by
  induction equal with
  | nil => exact .found ⟨rfl, rfl⟩
  | cons first _ inductionHypothesis =>
      rw [List.mapM_cons, List.mapM_cons]
      refine (words_corresponds_of_equals first).bind fun words others head => ?_
      refine inductionHypothesis.bind fun lists later tail => .found ?_
      rw [head.1, head.2.1, tail.1, tail.2]
      exact ⟨rfl, rfl⟩

/-- Equal members of collections have the same words up to the signs of zeros. -/
theorem Constant.map_unsignedZero_words_members {lefts rights : List Constant}
    (equal : List.Forall₂ (·.equals · = true) lefts rights) :
    (lefts.map fun value => Text.words value.display).map (List.map Text.unsignedZero) =
      (rights.map fun value => Text.words value.display).map (List.map Text.unsignedZero) := by
  induction equal with
  | nil => rfl
  | cons first _ inductionHypothesis =>
      simp only [List.map_cons, map_unsignedZero_words first, inductionHypothesis]

/-- Equal predicates name the same field, or both name none. -/
theorem Expression.fieldName_corresponds_of_equals {left right : Expression}
    (equal : left.equals right = true) :
    Corresponds (· = ·) left.fieldName right.fieldName := by
  induction left using inductionOnArguments generalizing right with
  | path name =>
      obtain rfl := equals_path_iff.mp equal
      exact .found rfl
  | constant value =>
      obtain ⟨other, rfl, _⟩ := equals_constant_iff.mp equal
      exact .refused _ _
  | operation operator arguments inductionHypothesis =>
      obtain ⟨others, rfl, members⟩ := equals_operation_iff.mp equal
      rw [fieldName.eq_def, fieldName.eq_def (.operation operator others)]
      by_cases folds : operator.isCaseFolding = true
      · cases members with
        | nil => simp only [folds, if_true]; exact .refused _ _
        | cons first _ =>
            simp only [folds, if_true]
            exact inductionHypothesis _ List.mem_cons_self first
      · simp only [folds]
        exact .refused _ _

namespace Comparison

/-- A membership reads the members of a collection, and every other comparison its constants. -/
def constants (comparison : Comparison) : Expression → List Constant
  | .constant value => if comparison = .oneOf then value.members?.getD [] else [value]
  | _ => []

/-- These are the constants that a comparison reads behind its target. -/
def readConstants (comparison : Comparison) (arguments : List Expression) : List Constant :=
  arguments.tail.flatMap comparison.constants

/-- A range takes the first word of a constant, and every other comparison all its words. -/
def wordsTaken (comparison : Comparison) (value : Constant) : List String :=
  if comparison = .between then (Text.words value.display).take 1 else Text.words value.display

/-- A comparison takes these words from the constants behind its target. -/
def takenWords (comparison : Comparison) (arguments : List Expression) : List (List String) :=
  (comparison.readConstants arguments).map comparison.wordsTaken

/-- A range reads the float in front of a constant, and every other comparison all its floats. -/
def floatsRead (comparison : Comparison) (value : Constant) : List Number.Double :=
  if comparison = .between then value.leadingFloats else value.floats

/-- A word is escaped if the comparison searches. -/
def wording (comparison : Comparison) (word : String) : String :=
  if comparison.isEscaped then Text.escape word else word

/-- What a comparison reads of a constant are its words, escaped if it searches. -/
theorem wordsOf_eq_map (comparison : Comparison) (value : Constant) :
    comparison.wordsOf value = value.words.map (List.map comparison.wording) := by
  cases escaped : comparison.isEscaped with
  | true =>
      simp only [wordsOf, escaped, Constant.escapedWords_eq_map]
      congr 2
      funext word
      simp [wording, escaped]
  | false =>
      have same : comparison.wording = id := by
        funext word
        simp [wording, escaped]
      simp only [wordsOf, escaped, same, List.map_id_fun]
      cases value.words <;> rfl

/-- Words that differ in the sign of a zero only enter a query in forms that differ as they do. -/
theorem normalize_wording_inj (config : Config) (comparison : Comparison) {word other : String}
    (same : Text.unsignedZero word = Text.unsignedZero other) :
    config.normalize (comparison.wording word) = config.normalize (comparison.wording other) ↔
      word = other := by
  have zeros : ∀ folds escaped : Bool, ∀ spelled ∈
      [("0", "-0"), ("-0", "0"), ("0,", "-0,"), ("-0,", "0,")], spelled.1 ≠ spelled.2 ∧
      (Config.mk folds).normalize (if escaped then Text.escape spelled.1 else spelled.1) ≠
        (Config.mk folds).normalize (if escaped then Text.escape spelled.2 else spelled.2) := by
    decide +kernel
  obtain rfl | spelled := Text.eq_or_mem_of_unsignedZero_eq same
  · exact iff_of_true rfl rfl
  · obtain ⟨different, formsDifferent⟩ :=
      zeros config.foldCase comparison.isEscaped _ spelled
    exact iff_of_false formsDifferent different

/-- Lists of words behave like their words. -/
theorem map_normalize_wording_inj (config : Config) (comparison : Comparison)
    {words others : List String}
    (same : words.map Text.unsignedZero = others.map Text.unsignedZero) :
    (words.map comparison.wording).map config.normalize =
        (others.map comparison.wording).map config.normalize ↔ words = others := by
  rw [List.map_map, List.map_map]
  exact map_eq_map_iff_of_forall (fun _ _ => normalize_wording_inj config comparison) same

/-- A combination determines its parts. -/
theorem allWith_inj {occur : Occur} {queries others : List Query} :
    Query.allWith occur queries = Query.allWith occur others ↔ queries = others := by
  have injective : Function.Injective fun query => Clause.mk occur query :=
    fun _ _ same => by simpa using same
  rw [Query.allWith, Query.allWith, Query.boolean.injEq, injective.list_map.eq_iff]
  exact and_iff_left rfl

/-- An equality determines its words. -/
theorem equality_inj {field : String} {words others : List String} :
    equality .exact field words = equality .exact field others ↔ words = others := by
  have same (list : List String) : list.map Config.exact.normalize = list := List.map_id list
  constructor
  · intro equal
    match words, others with
    | [], [] => rfl
    | [word], [other] => simpa [equality] using equal
    | _ :: _ :: _, [] | [], _ :: _ :: _ => simp [equality] at equal
    | [_], [] | [], [_] | [_], _ :: _ :: _ | _ :: _ :: _, [_] => simp [equality] at equal
    | first :: second :: rest, head :: next :: later =>
        simpa only [equality, same, Query.phrase.injEq, true_and, and_true] using equal
  · intro equal
    rw [equal]

/-- A comparison of one constant determines its words by its query. -/
theorem build_inj {comparison : Comparison} (one : comparison ≠ .between ∧ comparison ≠ .oneOf)
    {field : String} {words others : List String} (some : words ≠ []) (more : others ≠ []) :
    comparison.build .exact field [words] = comparison.build .exact field [others] ↔
      words = others := by
  cases comparison with
  | like =>
      have contains : isEscaped .contains = true := rfl
      exact build_inj_of_isEscaped contains some more
  | contains => exact build_inj_of_isEscaped rfl some more
  | startsWith => exact build_inj_of_isEscaped rfl some more
  | endsWith => exact build_inj_of_isEscaped rfl some more
  | equal => exact equality_inj
  | different =>
      change Query.allWith .mustNot [_] = Query.allWith .mustNot [_] ↔ _
      rw [allWith_inj, List.singleton_inj]
      exact equality_inj
  | between => exact absurd rfl one.1
  | oneOf => exact absurd rfl one.2

/-- Words that differ in the signs of zeros only make equalities that differ as they do. -/
theorem equality_inj_of_unsignedZero (config : Config) {field : String} {words others : List String}
    (same : words.map Text.unsignedZero = others.map Text.unsignedZero) :
    equality config field words = equality config field others ↔ words = others := by
  rw [equality_normalize, equality_normalize config field others, equality_inj]
  exact map_eq_map_iff_of_forall (fun _ _ => normalize_wording_inj config .oneOf) same

section

variable {lefts rights : List Expression} (operator : Operator)

/-- A target and a constant are found in both of two lists of equal arguments, or in none. -/
theorem pair_corresponds_of_equals
    (equal : List.Forall₂ (·.equals · = true) lefts rights) :
    Corresponds (fun found other => lefts = [found.1, .constant found.2] ∧
        rights = [other.1, .constant other.2] ∧ found.1.equals other.1 = true ∧
        found.2.equals other.2 = true)
      (pair operator lefts) (pair operator rights) := by
  by_cases two : lefts.length = 2
  · obtain ⟨target, argument, rfl⟩ := List.length_eq_two.mp two
    obtain ⟨otherTarget, others, targets, following, rfl⟩ := List.forall₂_cons_left_iff.mp equal
    obtain ⟨other, rest, arguments, none, rfl⟩ := List.forall₂_cons_left_iff.mp following
    obtain rfl := List.forall₂_nil_left_iff.mp none
    cases argument with
    | constant value =>
        obtain ⟨otherValue, rfl, values⟩ := Expression.equals_constant_iff.mp arguments
        exact .found ⟨rfl, rfl, targets, values⟩
    | path name =>
        obtain rfl := Expression.equals_path_iff.mp arguments
        exact .refused _ _
    | operation inner list =>
        obtain ⟨otherList, rfl, _⟩ := Expression.equals_operation_iff.mp arguments
        exact .refused _ _
  · rw [pair_of_length_ne two, pair_of_length_ne (equal.length_eq ▸ two)]
    exact .refused _ _

/-- A target and two constants are found in both of two lists of equal arguments, or in none. -/
theorem triple_corresponds_of_equals
    (equal : List.Forall₂ (·.equals · = true) lefts rights) :
    Corresponds (fun found other =>
        lefts = [found.1, .constant found.2.1, .constant found.2.2] ∧
        rights = [other.1, .constant other.2.1, .constant other.2.2] ∧
        found.1.equals other.1 = true ∧ found.2.1.equals other.2.1 = true ∧
        found.2.2.equals other.2.2 = true)
      (triple operator lefts) (triple operator rights) := by
  by_cases three : lefts.length = 3
  · obtain ⟨target, lower, upper, rfl⟩ := List.length_eq_three.mp three
    obtain ⟨otherTarget, others, targets, following, rfl⟩ := List.forall₂_cons_left_iff.mp equal
    obtain ⟨otherLower, rest, lowers, last, rfl⟩ := List.forall₂_cons_left_iff.mp following
    obtain ⟨otherUpper, nothing, uppers, none, rfl⟩ := List.forall₂_cons_left_iff.mp last
    obtain rfl := List.forall₂_nil_left_iff.mp none
    cases lower with
    | constant least =>
        obtain ⟨otherLeast, rfl, leasts⟩ := Expression.equals_constant_iff.mp lowers
        cases upper with
        | constant greatest =>
            obtain ⟨otherGreatest, rfl, greatests⟩ := Expression.equals_constant_iff.mp uppers
            exact .found ⟨rfl, rfl, targets, leasts, greatests⟩
        | path name =>
            obtain rfl := Expression.equals_path_iff.mp uppers
            exact .refused _ _
        | operation inner list =>
            obtain ⟨otherList, rfl, _⟩ := Expression.equals_operation_iff.mp uppers
            exact .refused _ _
    | path name =>
        obtain rfl := Expression.equals_path_iff.mp lowers
        exact .refused _ _
    | operation inner list =>
        obtain ⟨otherList, rfl, _⟩ := Expression.equals_operation_iff.mp lowers
        exact .refused _ _
  · rw [triple_of_length_ne three, triple_of_length_ne (equal.length_eq ▸ three)]
    exact .refused _ _

variable (config : Config)

/-- One constant is compiled to equal queries exactly when its words are the same. -/
theorem query_corresponds_of_one {comparison : Comparison}
    (one : comparison ≠ .between ∧ comparison ≠ .oneOf)
    (equal : List.Forall₂ (·.equals · = true) lefts rights) :
    Corresponds (fun query other => query = other ↔
        comparison.takenWords lefts = comparison.takenWords rights)
      (query config comparison operator lefts) (query config comparison operator rights) := by
  rw [query_eq_onWords_build _ one]
  refine (pair_corresponds_of_equals operator equal).bind fun found other relation => ?_
  obtain ⟨shape, otherShape, targets, values⟩ := relation
  refine (Expression.fieldName_corresponds_of_equals targets).bind fun field _ sameField => ?_
  subst sameField
  have mapped (value : Constant) (next : List String → Except Fault Query) :
      comparison.wordsOf value >>= next =
        value.words >>= fun words => next (words.map comparison.wording) := by
    rw [wordsOf_eq_map]
    cases value.words <;> rfl
  rw [mapped, mapped]
  refine (Constant.words_corresponds_of_equals values).bind fun words others both => .found ?_
  obtain ⟨first, second, some, more⟩ := both
  have same : words.map Text.unsignedZero = others.map Text.unsignedZero := by
    rw [first, second]
    exact Constant.map_unsignedZero_words values
  have taken (target : Expression) (value : Constant) :
      comparison.takenWords [target, .constant value] = [Text.words value.display] := by
    simp [takenWords, readConstants, constants, wordsTaken, one.1, one.2]
  change comparison.build config field [words.map comparison.wording] =
    comparison.build config field [others.map comparison.wording] ↔ _
  rw [build_normalize, build_normalize _ _ _ [others.map comparison.wording], shape, otherShape,
    taken, taken, ← first, ← second, List.singleton_inj]
  exact (build_inj one (by simpa) (by simpa)).trans
    (map_normalize_wording_inj config comparison same)

/-- Two constants are compiled to equal ranges exactly when their first words are the same. -/
theorem query_between_corresponds_of_equals
    (equal : List.Forall₂ (·.equals · = true) lefts rights) :
    Corresponds (fun query other => query = other ↔
        takenWords .between lefts = takenWords .between rights)
      (query config .between operator lefts) (query config .between operator rights) := by
  refine (triple_corresponds_of_equals operator equal).bind fun found other relation => ?_
  obtain ⟨shape, otherShape, targets, lowers, uppers⟩ := relation
  refine (Expression.fieldName_corresponds_of_equals targets).bind fun field _ sameField => ?_
  subst sameField
  refine (Constant.words_corresponds_of_equals lowers).bind fun least greater both => ?_
  refine (Constant.words_corresponds_of_equals uppers).bind fun greatest less alike => .found ?_
  obtain ⟨rfl, rfl, some, others⟩ := both
  obtain ⟨rfl, rfl, more, rest⟩ := alike
  have same := Constant.map_unsignedZero_words lowers
  have alsoSame := Constant.map_unsignedZero_words uppers
  have taken (target : Expression) (lower upper : Constant) :
      takenWords .between [target, .constant lower, .constant upper] =
        [(Text.words lower.display).take 1, (Text.words upper.display).take 1] := rfl
  rw [shape, otherShape, taken, taken]
  obtain ⟨first, _, lower⟩ := List.exists_cons_of_ne_nil some
  obtain ⟨second, _, otherLower⟩ := List.exists_cons_of_ne_nil others
  obtain ⟨third, _, upper⟩ := List.exists_cons_of_ne_nil more
  obtain ⟨fourth, _, otherUpper⟩ := List.exists_cons_of_ne_nil rest
  rw [lower, otherLower, List.map_cons, List.map_cons, List.cons.injEq] at same
  rw [upper, otherUpper, List.map_cons, List.map_cons, List.cons.injEq] at alsoSame
  have firsts := normalize_wording_inj config .between same.1
  have lasts := normalize_wording_inj config .between alsoSame.1
  simp only [lower, otherLower, upper, otherUpper, interval, List.headD_cons, Query.range.injEq,
    Bound.included.injEq, true_and, and_true, List.take_succ_cons, List.take_zero, List.cons.injEq]
  exact and_congr firsts lasts

/-- Collections are compiled to equal queries exactly when their members have the same words. -/
theorem query_oneOf_corresponds_of_equals
    (equal : List.Forall₂ (·.equals · = true) lefts rights) :
    Corresponds (fun query other => query = other ↔
        takenWords .oneOf lefts = takenWords .oneOf rights)
      (query config .oneOf operator lefts) (query config .oneOf operator rights) := by
  by_cases two : lefts.length = 2
  · obtain ⟨target, argument, rfl⟩ := List.length_eq_two.mp two
    obtain ⟨otherTarget, others, targets, following, rfl⟩ := List.forall₂_cons_left_iff.mp equal
    obtain ⟨other, rest, arguments, none, rfl⟩ := List.forall₂_cons_left_iff.mp following
    obtain rfl := List.forall₂_nil_left_iff.mp none
    by_cases collected : ∃ values, argument = .constant (.collection values)
    · obtain ⟨values, rfl⟩ := collected
      obtain ⟨found, rfl, equals⟩ := Expression.equals_constant_iff.mp arguments
      obtain ⟨others, rfl, members⟩ := Constant.equals_collection_iff.mp equals
      rw [query_oneOf_collection, query_oneOf_collection]
      refine (Expression.fieldName_corresponds_of_equals targets).bind fun field _ sameField => ?_
      subst sameField
      rw [equalities_eq_map, equalities_eq_map]
      have read := Constant.mapM_words_corresponds_of_equals members
      refine (read.map fun lists later both => ?_).bind fun queries others exact =>
        .found (allWith_inj.trans exact)
      obtain ⟨rfl, rfl⟩ := both
      have taken (target : Expression) (values : List Constant) :
          takenWords .oneOf [target, .constant (.collection values)] =
            values.map fun value => Text.words value.display := by
        simp [takenWords, readConstants, constants, wordsTaken, Constant.members?]
      have same := Constant.map_unsignedZero_words_members members
      rw [taken, taken]
      exact map_eq_map_iff_of_forall (fun _ _ => equality_inj_of_unsignedZero config) same
    · have notCollected : ∀ values, other ≠ .constant (.collection values) := by
        rintro values rfl
        cases argument with
        | constant value =>
            obtain ⟨found, is, equals⟩ := Expression.equals_constant_iff.mp arguments
            obtain rfl : .collection values = found := by simpa using is
            obtain ⟨lefts, rfl⟩ := Constant.exists_collection_of_equals equals
            exact collected ⟨lefts, rfl⟩
        | _ => simp [Expression.equals] at arguments
      have alsoNotCollected : ∀ values, argument ≠ .constant (.collection values) :=
        fun values is => collected ⟨values, is⟩
      rw [query_oneOf_of_ne_collection config operator target alsoNotCollected,
        query_oneOf_of_ne_collection config operator otherTarget notCollected]
      exact (Expression.fieldName_corresponds_of_equals targets).bind fun _ _ _ => .refused _ _
  · rw [query_oneOf_of_length_ne config two,
      query_oneOf_of_length_ne config (equal.length_eq ▸ two)]
    exact .refused _ _

/-- Equal arguments are compiled to equal queries exactly when the same words are taken. -/
theorem query_corresponds_of_equals (comparison : Comparison)
    (equal : List.Forall₂ (·.equals · = true) lefts rights) :
    Corresponds (fun query other => query = other ↔
        comparison.takenWords lefts = comparison.takenWords rights)
      (query config comparison operator lefts) (query config comparison operator rights) := by
  by_cases one : comparison ≠ .between ∧ comparison ≠ .oneOf
  · exact query_corresponds_of_one operator config one equal
  · have two : comparison = .between ∨ comparison = .oneOf := by tauto
    rcases two with rfl | rfl
    · exact query_between_corresponds_of_equals operator config equal
    · exact query_oneOf_corresponds_of_equals operator config equal

end

/-- Equal predicates hold equal constants. -/
theorem constants_of_equals (comparison : Comparison) {left right : Expression}
    (equal : left.equals right = true) :
    List.Forall₂ (·.equals · = true) (comparison.constants left)
      (comparison.constants right) := by
  cases left with
  | path name =>
      obtain rfl := Expression.equals_path_iff.mp equal
      exact .nil
  | operation operator arguments =>
      obtain ⟨others, rfl, _⟩ := Expression.equals_operation_iff.mp equal
      exact .nil
  | constant value =>
      obtain ⟨other, rfl, values⟩ := Expression.equals_constant_iff.mp equal
      by_cases membership : comparison = .oneOf
      · simp only [constants, membership, if_true]
        exact Constant.members_of_equals values
      · simp only [constants, membership, if_false]
        exact .cons values .nil

/-- Equal arguments are read as equal constants. -/
theorem readConstants_of_equals (comparison : Comparison) {lefts rights : List Expression}
    (equal : List.Forall₂ (·.equals · = true) lefts rights) :
    List.Forall₂ (·.equals · = true) (comparison.readConstants lefts)
      (comparison.readConstants rights) := by
  have behind : List.Forall₂ (·.equals · = true) lefts.tail rights.tail := by
    cases equal with
    | nil => exact .nil
    | cons _ following => exact following
  exact List.rel_flatMap behind fun _ _ => constants_of_equals comparison

/-- The same words are taken from equal constants up to the signs of zeros. -/
theorem map_unsignedZero_wordsTaken (comparison : Comparison) {left right : Constant}
    (equal : left.equals right = true) :
    (comparison.wordsTaken left).map Text.unsignedZero =
      (comparison.wordsTaken right).map Text.unsignedZero := by
  have same := Constant.map_unsignedZero_words equal
  rw [wordsTaken, wordsTaken]
  split
  · rw [List.map_take, List.map_take, same]
  · exact same

/-- The same words are taken from equal constants when the same floats are read from them. -/
theorem wordsTaken_eq_of_equals (comparison : Comparison) {left right : Constant}
    (equal : left.equals right = true)
    (same : comparison.floatsRead left = comparison.floatsRead right) :
    comparison.wordsTaken left = comparison.wordsTaken right := by
  rw [floatsRead, floatsRead] at same
  rw [wordsTaken, wordsTaken]
  split_ifs at same ⊢
  · simpa using Constant.take_one_words_of_equals equal same List.mem_cons_self
  · rw [Constant.eq_of_equals_of_floats equal same]

end Comparison

end FieldQuery
