/-
This file proves when the query of a predicate with plain fields is written as a balanced text.
-/
import FieldQuery.Proofs.Compilation.Legibility
import FieldQuery.Proofs.Text.Balance

namespace FieldQuery

open Text

/-- A scan of a normal text runs like that of the text. -/
theorem Config.run_normalize (config : Config) (nesting : Nesting) (text : String) :
    nesting.run (config.normalize text).toList = nesting.run text.toList := by
  unfold normalize
  split
  · rw [lowercase, String.toList_ofList, lowercaseChars, nesting.run_lowercaseFrom]
  · rfl

/-- A normal text is balanced exactly when the text is. -/
theorem Config.isBalanced_normalize (config : Config) {text : String} :
    IsBalanced (config.normalize text) ↔ IsBalanced text := by
  rw [IsBalanced, IsBalanced, config.run_normalize]

namespace Query

def IsCalm (query : Query) : Prop := Calm query.render.toList

variable {field : String}

theorem IsPlain.isUnmarked (plain : IsPlain field) : IsUnmarked field.toList :=
  fun character member mark => (plain character member).2 (mem_reserved_of_mem_marks mark)

/-- A query is calm when a calm text stands behind its plain field. -/
theorem isCalm_of_toList {query : Query} {characters : List Char} (plain : IsPlain field)
    (shown : query.render.toList = field.toList ++ ':' :: characters) (calm : Calm characters) :
    query.IsCalm := by
  have colon : IsUnmarked [':'] := by decide
  have whole := plain.isUnmarked.inert.calm.append (colon.inert.calm.append calm)
  rw [IsCalm, shown]
  exact whole

theorem boostSuffix_one : boostSuffix .one = "" := by decide

theorem isCalm_term (plain : IsPlain field) (word : String) :
    (Query.term field word .one).IsCalm := by
  refine isCalm_of_toList plain ?_ (inert_escapeChars word.toList).calm
  simp [render, boostSuffix_one, escape]

/-- Escaped words in a row are inert. -/
theorem inert_intercalate_escape (words : List String) :
    Inert (" ".intercalate (words.map escape)).toList := by
  cases words with
  | nil => exact inert_nil
  | cons first others =>
      have space : IsUnmarked [' '] := by decide
      rw [toList_intercalate_escape]
      refine (inert_escapeChars first.toList).append ?_
      refine flatMap_of_append inert_nil (fun _ _ => Inert.append) fun word _ => ?_
      exact space.inert.append (inert_escapeChars word.toList)

theorem isCalm_phrase (plain : IsPlain field) (words : List String) :
    (Query.phrase field words .one).IsCalm := by
  refine isCalm_of_toList plain ?_ (inert_intercalate_escape words).quoted.calm
  simp [render, boostSuffix_one]

theorem isCalm_wildcard (plain : IsPlain field) {pattern : String} (calm : Calm pattern.toList) :
    (Query.wildcard field pattern .one).IsCalm := by
  refine isCalm_of_toList plain ?_ calm
  simp [render, boostSuffix_one]

/-- A query for a start is calm when the start is. -/
theorem isCalm_prefixed (plain : IsPlain field) {start : String} (calm : Calm start.toList) :
    (Query.prefixed field start .one).IsCalm := by
  have star : IsUnmarked ['*'] := by decide
  refine isCalm_of_toList plain ?_ (calm.append star.inert.calm)
  simp [render, boostSuffix_one]

/-- A range between two balanced bounds is calm. -/
theorem isCalm_range (plain : IsPlain field) {lower upper : String} (low : IsBalanced lower)
    (high : IsBalanced upper) :
    (Query.range field (.included lower) (.included upper) .one).IsCalm := by
  have opens : IsUnmarked ['['] := by decide
  have between : IsUnmarked " TO ".toList := by decide
  have closes : IsUnmarked [']'] := by decide
  have bounds := (low.calm_append between (by decide)).append
    (high.calm_append closes (List.cons_ne_nil _ _))
  refine isCalm_of_toList plain ?_ (opens.inert.calm.append bounds)
  simp [render, boostSuffix_one, rangeText, boundText, Bound.isInclusive, Bound.value?]

/-- The mark of an occurrence is inert. -/
theorem inert_mark (occur : Occur) : Inert occur.mark.toList := by
  have unmarked : IsUnmarked occur.mark.toList := by
    cases occur <;> decide
  exact unmarked.inert

/-- A calm query is calm inside of another one, with or without parentheses. -/
theorem IsCalm.nestedChars {query : Query} (calm : query.IsCalm) : Calm query.nestedChars := by
  have wrapped : Calm ('(' :: (query.render.toList ++ [')'])) := calm.parenthesized
  unfold Query.nestedChars nested
  split
  · exact inert_nil.calm.parenthesized
  · simpa using wrapped
  · exact calm

/-- Calm queries with one occurrence are calm together. -/
theorem isCalm_allWith {occur : Occur} {queries : List Query}
    (each : ∀ query ∈ queries, query.IsCalm) : (allWith occur queries).IsCalm := by
  have chars : ∀ query ∈ queries, Calm (clauseChars ⟨occur, query⟩) := fun query member =>
    (inert_mark occur).calm.append (each query member).nestedChars
  have space : IsUnmarked [' '] := by decide
  rw [IsCalm, allWith, toList_render_boolean]
  cases queries with
  | nil => exact inert_nil.calm
  | cons first others =>
      obtain ⟨head, tail⟩ := List.forall_mem_cons.mp chars
      rw [List.map_cons, clausesChars, followingClauses, List.flatMap_map]
      refine head.append (flatMap_of_append inert_nil.calm (fun _ _ => Calm.append) ?_)
      exact fun query member => space.inert.calm.append (tail query member)

end Query

namespace Comparison

open Query

variable (config : Config) {comparison : Comparison} {field : String}

/-- Whatever a search in a plain field builds is calm. -/
theorem Builds.isCalm (searches : comparison.isEscaped = true) (plain : IsPlain field)
    {query : Query} (built : comparison.Builds field query) : query.IsCalm := by
  have unmarked : IsUnmarked "*".toList := by decide
  have star : Calm "*".toList := unmarked.inert.calm
  have word {word : String} (taken : comparison.Takes word) : Calm word.toList := by
    obtain ⟨source, _, rfl⟩ := taken.isEscape searches
    rw [escape, String.toList_ofList]
    exact (inert_escapeChars source.toList).calm
  induction built with
  | term taken => exact isCalm_term plain _
  | phrase several each => exact isCalm_phrase plain _
  | start _ taken => exact isCalm_prefixed plain (word taken)
  | opening _ taken =>
      refine isCalm_wildcard plain ?_
      rw [String.toList_append]
      exact (word taken).append star
  | inside taken =>
      refine isCalm_wildcard plain ?_
      rw [Comparison.inside, String.toList_append, String.toList_append]
      exact (star.append (word taken)).append star
  | ending _ taken =>
      refine isCalm_wildcard plain ?_
      rw [String.toList_append]
      exact star.append (word taken)
  | range low high => exact isCalm_range plain (word low).isBalanced (word high).isBalanced
  | without _ inductionHypothesis =>
      exact isCalm_allWith (List.forall_mem_singleton.mpr inductionHypothesis)
  | every _ _ inductionHypothesis => exact isCalm_allWith inductionHypothesis
  | any _ _ inductionHypothesis => exact isCalm_allWith inductionHypothesis

/-- An equality with a plain field is calm, whatever its words are. -/
theorem isCalm_equality (plain : IsPlain field) (words : List String) :
    (equality config field words).IsCalm := by
  unfold equality
  split
  · exact isCalm_term plain _
  · exact isCalm_phrase plain _

/-- Every comparison but two escapes its words, before they are stored or when they are shown. -/
theorem isCalm_build (escapes : comparison ≠ .like ∧ comparison ≠ .between)
    (plain : IsPlain field) {lists : List (List String)} (reads : comparison.Reads lists) :
    (comparison.build config field lists).IsCalm := by
  have search (searches : comparison.isEscaped = true) (other : comparison ≠ .oneOf) :
      (comparison.build config field lists).IsCalm :=
    (builds_build config reads (reads.first other)).isCalm searches plain
  cases comparison with
  | like => exact absurd rfl escapes.1
  | between => exact absurd rfl escapes.2
  | equal => exact isCalm_equality config plain _
  | different =>
      exact isCalm_allWith (List.forall_mem_singleton.mpr (isCalm_equality config plain _))
  | oneOf =>
      refine isCalm_allWith (List.forall_mem_map.mpr fun words _ => ?_)
      exact isCalm_equality config plain words
  | startsWith => exact search rfl (by decide)
  | endsWith => exact search rfl (by decide)
  | contains => exact search rfl (by decide)

/-- These characters stand in front of a word in a pattern around it. -/
def lead (field : String) : List Char := field.toList ++ [':', '*']

/-- Nothing in front of a word in a plain field is a mark. -/
theorem isUnmarked_lead (plain : IsPlain field) : IsUnmarked (lead field) := by
  have behind : IsUnmarked [':', '*'] := by decide
  exact List.forall_mem_append.mpr ⟨plain.isUnmarked, behind⟩

theorem toList_render_inside (word : String) :
    (pattern field (inside word)).render.toList = lead field ++ (word.toList ++ ['*']) := by
  simp [pattern, inside, render, boostSuffix_one, lead]

/-- Several patterns around words stand in a row, with a plus sign in front of each. -/
theorem space_cons_toList_render_every (list : List String) (nonempty : list ≠ []) :
    ' ' :: (allWith .must (list.map fun word => pattern field (inside word))).render.toList =
      starred (list.map fun word => ' ' :: '+' :: lead field ++ word.toList) := by
  have each (word : String) : clauseChars ⟨.must, pattern field (inside word)⟩ =
      '+' :: (lead field ++ (word.toList ++ ['*'])) := by
    have plus : Occur.must.mark.toList = ['+'] := by decide
    rw [clauseChars, plus]
    exact congrArg ('+' :: ·) (toList_render_inside word)
  obtain ⟨first, others, rfl⟩ := List.exists_cons_of_ne_nil nonempty
  rw [allWith, toList_render_boolean]
  simp only [List.map_cons, clausesChars, followingClauses, starred, List.map_map,
    List.flatMap_map, List.flatMap_cons, each, Function.comp_apply]
  simp

/-- A containment of words as they are is scanned like the words between stars. -/
theorem run_render_containment_exact (plain : IsPlain field) {list : List String}
    (nonempty : list ≠ []) :
    Nesting.start.run (containment .exact field list).render.toList =
      Nesting.start.run ('*' :: starred (list.map String.toList)) := by
  -- Unmarked characters in front of each word can be left out, since they stand behind a star.
  have leaveOut {before : List Char} (unmarked : IsUnmarked before) :
      Nesting.start.run ('*' :: starred (list.map fun word => before ++ word.toList)) =
        Nesting.start.run ('*' :: starred (list.map String.toList)) := by
    refine run_star_starred_map list (fun nesting word => ?_) _
    rw [Nesting.run_append, unmarked.inert, Option.bind_some]
  have unmarked := isUnmarked_lead plain
  -- One pattern stands alone, and several are clauses with a space and a plus sign before each.
  match list, nonempty with
  | [word], _ =>
      rw [← leaveOut unmarked, Nesting.run_star_cons, List.map_singleton, starred_cons,
        List.append_assoc]
      change Nesting.start.run (pattern field (inside word)).render.toList = _
      rw [toList_render_inside]
      rfl
  | first :: second :: rest, several =>
      have before : IsUnmarked [' ', '+'] := by decide
      have longer : IsUnmarked (' ' :: '+' :: lead field) :=
        List.forall_mem_append.mpr ⟨before, unmarked⟩
      rw [← leaveOut longer, Nesting.run_star_cons, ← space_cons_toList_render_every _ several,
        Nesting.run_cons]
      rfl

/-- A containment of the words of a text is scanned like the text. -/
theorem run_render_containment (plain : IsPlain field) {text : String}
    (nonempty : words text ≠ []) :
    Nesting.start.run (containment config field (words text)).render.toList =
      (Nesting.start.run text.toList).map Nesting.settle := by
  have alike (nesting : Nesting) (characters : List Char) :
      nesting.settle.run (config.normalize (String.ofList characters)).toList =
        nesting.settle.run (id characters) := by
    rw [config.run_normalize, String.toList_ofList, id]
  rw [containment_normalize, run_render_containment_exact plain (by simpa using nonempty), words,
    List.map_map, List.map_map]
  refine (run_star_starred_map _ alike _).trans ?_
  rw [List.map_id, run_star_splitWords]
  rfl

/-- A likeness takes a field and a constant, and its query is a containment of the words. -/
structure IsLikeness (arguments : List Expression) (target : Expression) (value : Constant)
    (field : String) (query : Query) : Prop where
  shape : arguments = [target, .constant value]
  named : target.Names field
  nonempty : words value.display ≠ []
  built : query = containment config field (words value.display)

variable {operator : Operator} {arguments : List Expression}

/-- Whatever this comparison compiles is a likeness. -/
theorem ensures_like :
    Ensures (query config .like operator arguments) fun query =>
      ∃ target value field, IsLikeness config arguments target value field query := by
  refine ensures_pair.bind fun found shape => found.1.ensures_names.bind fun field named => ?_
  refine found.2.ensures_words.bind fun list split => .ok ?_
  refine ⟨found.1, found.2, field, shape, named, ?_, ?_⟩
  · exact split.1 ▸ split.2
  · rw [split.1]

/-- The query of a likeness is scanned like the text. -/
theorem IsLikeness.run_render {target : Expression} {value : Constant} {query : Query}
    (likeness : IsLikeness config arguments target value field query) (plain : IsPlain field) :
    Nesting.start.run query.render.toList =
      (Nesting.start.run value.display.toList).map Nesting.settle := by
  rw [likeness.built, run_render_containment config plain likeness.nonempty]

/-- A range in a plain field is calm when the first words of its bounds are balanced. -/
theorem ensures_isCalm_between :
    Ensures (query config .between operator arguments) fun query =>
      ∃ target lower upper, arguments = [target, .constant lower, .constant upper] ∧
        (target.IsPlain → IsBalanced ((words lower.display).headD "") →
          IsBalanced ((words upper.display).headD "") → query.IsCalm) := by
  refine ensures_triple.bind fun found shape => found.1.ensures_names.bind fun field named => ?_
  refine found.2.1.ensures_words.bind fun lower first => ?_
  refine found.2.2.ensures_words.bind fun upper second => .ok ?_
  refine ⟨found.1, found.2.1, found.2.2, shape, fun plain low high => ?_⟩
  rw [← first.1, ← config.isBalanced_normalize] at low
  rw [← second.1, ← config.isBalanced_normalize] at high
  exact isCalm_range (plain.of_names named) low high

end Comparison

namespace Expression

/-- These texts enter the query of a comparison as they are, without an escape. -/
def bareTextsOf : Expression → List String
  | .operation .like [_, .constant value] => [value.display]
  | .operation .between [_, .constant lower, .constant upper] =>
    [(words lower.display).headD "", (words upper.display).headD ""]
  | _ => []

/-- The bare texts of a predicate are those of its comparisons. -/
def bareTexts (expression : Expression) : List String :=
  expression.comparisons.flatMap bareTextsOf

theorem bareTexts_combine {operator : Operator} {occur : Occur}
    (role : operator.role = .combine occur) (left right : Expression) :
    (operation operator [left, right]).bareTexts = left.bareTexts ++ right.bareTexts := by
  rw [bareTexts, comparisons_combine role, List.flatMap_append]
  rfl

theorem bareTexts_negate {operator : Operator} (role : operator.role = .negate)
    (operand : Expression) : (operation operator [operand]).bareTexts = operand.bareTexts := by
  rw [bareTexts, comparisons_negate role]
  rfl

theorem bareTexts_compare {operator : Operator} {comparison : Comparison}
    (role : operator.role = .compare comparison) (arguments : List Expression) :
    (operation operator arguments).bareTexts = bareTextsOf (.operation operator arguments) := by
  rw [bareTexts, comparisons_compare role, List.flatMap_singleton]

/-- All bare texts of a predicate can be balanced. -/
def HasBalancedTexts (expression : Expression) : Prop :=
  ∀ text ∈ expression.bareTexts, IsBalanced text

end Expression

namespace Query

variable (config : Config)

/-- The query of a comparison is calm when its field is plain and its bare texts are balanced. -/
theorem ensures_isCalm_compare {operator : Operator} {comparison : Comparison}
    (role : operator.role = .compare comparison) (arguments : List Expression) :
    Ensures (comparison.query config operator arguments) fun query =>
      (Expression.operation operator arguments).IsPlain →
      (Expression.operation operator arguments).HasBalancedTexts → query.IsCalm := by
  rw [Expression.isPlain_operation, Expression.HasBalancedTexts, Expression.bareTexts_compare role]
  cases comparison with
  | like =>
      obtain rfl : operator = .like := by cases operator <;> simp_all [Operator.role]
      intro query compiled plain balanced
      obtain ⟨target, value, field, likeness⟩ := Comparison.ensures_like config query compiled
      obtain rfl := likeness.shape
      apply calm_of_run
      rw [likeness.run_render config ((plain target List.mem_cons_self).of_names likeness.named)]
      exact balanced _ List.mem_cons_self
  | between =>
      obtain rfl : operator = .between := by cases operator <;> simp_all [Operator.role]
      intro query compiled plain balanced
      obtain ⟨target, lower, upper, rfl, calm⟩ :=
        Comparison.ensures_isCalm_between config query compiled
      obtain ⟨low, high⟩ := List.forall_mem_cons.mp balanced
      exact calm (plain target List.mem_cons_self) low (List.forall_mem_singleton.mp high)
  | _ =>
      rw [Comparison.query_eq_build]
      refine Comparison.ensures_operands.map fun found supplied plain _ => ?_
      obtain ⟨target, others, rfl, named⟩ := supplied.field
      have field := (plain target List.mem_cons_self).of_names named
      exact Comparison.isCalm_build config (by decide) field supplied.reads

/-- The query of a predicate is calm when its fields are plain and its bare texts are balanced. -/
theorem ensures_isCalm (expression : Expression) :
    Ensures (walk config expression).outcome fun query =>
      expression.IsPlain → expression.HasBalancedTexts → query.IsCalm := by
  refine ensures_walk config
    (fun expression query => expression.IsPlain → expression.HasBalancedTexts → query.IsCalm)
    ?_ ?_ ?_ expression
  · intro operator occur left right first second role firstCalm secondCalm plain balanced
    rw [Expression.HasBalancedTexts, Expression.bareTexts_combine role] at balanced
    obtain ⟨leftBalanced, rightBalanced⟩ := List.forall_mem_append.mp balanced
    obtain ⟨leftPlain, others⟩ := List.forall_mem_cons.mp (Expression.isPlain_operation.mp plain)
    have rightPlain := List.forall_mem_singleton.mp others
    refine isCalm_allWith (List.forall_mem_cons.mpr ⟨firstCalm leftPlain leftBalanced, ?_⟩)
    exact List.forall_mem_singleton.mpr (secondCalm rightPlain rightBalanced)
  · intro operator operand inner role innerCalm plain balanced
    rw [Expression.HasBalancedTexts, Expression.bareTexts_negate role] at balanced
    have innerPlain := Expression.isPlain_operation.mp plain operand List.mem_cons_self
    exact isCalm_allWith (List.forall_mem_singleton.mpr (innerCalm innerPlain balanced))
  · exact fun operator comparison arguments role => ensures_isCalm_compare config role arguments

/--
A predicate whose fields have no blank and no reserved character is compiled to a query with a
balanced text, if the texts that enter the query as they are balanced. The text for a likeness
alone is balanced exactly when the text in the predicate is.
-/
theorem isBalanced_render {config : Config} {expression : Expression} {query : Query}
    (plain : ∀ name ∈ expression.paths, IsPlain name)
    (compiled : (ofExpression config expression).outcome = .ok query) :
    ((∀ text ∈ expression.bareTexts, IsBalanced text) → IsBalanced query.render) ∧
    ∀ target value, expression = .operation .like [target, .constant value] →
      (IsBalanced query.render ↔ IsBalanced value.display) := by
  rw [outcome_ofExpression] at compiled
  refine ⟨fun balanced => ?_, ?_⟩
  · exact (ensures_isCalm config expression query compiled plain balanced).isBalanced
  rintro target value rfl
  have role : Operator.like.role = .compare .like := rfl
  rw [outcome_walk_compare config role] at compiled
  obtain ⟨target, value, field, likeness⟩ := Comparison.ensures_like config query compiled
  obtain ⟨rfl, rfl⟩ : _ ∧ _ := by simpa using likeness.shape
  have field := (Expression.isPlain_operation.mp plain _ List.mem_cons_self).of_names likeness.named
  rw [IsBalanced, IsBalanced, likeness.run_render config field, Option.map_map]
  rfl

/-- The parentheses of a likeness with two words pair up over both of its patterns. -/
theorem isBalanced_render_two :
    let like := Expression.operation .like [.path "f", .constant (.text "(a b)")]
    let equal := Expression.operation .equals
      [.operation .lower [.path "g"], .constant (.text "\"(")]
    let both := Expression.operation .and [like, .operation .not [equal]]
    let patterns := Query.allWith .must [.wildcard "f" "*(a*" .one, .wildcard "f" "*b)*" .one]
    let whole := Query.allWith .must [patterns, .allWith .mustNot [.term "g" "\"(" .one]]
    (∀ name ∈ both.paths, IsPlain name) ∧
    (ofExpression .folding both).outcome = .ok whole ∧
    (∀ text ∈ both.bareTexts, IsBalanced text) ∧
    whole.render = "+(+f:*(a* +f:*b)*) +(-g:\\\"\\()" ∧ IsBalanced whole.render ∧
    (ofExpression .folding like).outcome = .ok patterns ∧
    (IsBalanced patterns.render ↔ IsBalanced "(a b)") := by
  intro like equal both patterns whole
  have plain : ∀ name ∈ both.paths, IsPlain name := by
    intro name member
    have fields : name = "f" ∨ name = "g" := by
      simpa [both, like, equal, Expression.paths, Expression.pathsOf] using member
    intro character found
    rcases fields with rfl | rfl
    · obtain rfl := List.mem_singleton.mp found
      decide
    · obtain rfl := List.mem_singleton.mp found
      decide
  have likePlain : ∀ name ∈ like.paths, IsPlain name := fun name member =>
    plain name (List.mem_append_left _ member)
  have compiled : (ofExpression .folding both).outcome = .ok whole := rfl
  have likeCompiled : (ofExpression .folding like).outcome = .ok patterns := rfl
  have balanced : ∀ text ∈ both.bareTexts, IsBalanced text :=
    List.forall_mem_singleton.mpr (by decide)
  have text : whole.render = "+(+f:*(a* +f:*b)*) +(-g:\\\"\\()" := by decide
  refine ⟨plain, compiled, balanced, text, (isBalanced_render plain compiled).1 balanced,
    likeCompiled, ?_⟩
  exact (isBalanced_render likePlain likeCompiled).2 (.path "f") (.text "(a b)") rfl

/-- The text for a likeness of an open parenthesis is not balanced. -/
theorem not_forall_isBalanced_render :
    ¬ ∀ (config : Config) (expression : Expression) (query : Query),
      (∀ name ∈ expression.paths, IsPlain name) →
      (ofExpression config expression).outcome = .ok query → IsBalanced query.render := by
  intro always
  have plain : ∀ name ∈ (Expression.operation .like [.path "f", .constant (.text "(")]).paths,
      IsPlain name := by
    intro name member character found
    obtain rfl : name = "f" := by
      simpa [Expression.paths, Expression.pathsOf] using member
    obtain rfl := List.mem_singleton.mp found
    decide
  have unbalanced : ¬ IsBalanced (Query.wildcard "f" "*(*" .one).render := by decide
  exact unbalanced (always .exact _ _ plain rfl)

end Query

end FieldQuery
