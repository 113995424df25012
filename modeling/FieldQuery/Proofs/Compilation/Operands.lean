/-
This file separates what a comparison reads from its arguments from the query it makes of them.
-/
import FieldQuery.Proofs.Compilation.Outcome
import FieldQuery.Proofs.Text.Lowercase

namespace FieldQuery

namespace Config

variable (config : Config) (text : String)

theorem normalize_append_star : config.normalize (text ++ "*") = config.normalize text ++ "*" := by
  unfold normalize
  split
  · exact Text.lowercase_append_star text
  · rfl

theorem normalize_star_append : config.normalize ("*" ++ text) = "*" ++ config.normalize text := by
  unfold normalize
  split
  · exact Text.lowercase_star_append text
  · rfl

theorem normalize_inside :
    config.normalize (Comparison.inside text) = Comparison.inside (config.normalize text) := by
  rw [Comparison.inside, normalize_append_star, normalize_star_append]
  rfl

theorem normalize_empty : config.normalize "" = "" := by
  unfold normalize
  split <;> rfl

end Config

namespace Comparison

open Query

variable (config : Config) (field : String)

/-- An equality is made of normal words. -/
theorem equality_normalize (words : List String) :
    equality config field words = equality .exact field (words.map config.normalize) := by
  match words with
  | [] => rfl
  | [word] => rfl
  | first :: second :: rest =>
      have same (list : List String) : list.map Config.exact.normalize = list := List.map_id list
      change Query.phrase field ((first :: second :: rest).map config.normalize) .one =
        Query.phrase field (((first :: second :: rest).map config.normalize).map
          Config.exact.normalize) .one
      rw [same]

theorem containment_normalize (words : List String) :
    containment config field words = containment .exact field (words.map config.normalize) := by
  rw [containment, containment, List.map_map]
  rfl

/-- An opening is made of normal words. -/
theorem opening_normalize (words : List String) :
    opening config field words = opening .exact field (words.map config.normalize) := by
  match words with
  | [] => rfl
  | [word] => rfl
  | first :: second :: rest =>
      simp only [opening, List.map_cons, List.map_map, Function.comp_def,
        config.normalize_append_star, config.normalize_inside, Config.normalize_exact]

/-- Several queries must all hold. -/
theorem together_of_length {queries : List Query} (several : queries.length ≠ 1) :
    together queries = .allWith .must queries := by
  unfold together
  split
  · exact absurd rfl several
  · rfl

/-- Only the last of several words ends its pattern. -/
theorem endingPatterns_append_singleton (earlier : List String) (last : String) :
    endingPatterns (earlier ++ [last]) = earlier.map inside ++ ["*" ++ last] := by
  induction earlier with
  | nil => rfl
  | cons first rest inductionHypothesis =>
      rw [List.cons_append, endingPatterns, inductionHypothesis]
      · rfl
      · simp

/-- An ending has a pattern for each word. -/
theorem length_endingPatterns (words : List String) :
    (endingPatterns words).length = words.length := by
  obtain rfl | ⟨earlier, last, rfl⟩ := List.eq_nil_or_concat' words
  · rfl
  · simp [endingPatterns_append_singleton]

/-- An ending finds its patterns together. -/
theorem ending_eq_together {words : List String} (some : words ≠ []) :
    ending .exact field words = together ((endingPatterns words).map (pattern field)) := by
  match words with
  | [] => exact absurd rfl some
  | [word] => rfl
  | first :: second :: rest =>
      rw [together_of_length (by simp [length_endingPatterns])]
      rfl

theorem containment_eq_together (words : List String) :
    containment .exact field words = together ((words.map inside).map (pattern field)) := by
  rw [containment, List.map_map]
  rfl

/-- The last patterns of normal words are the normal forms of the last patterns. -/
theorem map_normalize_endingPatterns (words : List String) :
    (endingPatterns words).map config.normalize = endingPatterns (words.map config.normalize) := by
  induction words with
  | nil => rfl
  | cons first rest inductionHypothesis =>
      cases rest with
      | nil => simp [endingPatterns, config.normalize_star_append]
      | cons second others =>
          change config.normalize (inside first) ::
              (endingPatterns (second :: others)).map config.normalize = _
          rw [inductionHypothesis, config.normalize_inside]
          rfl

/-- An ending is made of normal words. -/
theorem ending_normalize (words : List String) :
    ending config field words = ending .exact field (words.map config.normalize) := by
  have patterns := map_normalize_endingPatterns config words
  match words with
  | [] => rfl
  | [word] => rfl
  | first :: second :: rest =>
      change allWith .must ((endingPatterns (first :: second :: rest)).map
          (pattern field ∘ config.normalize)) =
        allWith .must ((endingPatterns ((first :: second :: rest).map config.normalize)).map _)
      rw [← patterns, List.map_map]
      rfl

/-- A range is made of normal words. -/
theorem interval_normalize (lower upper : List String) :
    interval config field lower upper =
      interval .exact field (lower.map config.normalize) (upper.map config.normalize) := by
  have first (words : List String) :
      (words.map config.normalize).headD "" = config.normalize (words.headD "") := by
    cases words with
    | nil => exact config.normalize_empty.symm
    | cons word rest => rfl
  rw [interval, interval, first, first]
  rfl

/-- The constants of a collection are read one by one. -/
theorem equalities_eq_map (values : List Constant) :
    equalities config field values =
      (values.mapM Constant.words).map (List.map (equality config field)) := by
  induction values with
  | nil => rfl
  | cons value rest inductionHypothesis =>
      rw [equalities, inductionHypothesis, List.mapM_cons]
      cases value.words with
      | error fault => rfl
      | ok words => cases rest.mapM Constant.words <;> rfl

/-- A comparison searches escaped words, or takes words as they are. -/
def isEscaped : Comparison → Bool
  | .startsWith | .endsWith | .contains => true
  | _ => false

/-- The one constant of a comparison is read as its words, escaped if the comparison searches. -/
def wordsOf (comparison : Comparison) : Constant → Except Fault (List String) :=
  match comparison.isEscaped with
  | true => Constant.escapedWords
  | false => Constant.words

/-- A field and one list of words are read from two arguments. -/
def operand (take : Constant → Except Fault (List String)) (operator : Operator)
    (arguments : List Expression) : Except Fault (String × List (List String)) := do
  let (target, value) ← pair operator arguments
  let field ← target.fieldName
  let words ← take value
  return (field, [words])

/-- A comparison reads a field from its first argument and the words of each constant. -/
def operands (comparison : Comparison) (operator : Operator) (arguments : List Expression) :
    Except Fault (String × List (List String)) :=
  match comparison with
  | .between => do
    let (target, lower, upper) ← triple operator arguments
    let field ← target.fieldName
    let lowerWords ← lower.words
    let upperWords ← upper.words
    return (field, [lowerWords, upperWords])
  | .oneOf =>
    match arguments with
    | [target, argument] => do
      let field ← target.fieldName
      match argument with
      | .constant (.collection values) =>
        let lists ← values.mapM Constant.words
        return (field, lists)
      | other => throw (.notACollection other)
    | _ => .error (.argumentCount operator arguments.length)
  | comparison => operand comparison.wordsOf operator arguments

/-- The argument of a membership must be a collection. -/
theorem operands_oneOf_of_ne_collection (operator : Operator) (target : Expression)
    {argument : Expression} (other : ∀ values, argument ≠ .constant (.collection values)) :
    operands .oneOf operator [target, argument] = (do
      let _ ← target.fieldName
      .error (.notACollection argument)) := by
  cases argument with
  | path name => rfl
  | operation inner arguments => rfl
  | constant value =>
      cases value with
      | collection values => exact absurd rfl (other values)
      | _ => rfl

/-- A membership has two arguments. -/
theorem operands_oneOf_of_length_ne {operator : Operator} {arguments : List Expression}
    (wrong : arguments.length ≠ 2) :
    operands .oneOf operator arguments = .error (.argumentCount operator arguments.length) := by
  match arguments, wrong with
  | [], _ => rfl
  | [_], _ => rfl
  | [_, _], wrong => exact absurd rfl wrong
  | _ :: _ :: _ :: _, _ => rfl

/-- A comparison builds its query of a field and lists of words. -/
def build (comparison : Comparison) (config : Config) (field : String)
    (lists : List (List String)) : Query :=
  match comparison with
  | .like | .contains => containment config field (lists.headD [])
  | .equal => equality config field (lists.headD [])
  | .different => .allWith .mustNot [equality config field (lists.headD [])]
  | .startsWith => opening config field (lists.headD [])
  | .endsWith => ending config field (lists.headD [])
  | .between => interval config field (lists.headD []) (lists.tail.headD [])
  | .oneOf => .allWith .should (lists.map (equality config field))

/-- A comparison of one constant reads its words and builds a query of them. -/
theorem onWords_eq_map (take : Constant → Except Fault (List String))
    (build : String → List (List String) → Query) (operator : Operator)
    (arguments : List Expression) :
    onWords take (fun field words => build field [words]) operator arguments =
      (operand take operator arguments).map fun found => build found.1 found.2 := by
  unfold onWords operand
  cases pair operator arguments with
  | error fault => rfl
  | ok found =>
      obtain ⟨target, value⟩ := found
      change (target.fieldName >>= fun field => take value >>= fun words => _) =
        (target.fieldName >>= fun field => take value >>= fun words => _).map _
      cases target.fieldName with
      | error fault => rfl
      | ok field => cases take value <;> rfl

/-- Every comparison but two takes the words of one constant and builds its query of them. -/
theorem query_eq_onWords_build {comparison : Comparison}
    (one : comparison ≠ .between ∧ comparison ≠ .oneOf) :
    query config comparison =
      onWords comparison.wordsOf (fun field words => comparison.build config field [words]) := by
  cases comparison with
  | between => exact absurd rfl one.1
  | oneOf => exact absurd rfl one.2
  | _ => rfl

/-- Every comparison but two reads a field and one list of words. -/
theorem operands_eq_operand {comparison : Comparison}
    (one : comparison ≠ .between ∧ comparison ≠ .oneOf) :
    operands comparison = operand comparison.wordsOf := by
  cases comparison with
  | between => exact absurd rfl one.1
  | oneOf => exact absurd rfl one.2
  | _ => rfl

/-- A range reads a field and two lists of words. -/
theorem query_between_eq_map (operator : Operator) (arguments : List Expression) :
    query config .between operator arguments =
      (operands .between operator arguments).map fun found =>
        build .between config found.1 found.2 := by
  unfold query operands
  cases triple operator arguments with
  | error fault => rfl
  | ok found =>
      obtain ⟨target, lower, upper⟩ := found
      change (target.fieldName >>= fun field => lower.words >>= fun _ => upper.words >>= _) =
        (target.fieldName >>= fun field => lower.words >>= fun _ => upper.words >>= _).map _
      cases target.fieldName with
      | error fault => rfl
      | ok field =>
          cases lower.words with
          | error fault => rfl
          | ok first => cases upper.words <;> rfl

/-- A membership reads a field and a list of words for each constant. -/
theorem query_oneOf_eq_map (operator : Operator) (arguments : List Expression) :
    query config .oneOf operator arguments =
      (operands .oneOf operator arguments).map fun found =>
        build .oneOf config found.1 found.2 := by
  obtain ⟨target, values, rfl⟩ | ⟨target, argument, rfl, other⟩ | wrong :=
    membership_cases arguments
  · change (target.fieldName >>= fun field => equalities config field values >>= _) =
      (target.fieldName >>= fun field => values.mapM Constant.words >>= _).map _
    cases target.fieldName with
    | error fault => rfl
    | ok field =>
        change (equalities config field values >>= _) = (values.mapM Constant.words >>= _).map _
        rw [equalities_eq_map]
        cases values.mapM Constant.words <;> rfl
  · rw [query_oneOf_of_ne_collection config operator target other, operands_oneOf_of_ne_collection
      operator target other]
    cases target.fieldName <;> rfl
  · rw [query_oneOf_of_length_ne config wrong, operands_oneOf_of_length_ne wrong]
    rfl

/-- A comparison is compiled in two steps: its arguments are read, and its query is built. -/
theorem query_eq_build (comparison : Comparison) (operator : Operator)
    (arguments : List Expression) :
    query config comparison operator arguments =
      (operands comparison operator arguments).map fun found =>
        comparison.build config found.1 found.2 := by
  by_cases one : comparison ≠ .between ∧ comparison ≠ .oneOf
  · rw [query_eq_onWords_build config one, operands_eq_operand one]
    exact onWords_eq_map comparison.wordsOf (comparison.build config) operator arguments
  · have two : comparison = .between ∨ comparison = .oneOf := by tauto
    rcases two with rfl | rfl
    · exact query_between_eq_map config operator arguments
    · exact query_oneOf_eq_map config operator arguments

/-- The query of a comparison is built of normal words. -/
theorem build_normalize (comparison : Comparison) (lists : List (List String)) :
    comparison.build config field lists =
      comparison.build .exact field (lists.map (List.map config.normalize)) := by
  have first (some : List (List String)) : (some.map (List.map config.normalize)).headD [] =
      (some.headD []).map config.normalize := by
    cases some <;> rfl
  cases comparison with
  | like => rw [build, build, first, containment_normalize]
  | equal => rw [build, build, first, equality_normalize]
  | different => rw [build, build, first, equality_normalize]
  | startsWith => rw [build, build, first, opening_normalize]
  | endsWith => rw [build, build, first, ending_normalize]
  | contains => rw [build, build, first, containment_normalize]
  | between => rw [build, build, ← List.map_tail, first, first, interval_normalize]
  | oneOf =>
      rw [build, build, List.map_map]
      apply congrArg (allWith .should)
      apply List.map_congr_left
      intro words _
      exact equality_normalize config field words

end Comparison

end FieldQuery
