/-
This file proves which terms are found by the queries for starts, ends and contents of a field.
-/
import FieldQuery.Proofs.Compilation.Operands
import FieldQuery.Proofs.Query.Verdict

namespace FieldQuery

/-- A word of a text has no line feed. -/
theorem Text.isLine_of_mem_words {text word : String} (found : word ∈ words text) :
    IsLine word := by
  obtain ⟨characters, member, rfl⟩ := List.mem_map.mp found
  intro feed
  rw [String.toList_ofList] at feed
  have visible := (visible_of_mem_splitWords member).2 '\n' feed
  have blank : isBlank '\n' = true := by decide
  rw [blank] at visible
  exact Bool.noConfusion visible

/-- A pattern in a field finds the lines that have a property. -/
def Query.Finds (query : Query) (engine : Pattern.Engine) (field : String)
    (property : String → Prop) : Prop :=
  (∃ text, query = .wildcard field text .one) ∧
    query.Decides engine (fun _ => True) (fun term => Text.IsLine term ∧ property term)

/-- Each of several patterns finds the lines that contain its word. -/
def Query.FindContents (engine : Pattern.Engine) (field : String) :
    List String → List Query → Prop :=
  List.Forall₂ fun word query =>
    query.Finds engine field (fun term => word.toList <:+: term.toList)

namespace Comparison

open Query Text

variable {engine : Pattern.Engine} (field : String)

/-- This pattern finds the lines that contain a word. -/
def contentQuery (word : String) : Query := pattern field (inside (escape word))

theorem contentQuery_finds {word : String} (line : IsLine word) :
    (contentQuery field word).Finds engine field (fun term => word.toList <:+: term.toList) :=
  ⟨⟨_, rfl⟩, decides_inside_escape field line⟩

/-- The patterns of several contents find the lines with each word in turn. -/
theorem map_contentQuery_finds {list : List String} (lines : ∀ word ∈ list, IsLine word) :
    FindContents engine field list (list.map (contentQuery field)) := by
  rw [FindContents, List.forall₂_map_right_iff, List.forall₂_same]
  intro word member
  exact contentQuery_finds field (lines word member)

/-- A containment of escaped words looks for the content of each word. -/
theorem containment_escape (list : List String) :
    containment .exact field (list.map escape) = together (list.map (contentQuery field)) := by
  rw [containment, List.map_map]
  rfl

/-- An ending of escaped words looks for the earlier contents and for the end. -/
theorem ending_escape (earlier : List String) (last : String) :
    ending .exact field ((earlier ++ [last]).map escape) =
      together (earlier.map (contentQuery field) ++ [pattern field ("*" ++ escape last)]) := by
  have patterns := endingPatterns_append_singleton (earlier.map escape) (escape last)
  cases earlier with
  | nil => rfl
  | cons first rest =>
      rw [List.map_append, ending, List.map_singleton, patterns, List.map_append, List.map_map,
        List.map_map, together_of_length]
      · rfl
      · simp
      · simp

/-- An opening of escaped words looks for the start and for the later contents. -/
theorem opening_escape (first : String) {later : List String} (several : later ≠ []) :
    opening .exact field ((first :: later).map escape) =
      together (pattern field (escape first ++ "*") :: later.map (contentQuery field)) := by
  cases later with
  | nil => exact absurd rfl several
  | cons second rest =>
      change allWith .must (_ :: ((second :: rest).map escape).map _) = allWith .must (_ :: _)
      rw [List.map_map]
      rfl

end Comparison

namespace Query

open Comparison Text

variable {target : Expression} {field : String} {value : Constant}

/-- The exact run of a comparison with escaped words builds its query of their escapes. -/
theorem outcome_ofExpression_escapedWords {operator : Operator} {comparison : Comparison}
    (role : operator.role = .compare comparison) {build : String → List String → Query}
    (built : query .exact comparison = onWords Constant.escapedWords build)
    (named : target.fieldName = .ok field) (some : words value.display ≠ []) :
    (ofExpression .exact (.operation operator [target, .constant value])).outcome =
      .ok (build field ((words value.display).map escape)) :=
  outcome_ofExpression_onWords .exact role built named (Constant.escapedWords_eq_ok some)

/--
The query of contents has a pattern for each word in turn, and each one finds the lines that contain
its word. The query of an end differs in its last pattern, which finds the lines that end with the
last word.
-/
theorem outcome_contains_endsWith (engine : Pattern.Engine)
    (named : target.fieldName = .ok field) {earlier : List String} {last : String}
    (split : words value.display = earlier ++ [last]) :
    (∀ operator ∈ [Operator.contains, .containsIgnoreCase], ∃ queries,
      (ofExpression .exact (.operation operator [target, .constant value])).outcome =
        .ok (together queries) ∧
      FindContents engine field (earlier ++ [last]) queries) ∧
    (∀ operator ∈ [Operator.endsWith, .endsWithIgnoreCase], ∃ queries final,
      (ofExpression .exact (.operation operator [target, .constant value])).outcome =
        .ok (together (queries ++ [final])) ∧
      FindContents engine field earlier queries ∧
      final.Finds engine field (fun term => last.toList <:+ term.toList)) := by
  have some : words value.display ≠ [] := by
    rw [split]
    exact List.concat_ne_nil last earlier
  have lines : ∀ word ∈ earlier ++ [last], IsLine word := by
    rw [← split]
    exact fun word member => isLine_of_mem_words member
  constructor
  · have roles : ∀ operator ∈ [Operator.contains, .containsIgnoreCase],
        operator.role = .compare .contains := by decide
    intro operator member
    have role := roles operator member
    have outcome := outcome_ofExpression_escapedWords role (query_contains .exact) named some
    rw [containment_escape, split] at outcome
    exact ⟨_, outcome, map_contentQuery_finds field lines⟩
  · have roles : ∀ operator ∈ [Operator.endsWith, .endsWithIgnoreCase],
        operator.role = .compare .endsWith := by decide
    intro operator member
    have role := roles operator member
    have outcome := outcome_ofExpression_escapedWords role (query_endsWith .exact) named some
    rw [split, ending_escape] at outcome
    refine ⟨_, _, outcome, map_contentQuery_finds field ?_, ⟨_, rfl⟩, ?_⟩
    · exact fun word found => lines word (List.mem_append_left _ found)
    · exact decides_star_escape field (lines last (List.mem_append_right _ List.mem_cons_self))

/-- A trailing backslash is found like any other character. -/
theorem outcome_contains_endsWith_backslash :
    (Expression.path "title").fieldName = .ok "title" ∧
    words (Constant.text "c++ a\\").display = ["c++"] ++ ["a\\"] ∧
    (∃ queries, (ofExpression .exact
        (.operation .contains [.path "title", .constant (.text "c++ a\\")])).outcome =
          .ok (together queries) ∧
      FindContents .unlimited "title" ["c++", "a\\"] queries) ∧
    (∃ queries final, (ofExpression .exact
        (.operation .endsWith [.path "title", .constant (.text "c++ a\\")])).outcome =
          .ok (together (queries ++ [final])) ∧
      FindContents .unlimited "title" ["c++"] queries ∧
      final.Finds .unlimited "title" (fun term => "a\\".toList <:+ term.toList)) := by
  have named : (Expression.path "title").fieldName = .ok "title" := rfl
  have split : words (Constant.text "c++ a\\").display = ["c++"] ++ ["a\\"] := by decide
  obtain ⟨contents, ends⟩ := outcome_contains_endsWith .unlimited named split
  exact ⟨named, split, contents .contains (by decide), ends .endsWith (by decide)⟩

/--
The query of a start has a pattern for each later word, which finds the lines that contain it. What
stands for the first word decides which lines begin with this word when there are later words, or
when the word needs no escape. A single word that needs one is looked for with its backslashes.
-/
theorem outcome_startsWith (engine : Pattern.Engine) (named : target.fieldName = .ok field)
    {first : String} {later : List String} (split : words value.display = first :: later) :
    ∀ operator ∈ [Operator.startsWith, .startsWithIgnoreCase], ∃ opener followers,
      (ofExpression .exact (.operation operator [target, .constant value])).outcome =
        .ok (together (opener :: followers)) ∧
      FindContents engine field later followers ∧
      (later ≠ [] → opener.Finds engine field (fun term => first.toList <+: term.toList)) ∧
      (later = [] → opener = .prefixed field (escape first) .one ∧
        opener.Decides engine (fun _ => True) (fun term => (escape first).toList <+: term.toList)) ∧
      (opener.Decides engine IsLine (fun term => first.toList <+: term.toList) ↔
        later ≠ [] ∨ ∀ character ∈ first.toList, character ∉ reserved) := by
  have roles : ∀ operator ∈ [Operator.startsWith, .startsWithIgnoreCase],
      operator.role = .compare .startsWith := by decide
  have some : words value.display ≠ [] := by
    rw [split]
    exact List.cons_ne_nil first later
  have lines : ∀ word ∈ first :: later, IsLine word := by
    rw [← split]
    exact fun word member => isLine_of_mem_words member
  obtain ⟨line, others⟩ := List.forall_mem_cons.mp lines
  intro operator member
  have outcome := outcome_ofExpression_escapedWords (roles operator member)
    (query_startsWith .exact) named some
  rw [split] at outcome
  by_cases single : later = []
  · subst single
    refine ⟨_, [], outcome, .nil, absurd rfl, fun _ => ⟨rfl, decides_prefixed _ _ _⟩, ?_⟩
    exact (decides_prefixed_escape_iff field line).trans (by simp)
  · rw [opening_escape field first single] at outcome
    have opens : (pattern field (escape first ++ "*")).Decides engine _ _ :=
      decides_escape_star field line
    refine ⟨_, _, outcome, map_contentQuery_finds field others, fun _ => ⟨⟨_, rfl⟩, opens⟩,
      fun none => absurd none single, ?_⟩
    refine ⟨fun _ => .inl single, fun _ => opens.mono (fun _ _ => trivial) fun _ term inLine => ?_⟩
    exact ⟨fun found => found.2, fun starts => ⟨inLine, starts⟩⟩

/-- A start with a plus sign is not found, but it is found when another word follows. -/
theorem outcome_startsWith_plus :
    (Expression.path "name").fieldName = .ok "name" ∧
    words (Constant.text "c++").display = ["c++"] ∧
    words (Constant.text "c++ in").display = "c++" :: ["in"] ∧
    (∃ opener followers, (ofExpression .exact
        (.operation .startsWith [.path "name", .constant (.text "c++")])).outcome =
          .ok (together (opener :: followers)) ∧
      ¬ opener.Decides .unlimited IsLine (fun term => "c++".toList <+: term.toList)) ∧
    (∃ opener followers, (ofExpression .exact
        (.operation .startsWith [.path "name", .constant (.text "c++ in")])).outcome =
          .ok (together (opener :: followers)) ∧
      opener.Decides .unlimited IsLine (fun term => "c++".toList <+: term.toList)) := by
  have named : (Expression.path "name").fieldName = .ok "name" := rfl
  have one : words (Constant.text "c++").display = ["c++"] := by decide
  have two : words (Constant.text "c++ in").display = "c++" :: ["in"] := by decide
  obtain ⟨opener, followers, outcome, _, _, _, condition⟩ :=
    outcome_startsWith .unlimited named one .startsWith (by decide)
  obtain ⟨opening, others, built, _, _, _, decided⟩ :=
    outcome_startsWith .unlimited named two .startsWith (by decide)
  refine ⟨named, one, two, ⟨opener, followers, outcome, ?_⟩, opening, others, built, ?_⟩
  · intro finds
    obtain several | free := condition.mp finds
    · exact several rfl
    · exact free '+' (by decide) (by decide)
  · exact decided.mpr (.inl (List.cons_ne_nil _ _))

end Query

end FieldQuery
