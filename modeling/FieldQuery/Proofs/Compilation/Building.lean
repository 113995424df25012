/-
This file says which queries a comparison builds of the words that it takes.
-/
import FieldQuery.Proofs.Compilation.Reading

namespace FieldQuery.Comparison

open Text Query

/--
A comparison builds queries of one field: terms, phrases, starts, patterns and ranges of words that
it takes, and combinations of these. Only a search has starts and patterns with one star.
-/
inductive Builds (comparison : Comparison) (field : String) : Query → Prop where
  | term {word : String} (taken : comparison.Takes word) :
      Builds comparison field (.term field word .one)
  | phrase {words : List String} (several : 2 ≤ words.length)
      (each : ∀ word ∈ words, comparison.Takes word) :
      Builds comparison field (.phrase field words .one)
  | start {word : String} (searches : comparison.isEscaped = true)
      (taken : comparison.Takes word) : Builds comparison field (.prefixed field word .one)
  | opening {word : String} (searches : comparison.isEscaped = true)
      (taken : comparison.Takes word) : Builds comparison field (pattern field (word ++ "*"))
  | inside {word : String} (taken : comparison.Takes word) :
      Builds comparison field (pattern field (inside word))
  | ending {word : String} (searches : comparison.isEscaped = true)
      (taken : comparison.Takes word) : Builds comparison field (pattern field ("*" ++ word))
  | range {lower upper : String} (low : comparison.Takes lower) (high : comparison.Takes upper) :
      Builds comparison field (.range field (.included lower) (.included upper) .one)
  | without {query : Query} (built : Builds comparison field query) :
      Builds comparison field (.allWith .mustNot [query])
  | every {queries : List Query} (several : 2 ≤ queries.length)
      (each : ∀ query ∈ queries, Builds comparison field query) :
      Builds comparison field (.allWith .must queries)
  | any {queries : List Query} (nonempty : queries ≠ [])
      (each : ∀ query ∈ queries, Builds comparison field query) :
      Builds comparison field (.allWith .should queries)

variable {comparison : Comparison} {field : String} {words : List String}

/-- Patterns that must hold together are built when each of them is. -/
theorem builds_together {patterns : List String} (nonempty : patterns ≠ [])
    (each : ∀ text ∈ patterns, comparison.Builds field (pattern field text)) :
    comparison.Builds field (together (patterns.map (pattern field))) := by
  match patterns with
  | [] => exact absurd rfl nonempty
  | [text] => exact each text List.mem_cons_self
  | first :: second :: rest => exact .every (by simp) (List.forall_mem_map.mpr each)

/-- An equality is a term or a phrase of several words. -/
theorem builds_equality (taken : comparison.TakesAll words) :
    comparison.Builds field (equality .exact field words) := by
  obtain ⟨nonempty, each⟩ := taken
  match words with
  | [] => exact absurd rfl nonempty
  | [word] => exact .term (each word List.mem_cons_self)
  | first :: second :: rest =>
      have same : (first :: second :: rest).map Config.exact.normalize =
          first :: second :: rest := List.map_id _
      rw [equality, same]
      · exact .phrase (by simp) each
      · simp

/-- A containment has a pattern for each word. -/
theorem builds_containment (taken : comparison.TakesAll words) :
    comparison.Builds field (containment .exact field words) := by
  rw [containment_eq_together]
  refine builds_together (by simpa using taken.1) (List.forall_mem_map.mpr fun word member => ?_)
  exact .inside (taken.2 word member)

/-- An opening is a start, or a pattern for it and one for each later word. -/
theorem builds_opening (searches : comparison.isEscaped = true)
    (taken : comparison.TakesAll words) :
    comparison.Builds field (opening .exact field words) := by
  obtain ⟨nonempty, each⟩ := taken
  match words with
  | [] => exact absurd rfl nonempty
  | [word] => exact .start searches (each word List.mem_cons_self)
  | first :: second :: rest =>
      refine .every (by simp) (List.forall_mem_cons.mpr ⟨?_, ?_⟩)
      · exact .opening searches (each first List.mem_cons_self)
      · refine List.forall_mem_map.mpr fun word member => ?_
        exact .inside (each word (List.mem_cons_of_mem _ member))

/-- An ending has a pattern for each word, the last one without a star behind it. -/
theorem builds_ending (searches : comparison.isEscaped = true)
    (taken : comparison.TakesAll words) : comparison.Builds field (ending .exact field words) := by
  obtain ⟨nonempty, each⟩ := taken
  rw [ending_eq_together field nonempty]
  obtain ⟨earlier, last, rfl⟩ := List.eq_nil_or_concat' words |>.resolve_left nonempty
  rw [endingPatterns_append_singleton]
  refine builds_together (by simp) (List.forall_mem_append.mpr ⟨?_, ?_⟩)
  · refine List.forall_mem_map.mpr fun word member => ?_
    exact .inside (each word (List.mem_append_left _ member))
  · exact List.forall_mem_singleton.mpr (.ending searches (each last (by simp)))

/-- A range includes the first words of two lists. -/
theorem builds_interval {lower upper : List String} (low : comparison.TakesAll lower)
    (high : comparison.TakesAll upper) :
    comparison.Builds field (interval .exact field lower upper) :=
  .range (low.2 _ (headD_mem low.1 "")) (high.2 _ (headD_mem high.1 ""))

/-- A comparison builds its query of the words that it reads, if it reads any. -/
theorem builds_build (config : Config) {lists : List (List String)}
    (reads : comparison.Reads lists) (nonempty : lists ≠ []) :
    comparison.Builds field (comparison.build config field lists) := by
  -- The words are normal from here on, so only queries without folding are left.
  rw [build_normalize]
  have normal := reads.normalize config
  have normalNonempty : lists.map (List.map config.normalize) ≠ [] := by simpa using nonempty
  generalize lists.map (List.map config.normalize) = lists at normal normalNonempty
  have first : comparison.TakesAll (lists.headD []) := normal.each _ (headD_mem normalNonempty [])
  cases comparison with
  | like => exact builds_containment first
  | equal => exact builds_equality first
  | different => exact .without (builds_equality first)
  | startsWith => exact builds_opening rfl first
  | endsWith => exact builds_ending rfl first
  | contains => exact builds_containment first
  | between =>
      have second := List.mem_of_mem_tail (headD_mem (normal.second rfl) [])
      exact builds_interval first (normal.each _ second)
  | oneOf =>
      refine .any (by simpa using normalNonempty) (List.forall_mem_map.mpr fun words member => ?_)
      exact builds_equality (normal.each words member)

/-- Only a membership reads no words, and its query has no clauses then. -/
theorem build_nil (config : Config) (reads : comparison.Reads []) :
    comparison = .oneOf ∧ comparison.build config field [] = .boolean [] .one := by
  obtain rfl : comparison = .oneOf := by
    by_contra other
    exact reads.first other rfl
  exact ⟨rfl, rfl⟩

end FieldQuery.Comparison
