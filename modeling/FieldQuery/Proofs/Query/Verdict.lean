/-
This file says which property of terms a query decides, for patterns around escaped words.
-/
import FieldQuery.Compilation.Comparison
import FieldQuery.Proofs.Pattern.Literal
import FieldQuery.Proofs.Text.Escape
import FieldQuery.Query.Pattern

namespace FieldQuery

/-- A term of one line has no line feed. -/
def Text.IsLine (term : String) : Prop := '\n' ∉ term.toList

/-- This engine takes every pattern. -/
def Pattern.Engine.unlimited : Engine := ⟨fun _ => none⟩

namespace Query

/-- An engine may refuse a wildcard query for its pattern. -/
def refusal? (engine : Pattern.Engine) : Query → Option String
  | .wildcard _ pattern _ => engine.refusal? (Pattern.tokens pattern.toList)
  | _ => none

/-- A query runs on the engines that do not refuse it. -/
def RunsOn (query : Query) (engine : Pattern.Engine) : Prop := query.refusal? engine = none

/--
A query decides a property on some terms when it accepts exactly those of them with the property. A
query that the engine refuses decides nothing, and it gives the reason of the engine.
-/
def Decides (query : Query) (engine : Pattern.Engine) (terms property : String → Prop) : Prop :=
  ∀ term, terms term →
    (query.RunsOn engine → ∃ verdict, query.matches? engine term = some (.ok verdict) ∧
      (verdict = true ↔ property term)) ∧
    ∀ reason, query.refusal? engine = some reason →
      query.matches? engine term = some (.error (.refusedPattern reason))

variable {query : Query} {engine : Pattern.Engine}

/-- A property decided on some terms is decided on fewer terms, and in other words. -/
theorem Decides.mono {terms fewer property other : String → Prop}
    (decided : query.Decides engine terms property) (among : ∀ term, fewer term → terms term)
    (same : query.RunsOn engine → ∀ term, fewer term → (property term ↔ other term)) :
    query.Decides engine fewer other := by
  intro term member
  obtain ⟨accepted, refused⟩ := decided term (among term member)
  refine ⟨fun runs => ?_, refused⟩
  obtain ⟨verdict, found, correct⟩ := accepted runs
  exact ⟨verdict, found, correct.trans (same runs term member)⟩

/-- A query that runs decides one property of a term only. -/
theorem Decides.iff_of_runsOn {terms others property other : String → Prop}
    (decided : query.Decides engine terms property)
    (alsoDecided : query.Decides engine others other) (runs : query.RunsOn engine) {term : String}
    (member : terms term) (alsoMember : others term) : property term ↔ other term := by
  obtain ⟨verdict, found, correct⟩ := (decided term member).1 runs
  obtain ⟨second, alsoFound, alsoCorrect⟩ := (alsoDecided term alsoMember).1 runs
  have same : verdict = second := by
    have both := found.symm.trans alsoFound
    simpa using both
  rw [← correct, ← alsoCorrect, same]

/-- A query accepts a term when it runs and the term has the property that the query decides. -/
theorem Decides.accepts_iff {terms property : String → Prop}
    (decided : query.Decides engine terms property) {term : String} (member : terms term) :
    query.matches? engine term = some (.ok true) ↔ query.RunsOn engine ∧ property term := by
  obtain ⟨accepted, refused⟩ := decided term member
  cases refusal : query.refusal? engine with
  | none =>
      obtain ⟨verdict, found, correct⟩ := accepted refusal
      simp [found, RunsOn, refusal, correct]
  | some reason => simp [refused reason refusal, RunsOn, refusal]

/-- A start decides which terms begin with its characters. -/
theorem decides_prefixed (field start : String) (boost : Number.Single) :
    (Query.prefixed field start boost).Decides engine (fun _ => True)
      (fun term => start.toList <+: term.toList) := by
  intro term _
  refine ⟨fun _ => ?_, fun reason refused => nomatch refused⟩
  exact ⟨startMatches start term, rfl, List.isPrefixOf_iff_prefix⟩

/-- A wildcard query decides which terms its tokens match. -/
theorem decides_wildcard (field pattern : String) (boost : Number.Single) :
    (Query.wildcard field pattern boost).Decides engine (fun _ => True)
      (fun term => Pattern.Matches (Pattern.tokens pattern.toList) term.toList) := by
  intro term _
  constructor
  · intro runs
    have taken : engine.refusal? (Pattern.tokens pattern.toList) = none := runs
    refine ⟨Pattern.matchesTerm (Pattern.tokens pattern.toList) term.toList, ?_, ?_⟩
    · simp only [matches?, wildcardMatches, taken]
    · exact Pattern.matchesTerm_eq_true_iff _ _
  · intro reason refused
    have refused : engine.refusal? (Pattern.tokens pattern.toList) = some reason := refused
    simp only [matches?, wildcardMatches, refused]

end Query

namespace Comparison

open Query Text

variable {engine : Pattern.Engine} {word : String} (field : String)

/-- A pattern that begins with a word and ends with a star finds the lines with this start. -/
theorem decides_escape_star (line : IsLine word) :
    (pattern field (escape word ++ "*")).Decides engine (fun _ => True)
      (fun term => IsLine term ∧ word.toList <+: term.toList) := by
  refine (decides_wildcard field _ .one).mono (fun _ => id) fun _ term _ => ?_
  simp only [escape, String.toList_append, String.toList_ofList]
  exact Pattern.matches_escapeChars_star line term.toList

/-- A pattern that begins with a star and ends with a word finds the lines with this end. -/
theorem decides_star_escape (line : IsLine word) :
    (pattern field ("*" ++ escape word)).Decides engine (fun _ => True)
      (fun term => IsLine term ∧ word.toList <:+ term.toList) := by
  refine (decides_wildcard field _ .one).mono (fun _ => id) fun _ term _ => ?_
  simp only [escape, String.toList_append, String.toList_ofList]
  exact Pattern.matches_star_escapeChars line term.toList

/-- A pattern of a word between stars finds the lines that contain the word. -/
theorem decides_inside_escape (line : IsLine word) :
    (pattern field (inside (escape word))).Decides engine (fun _ => True)
      (fun term => IsLine term ∧ word.toList <:+: term.toList) := by
  refine (decides_wildcard field _ .one).mono (fun _ => id) fun _ term _ => ?_
  simp only [inside, escape, String.toList_append, String.toList_ofList]
  exact Pattern.matches_star_escapeChars_star line term.toList

/-- A bare start decides which terms begin with its word only when nothing in it is escaped. -/
theorem decides_prefixed_escape_iff (line : IsLine word) :
    (Query.prefixed field (escape word) .one).Decides engine IsLine
      (fun term => word.toList <+: term.toList) ↔
      ∀ character ∈ word.toList, character ∉ reserved := by
  constructor
  · intro decided
    have escaped : (Query.prefixed field (escape word) .one).Decides engine _ _ :=
      decides_prefixed field (escape word) .one
    have starts : escapeChars word.toList <+: word.toList := by
      have accepted := (decided.iff_of_runsOn escaped rfl line trivial).mp (List.prefix_refl _)
      simpa only [escape, String.toList_ofList] using accepted
    exact (escapeChars_prefix_self_iff _).mp starts
  · intro free
    have same : escape word = word := by
      rw [escape, escapeChars_of_free free, String.ofList_toList]
    rw [same]
    exact (decides_prefixed field word .one).mono (fun _ _ => trivial) (fun _ _ _ => Iff.rfl)

end Comparison

end FieldQuery
