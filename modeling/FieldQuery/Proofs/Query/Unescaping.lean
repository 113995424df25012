/-
This file reads escaped texts back and proves that an escaped text is a pattern for the text alone.
-/
import FieldQuery.Proofs.Pattern.Concatenation
import FieldQuery.Proofs.Query.Verdict

namespace FieldQuery

namespace Text

/-- A reader meets a character alone or behind a backslash, or a backslash at the end. -/
inductive Sign where
  | bare (character : Char)
  | escaped (character : Char)
  | loneBackslash
deriving DecidableEq

namespace Sign

/-- Every sign stands for one character. -/
def character : Sign → Char
  | .bare character => character
  | .escaped character => character
  | .loneBackslash => '\\'

/-- A sign is safe when no reserved character stands alone, nor a backslash at the end. -/
def IsSafe : Sign → Prop
  | .bare character => character ∉ reserved
  | .escaped _ => True
  | .loneBackslash => False

/-- A character is escaped exactly when it is reserved. -/
def ofChar (character : Char) : Sign :=
  if character ∈ reserved then .escaped character else .bare character

theorem character_ofChar (character : Char) : (ofChar character).character = character := by
  unfold ofChar
  split <;> rfl

theorem isSafe_ofChar (character : Char) : (ofChar character).IsSafe := by
  unfold ofChar
  split
  · trivial
  · assumption

end Sign

/-- A text is read from left to right, and a backslash makes the next character literal. -/
def signs : List Char → List Sign
  | [] => []
  | character :: rest =>
    if character = '\\' then
      match rest with
      | [] => [.loneBackslash]
      | next :: later => .escaped next :: signs later
    else .bare character :: signs rest

def unescape (text : String) : String :=
  String.ofList ((signs text.toList).map Sign.character)

theorem signs_backslash_cons (next : Char) (later : List Char) :
    signs ('\\' :: next :: later) = .escaped next :: signs later := by
  rw [signs, if_pos rfl]

theorem signs_cons {character : Char} (other : character ≠ '\\') (rest : List Char) :
    signs (character :: rest) = .bare character :: signs rest := by
  rw [signs.eq_def]
  exact if_neg other

/-- The escape of a character is one sign, whatever follows it. -/
theorem signs_escapeChar_append (character : Char) (rest : List Char) :
    signs (escapeChar character ++ rest) = Sign.ofChar character :: signs rest := by
  unfold escapeChar Sign.ofChar
  by_cases found : character ∈ reserved
  · rw [if_pos found, if_pos found]
    exact signs_backslash_cons character rest
  · have other : character ≠ '\\' := fun same => found (same ▸ by decide)
    rw [if_neg found, if_neg found]
    exact signs_cons other rest

/-- The escape of a text has the sign of each character. -/
theorem signs_escapeChars (characters : List Char) :
    signs (escapeChars characters) = characters.map Sign.ofChar := by
  induction characters with
  | nil => rfl
  | cons character rest inductionHypothesis =>
      rw [escapeChars_cons, signs_escapeChar_append, inductionHypothesis, List.map_cons]

/-- The escape of a text is read as the text. -/
theorem unescape_escape (text : String) : unescape (escape text) = text := by
  rw [unescape, escape, String.toList_ofList, signs_escapeChars, List.map_map]
  have same : text.toList.map (Sign.character ∘ Sign.ofChar) = text.toList.map id :=
    List.map_congr_left fun character _ => Sign.character_ofChar character
  rw [same, List.map_id, String.ofList_toList]

/-- The escape of a text has safe signs only. -/
theorem isSafe_of_mem_signs_escape (text : String) :
    ∀ sign ∈ signs (escape text).toList, sign.IsSafe := by
  rw [escape, String.toList_ofList, signs_escapeChars]
  exact List.forall_mem_map.mpr fun character _ => Sign.isSafe_ofChar character

end Text

namespace Pattern

open Text

/-- A pattern of safe signs has one literal token for each of them. -/
theorem tokens_of_isSafe {pattern : List Char} (safe : ∀ sign ∈ signs pattern, sign.IsSafe) :
    tokens pattern = ((signs pattern).map Sign.character).map .literal := by
  fun_induction signs pattern with
  | case1 => rfl
  | case2 => exact absurd (safe .loneBackslash List.mem_cons_self) id
  | case3 next later inductionHypothesis =>
      obtain ⟨_, others⟩ := List.forall_mem_cons.mp safe
      rw [tokens_backslash_cons, inductionHypothesis others]
      rfl
  | case4 character rest other inductionHypothesis =>
      obtain ⟨free, others⟩ := List.forall_mem_cons.mp safe
      rw [tokens_cons_of_not_mem_reserved free, inductionHypothesis others]
      rfl

/-- A pattern of safe signs matches the characters that they stand for, and nothing else. -/
theorem matches_of_isSafe {pattern : List Char} (safe : ∀ sign ∈ signs pattern, sign.IsSafe)
    (term : List Char) : Matches (tokens pattern) term ↔ term = (signs pattern).map Sign.character := by
  rw [tokens_of_isSafe safe, matches_map_literal]

end Pattern

namespace Query

open Text

variable {engine : Pattern.Engine} {pattern : String}

/-- A pattern of safe signs decides which term is the text that the pattern stands for. -/
theorem decides_wildcard_of_isSafe (field : String) (boost : Number.Single)
    (safe : ∀ sign ∈ signs pattern.toList, sign.IsSafe) :
    (Query.wildcard field pattern boost).Decides engine (fun _ => True)
      (fun term => term = unescape pattern) := by
  refine (decides_wildcard field pattern boost).mono (fun _ => id) fun _ term _ => ?_
  rw [Pattern.matches_of_isSafe safe, unescape, ← String.toList_inj, String.toList_ofList]

/--
The words of an escaped text are the escapes of its words. The escape of a text is read back as the
text, without a reserved character that stands alone or a backslash at the end. So as a pattern it
matches the text and no other term, and its query decides so on every engine that takes it.
-/
theorem decides_wildcard_escape (text : String) :
    words (escape text) = (words text).map escape ∧
    unescape (escape text) = text ∧
    (∀ sign ∈ signs (escape text).toList, sign.IsSafe) ∧
    (∀ term : String,
      Pattern.matchesTerm (Pattern.tokens (escape text).toList) term.toList = true ↔ term = text) ∧
    ∀ engine field boost, (Query.wildcard field (escape text) boost).Decides engine
      (fun _ => True) (fun term => term = text) := by
  have safe := isSafe_of_mem_signs_escape text
  have back := unescape_escape text
  refine ⟨words_escape text, back, safe, fun term => ?_, fun engine field boost => ?_⟩
  · have characters : (signs (escape text).toList).map Sign.character = text.toList :=
      String.ofList_injective (back.trans String.ofList_toList.symm)
    rw [Pattern.matchesTerm_eq_true_iff, Pattern.matches_of_isSafe safe, characters,
      String.toList_inj]
  · have decided : (Query.wildcard field (escape text) boost).Decides engine _ _ :=
      decides_wildcard_of_isSafe field boost safe
    rwa [back] at decided

/-- A star and a backslash in a text are found as they are, next to blanks, too. -/
theorem decides_wildcard_escape_star :
    escape "*a \\" = "\\*a \\\\" ∧
    words (escape "*a \\") = ["\\*a", "\\\\"] ∧
    (Query.wildcard "f" (escape "*a \\") .one).matches? .unlimited "*a \\" = some (.ok true) ∧
    (Query.wildcard "f" (escape "*a \\") .one).matches? .unlimited "ba \\" ≠ some (.ok true) := by
  have split : words "*a \\" = ["*a", "\\"] := by decide
  obtain ⟨escaped, _, _, _, search⟩ := decides_wildcard_escape "*a \\"
  have decided := search .unlimited "f" .one
  rw [split] at escaped
  refine ⟨by decide, escaped, ?_, ?_⟩
  · exact (decided.accepts_iff trivial).mpr ⟨rfl, rfl⟩
  · rw [ne_eq, decided.accepts_iff trivial]
    exact fun accepted => absurd accepted.2 (by decide)

end Query

end FieldQuery
