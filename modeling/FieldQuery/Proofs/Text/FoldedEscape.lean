/-
This file proves how far a text can be folded before or after it is escaped.
-/
import FieldQuery.Proofs.Text.Caseless

namespace FieldQuery.Text

variable {character : Char}

theorem lowercaseIn_of_mem_reserved (found : character ∈ reserved) (before : Bool)
    (rest : List Char) : lowercaseIn before character rest = [character] :=
  isCaseless_reservedSet.lowercaseIn_eq ((contains_reservedSet_iff character).mpr found) before rest

/-- No reserved character occurs in the lowercase of another character. -/
theorem not_mem_reserved_of_mem_lowercaseIn (free : character ∉ reserved) (before : Bool)
    (rest : List Char) : ∀ lower ∈ lowercaseIn before character rest, lower ∉ reserved := by
  have outside : reservedSet.contains character = false := by
    rw [← Bool.not_eq_true, contains_reservedSet_iff]
    exact free
  intro lower member
  rw [← contains_reservedSet_iff, Bool.not_eq_true]
  exact isCaseless_reservedSet.contains_of_mem_lowercaseIn outside before rest lower member

/-- These reserved characters are ignored in the search for a cased character. -/
def joiners : List Char := [':', '^']

/-- The joiners are reserved. -/
theorem mem_reserved_of_mem_joiners (joined : character ∈ joiners) : character ∈ reserved := by
  rcases List.mem_pair.mp joined with rfl | rfl <;> decide

set_option maxRecDepth 1000 in
/-- Every other reserved character ends the search for a cased one. -/
theorem isNeutral_of_mem_reserved (found : character ∈ reserved) (other : character ∉ joiners) :
    IsNeutral character := by
  have all : reserved.all (fun character => decide (character ∈ joiners) ||
      !isCased character && !isCaseIgnorable character) = true := by decide
  have known := List.all_eq_true.mp all character found
  rw [decide_eq_false other, Bool.false_or, Bool.and_eq_true] at known
  obtain ⟨uncased, considered⟩ := known
  exact ⟨Bool.not_inj uncased, Bool.not_inj considered⟩

/-- A backslash ends the search for a cased character. -/
theorem isNeutral_backslash : IsNeutral '\\' :=
  isNeutral_of_mem_reserved (by decide) (by decide)

/-- The lowercase of a reserved character behind a backslash is both of them. -/
theorem lowercaseFrom_escapeChar_append_of_mem (found : character ∈ reserved) (before : Bool)
    (rest : List Char) :
    lowercaseFrom before (escapeChar character ++ rest) =
      escapeChar character ++ lowercaseFrom (followsCased false character) rest := by
  rw [escapeChar, if_pos found]
  change lowercaseFrom before ('\\' :: character :: rest) = _
  rw [lowercaseFrom_cons, lowercaseFrom_cons, isNeutral_backslash.followsCased,
    lowercaseIn_of_mem_reserved (by decide), lowercaseIn_of_mem_reserved found]
  rfl

/-- The lowercase of an escaped text is an escaped text. -/
theorem exists_lowercaseFrom_escapeChars (before : Bool) (characters : List Char) :
    ∃ lowered, lowercaseFrom before (escapeChars characters) = escapeChars lowered := by
  induction characters generalizing before with
  | nil => exact ⟨[], rfl⟩
  | cons character rest inductionHypothesis =>
      by_cases found : character ∈ reserved
      · obtain ⟨lowered, same⟩ := inductionHypothesis (followsCased false character)
        refine ⟨character :: lowered, ?_⟩
        rw [escapeChars_cons, lowercaseFrom_escapeChar_append_of_mem found, same, escapeChars_cons]
      · obtain ⟨lowered, same⟩ := inductionHypothesis (followsCased before character)
        refine ⟨lowercaseIn before character (escapeChars rest) ++ lowered, ?_⟩
        rw [escapeChars_cons, escapeChar, if_neg found, List.singleton_append, lowercaseFrom_cons,
          same, escapeChars_append,
          escapeChars_of_free (not_mem_reserved_of_mem_lowercaseIn found _ _)]

/-- A text is unjoined when it has no colon and no circumflex. -/
def IsUnjoined (characters : List Char) : Prop := ∀ character ∈ characters, character ∉ joiners

/-- In an unjoined text, escapes do not change what the search for a cased character finds. -/
theorem IsUnjoined.startsCased_escapeChars {characters : List Char}
    (unjoined : IsUnjoined characters) :
    startsCased (escapeChars characters) = startsCased characters := by
  induction characters with
  | nil => rfl
  | cons character rest inductionHypothesis =>
      obtain ⟨first, others⟩ := List.forall_mem_cons.mp unjoined
      rw [escapeChars_cons, escapeChar]
      by_cases found : character ∈ reserved
      · have neutral := isNeutral_of_mem_reserved found first
        rw [if_pos found, List.cons_append, startsCased, startsCased]
        simp [neutral.considered, neutral.uncased, isNeutral_backslash.considered,
          isNeutral_backslash.uncased]
      · rw [if_neg found, List.singleton_append, startsCased, startsCased,
          inductionHypothesis others]

/-- An unjoined text is folded before or after it is escaped. -/
theorem IsUnjoined.lowercaseFrom_escapeChars {characters : List Char}
    (unjoined : IsUnjoined characters) (before : Bool) :
    lowercaseFrom before (escapeChars characters) =
      escapeChars (lowercaseFrom before characters) := by
  induction characters generalizing before with
  | nil => rfl
  | cons character rest inductionHypothesis =>
      obtain ⟨first, others⟩ := List.forall_mem_cons.mp unjoined
      rw [escapeChars_cons, lowercaseFrom_cons, escapeChars_append]
      by_cases found : character ∈ reserved
      · have neutral := isNeutral_of_mem_reserved found first
        rw [lowercaseFrom_escapeChar_append_of_mem found, lowercaseIn_of_mem_reserved found,
          neutral.followsCased, neutral.followsCased, inductionHypothesis others, escapeChars_cons,
          escapeChars_nil, List.append_nil]
      · have sameContext : lowercaseIn before character (escapeChars rest) =
            lowercaseIn before character rest := by
          rw [lowercaseIn, lowercaseIn, IsUnjoined.startsCased_escapeChars others]
        rw [escapeChar, if_neg found, List.singleton_append, lowercaseFrom_cons, sameContext,
          inductionHypothesis others,
          escapeChars_of_free (not_mem_reserved_of_mem_lowercaseIn found _ _)]

/-- A text whose lowercase is unjoined is unjoined itself. -/
theorem isUnjoined_of_lowercaseFrom {characters : List Char} {before : Bool}
    (unjoined : IsUnjoined (lowercaseFrom before characters)) : IsUnjoined characters := by
  induction characters generalizing before with
  | nil => exact fun _ member => absurd member List.not_mem_nil
  | cons character rest inductionHypothesis =>
      rw [lowercaseFrom_cons] at unjoined
      obtain ⟨first, others⟩ := List.forall_mem_append.mp unjoined
      refine List.forall_mem_cons.mpr ⟨fun found => ?_, inductionHypothesis others⟩
      rw [lowercaseIn_of_mem_reserved (mem_reserved_of_mem_joiners found)] at first
      exact first character List.mem_cons_self found

/-- The lowercase of an unjoined text is unjoined. -/
theorem IsUnjoined.lowercaseFrom {characters : List Char} (unjoined : IsUnjoined characters)
    (before : Bool) : IsUnjoined (lowercaseFrom before characters) := by
  refine forall_mem_lowercaseFrom (fun character member left right lower lowered joined => ?_) before
  by_cases found : character ∈ reserved
  · rw [lowercaseIn_of_mem_reserved found] at lowered
    exact unjoined character member (List.mem_singleton.mp lowered ▸ joined)
  · exact not_mem_reserved_of_mem_lowercaseIn found _ _ lower lowered
      (mem_reserved_of_mem_joiners joined)

/-- Texts with one lowercase and no colon or circumflex have escapes with one lowercase. -/
theorem lowercase_escape_congr {left right : String} (same : lowercase left = lowercase right)
    (unjoined : IsUnjoined left.toList) : lowercase (escape left) = lowercase (escape right) := by
  have sameChars : lowercaseChars left.toList = lowercaseChars right.toList :=
    String.ofList_injective same
  have lowered : IsUnjoined (lowercaseChars right.toList) :=
    sameChars ▸ unjoined.lowercaseFrom false
  have otherUnjoined : IsUnjoined right.toList := isUnjoined_of_lowercaseFrom lowered
  simp only [lowercase, escape, String.toList_ofList, lowercaseChars] at sameChars ⊢
  rw [unjoined.lowercaseFrom_escapeChars, otherUnjoined.lowercaseFrom_escapeChars, sameChars]

end FieldQuery.Text
