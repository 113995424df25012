/-
This file proves where words and escaped texts end inside of a longer text.
-/
import FieldQuery.Proofs.Text.Escape
import Mathlib.Data.List.Basic

namespace FieldQuery.Text

/-- Visible characters contain no blank. -/
def AllVisible (characters : List Char) : Prop :=
  ∀ character ∈ characters, isBlank character = false

/-- The escape of visible characters is visible. -/
theorem AllVisible.escapeChars {characters : List Char} (visible : AllVisible characters) :
    AllVisible (escapeChars characters) := by
  intro character member
  obtain ⟨source, found, escaped⟩ := List.mem_flatMap.mp member
  exact visible_escapeChar (visible source found) character escaped

/-- No space occurs in visible characters. -/
theorem AllVisible.space_not_mem {characters : List Char} (visible : AllVisible characters) :
    ' ' ∉ characters := by
  intro found
  have space : isBlank ' ' = true := by decide
  rw [visible ' ' found] at space
  cases space

/-- Texts in a row stand behind a space each, except for the first one. -/
theorem toList_intercalate_space (first : String) (others : List String) :
    (" ".intercalate (first :: others)).toList =
      first.toList ++ others.flatMap fun text => ' ' :: text.toList := by
  induction others generalizing first with
  | nil => simp
  | cons second later inductionHypothesis =>
      rw [String.intercalate_cons_cons, String.toList_append, inductionHypothesis]
      simp

/-- An escaped text of visible characters stops before a blank or a bare reserved character. -/
def Stops (rest : List Char) : Prop :=
  ∀ character ∈ rest.head?,
    isBlank character = true ∨ character ∈ reserved ∧ character ≠ '\\'

/-- An escape starts with a backslash, or with a character that is not reserved. -/
theorem head?_escapeChars {characters : List Char} {character : Char}
    (first : character ∈ (escapeChars characters).head?) :
    character = '\\' ∨ character ∉ reserved := by
  cases characters with
  | nil => cases first
  | cons other rest =>
      rw [escapeChars_cons, escapeChar] at first
      split at first
      · exact .inl (Option.mem_some.mp first).symm
      · rename_i free
        obtain rfl : other = character := by simpa using first
        exact .inr free

/-- No escaped text of visible characters goes on where another one stops. -/
theorem Stops.eq_nil {characters rest : List Char} (visible : AllVisible characters)
    (stops : Stops (escapeChars characters ++ rest)) : characters = [] := by
  cases characters with
  | nil => rfl
  | cons character others =>
      obtain ⟨first, later, start⟩ := List.exists_cons_of_ne_nil
        ((escapeChars_eq_nil_iff (character :: others)).not.mpr (List.cons_ne_nil _ _))
      have head : first = '\\' ∨ first ∉ reserved := head?_escapeChars (by rw [start]; rfl)
      have seen : isBlank first = false :=
        visible.escapeChars first (start ▸ List.mem_cons_self)
      rw [start] at stops
      obtain blank | ⟨found, other⟩ := stops first rfl
      · rw [seen] at blank
        cases blank
      · obtain backslash | free := head
        · exact absurd backslash other
        · exact absurd found free

/-- Escaped texts of visible characters are told from what they stop at. -/
theorem escapeChars_append_inj {left right first second : List Char}
    (visible : AllVisible left) (alsoVisible : AllVisible right) (stops : Stops first)
    (alsoStops : Stops second)
    (same : escapeChars left ++ first = escapeChars right ++ second) :
    left = right ∧ first = second := by
  induction left generalizing right with
  | nil =>
      have empty : right = [] := by
        rw [escapeChars_nil, List.nil_append] at same
        exact (same ▸ stops).eq_nil alsoVisible
      subst empty
      exact ⟨rfl, same⟩
  | cons character others inductionHypothesis =>
      cases right with
      | nil =>
          rw [escapeChars_nil, List.nil_append] at same
          cases (same ▸ alsoStops).eq_nil visible
      | cons other later =>
          have tails := (List.forall_mem_cons.mp visible).2
          have alsoTails := (List.forall_mem_cons.mp alsoVisible).2
          have backslash : '\\' ∈ reserved := by decide
          rw [escapeChars_cons, escapeChars_cons, escapeChar, escapeChar] at same
          split at same <;> split at same
          · simp only [List.cons_append, List.nil_append, List.cons.injEq, true_and] at same
            obtain ⟨rfl, rest⟩ := same
            obtain ⟨rfl, following⟩ := inductionHypothesis tails alsoTails rest
            exact ⟨rfl, following⟩
          · rename_i free
            simp only [List.cons_append, List.nil_append, List.cons.injEq] at same
            exact absurd (same.1 ▸ backslash) free
          · rename_i free _
            simp only [List.cons_append, List.nil_append, List.cons.injEq] at same
            exact absurd (same.1 ▸ backslash) free
          · simp only [List.cons_append, List.nil_append, List.cons.injEq] at same
            obtain ⟨rfl, rest⟩ := same
            obtain ⟨rfl, following⟩ := inductionHypothesis tails alsoTails rest
            exact ⟨rfl, following⟩

/-- In an escaped text every reserved character but a backslash stands behind a backslash. -/
theorem eq_backslash_of_escapeChars_eq {characters before after : List Char} {first second : Char}
    (found : second ∈ reserved) (other : second ≠ '\\')
    (same : escapeChars characters = before ++ first :: second :: after) : first = '\\' := by
  have notHead {rest later : List Char} : escapeChars rest ≠ second :: later := by
    intro starts
    have head : second = '\\' ∨ second ∉ reserved := head?_escapeChars (by rw [starts]; rfl)
    obtain backslash | free := head
    · exact other backslash
    · exact free found
  induction characters generalizing before with
  | nil => simp at same
  | cons character rest inductionHypothesis =>
      rw [escapeChars_cons, escapeChar] at same
      split at same
      · cases before with
        | nil => exact (List.cons.inj same).1.symm
        | cons mark others =>
            cases others with
            | nil => exact absurd (List.cons.inj (List.cons.inj same).2).2 notHead
            | cons _ others =>
                exact inductionHypothesis (List.cons.inj (List.cons.inj same).2).2
      · cases before with
        | nil => exact absurd (List.cons.inj same).2 notHead
        | cons _ others => exact inductionHypothesis (List.cons.inj same).2

/-- The first mark in a text is told from all later ones. -/
theorem append_cons_inj_of_not_mem {left right first second : List Char} {mark : Char}
    (absent : mark ∉ left) (alsoAbsent : mark ∉ right)
    (same : left ++ mark :: first = right ++ mark :: second) : left = right ∧ first = second := by
  induction left generalizing right with
  | nil =>
      cases right with
      | nil => exact ⟨rfl, (List.cons.inj same).2⟩
      | cons character others =>
          exact absurd ((List.cons.inj same).1 ▸ List.mem_cons_self) alsoAbsent
  | cons character others inductionHypothesis =>
      cases right with
      | nil => exact absurd ((List.cons.inj same).1 ▸ List.mem_cons_self) absent
      | cons other later =>
          obtain ⟨rfl, rest⟩ := List.cons.inj same
          obtain ⟨rfl, following⟩ := inductionHypothesis
            (fun found => absent (List.mem_cons_of_mem _ found))
            (fun found => alsoAbsent (List.mem_cons_of_mem _ found)) rest
          exact ⟨rfl, following⟩

/-- The last mark in a text is told from all earlier ones. -/
theorem append_cons_inj_of_not_mem_right {left right first second : List Char} {mark : Char}
    (absent : mark ∉ first) (alsoAbsent : mark ∉ second)
    (same : left ++ mark :: first = right ++ mark :: second) : left = right ∧ first = second := by
  have reversed : first.reverse ++ mark :: left.reverse =
      second.reverse ++ mark :: right.reverse := by
    simpa using congrArg List.reverse same
  obtain ⟨tails, heads⟩ := append_cons_inj_of_not_mem (List.mem_reverse.not.mpr absent)
    (List.mem_reverse.not.mpr alsoAbsent) reversed
  exact ⟨List.reverse_injective heads, List.reverse_injective tails⟩

/-- Text closes when only closing parentheses stand before its end or its first space. -/
inductive Closes : List Char → Prop where
  | done : Closes []
  | space (later : List Char) : Closes (' ' :: later)
  | close {rest : List Char} (closes : Closes rest) : Closes (')' :: rest)

/-- An escaped text stops where its clause closes. -/
theorem Closes.stops {rest : List Char} (closes : Closes rest) : Stops rest := by
  intro character first
  cases closes with
  | done => cases first
  | space later =>
      obtain rfl : ' ' = character := by simpa using first
      exact .inl (by decide)
  | close closes =>
      obtain rfl : ')' = character := by simpa using first
      exact .inr (by decide)

/-- No other mark than a parenthesis stands before the first space of text that closes. -/
theorem Closes.not_append_cons {before rest : List Char} {mark : Char} (oneWord : ' ' ∉ before)
    (notSpace : mark ≠ ' ') (notClose : mark ≠ ')') : ¬ Closes (before ++ mark :: rest) := by
  intro closes
  induction before with
  | nil =>
      cases closes with
      | space => exact notSpace rfl
      | close => exact notClose rfl
  | cons character others inductionHypothesis =>
      have later : ' ' ∉ others := fun found => oneWord (List.mem_cons_of_mem _ found)
      cases closes with
      | space => exact oneWord List.mem_cons_self
      | close closes => exact inductionHypothesis later closes

/-- The last mark before text that closes is told from all earlier ones. -/
theorem append_cons_inj_of_closes {left right first second : List Char} {mark : Char}
    (oneWord : ' ' ∉ left) (alsoOneWord : ' ' ∉ right) (notSpace : mark ≠ ' ')
    (notClose : mark ≠ ')') (closes : Closes first) (alsoCloses : Closes second)
    (same : left ++ mark :: first = right ++ mark :: second) : left = right ∧ first = second := by
  induction left generalizing right with
  | nil =>
      cases right with
      | nil => exact ⟨rfl, (List.cons.inj same).2⟩
      | cons character others =>
          obtain ⟨rfl, rest⟩ := List.cons.inj same
          have later : ' ' ∉ others := fun found => alsoOneWord (List.mem_cons_of_mem _ found)
          exact absurd (rest ▸ closes) (Closes.not_append_cons later notSpace notClose)
  | cons character others inductionHypothesis =>
      have tail : ' ' ∉ others := fun found => oneWord (List.mem_cons_of_mem _ found)
      cases right with
      | nil =>
          obtain ⟨rfl, rest⟩ := List.cons.inj same
          exact absurd (rest ▸ alsoCloses) (Closes.not_append_cons tail notSpace notClose)
      | cons other later =>
          obtain ⟨rfl, rest⟩ := List.cons.inj same
          have alsoTail : ' ' ∉ later := fun found => alsoOneWord (List.mem_cons_of_mem _ found)
          obtain ⟨rfl, following⟩ := inductionHypothesis tail alsoTail rest
          exact ⟨rfl, following⟩

/-- A text that ends with a star is told from an escaped text, unless both are equal. -/
theorem append_star_eq_escapeChars {text characters first second : List Char}
    (oneWord : ' ' ∉ text) (visible : AllVisible characters) (closes : Closes first)
    (alsoCloses : Closes second)
    (same : text ++ '*' :: first = escapeChars characters ++ second) :
    text ++ ['*'] = escapeChars characters ∧ first = second := by
  have split : (text ++ ['*']) ++ first = escapeChars characters ++ second := by simpa using same
  obtain ⟨more, long, rest⟩ | ⟨more, short, rest⟩ := List.append_eq_append_iff.mp split
  · -- The escaped text goes on behind the star, where only parentheses may stand.
    cases more with
    | nil => exact ⟨by simpa using long.symm, by simpa using rest⟩
    | cons character others =>
        rw [rest, List.cons_append] at closes
        have seen : isBlank character = false :=
          visible.escapeChars character (by rw [long]; simp)
        cases closes with
        | space => cases seen
        | close =>
            have bare : escapeChars characters = text ++ '*' :: ')' :: others := by simpa using long
            have impossible := eq_backslash_of_escapeChars_eq (by decide) (by decide) bare
            cases impossible
  · -- The escaped text ends before the star, which stands in the part that closes.
    obtain rfl | ⟨inner, last, rfl⟩ := List.eq_nil_or_concat' more
    · exact ⟨by simpa using short, by simpa using rest.symm⟩
    · rw [← List.append_assoc] at short
      obtain ⟨rfl, ends⟩ := List.append_inj' short rfl
      obtain rfl := List.singleton_inj.mp ends
      have inWord : ' ' ∉ inner := fun found => oneWord (List.mem_append_right _ found)
      rw [rest, List.append_assoc, List.singleton_append] at alsoCloses
      exact absurd alsoCloses (Closes.not_append_cons inWord (by decide) (by decide))

end FieldQuery.Text
