/-
This file proves that numerals are read from their characters, with any spelling of an exponent.
-/
import FieldQuery.Json.Lexer
import Mathlib.Tactic.IntervalCases
import Mathlib.Tactic.Ring

namespace FieldQuery.Number

@[simp] theorem Digit.ofChar?_char (digit : Digit) : Digit.ofChar? digit.char = some digit := by
  decide +revert

theorem Digit.signed_char_cons (digit : Digit) (rest : List Char) :
    signed (digit.char :: rest) = (false, digit.char :: rest) := by
  obtain ⟨value, small⟩ := digit
  interval_cases value <;> rfl

/-- What has been read before digits moves one place for each of them. -/
theorem Digit.value_eq_add (before : Nat) (digits : List Digit) :
    Digit.value before digits = before * 10 ^ digits.length + Digit.value 0 digits := by
  induction digits generalizing before with
  | nil => simp [Digit.value]
  | cons digit rest inductionHypothesis =>
      change Digit.value (10 * before + digit.val) rest =
        _ + Digit.value (10 * 0 + digit.val) rest
      rw [inductionHypothesis, inductionHypothesis (10 * 0 + digit.val), List.length_cons]
      ring

/-- A character that is not a digit ends a run. -/
def EndsRun (rest : List Char) : Prop :=
  ∀ character ∈ rest.head?, Digit.ofChar? character = none

/-- A run holds the digits in front of any other character. -/
theorem digitRun_map_char_append (digits : List Digit) {rest : List Char} (ends : EndsRun rest) :
    digitRun (digits.map Digit.char ++ rest) = ⟨digits, rest⟩ := by
  induction digits with
  | nil =>
      cases rest with
      | nil => rfl
      | cons character others =>
          have other : Digit.ofChar? character = none := ends character rfl
          simp only [List.map_nil, List.nil_append, digitRun, other]
  | cons digit others inductionHypothesis =>
      simp only [List.map_cons, List.cons_append, digitRun, Digit.ofChar?_char, inductionHypothesis]

/-- These digits spell a number when they make it up and do not start with a needless zero. -/
structure Spells (first : Digit) (others : List Digit) (value : Nat) : Prop where
  chars : Nat.toDigits 10 value = (first :: others).map Digit.char
  value : Digit.value first.val others = value
  leading : others ≠ [] → first.val ≠ 0

/-- Every natural number is spelled by some digits. -/
theorem exists_spells (value : Nat) : ∃ first others, Spells first others value := by
  induction value using Nat.base_induction 10 (by decide) with
  | single digit small =>
      refine ⟨⟨digit, small⟩, [], ?_, rfl, fun several => absurd rfl several⟩
      rw [Nat.toDigits_of_lt_base small]
      rfl
  | digit larger last small positive inductionHypothesis =>
      obtain ⟨first, others, chars, value, leading⟩ := inductionHypothesis
      refine ⟨first, others ++ [⟨last, small⟩], ?_, ?_, fun _ => ?_⟩
      · rw [← Nat.toDigits_append_toDigits (by decide) positive small, chars,
          Nat.toDigits_of_lt_base small]
        simp [Digit.char]
      · rw [Digit.value] at value ⊢
        rw [List.foldl_append, value]
        rfl
      · by_cases single : others = []
        · subst single
          change first.val = larger at value
          omega
        · exact leading single

namespace Numeral

/-- A fraction is written behind a point. -/
def fractionChars : List Digit → List Char
  | [] => []
  | first :: rest => '.' :: (first :: rest).map Digit.char

/-- A missing exponent is not written. -/
def exponentPartChars : Option Int → List Char
  | none => []
  | some exponent => exponentChars exponent

/-- These characters follow the sign of a numeral. -/
def magnitudeChars (numeral : Numeral) : List Char :=
  Nat.toDigits 10 numeral.whole ++
    (fractionChars numeral.fraction ++ exponentPartChars numeral.exponent)

/-- The sign of a numeral stands in front. -/
theorem chars_eq (numeral : Numeral) :
    numeral.chars = (if numeral.negative then ['-'] else []) ++ numeral.magnitudeChars := by
  obtain ⟨negative, whole, fraction, exponent⟩ := numeral
  unfold chars magnitudeChars
  cases fraction <;> cases exponent <;>
    simp only [fractionChars, exponentPartChars, List.append_assoc]

/--
An exponent stands behind a letter, perhaps with a sign, and its digits may start with zeros. A
plus may be left out.
-/
inductive ExponentText : Option Int → List Char → Prop where
  | missing : ExponentText none []
  | plus {mark : Char} {sign : List Char} {digits : List Digit} (letter : mark ∈ ['e', 'E'])
      (signs : sign ∈ [[], ['+']]) (nonempty : digits ≠ []) :
      ExponentText (some (Digit.value 0 digits : Int)) (mark :: (sign ++ digits.map Digit.char))
  | minus {mark : Char} {digits : List Digit} (letter : mark ∈ ['e', 'E'])
      (nonempty : digits ≠ []) :
      ExponentText (some (-(Digit.value 0 digits : Int))) (mark :: '-' :: digits.map Digit.char)

/-- A numeral has one spelling but for its exponent. -/
def HasText (numeral : Numeral) (characters : List Char) : Prop :=
  ∃ exponent, ExponentText numeral.exponent exponent ∧
    characters = (if numeral.negative then ['-'] else []) ++
      (Nat.toDigits 10 numeral.whole ++ (fractionChars numeral.fraction ++ exponent))

/-- An exponent is spelled by the characters that write it. -/
theorem exponentText_chars (exponent : Option Int) :
    ExponentText exponent (exponentPartChars exponent) := by
  cases exponent with
  | none => exact .missing
  | some exponent =>
      obtain ⟨first, others, spelled⟩ := exists_spells exponent.natAbs
      have value : Digit.value 0 (first :: others) = exponent.natAbs := by
        simpa [Digit.value] using spelled.value
      have letter : 'e' ∈ ['e', 'E'] := List.mem_cons_self
      rw [exponentPartChars, exponentChars, spelled.chars]
      by_cases negative : exponent < 0
      · have same : exponent = -(Digit.value 0 (first :: others) : Int) := by omega
        rw [if_pos negative, same]
        exact .minus letter (List.cons_ne_nil _ _)
      · have same : exponent = (Digit.value 0 (first :: others) : Int) := by omega
        have sign : ['+'] ∈ [[], ['+']] := List.mem_cons_of_mem _ List.mem_cons_self
        rw [if_neg negative, same]
        exact .plus letter sign (List.cons_ne_nil _ _)

/-- A numeral is spelled by the characters that write it. -/
theorem hasText_chars (numeral : Numeral) : numeral.HasText numeral.chars :=
  ⟨_, exponentText_chars numeral.exponent, chars_eq numeral⟩

/-- No character behind a numeral may continue it. -/
def EndsNumeral (rest : List Char) : Prop :=
  ∀ character ∈ rest.head?, Digit.ofChar? character = none ∧ character ∉ ['.', 'e', 'E']

variable {rest : List Char}

theorem endsNumeral_nil : EndsNumeral [] := fun _ first => by cases first

/-- A character that cannot continue a numeral ends it. -/
theorem endsNumeral_cons {character : Char} (digitless : Digit.ofChar? character = none)
    (other : character ∉ ['.', 'e', 'E']) (later : List Char) :
    EndsNumeral (character :: later) := by
  intro first same
  obtain rfl : character = first := by simpa using same
  exact ⟨digitless, other⟩

theorem EndsNumeral.endsRun (ends : EndsNumeral rest) : EndsRun rest :=
  fun _ first => (ends _ first).1

/-- An exponent starts with a letter. -/
theorem ExponentText.head? {exponent : Option Int} {characters : List Char}
    (text : ExponentText exponent characters) {character : Char}
    (first : character ∈ (characters ++ rest).head?) :
    character ∈ ['e', 'E'] ∨ character ∈ rest.head? := by
  cases text with
  | missing => exact .inr first
  | plus letter signs nonempty =>
      obtain rfl := by simpa using first
      exact .inl letter
  | minus letter nonempty =>
      obtain rfl := by simpa using first
      exact .inl letter

/-- No digit and no point stands behind the fraction of a numeral. -/
theorem EndsNumeral.endsFraction (ends : EndsNumeral rest) {exponent : Option Int}
    {characters : List Char} (text : ExponentText exponent characters) {character : Char}
    (first : character ∈ (characters ++ rest).head?) :
    Digit.ofChar? character = none ∧ character ≠ '.' := by
  obtain letter | later := text.head? first
  · simp only [List.mem_cons, List.not_mem_nil, or_false] at letter
    obtain rfl | rfl := letter <;> decide
  · obtain ⟨digitless, other⟩ := ends _ later
    exact ⟨digitless, fun point => other (point ▸ List.mem_cons_self)⟩

end Numeral

end FieldQuery.Number

namespace FieldQuery.Json

open Number Numeral

variable {rest : List Char}

/-- The digits behind the sign of an exponent are read up to the end of the numeral. -/
theorem exponentPart?_cons {mark : Char} (letter : mark ∈ ['e', 'E']) {characters : List Char}
    {negative : Bool} {digits : List Digit} (nonempty : digits ≠ [])
    (sign : signed characters = (negative, digits.map Digit.char ++ rest))
    (ends : EndsNumeral rest) :
    exponentPart? (mark :: characters) =
      some (some (if negative then -(Digit.value 0 digits : Int)
        else (Digit.value 0 digits : Int)), rest) := by
  have run := digitRun_map_char_append digits ends.endsRun
  have marks : mark = 'e' ∨ mark = 'E' := by simpa using letter
  obtain ⟨first, others, rfl⟩ := List.exists_cons_of_ne_nil nonempty
  rw [exponentPart?, if_pos marks, sign]
  simp only [run]

/-- An exponent is read from every spelling of it. -/
theorem exponentPart?_text {exponent : Option Int} {characters : List Char}
    (text : ExponentText exponent characters) (ends : EndsNumeral rest) :
    exponentPart? (characters ++ rest) = some (exponent, rest) := by
  cases text with
  | missing =>
      cases rest with
      | nil => rfl
      | cons character others =>
          have other := (ends _ rfl).2
          exact if_neg fun letter => other (by simpa using .inr letter)
  | @minus mark digits letter nonempty =>
      have signed : signed ('-' :: (digits.map Digit.char ++ rest)) =
          (true, digits.map Digit.char ++ rest) := rfl
      exact exponentPart?_cons letter nonempty signed ends
  | @plus mark sign digits letter signs nonempty =>
      have signless : signed (sign ++ digits.map Digit.char ++ rest) =
          (false, digits.map Digit.char ++ rest) := by
        obtain ⟨first, others, rfl⟩ := List.exists_cons_of_ne_nil nonempty
        simp only [List.mem_cons, List.not_mem_nil, or_false] at signs
        obtain rfl | rfl := signs
        · exact Digit.signed_char_cons first _
        · rfl
      exact exponentPart?_cons letter nonempty signless ends

/-- A fraction is read back from its characters. -/
theorem fractionPart?_chars (fraction : List Digit)
    (ends : ∀ character ∈ rest.head?, Digit.ofChar? character = none ∧ character ≠ '.') :
    fractionPart? (fractionChars fraction ++ rest) = some ⟨fraction, rest⟩ := by
  have run := digitRun_map_char_append fraction fun character first => (ends character first).1
  cases fraction with
  | nil =>
      cases rest with
      | nil => rfl
      | cons character others =>
          rw [fractionChars, List.nil_append, fractionPart?]
          exact fun later same => (ends character rfl).2 (List.cons.inj same).1
  | cons first others =>
      rw [fractionChars, List.cons_append, fractionPart?, run]

/-- No digit stands behind the whole part of a numeral. -/
theorem endsRun_fractionChars (fraction : List Digit)
    (ends : ∀ character ∈ rest.head?, Digit.ofChar? character = none ∧ character ≠ '.') :
    EndsRun (fractionChars fraction ++ rest) := by
  intro character first
  cases fraction with
  | nil => exact (ends character first).1
  | cons digit others =>
      obtain rfl : '.' = character := by simpa [fractionChars] using first
      decide

/-- A numeral is read from every spelling behind its sign. -/
theorem numeral?_text {numeral : Numeral} {exponent : List Char}
    (text : ExponentText numeral.exponent exponent) (ends : EndsNumeral rest) :
    numeral? numeral.negative (Nat.toDigits 10 numeral.whole ++
      (fractionChars numeral.fraction ++ (exponent ++ rest))) = some (numeral, rest) := by
  obtain ⟨negative, whole, fraction, power⟩ := numeral
  obtain ⟨first, others, spelled⟩ := exists_spells whole
  have behind : ∀ character ∈ (exponent ++ rest).head?,
      Digit.ofChar? character = none ∧ character ≠ '.' :=
    fun _ found => ends.endsFraction text found
  have run := digitRun_map_char_append (first :: others) (endsRun_fractionChars fraction behind)
  simp only [spelled.chars, numeral?, run, fractionPart?_chars fraction behind]
  have exponentRead := exponentPart?_text text ends
  cases others with
  | nil =>
      have same : first.val = whole := spelled.value
      simp only [same, exponentRead]
  | cons second later =>
      have leading : first.val ≠ 0 := spelled.leading (List.cons_ne_nil _ _)
      simp only [if_neg leading, spelled.value, exponentRead]

/-- A digit starts a numeral without a sign. -/
theorem token?_digit_cons (digit : Digit) (characters : List Char) :
    token? (digit.char :: characters) =
      (numeral? false (digit.char :: characters)).map fun (value, later) =>
        (.number value, later) := by
  obtain ⟨value, small⟩ := digit
  interval_cases value <;> rfl

/-- A numeral is read from every spelling of it. -/
theorem token?_numeral {numeral : Numeral} {characters : List Char}
    (text : numeral.HasText characters) (ends : EndsNumeral rest) :
    token? (characters ++ rest) = some (.number numeral, rest) := by
  obtain ⟨exponent, written, rfl⟩ := text
  have read := numeral?_text written ends
  simp only [List.append_assoc]
  cases sign : numeral.negative with
  | true =>
      rw [sign] at read
      change token? ('-' :: (Nat.toDigits 10 numeral.whole ++ _)) = _
      rw [token?, read]
      rfl
  | false =>
      obtain ⟨first, others, spelled⟩ := exists_spells numeral.whole
      rw [sign, spelled.chars, List.map_cons, List.cons_append] at read
      change token? (Nat.toDigits 10 numeral.whole ++ _) = _
      rw [spelled.chars, List.map_cons, List.cons_append, token?_digit_cons, read]
      rfl

end FieldQuery.Json
