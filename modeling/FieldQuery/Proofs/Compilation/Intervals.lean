/-
This file says which words a range spans and proves which dates and which integers are searched for
by words that lie in the range between two others.
-/
import FieldQuery.Expression.Builder
import FieldQuery.Proofs.CalendarOrder
import FieldQuery.Proofs.Compilation.Outcome
import FieldQuery.Proofs.Text.Caseless

namespace FieldQuery

/-- A lower bound admits the words from its value on, in the order of their code points. -/
def Bound.AdmitsAbove : Bound → String → Prop
  | .included value, word => value ≤ word
  | .excluded value, word => value < word
  | .unbounded, _ => True

/-- An upper bound admits the words up to its value, in the order of their code points. -/
def Bound.AdmitsBelow : Bound → String → Prop
  | .included value, word => word ≤ value
  | .excluded value, word => word < value
  | .unbounded, _ => True

/-- A range spans the words that both of its bounds admit, and no other query spans words. -/
def Query.Spans : Query → String → Prop
  | .range _ lower upper _, word => lower.AdmitsAbove word ∧ upper.AdmitsBelow word
  | _, _ => False

namespace Text

/-- These ranges are the characters of the texts of integers and dates: signs and digits. -/
def numericSet : CharacterSet := [⟨0x002B, 0x002B, 1⟩, ⟨0x002D, 0x002D, 1⟩, ⟨0x0030, 0x0039, 1⟩]

set_option maxRecDepth 1000 in
theorem isCaseless_numericSet : numericSet.IsCaseless := by decide

theorem numericSet_contains_of_mem_map_char (digits : List Number.Digit) :
    ∀ character ∈ digits.map Number.Digit.char, numericSet.contains character = true := by
  have each (digit : Number.Digit) : numericSet.contains digit.char = true := by
    decide +revert
  exact List.forall_mem_map.mpr fun digit _ => each digit

/-- A numeric text has a character, and its characters are signs and digits. -/
structure IsNumeric (text : String) : Prop where
  nonempty : text.toList ≠ []
  within : ∀ character ∈ text.toList, numericSet.contains character = true

theorem IsNumeric.isWord {text : String} (numeric : IsNumeric text) : IsWord text := by
  have apart : numericSet.Apart blanks := by decide
  refine ⟨numeric.nonempty, fun character member => ?_⟩
  exact apart.contains_eq_false (numeric.within character member)

/-- A numeric text passes into a query as it is. -/
theorem IsNumeric.normalize_eq {text : String} (numeric : IsNumeric text) (config : Config) :
    config.normalize text = text := by
  unfold Config.normalize
  split
  · exact isCaseless_numericSet.lowercase_eq numeric.within
  · rfl

end Text

open Text Number

/-- The text of an integer is numeric. -/
theorem Number.Numeral.isNumeric_text_ofInt (value : Int) :
    IsNumeric (Numeral.ofInt value).text := by
  obtain ⟨first, others, spelled⟩ := exists_spells value.natAbs
  have digits : ∀ character ∈ Nat.toDigits 10 value.natAbs,
      numericSet.contains character = true := by
    rw [spelled.chars]
    exact numericSet_contains_of_mem_map_char (first :: others)
  constructor
  · rw [Numeral.toList_text_ofInt, spelled.chars]
    simp
  · rw [Numeral.toList_text_ofInt]
    refine List.forall_mem_append.mpr ⟨?_, digits⟩
    split
    · exact List.forall_mem_singleton.mpr (by decide)
    · exact List.forall_mem_nil _

theorem Constant.isNumeric_integer (value : Int64) : IsNumeric (integer value).display :=
  Numeral.isNumeric_text_ofInt value.toInt

/-- The text of a date is numeric. -/
theorem Date.isNumeric_text (date : Date) : IsNumeric date.text := by
  have digits (width value : Nat) :
      ∀ character ∈ padded width value, numericSet.contains character = true := by
    obtain ⟨first, others, written, _⟩ := exists_padded_eq width value
    rw [written]
    exact numericSet_contains_of_mem_map_char (first :: others)
  have hyphen : numericSet.contains '-' = true := by decide
  have plus : numericSet.contains '+' = true := by decide
  have year : ∀ character ∈ yearChars date.year, numericSet.contains character = true := by
    unfold yearChars
    split_ifs
    · exact digits 4 _
    · exact List.forall_mem_cons.mpr ⟨hyphen, digits 4 _⟩
    · exact List.forall_mem_cons.mpr ⟨plus, digits 4 _⟩
  constructor
  · simp [text, chars]
  · rw [text, String.toList_ofList, chars]
    refine List.forall_mem_append.mpr ⟨year, List.forall_mem_cons.mpr ⟨hyphen, ?_⟩⟩
    exact List.forall_mem_append.mpr
      ⟨digits 2 _, List.forall_mem_cons.mpr ⟨hyphen, digits 2 _⟩⟩

theorem Constant.words_of_isNumeric {value : Constant} (numeric : IsNumeric value.display) :
    value.words = .ok [value.display] := by
  have split : Text.words value.display = [value.display] := numeric.isWord.words_eq
  rw [words_eq_ok (by simp [split]), split]

namespace Query

variable {target : Expression} {field : String} (config : Config)

section

variable (named : target.fieldName = .ok field)

include named

/-- An equality with a numeric constant searches for its display. -/
theorem outcome_eq_of_isNumeric {value : Constant} (numeric : IsNumeric value.display) :
    (ofExpression config (target.eq value)).outcome = .ok (.term field value.display .one) := by
  have outcome : (ofExpression config (target.eq value)).outcome =
      .ok (Comparison.equality config field [value.display]) :=
    outcome_ofExpression_onWords config rfl (Comparison.query_equal config) named
      (Constant.words_of_isNumeric numeric)
  rw [outcome, Comparison.equality, numeric.normalize_eq config]

/-- A range between numeric constants includes their displays. -/
theorem outcome_between_of_isNumeric {lowest greatest : Constant}
    (numeric : IsNumeric lowest.display) (alsoNumeric : IsNumeric greatest.display) :
    (ofExpression config (target.between lowest greatest)).outcome =
      .ok (.range field (.included lowest.display) (.included greatest.display) .one) := by
  have query : (ofExpression config (target.between lowest greatest)).outcome = (do
      let name ← target.fieldName
      let lower ← lowest.words
      let upper ← greatest.words
      return Comparison.interval config name lower upper) := by
    rw [outcome_ofExpression, Expression.between, outcome_walk_compare config rfl]
    rfl
  rw [query, named, Constant.words_of_isNumeric numeric, Constant.words_of_isNumeric alsoNumeric]
  change Except.ok (Comparison.interval config field [lowest.display] [greatest.display]) = _
  rw [Comparison.interval, List.headD_cons, List.headD_cons, numeric.normalize_eq config,
    alsoNumeric.normalize_eq config]

end

/--
An equality with a date searches for a word that lies in the range between two dates exactly when
the date lies between them in the calendar, as long as no year needs a sign.
-/
theorem outcome_between_date (named : target.fieldName = .ok field) {earliest day latest : Date}
    (plain : ∀ date ∈ [earliest, day, latest], date.HasPlainYear) :
    let range : Query := .range field (.included earliest.text) (.included latest.text) .one
    (ofExpression config (target.between (.date earliest) (.date latest))).outcome = .ok range ∧
    (ofExpression config (target.eq (.date day))).outcome = .ok (.term field day.text .one) ∧
    (range.Spans day.text ↔ earliest ≤ day ∧ day ≤ latest) := by
  intro range
  have early : earliest.HasPlainYear := plain earliest (by simp)
  have middle : day.HasPlainYear := plain day (by simp)
  have late : latest.HasPlainYear := plain latest (by simp)
  refine ⟨outcome_between_of_isNumeric config named earliest.isNumeric_text latest.isNumeric_text,
    outcome_eq_of_isNumeric config named day.isNumeric_text, ?_⟩
  change earliest.text ≤ day.text ∧ day.text ≤ latest.text ↔ _
  rw [Date.text_le_text_iff early middle, Date.text_le_text_iff middle late]

/-- A date of the tenth century lies between the first one of the year zero and a leap day. -/
theorem outcome_between_date_leapDay :
    let earliest : Date := ⟨0, 1, 1, by decide⟩
    let day : Date := ⟨999, 12, 31, by decide⟩
    let latest : Date := ⟨2024, 2, 29, by decide⟩
    let range : Query := .range "day" (.included earliest.text) (.included latest.text) .one
    [earliest, day, latest].map Date.text = ["0000-01-01", "0999-12-31", "2024-02-29"] ∧
    (Expression.path "day").fieldName = .ok "day" ∧
    (∀ date ∈ [earliest, day, latest], date.HasPlainYear) ∧
    (ofExpression .exact
      ((Expression.path "day").between (.date earliest) (.date latest))).outcome = .ok range ∧
    (ofExpression .exact ((Expression.path "day").eq (.date day))).outcome =
      .ok (.term "day" day.text .one) ∧
    range.Spans day.text := by
  intro earliest day latest range
  have texts : [earliest, day, latest].map Date.text =
      ["0000-01-01", "0999-12-31", "2024-02-29"] := by
    decide
  have named : (Expression.path "day").fieldName = .ok "day" := rfl
  have plain : ∀ date ∈ [earliest, day, latest], date.HasPlainYear := by decide
  have before : earliest ≤ day := .inl (by decide)
  have after : day ≤ latest := .inl (by decide)
  obtain ⟨between, equality, spans⟩ := outcome_between_date .exact named plain
  exact ⟨texts, named, plain, between, equality, spans.mpr ⟨before, after⟩⟩

/--
An equality with an integer searches for its decimal text, and the range between two integers
includes their decimal texts. The word lies in the range exactly when the texts, not the numbers,
stand in their order; they do so when no number is negative and both ends have equally many digits.
-/
theorem outcome_between_integer (named : target.fieldName = .ok field)
    (lowest value greatest : Int64) :
    let text (number : Int64) : String := (Numeral.ofInt number.toInt).text
    let range : Query := .range field (.included (text lowest)) (.included (text greatest)) .one
    (ofExpression config (target.between (.integer lowest) (.integer greatest))).outcome =
      .ok range ∧
    (ofExpression config (target.eq (.integer value))).outcome =
      .ok (.term field (text value) .one) ∧
    (range.Spans (text value) ↔
      SpelledUpTo lowest.toInt value.toInt ∧ SpelledUpTo value.toInt greatest.toInt) ∧
    (0 ≤ lowest → lowest ≤ value → value ≤ greatest →
      digitCount lowest.toInt.natAbs = digitCount greatest.toInt.natAbs →
        range.Spans (text value)) := by
  intro text range
  have numeric := Constant.isNumeric_integer
  have spans : range.Spans (text value) ↔
      SpelledUpTo lowest.toInt value.toInt ∧ SpelledUpTo value.toInt greatest.toInt := by
    change text lowest ≤ text value ∧ text value ≤ text greatest ↔ _
    rw [Numeral.text_ofInt_le_iff, Numeral.text_ofInt_le_iff]
  refine ⟨outcome_between_of_isNumeric config named (numeric lowest) (numeric greatest),
    outcome_eq_of_isNumeric config named (numeric value), spans, ?_⟩
  intro positive above below same
  rw [Int64.le_iff_toInt_le] at positive above below
  change 0 ≤ lowest.toInt at positive
  -- The value between both ends has as many digits as they have.
  have more : digitCount lowest.toInt.natAbs ≤ digitCount value.toInt.natAbs :=
    digitCount_le_digitCount (by omega)
  have fewer : digitCount value.toInt.natAbs ≤ digitCount greatest.toInt.natAbs :=
    digitCount_le_digitCount (by omega)
  exact spans.mpr ⟨spelledUpTo_of_le positive above (by omega),
    spelledUpTo_of_le (by omega) below (by omega)⟩

/-- The text of a number with three digits lies between those of two others that have three. -/
theorem outcome_between_integer_hundreds :
    let text (number : Int64) : String := (Numeral.ofInt number.toInt).text
    let range : Query := .range "age" (.included (text 100)) (.included (text 345)) .one
    [text 100, text 234, text 345] = ["100", "234", "345"] ∧
    (Expression.path "age").fieldName = .ok "age" ∧
    (ofExpression .exact ((Expression.path "age").between (.integer 100) (.integer 345))).outcome =
      .ok range ∧
    (ofExpression .exact ((Expression.path "age").eq (.integer 234))).outcome =
      .ok (.term "age" (text 234) .one) ∧
    range.Spans (text 234) := by
  intro text range
  have texts : [text 100, text 234, text 345] = ["100", "234", "345"] := by decide
  have named : (Expression.path "age").fieldName = .ok "age" := rfl
  obtain ⟨between, equality, _, spans⟩ := outcome_between_integer .exact named 100 234 345
  exact ⟨texts, named, between, equality, spans (by decide) (by decide) (by decide) (by decide)⟩

/-- Three lies between two and ten, but the text of three stands behind that of ten. -/
theorem not_forall_spans_integer :
    ¬ ∀ (config : Config) (field : String) (lowest value greatest : Int64),
      lowest ≤ value → value ≤ greatest → ∃ range word,
        (ofExpression config ((Expression.path field).between
          (.integer lowest) (.integer greatest))).outcome = .ok range ∧
        (ofExpression config ((Expression.path field).eq (.integer value))).outcome =
          .ok (.term field word .one) ∧
        range.Spans word := by
  intro claimed
  obtain ⟨range, word, between, equality, spans⟩ :=
    claimed .exact "age" 2 3 10 (by decide) (by decide)
  have numeric := Constant.isNumeric_integer
  rw [outcome_between_of_isNumeric .exact rfl (numeric 2) (numeric 10)] at between
  rw [outcome_eq_of_isNumeric .exact rfl (numeric 3)] at equality
  cases between
  cases equality
  have below : SpelledUpTo 3 10 := (Numeral.text_ofInt_le_iff 3 10).mp spans.2
  exact absurd below (by decide)

end Query

end FieldQuery
