/-
This file proves which different queries on one field are written in the same way.
-/
import FieldQuery.Proofs.Number.Text
import FieldQuery.Proofs.Query.Legibility

namespace FieldQuery

open Number Text

namespace Bound

variable {bound other lower upper otherLower otherUpper : Bound}

/-- An excluded star is written like a missing bound. -/
def shown : Bound → Bound
  | .excluded value => if value = "*" then .unbounded else .excluded value
  | bound => bound

theorem shown_eq (bound : Bound) : bound.shown =
    if bound.isInclusive then included (Query.boundText bound)
    else if Query.boundText bound = "*" then unbounded
    else excluded (Query.boundText bound) := by
  cases bound <;> rfl

/-- A bound keeps its bracket when it is shown. -/
theorem isInclusive_shown (bound : Bound) : bound.shown.isInclusive = bound.isInclusive := by
  rw [shown_eq]
  split
  · rename_i inclusive
    rw [inclusive]
    rfl
  · rename_i exclusive
    rw [Bool.not_eq_true] at exclusive
    split <;> rw [exclusive] <;> rfl

/-- A bound keeps its text when it is shown. -/
theorem boundText_shown (bound : Bound) :
    Query.boundText bound.shown = Query.boundText bound := by
  rw [shown_eq]
  split
  · rfl
  · split
    · rename_i star
      rw [star]
      rfl
    · rfl

/-- Bounds are shown alike when they have one bracket and one text. -/
theorem shown_eq_iff : bound.shown = other.shown ↔
    bound.isInclusive = other.isInclusive ∧ Query.boundText bound = Query.boundText other := by
  constructor
  · intro same
    rw [← isInclusive_shown, ← boundText_shown, same, isInclusive_shown, boundText_shown]
    exact ⟨rfl, rfl⟩
  · rintro ⟨inclusive, text⟩
    rw [shown_eq, shown_eq, inclusive, text]

/-- A bound is worded when its value is a word. -/
def IsWorded (bound : Bound) : Prop :=
  ∀ value ∈ bound.value?, IsWord value

/-- No space occurs in the text of a worded bound. -/
theorem IsWorded.space_not_mem (worded : bound.IsWorded) :
    ' ' ∉ (Query.boundText bound).toList := by
  rw [Query.boundText]
  cases present : bound.value? with
  | none => decide
  | some value => exact AllVisible.space_not_mem (worded value present).visible

/-- A square bracket opens a range that includes its lower bound, and a brace any other one. -/
def opening (lower : Bound) : Char :=
  if lower.isInclusive then '[' else '\x7b'

/-- A square bracket closes a range that includes its upper bound, and a brace any other one. -/
def closing (upper : Bound) : Char :=
  if upper.isInclusive then ']' else '\x7d'

theorem opening_eq_iff : lower.opening = otherLower.opening ↔
    lower.isInclusive = otherLower.isInclusive := by
  rw [opening, opening]
  cases lower.isInclusive <;> cases otherLower.isInclusive <;> decide

theorem closing_eq_iff : upper.closing = otherUpper.closing ↔
    upper.isInclusive = otherUpper.isInclusive := by
  rw [closing, closing]
  cases upper.isInclusive <;> cases otherUpper.isInclusive <;> decide

/-- These characters stand for a range. -/
theorem toList_rangeText (lower upper : Bound) : (Query.rangeText lower upper).toList =
    lower.opening :: ((Query.boundText lower).toList ++ ' ' :: 'T' :: 'O' :: ' ' ::
      ((Query.boundText upper).toList ++ [upper.closing])) := by
  have separator : " TO ".toList = [' ', 'T', 'O', ' '] := rfl
  have left : (if lower.isInclusive then "[" else "\x7b").toList = [lower.opening] := by
    rw [opening]
    cases lower.isInclusive <;> rfl
  have right : (if upper.isInclusive then "]" else "\x7d").toList = [upper.closing] := by
    rw [closing]
    cases upper.isInclusive <;> rfl
  simp only [Query.rangeText, String.toList_append, separator, left, right]
  simp

/-- Worded ranges have one text when both of their bounds are shown alike. -/
theorem rangeText_eq_iff (worded : lower.IsWorded) (alsoWorded : otherLower.IsWorded) :
    Query.rangeText lower upper = Query.rangeText otherLower otherUpper ↔
      lower.shown = otherLower.shown ∧ upper.shown = otherUpper.shown := by
  constructor
  · intro same
    have characters := congrArg String.toList same
    rw [toList_rangeText, toList_rangeText] at characters
    obtain ⟨openings, behind⟩ := List.cons.inj characters
    obtain ⟨lowers, rest⟩ := append_cons_inj_of_not_mem worded.space_not_mem
      alsoWorded.space_not_mem behind
    simp only [List.cons.injEq, true_and] at rest
    obtain ⟨uppers, closings⟩ := List.append_inj' rest rfl
    exact ⟨shown_eq_iff.mpr ⟨opening_eq_iff.mp openings, String.toList_inj.mp lowers⟩,
      shown_eq_iff.mpr ⟨closing_eq_iff.mp (List.singleton_inj.mp closings),
        String.toList_inj.mp uppers⟩⟩
  · rintro ⟨lowers, uppers⟩
    obtain ⟨openings, lowerTexts⟩ := shown_eq_iff.mp lowers
    obtain ⟨closings, upperTexts⟩ := shown_eq_iff.mp uppers
    simp only [Query.rangeText, openings, lowerTexts, closings, upperTexts]

end Bound

namespace Query

/-- These characters show a boost behind a text. -/
def boostChars (boost : Single) : List Char :=
  if boost = .one then [] else '^' :: boost.text.toList

/-- Only the number one equals one. -/
theorem equals_one_iff (boost : Single) : boost.equals .one = true ↔ boost = .one := by
  have positive : (Binary.one : Single).isZero = false := by decide
  have number : (Binary.one : Single).isNotANumber = false := by decide
  simp only [Binary.equals, positive, Bool.and_false, Bool.or_false, Bool.and_eq_true,
    Bool.not_eq_true', decide_eq_true_eq]
  constructor
  · exact And.right
  · rintro rfl
    exact ⟨number, rfl⟩

/-- These characters are the suffix of a boost. -/
theorem toList_boostSuffix (boost : Single) :
    (boostSuffix boost).toList = boostChars boost := by
  rw [boostSuffix, boostChars]
  simp only [equals_one_iff]
  split
  · rfl
  · rw [String.toList_append]
    rfl

/-- An escaped text stops where a boost is shown. -/
theorem stops_boostChars (boost : Single) : Stops (boostChars boost) := by
  intro character first
  rw [boostChars] at first
  split at first
  · cases first
  · obtain rfl : '^' = character := by simpa using first
    exact .inr (by decide)

section Boosted

variable {boost other : Single} {left right : List Char}

theorem circumflex_not_mem_text (finite : boost.isFinite = true) : '^' ∉ boost.text.toList := by
  intro found
  have impossible := Binary.isPart_of_mem_text finite '^' found
  cases impossible

/-- One text spells another one together with its boost. -/
def Spells (left right : List Char) (boost : Single) : Prop :=
  boost ≠ .one ∧ left = right ++ '^' :: boost.text.toList

/-- Boosted texts are written alike when they are equal, or when one spells the boost of the other. -/
theorem append_boostChars_eq_iff (finite : boost.isFinite = true)
    (alsoFinite : other.isFinite = true) :
    left ++ boostChars boost = right ++ boostChars other ↔
      left = right ∧ boost = other ∨ boost = .one ∧ Spells left right other ∨
        other = .one ∧ Spells right left boost := by
  rw [boostChars, boostChars]
  split <;> split
  · rename_i one alsoOne
    simp [Spells, one, alsoOne]
  · rename_i one different
    simp [Spells, one, different, Ne.symm different]
  · rename_i different one
    simp [Spells, one, different, eq_comm]
  · rename_i different alsoDifferent
    simp only [different, alsoDifferent, false_and, or_false]
    constructor
    · intro same
      obtain ⟨texts, boosts⟩ := append_cons_inj_of_not_mem_right (circumflex_not_mem_text finite)
        (circumflex_not_mem_text alsoFinite) same
      exact ⟨texts, Binary.text_inj finite alsoFinite (String.toList_inj.mp boosts)⟩
    · rintro ⟨rfl, rfl⟩
      rfl

/-- A text is closed when its last character occurs in no boost. -/
def IsClosed (text : List Char) : Prop :=
  ∃ mark ∈ text.getLast?, mark ≠ '^' ∧ Numeral.isPart mark = false

/-- A text is closed by a character that occurs in no boost. -/
theorem isClosed_concat (before : List Char) (mark : Char) (notCircumflex : mark ≠ '^')
    (notPart : Numeral.isPart mark = false) : IsClosed (before ++ [mark]) :=
  ⟨mark, List.getLast?_concat, notCircumflex, notPart⟩

/-- The text of a range is closed by its bracket. -/
theorem isClosed_rangeText (lower upper : Bound) : IsClosed (rangeText lower upper).toList := by
  refine ⟨upper.closing, ?_, ?_⟩
  · simp [Bound.toList_rangeText, List.getLast?_cons]
  · rw [Bound.closing]
    cases upper.isInclusive <;> decide

/-- A closed text spells no boost. -/
theorem IsClosed.not_spells (closed : IsClosed left) (finite : boost.isFinite = true) :
    ¬ Spells left right boost := by
  rintro ⟨_, rfl⟩
  obtain ⟨mark, last, notCircumflex, notPart⟩ := closed
  rw [List.getLast?_append_cons] at last
  obtain circumflex | found := List.mem_cons.mp (List.mem_of_getLast? last)
  · exact notCircumflex circumflex
  · rw [Binary.isPart_of_mem_text finite mark found] at notPart
    cases notPart

/-- An escaped text spells no boost behind another one. -/
theorem not_spells_escapeChars (visible : AllVisible left) (alsoVisible : AllVisible right) :
    ¬ Spells (escapeChars left) (escapeChars right) boost := by
  rintro ⟨different, same⟩
  have behind : boostChars boost = '^' :: boost.text.toList := if_neg different
  have split : escapeChars left ++ [] = escapeChars right ++ boostChars boost := by
    rw [List.append_nil, behind, same]
  have nothing := (escapeChars_append_inj visible alsoVisible Closes.done.stops
    (stops_boostChars boost) split).2
  rw [behind] at nothing
  cases nothing

end Boosted

/-- These characters stand between the colon behind the field of a query and its boost. -/
def bodyChars : Query → List Char
  | .term _ word _ => escapeChars word.toList
  | .phrase _ words _ => '"' :: ((" ".intercalate (words.map escape)).toList ++ ['"'])
  | .wildcard _ pattern _ => pattern.toList
  | .prefixed _ start _ => start.toList ++ ['*']
  | .range _ lower upper _ => (rangeText lower upper).toList
  | .boolean _ _ => []

/-- A query with a field is written as the field, its body and its boost. -/
theorem toList_render {query : Query} {field : String} (found : query.field? = some field) :
    query.render.toList = field.toList ++ ':' :: (query.bodyChars ++ boostChars query.boost) := by
  cases query with
  | boolean clauses boost => cases found
  | _ =>
      obtain rfl := Option.some.inj found
      simp [render, bodyChars, boost, toList_boostSuffix, escape]

/-- A range is shown by its bounds. -/
def shown : Query → Query
  | .range field lower upper boost => .range field lower.shown upper.shown boost
  | query => query

/-- A pattern without a boost spells another pattern together with its boost. -/
def SpellsBoost (query other : Query) : Prop :=
  ∃ field pattern boost, boost ≠ .one ∧
    query = .wildcard field (pattern ++ "^" ++ boost.text) .one ∧
    other = .wildcard field pattern boost

/--
Queries are comparable when they are of one kind and search one field. Terms and phrases consist
of words and values of bounds are words, but patterns and starts may be any text.
-/
inductive Comparable : Query → Query → Prop where
  | term {field word another : String} {boost other : Single} (isWord : IsWord word)
      (alsoWord : IsWord another) : Comparable (.term field word boost) (.term field another other)
  | phrase {field first second : String} {words others : List String} {boost other : Single}
      (each : ∀ word ∈ first :: words, IsWord word)
      (alsoEach : ∀ word ∈ second :: others, IsWord word) :
      Comparable (.phrase field (first :: words) boost) (.phrase field (second :: others) other)
  | wildcard {field pattern another : String} {boost other : Single} :
      Comparable (.wildcard field pattern boost) (.wildcard field another other)
  | prefixed {field start another : String} {boost other : Single} :
      Comparable (.prefixed field start boost) (.prefixed field another other)
  | range {field : String} {lower upper otherLower otherUpper : Bound} {boost other : Single}
      (each : lower.IsWorded ∧ upper.IsWorded)
      (alsoEach : otherLower.IsWorded ∧ otherUpper.IsWorded) :
      Comparable (.range field lower upper boost) (.range field otherLower otherUpper other)

variable {left right : Query}

theorem Comparable.symm (comparable : Comparable left right) : Comparable right left := by
  cases comparable with
  | term isWord alsoWord => exact .term alsoWord isWord
  | phrase each alsoEach => exact .phrase alsoEach each
  | wildcard => exact .wildcard
  | prefixed => exact .prefixed
  | range each alsoEach => exact .range alsoEach each

theorem Comparable.exists_field (comparable : Comparable left right) :
    ∃ field, left.field? = some field ∧ right.field? = some field := by
  cases comparable <;> exact ⟨_, rfl, rfl⟩

/-- Comparable queries with one boost have one body when they are shown alike. -/
theorem Comparable.bodyChars_eq_iff (comparable : Comparable left right) :
    left.bodyChars = right.bodyChars ∧ left.boost = right.boost ↔ left.shown = right.shown := by
  cases comparable with
  | @term field word another boost other isWord alsoWord =>
      have bodies : escapeChars word.toList = escapeChars another.toList ↔ word = another := by
        constructor
        · intro same
          have characters := escapeChars_append_inj isWord.visible alsoWord.visible
            Closes.done.stops Closes.done.stops (congrArg (· ++ []) same)
          exact String.toList_inj.mp characters.1
        · rintro rfl
          rfl
      simp [bodyChars, shown, Query.boost, bodies]
  | @phrase field first second words others boost other each alsoEach =>
      have bodies : bodyChars (.phrase field (first :: words) boost) =
          bodyChars (.phrase field (second :: others) other) ↔
            first :: words = second :: others := by
        constructor
        · intro same
          rw [bodyChars, bodyChars, toList_intercalate_escape, toList_intercalate_escape,
            List.append_assoc, List.append_assoc] at same
          exact (followingWords_inj (fun word found => (each word found).visible)
            (fun word found => (alsoEach word found).visible) (List.cons.inj same).2).1
        · intro same
          rw [bodyChars, bodyChars, same]
      simp [shown, Query.boost, bodies]
  | wildcard => simp [bodyChars, shown, Query.boost, String.toList_inj]
  | prefixed => simp [bodyChars, shown, Query.boost, String.toList_inj]
  | range each alsoEach =>
      simp [bodyChars, shown, Query.boost, String.toList_inj,
        Bound.rangeText_eq_iff each.1 alsoEach.1, and_assoc]

/-- A comparable query spells the boost of another one only as a pattern. -/
theorem Comparable.spells_bodyChars_iff (comparable : Comparable left right)
    (finite : right.boost.isFinite = true) :
    left.boost = .one ∧ Spells left.bodyChars right.bodyChars right.boost ↔
      left.SpellsBoost right := by
  constructor
  · rintro ⟨one, spells⟩
    cases comparable with
    | term isWord alsoWord =>
        exact absurd spells (not_spells_escapeChars isWord.visible alsoWord.visible)
    | phrase each alsoEach =>
        exact absurd spells
          ((isClosed_concat ('"' :: _) '"' (by decide) (by decide)).not_spells finite)
    | @wildcard field pattern another boost other =>
        obtain ⟨different, same⟩ := spells
        have patterns : pattern = another ++ "^" ++ other.text := by
          rw [← String.toList_inj]
          simpa [bodyChars, Query.boost] using same
        obtain rfl : boost = .one := one
        exact ⟨field, another, other, different, by rw [patterns], rfl⟩
    | prefixed =>
        exact absurd spells ((isClosed_concat _ '*' (by decide) (by decide)).not_spells finite)
    | range each alsoEach => exact absurd spells ((isClosed_rangeText _ _).not_spells finite)
  · rintro ⟨field, pattern, boost, different, rfl, rfl⟩
    refine ⟨rfl, different, ?_⟩
    simp [bodyChars, Query.boost]

/--
Comparable queries with finite boosts have one text when they are shown alike, or when one of them
is a pattern that spells the other one together with its boost. So terms, phrases and starts are
always told apart.
-/
theorem render_eq_iff (comparable : Comparable left right) (finite : left.boost.isFinite = true)
    (alsoFinite : right.boost.isFinite = true) :
    left.render = right.render ↔
      left.shown = right.shown ∨ left.SpellsBoost right ∨ right.SpellsBoost left := by
  obtain ⟨field, found, alsoFound⟩ := comparable.exists_field
  rw [← String.toList_inj, toList_render found, toList_render alsoFound,
    List.append_cancel_left_eq, List.cons_inj_right, append_boostChars_eq_iff finite alsoFinite,
    comparable.bodyChars_eq_iff, comparable.spells_bodyChars_iff alsoFinite,
    comparable.symm.spells_bodyChars_iff finite]

/--
A range from an excluded star is written like one from nowhere, and a pattern that contains a
circumflex like a boosted pattern.
-/
theorem render_eq_iff_star_and_circumflex :
    let starred := Query.range "f" (.excluded "*") (.included "b") .one
    let missing := Query.range "f" .unbounded (.included "b") .one
    let spelled := Query.wildcard "f" "a^2" .one
    let boosted := Query.wildcard "f" "a" (.ofRank false 0x40000000)
    (Binary.one : Single).isFinite = true ∧ boosted.boost.isFinite = true ∧
    (Comparable starred missing ∧ starred.render = missing.render ∧ starred ≠ missing) ∧
    (Comparable spelled boosted ∧ spelled.render = boosted.render ∧ spelled ≠ boosted) := by
  intro starred missing spelled boosted
  have finite : (Binary.one : Single).isFinite = true := by decide
  have alsoFinite : boosted.boost.isFinite = true := by decide
  have isWord : IsWord "b" ∧ IsWord "*" :=
    ⟨⟨by decide, by simp [isBlank]; decide⟩, ⟨by decide, by simp [isBlank]; decide⟩⟩
  have upper : Bound.IsWorded (.included "b") :=
    fun _ found => Option.some.inj found ▸ isWord.1
  have star : Bound.IsWorded (.excluded "*") :=
    fun _ found => Option.some.inj found ▸ isWord.2
  have unbounded : Bound.IsWorded .unbounded := fun value absent => by cases absent
  have ranges : Comparable starred missing := .range ⟨star, upper⟩ ⟨unbounded, upper⟩
  have patterns : Comparable spelled boosted := .wildcard
  have two : (Binary.ofRank false 0x40000000 : Single).text = "2" := rfl
  have spells : spelled.SpellsBoost boosted := by
    refine ⟨"f", "a", .ofRank false 0x40000000, by decide, ?_, rfl⟩
    rw [two]
    rfl
  refine ⟨finite, alsoFinite, ⟨ranges, ?_, by simp [starred, missing]⟩, patterns, ?_,
    by simp [spelled, boosted]⟩
  · exact (render_eq_iff ranges finite finite).mpr (.inl rfl)
  · exact (render_eq_iff patterns finite alsoFinite).mpr (.inr (.inl spells))

end Query

end FieldQuery
