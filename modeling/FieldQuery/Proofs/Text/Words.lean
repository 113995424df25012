/-
This file proves when a text has words, of which characters they are made, and what separates them.
-/
import FieldQuery.Text.Words

namespace FieldQuery.Text

variable {character : Char}

theorem scanWords_cons (character : Char) (rest : List Char) :
    scanWords (character :: rest) = WordScan.step character (scanWords rest) := rfl

theorem WordScan.step_of_isBlank (blank : isBlank character = true) (scan : WordScan) :
    WordScan.step character scan = ⟨[], scan.close⟩ := by
  simp [WordScan.step, blank]

theorem WordScan.step_of_visible (visible : isBlank character = false) (scan : WordScan) :
    WordScan.step character scan = ⟨character :: scan.word, scan.later⟩ := by
  simp [WordScan.step, visible]

/-- Visible characters in a row extend the word under the cursor. -/
theorem foldr_step_of_visible {characters : List Char}
    (visible : ∀ character ∈ characters, isBlank character = false) (scan : WordScan) :
    characters.foldr WordScan.step scan = ⟨characters ++ scan.word, scan.later⟩ := by
  induction characters with
  | nil => rfl
  | cons character rest inductionHypothesis =>
      obtain ⟨first, others⟩ := List.forall_mem_cons.mp visible
      rw [List.foldr_cons, inductionHypothesis others, WordScan.step_of_visible first]
      rfl

/-- A scan can be closed before or after a change of its words that keeps the empty ones. -/
theorem WordScan.close_map {change : List Char → List Char}
    (empty : ∀ word, change word = [] ↔ word = []) (scan : WordScan) :
    WordScan.close ⟨change scan.word, scan.later.map change⟩ = scan.close.map change := by
  obtain ⟨current, later⟩ := scan
  cases current with
  | nil => simp [WordScan.close, (empty []).mpr rfl]
  | cons first rest =>
      have nonempty : change (first :: rest) ≠ [] := by simp [empty]
      obtain ⟨head, tail, shape⟩ := List.exists_cons_of_ne_nil nonempty
      simp [WordScan.close, shape]

theorem splitWords_cons_of_visible (visible : isBlank character = false) (rest : List Char) :
    splitWords (character :: rest) =
      (character :: (scanWords rest).word) :: (scanWords rest).later := by
  rw [splitWords, scanWords_cons, WordScan.step_of_visible visible]
  rfl

/-- A text has no words exactly when all its characters are blank. -/
theorem splitWords_eq_nil_iff (characters : List Char) :
    splitWords characters = [] ↔ ∀ character ∈ characters, isBlank character = true := by
  induction characters with
  | nil => simp
  | cons character rest inductionHypothesis =>
      by_cases blank : isBlank character = true
      · rw [splitWords_cons_of_isBlank rest blank, inductionHypothesis]
        simp [blank]
      · rw [splitWords_cons_of_visible (by simpa using blank)]
        simp [blank]

/-- A text has words exactly when one of its characters is visible. -/
theorem words_ne_nil_iff (text : String) :
    words text ≠ [] ↔ ∃ character ∈ text.toList, isBlank character = false := by
  rw [words, ne_eq, List.map_eq_nil_iff, splitWords_eq_nil_iff]
  simp

/-- This invariant says that a scan has collected only visible characters, and no empty word. -/
structure WordScan.Visible (scan : WordScan) : Prop where
  word : ∀ character ∈ scan.word, isBlank character = false
  later : ∀ word ∈ scan.later, word ≠ [] ∧ ∀ character ∈ word, isBlank character = false

/-- Closing a scan keeps the word under the cursor only when it has a character. -/
theorem WordScan.mem_close {scan : WordScan} {word : List Char} :
    word ∈ scan.close ↔ (word = scan.word ∧ word ≠ []) ∨ word ∈ scan.later := by
  obtain ⟨current, later⟩ := scan
  cases current with
  | nil => simp [WordScan.close]
  | cons first rest =>
      simp only [WordScan.close, List.mem_cons]
      constructor
      · intro found
        obtain rfl | found := found
        · exact .inl ⟨rfl, List.cons_ne_nil _ _⟩
        · exact .inr found
      · intro found
        obtain ⟨same, _⟩ | found := found
        · exact .inl same
        · exact .inr found

/-- A closed scan holds words of visible characters. -/
theorem WordScan.Visible.of_mem_close {scan : WordScan} (kept : scan.Visible) {word : List Char}
    (found : word ∈ scan.close) :
    word ≠ [] ∧ ∀ character ∈ word, isBlank character = false := by
  rcases WordScan.mem_close.mp found with ⟨rfl, nonempty⟩ | earlier
  · exact ⟨nonempty, kept.word⟩
  · exact kept.later word earlier

/-- One step to the left keeps the invariant. -/
theorem WordScan.Visible.step {scan : WordScan} (kept : scan.Visible) (character : Char) :
    (WordScan.step character scan).Visible := by
  by_cases blank : isBlank character = true
  · rw [WordScan.step_of_isBlank blank]
    exact ⟨by simp, fun word found => kept.of_mem_close found⟩
  · have visible : isBlank character = false := by simpa using blank
    rw [WordScan.step_of_visible visible]
    exact ⟨List.forall_mem_cons.mpr ⟨visible, kept.word⟩, kept.later⟩

/-- Every scan of a text keeps the invariant. -/
theorem scanWords_visible (characters : List Char) : (scanWords characters).Visible := by
  induction characters with
  | nil => exact ⟨by simp [scanWords, WordScan.start], by simp [scanWords, WordScan.start]⟩
  | cons character rest inductionHypothesis => exact inductionHypothesis.step character

/-- A word of a text is not empty and has no blank character. -/
theorem visible_of_mem_splitWords {characters word : List Char}
    (found : word ∈ splitWords characters) :
    word ≠ [] ∧ ∀ character ∈ word, isBlank character = false :=
  (scanWords_visible characters).of_mem_close found

/-- A word is a text with a character and without blank ones. -/
structure IsWord (word : String) : Prop where
  nonempty : word.toList ≠ []
  visible : ∀ character ∈ word.toList, isBlank character = false

/-- The words of a text are words. -/
theorem isWord_of_mem_words {text word : String} (found : word ∈ words text) : IsWord word := by
  obtain ⟨characters, member, rfl⟩ := List.mem_map.mp found
  obtain ⟨nonempty, visible⟩ := visible_of_mem_splitWords member
  refine ⟨?_, ?_⟩
  · rw [String.toList_ofList]
    exact nonempty
  · rw [String.toList_ofList]
    exact visible

/-- A word is the only word of itself. -/
theorem IsWord.words_eq {word : String} (isWord : IsWord word) : words word = [word] := by
  have scan : scanWords word.toList = ⟨word.toList, []⟩ := by
    rw [scanWords, foldr_step_of_visible isWord.visible, WordScan.start, List.append_nil]
  obtain ⟨first, rest, shape⟩ := List.exists_cons_of_ne_nil isWord.nonempty
  rw [words, splitWords, scan, shape]
  change [String.ofList (first :: rest)] = [word]
  rw [← shape, String.ofList_toList]

/-- Words on both sides of a blank character are the words of the whole. -/
theorem splitWords_append_of_isBlank (left : List Char) {blank : Char}
    (hidden : isBlank blank = true) (right : List Char) :
    splitWords (left ++ blank :: right) = splitWords left ++ splitWords right := by
  have close (word : List Char) (later : List (List Char)) :
      (WordScan.mk word (later ++ splitWords right)).close =
        (WordScan.mk word later).close ++ splitWords right := by
    cases word <;> rfl
  have scan : scanWords (left ++ blank :: right) =
      ⟨(scanWords left).word, (scanWords left).later ++ splitWords right⟩ := by
    induction left with
    | nil =>
        rw [List.nil_append, scanWords_cons, WordScan.step_of_isBlank hidden]
        rfl
    | cons character rest inductionHypothesis =>
        rw [List.cons_append, scanWords_cons, inductionHypothesis, scanWords_cons]
        by_cases gap : isBlank character = true
        · rw [WordScan.step_of_isBlank gap, WordScan.step_of_isBlank gap, close]
        · have visible : isBlank character = false := by simpa using gap
          rw [WordScan.step_of_visible visible, WordScan.step_of_visible visible]
  rw [splitWords, scan, close]
  rfl

/-- A gap is a text of blank characters, and of at least one. -/
structure IsGap (gap : String) : Prop where
  nonempty : gap.toList ≠ []
  blank : ∀ character ∈ gap.toList, isBlank character = true

/-- A gap can be told by a check of its characters. -/
theorem isGap_of_all {gap : String} (nonempty : gap.toList ≠ [])
    (all : gap.toList.all isBlank = true) : IsGap gap :=
  ⟨nonempty, List.all_eq_true.mp all⟩

theorem isGap_space : IsGap " " := isGap_of_all (by decide) (by decide)

/-- Blank characters in front add no words. -/
theorem splitWords_append_of_blanks {blanks : List Char}
    (hidden : ∀ character ∈ blanks, isBlank character = true) (rest : List Char) :
    splitWords (blanks ++ rest) = splitWords rest := by
  induction blanks with
  | nil => rfl
  | cons blank others inductionHypothesis =>
      obtain ⟨first, later⟩ := List.forall_mem_cons.mp hidden
      rw [List.cons_append, splitWords_cons_of_isBlank _ first, inductionHypothesis later]

/-- Words on both sides of a gap are the words of the whole. -/
theorem IsGap.words_append {gap : String} (isGap : IsGap gap) (left right : String) :
    words (left ++ gap ++ right) = words left ++ words right := by
  obtain ⟨first, rest, shape⟩ := List.exists_cons_of_ne_nil isGap.nonempty
  obtain ⟨head, tail⟩ := List.forall_mem_cons.mp (shape ▸ isGap.blank)
  have chars : (left ++ gap ++ right).toList = left.toList ++ first :: (rest ++ right.toList) := by
    simp [shape]
  rw [words, chars, splitWords_append_of_isBlank _ head, splitWords_append_of_blanks tail,
    List.map_append]
  rfl

end FieldQuery.Text
