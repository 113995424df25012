/-
This file proves that escaping a text escapes each of its words, and which texts it leaves alone.
-/
import FieldQuery.Proofs.Text.Words
import FieldQuery.Text.Escape

namespace FieldQuery.Text

variable {character : Char}

/-- No reserved character is blank. -/
theorem isBlank_of_mem_reserved (found : character ∈ reserved) : isBlank character = false := by
  have all : reserved.all (fun character => !isBlank character) = true := by decide
  have visible := List.all_eq_true.mp all character found
  simpa using visible

/-- A blank character is its own escape. -/
theorem escapeChar_of_isBlank (blank : isBlank character = true) :
    escapeChar character = [character] := by
  have free : character ∉ reserved := fun found => by
    simp [isBlank_of_mem_reserved found] at blank
  simp [escapeChar, free]

theorem escapeChar_ne_nil (character : Char) : escapeChar character ≠ [] := by
  unfold escapeChar
  split <;> simp

theorem escapeChars_eq_nil_iff (characters : List Char) :
    escapeChars characters = [] ↔ characters = [] := by
  cases characters with
  | nil => simp
  | cons character rest => simp [escapeChar_ne_nil]

/-- The escape of a visible character is visible. -/
theorem visible_escapeChar (visible : isBlank character = false) :
    ∀ other ∈ escapeChar character, isBlank other = false := by
  have mark : isBlank '\\' = false := by decide
  unfold escapeChar
  split
  · simp [mark, visible]
  · simp [visible]

/-- The scan of an escaped text collects the escapes of the words. -/
theorem scanWords_escapeChars (characters : List Char) :
    scanWords (escapeChars characters) =
      ⟨escapeChars (scanWords characters).word,
        (scanWords characters).later.map escapeChars⟩ := by
  induction characters with
  | nil => rfl
  | cons character rest inductionHypothesis =>
      rw [escapeChars_cons, scanWords, List.foldr_append]
      change (escapeChar character).foldr WordScan.step (scanWords (escapeChars rest)) = _
      rw [inductionHypothesis, scanWords_cons]
      by_cases blank : isBlank character = true
      · rw [escapeChar_of_isBlank blank, List.foldr_cons, List.foldr_nil,
          WordScan.step_of_isBlank blank, WordScan.step_of_isBlank blank,
          WordScan.close_map escapeChars_eq_nil_iff]
        rfl
      · have visible : isBlank character = false := by simpa using blank
        rw [foldr_step_of_visible (visible_escapeChar visible), WordScan.step_of_visible visible,
          escapeChars_cons]

/-- Escaping before or after the split gives the same words. -/
theorem splitWords_escapeChars (characters : List Char) :
    splitWords (escapeChars characters) = (splitWords characters).map escapeChars := by
  rw [splitWords, scanWords_escapeChars, WordScan.close_map escapeChars_eq_nil_iff]
  rfl

/-- The words of an escaped text are the escapes of its words. -/
theorem words_escape (text : String) : words (escape text) = (words text).map escape := by
  simp only [words, escape, String.toList_ofList, splitWords_escapeChars, List.map_map]
  apply List.map_congr_left
  intro word _
  simp [escape, String.toList_ofList]

/-- A text without reserved characters is its own escape. -/
theorem escapeChars_of_free {characters : List Char}
    (free : ∀ character ∈ characters, character ∉ reserved) :
    escapeChars characters = characters := by
  induction characters with
  | nil => rfl
  | cons character rest inductionHypothesis =>
      obtain ⟨first, others⟩ := List.forall_mem_cons.mp free
      rw [escapeChars_cons, inductionHypothesis others, escapeChar, if_neg first]
      rfl

/-- The escape of a text has one more character for each reserved one. -/
theorem length_escapeChars (characters : List Char) :
    (escapeChars characters).length =
      characters.length + characters.countP (· ∈ reserved) := by
  induction characters with
  | nil => rfl
  | cons character rest inductionHypothesis =>
      rw [escapeChars_cons, List.length_append, inductionHypothesis, List.length_cons,
        List.countP_cons, escapeChar]
      by_cases found : character ∈ reserved
      · simp only [found, ↓reduceIte, decide_true, List.length_cons, List.length_nil]
        omega
      · simp only [found, ↓reduceIte, decide_false, List.length_cons, List.length_nil,
          Bool.false_eq_true]
        omega

/-- A text starts with its own escape only when it has no reserved character. -/
theorem escapeChars_prefix_self_iff (characters : List Char) :
    escapeChars characters <+: characters ↔ ∀ character ∈ characters, character ∉ reserved := by
  constructor
  · intro starts
    have short := starts.length_le
    rw [length_escapeChars] at short
    have none : characters.countP (· ∈ reserved) = 0 := by omega
    simpa [List.countP_eq_zero] using none
  · intro free
    have same := escapeChars_of_free free
    exact same.symm ▸ List.prefix_refl characters

end FieldQuery.Text
