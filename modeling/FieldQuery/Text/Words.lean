/-
This file defines the words of a text: its longest runs of characters that are not blank.
-/
import FieldQuery.Text.CharacterSet

namespace FieldQuery.Text

/-- This structure contains the word under the cursor and the words after it. -/
structure WordScan where
  word : List Char
  later : List (List Char)

namespace WordScan

/-- The scan starts at the end of a text with no word. -/
def start : WordScan := ⟨[], []⟩

/-- Closing a scan keeps the word under the cursor unless it is empty. -/
def close (scan : WordScan) : List (List Char) :=
  match scan.word with
  | [] => scan.later
  | first :: rest => (first :: rest) :: scan.later

/-- One step to the left extends the word, or closes it at a blank character. -/
def step (character : Char) (scan : WordScan) : WordScan :=
  if isBlank character then ⟨[], scan.close⟩ else ⟨character :: scan.word, scan.later⟩

end WordScan

def scanWords (characters : List Char) : WordScan :=
  characters.foldr WordScan.step WordScan.start

def splitWords (characters : List Char) : List (List Char) :=
  (scanWords characters).close

def words (text : String) : List String :=
  (splitWords text.toList).map String.ofList

@[simp] theorem splitWords_nil : splitWords [] = [] := rfl

theorem splitWords_cons_of_isBlank {character : Char} (rest : List Char)
    (blank : isBlank character = true) : splitWords (character :: rest) = splitWords rest := by
  simp [splitWords, scanWords, WordScan.step, blank, WordScan.close]

end FieldQuery.Text
