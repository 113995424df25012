/-
This file scans texts for quotes and parentheses and proves which texts leave the scan where it was.
-/
import FieldQuery.Proofs.Text.FoldedEscape
import FieldQuery.Proofs.Text.FoldedWords

namespace FieldQuery.Text

/--
This structure contains what a scan from left to right keeps of the characters behind it: whether a
backslash makes the next one literal, whether a quote is open, and how many parentheses are.
-/
structure Nesting where
  escaped : Bool
  quoted : Bool
  depth : Nat
deriving DecidableEq

namespace Nesting

/-- At the start of a text nothing is open. -/
def start : Nesting := ⟨false, false, 0⟩

/-- Behind a literal character no backslash is left over. -/
def settle (nesting : Nesting) : Nesting := { nesting with escaped := false }

/-- A parenthesis closes another one, or fails when none is open. -/
def close? (nesting : Nesting) : Option Nesting :=
  match nesting.depth with
  | 0 => none
  | outer + 1 => some { nesting with depth := outer }

/-- One step reads a character, and fails at a parenthesis that closes more than was opened. -/
def step (nesting : Nesting) (character : Char) : Option Nesting :=
  if nesting.escaped then some nesting.settle
  else if character = '\\' then some { nesting with escaped := true }
  else if character = '"' then some { nesting with quoted := !nesting.quoted }
  else if nesting.quoted then some nesting
  else if character = '(' then some { nesting with depth := nesting.depth + 1 }
  else if character = ')' then nesting.close?
  else some nesting

/-- A run takes one step for each character. -/
def run (nesting : Nesting) (characters : List Char) : Option Nesting :=
  characters.foldlM step nesting

/-- More parentheses can be open around the whole scan. -/
def raise (outer : Nat) (nesting : Nesting) : Nesting :=
  { nesting with depth := nesting.depth + outer }

end Nesting

/--
In a balanced text quotes pair up, and outside of them parentheses do. Only a backslash at the end
of the text has nothing to make literal.
-/
def IsBalanced (text : String) : Prop :=
  (Nesting.start.run text.toList).map Nesting.settle = some Nesting.start

instance (text : String) : Decidable (IsBalanced text) :=
  inferInstanceAs (Decidable (_ = _))

/-- Only these characters change the state of a scan. -/
def marks : List Char := ['\\', '"', '(', ')']

/-- A sequence is unmarked when it has none of these characters. -/
def IsUnmarked (characters : List Char) : Prop := ∀ character ∈ characters, character ∉ marks

instance (characters : List Char) : Decidable (IsUnmarked characters) :=
  List.decidableBAll (fun character => character ∉ marks) characters

theorem mem_reserved_of_mem_marks {character : Char} (found : character ∈ marks) :
    character ∈ reserved := by
  have all : marks.all (· ∈ reserved) = true := by decide
  simpa using List.all_eq_true.mp all character found

namespace Nesting

variable (nesting : Nesting) {character : Char} {characters : List Char}

@[simp] theorem run_nil : nesting.run [] = some nesting := rfl

theorem run_cons (character : Char) (rest : List Char) :
    nesting.run (character :: rest) = (nesting.step character).bind fun next => next.run rest := by
  rw [run, List.foldlM_cons]
  rfl

theorem run_append (left right : List Char) :
    nesting.run (left ++ right) = (nesting.run left).bind fun next => next.run right := by
  rw [run, List.foldlM_append]
  rfl

/-- A character that is no mark settles every state. -/
theorem step_of_not_mem_marks (free : character ∉ marks) :
    nesting.step character = some nesting.settle := by
  obtain ⟨backslash, quote, opening, closing⟩ : character ≠ '\\' ∧ character ≠ '"' ∧
      character ≠ '(' ∧ character ≠ ')' := by simpa [marks] using free
  obtain ⟨escaped, quoted, depth⟩ := nesting
  cases escaped <;> simp [step, settle, backslash, quote, opening, closing]

/-- One unmarked character is enough to settle a state, and more of them keep it. -/
theorem run_of_isUnmarked (unmarked : IsUnmarked characters) (nonempty : characters ≠ []) :
    nesting.run characters = some nesting.settle := by
  induction characters generalizing nesting with
  | nil => exact absurd rfl nonempty
  | cons character rest inductionHypothesis =>
      obtain ⟨first, others⟩ := List.forall_mem_cons.mp unmarked
      rw [run_cons, step_of_not_mem_marks nesting first, Option.bind_some]
      cases rest with
      | nil => rfl
      | cons next later => exact inductionHypothesis nesting.settle others (List.cons_ne_nil _ _)

/-- A parenthesis that closes another one does so inside of more of them. -/
theorem close?_raise {next : Nesting} (closes : nesting.close? = some next) (outer : Nat) :
    (nesting.raise outer).close? = some (next.raise outer) := by
  obtain ⟨escaped, quoted, depth⟩ := nesting
  cases depth with
  | zero => cases closes
  | succ inner =>
      cases closes
      simp [close?, raise, Nat.succ_add]

/-- A step that succeeds does so inside of more parentheses. -/
theorem step_raise {next : Nesting} (steps : nesting.step character = some next) (outer : Nat) :
    (nesting.raise outer).step character = some (next.raise outer) := by
  have sameFlags : (nesting.raise outer).escaped = nesting.escaped ∧
      (nesting.raise outer).quoted = nesting.quoted := ⟨rfl, rfl⟩
  rw [step, sameFlags.1, sameFlags.2]
  unfold step at steps
  split_ifs at steps ⊢
  -- Only a closing parenthesis looks at the depth.
  any_goals exact nesting.close?_raise steps outer
  all_goals
    cases steps
    simp [settle, raise, Nat.add_right_comm]

/-- A run that succeeds does so inside of more parentheses. -/
theorem run_raise {last : Nesting} (runs : nesting.run characters = some last) (outer : Nat) :
    (nesting.raise outer).run characters = some (last.raise outer) := by
  induction characters generalizing nesting with
  | nil =>
      obtain rfl : nesting = last := Option.some.inj runs
      rfl
  | cons character rest inductionHypothesis =>
      rw [run_cons] at runs ⊢
      obtain ⟨next, steps, later⟩ := Option.bind_eq_some_iff.mp runs
      rw [step_raise nesting steps outer, Option.bind_some]
      exact inductionHypothesis next later

/-- A scan of the lowercase of a text runs like that of the text. -/
theorem run_lowercaseFrom (before : Bool) (characters : List Char) :
    nesting.run (lowercaseFrom before characters) = nesting.run characters := by
  induction characters generalizing nesting before with
  | nil => rfl
  | cons character rest inductionHypothesis =>
      -- Marks are reserved, so folding neither changes a mark nor gives one.
      have first : nesting.run (lowercaseIn before character rest) = nesting.step character := by
        by_cases found : character ∈ reserved
        · rw [lowercaseIn_of_mem_reserved found, run_cons]
          exact Option.bind_fun_some _
        · have free : character ∉ marks := fun mark => found (mem_reserved_of_mem_marks mark)
          have lower : IsUnmarked (lowercaseIn before character rest) := fun other member mark =>
            not_mem_reserved_of_mem_lowercaseIn found before rest other member
              (mem_reserved_of_mem_marks mark)
          rw [step_of_not_mem_marks nesting free,
            run_of_isUnmarked nesting lower (lowercaseIn_ne_nil before character rest)]
      rw [lowercaseFrom_cons, run_append, run_cons, first]
      simp only [inductionHypothesis]

end Nesting

/-- An inert text leaves every settled state as it is, also inside of quotes. -/
def Inert (characters : List Char) : Prop :=
  ∀ nesting : Nesting, nesting.settle.run characters = some nesting.settle

/-- A calm text leaves every state outside of quotes as it is. -/
def Calm (characters : List Char) : Prop :=
  ∀ depth, (Nesting.mk false false depth).run characters = some ⟨false, false, depth⟩

section

variable {characters left right : List Char}

theorem inert_nil : Inert [] := fun _ => rfl

theorem Inert.append (first : Inert left) (second : Inert right) : Inert (left ++ right) := by
  intro nesting
  rw [Nesting.run_append, first, Option.bind_some, second]

/-- What holds for no characters and passes to concatenations holds for all texts in a row. -/
theorem flatMap_of_append {Item : Type} {property : List Char → Prop} (empty : property [])
    (append : ∀ left right, property left → property right → property (left ++ right))
    {list : List Item} {text : Item → List Char} (each : ∀ item ∈ list, property (text item)) :
    property (list.flatMap text) := by
  induction list with
  | nil => exact empty
  | cons item rest inductionHypothesis =>
      obtain ⟨first, others⟩ := List.forall_mem_cons.mp each
      exact append _ _ first (inductionHypothesis others)

/-- An unmarked text is inert. -/
theorem IsUnmarked.inert (unmarked : IsUnmarked characters) : Inert characters := by
  intro nesting
  by_cases empty : characters = []
  · rw [empty, Nesting.run_nil]
  · exact nesting.settle.run_of_isUnmarked unmarked empty

/-- The escape of a text is inert. -/
theorem inert_escapeChars (characters : List Char) : Inert (escapeChars characters) := by
  induction characters with
  | nil => exact inert_nil
  | cons character rest inductionHypothesis =>
      rw [escapeChars_cons, escapeChar]
      refine .append ?_ inductionHypothesis
      split
      · exact fun nesting => rfl
      · rename_i free
        refine IsUnmarked.inert (List.forall_mem_singleton.mpr fun mark => ?_)
        exact free (mem_reserved_of_mem_marks mark)

/-- An inert text in quotes is inert, whether the first quote opens or closes. -/
theorem Inert.quoted (inert : Inert characters) : Inert ('"' :: (characters ++ ['"'])) := by
  intro nesting
  have opens : nesting.settle.step '"' = some ⟨false, !nesting.quoted, nesting.depth⟩ := rfl
  have stays := inert ⟨false, !nesting.quoted, nesting.depth⟩
  rw [Nesting.settle] at stays
  rw [Nesting.run_cons, opens, Option.bind_some, Nesting.run_append, stays, Option.bind_some]
  simp [Nesting.run_cons, Nesting.step, Nesting.settle]

theorem Inert.calm (inert : Inert characters) : Calm characters :=
  fun depth => inert ⟨false, false, depth⟩

theorem Calm.append (first : Calm left) (second : Calm right) : Calm (left ++ right) := by
  intro depth
  rw [Nesting.run_append, first, Option.bind_some, second]

/-- A calm text in parentheses is calm. -/
theorem Calm.parenthesized (calm : Calm characters) : Calm ('(' :: (characters ++ [')'])) := by
  intro depth
  have opens : (Nesting.mk false false depth).step '(' = some ⟨false, false, depth + 1⟩ := rfl
  rw [Nesting.run_cons, opens, Option.bind_some, Nesting.run_append, calm, Option.bind_some]
  rfl

theorem Calm.isBalanced {text : String} (calm : Calm text.toList) : IsBalanced text := by
  rw [IsBalanced, Nesting.start, calm]
  rfl

/-- A text that leads from the start back to it does so inside of any parentheses, too. -/
theorem calm_of_run (runs : Nesting.start.run characters = some Nesting.start) :
    Calm characters := by
  intro depth
  have inside : Nesting.start.raise depth = ⟨false, false, depth⟩ := by
    simp [Nesting.start, Nesting.raise]
  have raised := Nesting.start.run_raise runs depth
  rwa [inside] at raised

/-- A balanced text is calm in front of an unmarked one, at which its last backslash ends. -/
theorem IsBalanced.calm_append {text : String} (balanced : IsBalanced text)
    (unmarked : IsUnmarked right) (nonempty : right ≠ []) : Calm (text.toList ++ right) := by
  obtain ⟨last, runs, settles⟩ := Option.map_eq_some_iff.mp balanced
  apply calm_of_run
  rw [Nesting.run_append, runs, Option.bind_some, last.run_of_isUnmarked unmarked nonempty, settles]

end

theorem star_not_mem_marks : '*' ∉ marks := by decide

theorem Nesting.run_star_cons (nesting : Nesting) (rest : List Char) :
    nesting.run ('*' :: rest) = nesting.settle.run rest := by
  rw [run_cons, step_of_not_mem_marks nesting star_not_mem_marks, Option.bind_some]

/-- These characters show words in a row, with a star behind each. -/
def starred (list : List (List Char)) : List Char :=
  list.flatMap fun word => word ++ ['*']

theorem starred_cons (word : List Char) (later : List (List Char)) :
    starred (word :: later) = word ++ '*' :: starred later := by
  simp [starred]

/-- Words that are scanned alike can be exchanged between stars. -/
theorem run_star_starred_map {Item : Type} (list : List Item) {text other : Item → List Char}
    (alike : ∀ (nesting : Nesting) (item : Item),
      nesting.settle.run (text item) = nesting.settle.run (other item)) (nesting : Nesting) :
    nesting.run ('*' :: starred (list.map text)) =
      nesting.run ('*' :: starred (list.map other)) := by
  induction list generalizing nesting with
  | nil => rfl
  | cons item rest inductionHypothesis =>
      simp only [Nesting.run_star_cons, List.map_cons, starred_cons, Nesting.run_append, alike]
      simp only [← Nesting.run_star_cons, inductionHypothesis]

/-- Closing a scan of words behind a star shows the word under the cursor also when it is empty. -/
theorem run_star_close (nesting : Nesting) (scan : WordScan) :
    nesting.run ('*' :: starred scan.close) =
      nesting.settle.run (scan.word ++ '*' :: starred scan.later) := by
  obtain ⟨current, later⟩ := scan
  cases current with
  | nil =>
      rw [WordScan.close, List.nil_append, Nesting.run_star_cons, Nesting.run_star_cons]
      rfl
  | cons first rest => rw [WordScan.close, starred_cons, Nesting.run_star_cons]

/-- A star behind each word changes no more of a scan than the blanks between the words do. -/
theorem run_scanWords (nesting : Nesting) (characters : List Char) :
    nesting.run ((scanWords characters).word ++ '*' :: starred (scanWords characters).later) =
      (nesting.run characters).map Nesting.settle := by
  induction characters generalizing nesting with
  | nil => exact nesting.run_star_cons []
  | cons character rest inductionHypothesis =>
      rw [scanWords_cons, Nesting.run_cons]
      by_cases blank : isBlank character = true
      · -- A blank and the star in its place both settle the state and change nothing else.
        have free : character ∉ marks := fun mark => by
          simp [isBlank_of_mem_reserved (mem_reserved_of_mem_marks mark)] at blank
        rw [WordScan.step_of_isBlank blank, List.nil_append, run_star_close, inductionHypothesis,
          Nesting.step_of_not_mem_marks nesting free, Option.bind_some]
      · rw [WordScan.step_of_visible (by simpa using blank), List.cons_append, Nesting.run_cons]
        simp only [inductionHypothesis, Option.map_bind]
        rfl

/-- The words of a text with stars around them are scanned like the text itself. -/
theorem run_star_splitWords (nesting : Nesting) (characters : List Char) :
    nesting.run ('*' :: starred (splitWords characters)) =
      (nesting.settle.run characters).map Nesting.settle := by
  rw [splitWords, run_star_close, run_scanWords]

end FieldQuery.Text
