/-
This file proves that the tokens of every JSON value are read from each of its texts, which may have
blanks between tokens.
-/
import FieldQuery.Json.Lexer
import FieldQuery.Json.Value
import FieldQuery.Proofs.Json.Numeral
import FieldQuery.Proofs.Json.Quotation
import Mathlib.Data.List.Chain

namespace FieldQuery.Json

open Number Numeral

/-- What passes from all parts to every array and object, and holds without parts, always holds. -/
@[elab_as_elim]
theorem inductionOnParts {motive : Json → Prop} (null : motive .null)
    (boolean : ∀ value, motive (.boolean value)) (number : ∀ value, motive (.number value))
    (string : ∀ content, motive (.string content))
    (array : ∀ items, (∀ item ∈ items, motive item) → motive (.array items))
    (object : ∀ members : List (Content × Json), (∀ member ∈ members, motive member.2) →
      motive (.object members)) (json : Json) : motive json :=
  @Json.rec motive (fun items => ∀ item ∈ items, motive item)
    (fun members => ∀ member ∈ members, motive member.2) (fun member => motive member.2)
    null boolean number string array object
    (by simp) (fun _ _ first others => List.forall_mem_cons.mpr ⟨first, others⟩)
    (by simp) (fun _ _ first others => List.forall_mem_cons.mpr ⟨first, others⟩)
    (fun _ _ value => value) json

/-- A numeral and a string may be spelled in several ways, and every other token in one. -/
def Token.HasText : Token → List Char → Prop
  | .number value, characters => value.HasText characters
  | .string content, characters => IsQuotation content characters
  | token, characters => characters = token.chars

/-- A text spells tokens one after the other, with any blanks around them. -/
inductive Spaced : List Token → List Char → Prop where
  | nothing : Spaced [] []
  | blank {character : Char} {tokens : List Token} {characters : List Char}
      (between : isInsignificant character = true) (later : Spaced tokens characters) :
      Spaced tokens (character :: characters)
  | token {token : Token} {tokens : List Token} {characters rest : List Char}
      (text : token.HasText characters) (later : Spaced tokens rest) :
      Spaced (token :: tokens) (characters ++ rest)

/-- A text of a JSON value spells its tokens. -/
def IsText (json : Json) (text : String) : Prop := Spaced json.tokens text.toList

/-- A token has the text that is written for it. -/
theorem Token.hasText_chars (token : Token) : token.HasText token.chars := by
  cases token with
  | number value => exact value.hasText_chars
  | string content => exact isQuotation_stringChars content
  | _ => rfl

/-- No text of a token is empty. -/
theorem Token.HasText.ne_nil {token : Token} {characters : List Char}
    (text : token.HasText characters) : characters ≠ [] := by
  cases token with
  | number value =>
      obtain ⟨exponent, _, rfl⟩ := text
      simp
  | string content =>
      obtain ⟨pieces, texts, _, _, rfl⟩ := text
      simp
  | boolean value =>
      obtain rfl : characters = (Token.boolean value).chars := text
      cases value <;> simp [Token.chars]
  | _ =>
      obtain rfl := text
      simp [Token.chars]

/-- Tokens are spelled without any blanks. -/
theorem spaced_flatMap_chars (tokens : List Token) :
    Spaced tokens (tokens.flatMap Token.chars) := by
  induction tokens with
  | nil => exact .nothing
  | cons token rest inductionHypothesis =>
      rw [List.flatMap_cons]
      exact .token token.hasText_chars inductionHypothesis

theorem isText_toText (json : Json) : json.IsText json.toText := by
  rw [IsText, toText, String.toList_ofList]
  exact spaced_flatMap_chars json.tokens

/-- These tokens may stand behind a value. -/
def closers : List Token := [.comma, .closeArray, .closeObject]

/-- Behind a number stands a token that closes it. -/
def Token.Precedes (token next : Token) : Prop := ∀ value, token = .number value → next ∈ closers

/-- No token starts with a character that stands between tokens. -/
theorem token?_of_isInsignificant {character : Char} (between : isInsignificant character = true)
    (rest : List Char) : token? (character :: rest) = none := by
  simp only [isInsignificant, Bool.or_eq_true, beq_iff_eq] at between
  obtain ((rfl | rfl) | rfl) | rfl := between
  · rfl
  · rfl
  · rfl
  · rfl

/-- A blank does not continue a numeral. -/
theorem endsNumeral_of_isInsignificant {character : Char}
    (between : isInsignificant character = true) (rest : List Char) :
    EndsNumeral (character :: rest) := by
  simp only [isInsignificant, Bool.or_eq_true, beq_iff_eq] at between
  obtain ((rfl | rfl) | rfl) | rfl := between
  · exact endsNumeral_cons rfl (by decide) rest
  · exact endsNumeral_cons rfl (by decide) rest
  · exact endsNumeral_cons rfl (by decide) rest
  · exact endsNumeral_cons rfl (by decide) rest

/-- No text of closing tokens continues a numeral. -/
theorem Spaced.endsNumeral {tokens : List Token} {characters : List Char}
    (spaced : Spaced tokens characters) (closes : ∀ token ∈ tokens.head?, token ∈ closers) :
    EndsNumeral characters := by
  cases spaced with
  | nothing => exact endsNumeral_nil
  | blank between later => exact endsNumeral_of_isInsignificant between _
  | @token token tokens characters rest text later =>
      have closer := closes token rfl
      simp only [closers, List.mem_cons, List.not_mem_nil, or_false] at closer
      obtain rfl | rfl | rfl := closer
      · obtain rfl : characters = [','] := text
        exact endsNumeral_cons rfl (by decide) rest
      · obtain rfl : characters = [']'] := text
        exact endsNumeral_cons rfl (by decide) rest
      · obtain rfl : characters = ['\x7d'] := text
        exact endsNumeral_cons rfl (by decide) rest

/-- A token is read from each of its texts, if what follows does not continue it. -/
theorem token?_append {token : Token} {characters rest : List Char}
    (text : token.HasText characters)
    (ends : ∀ value, token = .number value → EndsNumeral rest) :
    token? (characters ++ rest) = some (token, rest) := by
  cases token with
  | number value => exact token?_numeral text (ends value rfl)
  | string content => exact token?_string text rest
  | boolean value =>
      obtain rfl : characters = (Token.boolean value).chars := text
      cases value <;> rfl
  | openArray => obtain rfl : characters = ['['] := text; rfl
  | closeArray => obtain rfl : characters = [']'] := text; rfl
  | openObject => obtain rfl : characters = ['\x7b'] := text; rfl
  | closeObject => obtain rfl : characters = ['\x7d'] := text; rfl
  | comma => obtain rfl : characters = [','] := text; rfl
  | colon => obtain rfl : characters = [':'] := text; rfl
  | null => obtain rfl : characters = ['n', 'u', 'l', 'l'] := text; rfl

/-- Tokens are read from each of their texts when every number is closed. -/
theorem Spaced.lexFrom_eq {tokens : List Token} {characters : List Char}
    (spaced : Spaced tokens characters) (closed : tokens.IsChain Token.Precedes) {steps : Nat}
    (before : List Token) (enough : characters.length ≤ steps) :
    lexFrom steps before characters = some (before.reverse ++ tokens) := by
  induction spaced generalizing steps before with
  | nothing => simp [lexFrom]
  | blank between later inductionHypothesis =>
      obtain ⟨fewer, rfl⟩ := Nat.exists_eq_add_one.mpr (Nat.zero_lt_of_lt enough)
      rw [lexFrom, if_pos between]
      exact inductionHypothesis closed before (Nat.le_of_succ_le_succ enough)
  | @token token tokens characters rest text later inductionHypothesis =>
      obtain ⟨next, closed⟩ := List.isChain_cons.mp closed
      have ends : ∀ value, token = .number value → EndsNumeral rest := fun value number =>
        later.endsNumeral fun following first => next following first value number
      have read := token?_append text ends
      obtain ⟨character, others, rfl⟩ := List.exists_cons_of_ne_nil text.ne_nil
      obtain ⟨fewer, rfl⟩ := Nat.exists_eq_add_one.mpr (Nat.zero_lt_of_lt enough)
      have significant : ¬ isInsignificant character = true := by
        intro between
        rw [List.cons_append, token?_of_isInsignificant between] at read
        cases read
      have fits : rest.length ≤ fewer := by
        simp only [List.length_append, List.length_cons] at enough
        omega
      rw [List.cons_append] at read ⊢
      rw [lexFrom, if_neg significant, read]
      simp only [inductionHypothesis closed (token :: before) fits, List.reverse_cons,
        List.append_assoc, List.singleton_append]

/-- A token that is no number may stand in front of any tokens. -/
theorem isChain_cons_of_ne {token : Token} (other : ∀ value, token ≠ .number value)
    {rest : List Token} (closed : rest.IsChain Token.Precedes) :
    (token :: rest).IsChain Token.Precedes :=
  List.isChain_cons.mpr ⟨fun _ _ value same => absurd same (other value), closed⟩

/-- The numbers of a value are closed in front of closed tokens, if the value itself is. -/
def ClosesBefore (json : Json) : Prop :=
  ∀ rest : List Token, rest.IsChain Token.Precedes → (∀ token ∈ rest.head?, token ∈ closers) →
    (json.tokens ++ rest).IsChain Token.Precedes

/-- A comma or a closing bracket starts every sequence of later items. -/
theorem head?_itemTokens (items : List Json) (rest : List Token) :
    ∀ token ∈ (itemTokens items ++ rest).head?, token ∈ closers := by
  cases items <;> simp [itemTokens, closers]

/-- A comma or a closing brace starts every sequence of later members. -/
theorem head?_memberTokens (members : List (Content × Json)) (rest : List Token) :
    ∀ token ∈ (memberTokens members ++ rest).head?, token ∈ closers := by
  cases members with
  | nil => simp [memberTokens, closers]
  | cons first others => simp [memberTokens, closers]

variable {rest : List Token}

/-- The numbers of later items are closed when those of each item are. -/
theorem isChain_itemTokens {items : List Json} (each : ∀ item ∈ items, ClosesBefore item)
    (closed : rest.IsChain Token.Precedes) : (itemTokens items ++ rest).IsChain Token.Precedes := by
  induction items with
  | nil => exact isChain_cons_of_ne (by simp) closed
  | cons item others inductionHypothesis =>
      obtain ⟨first, later⟩ := List.forall_mem_cons.mp each
      have tail := inductionHypothesis later
      rw [itemTokens, List.cons_append, List.append_assoc]
      exact isChain_cons_of_ne (by simp) (first _ tail (head?_itemTokens _ _))

/-- The numbers of later members are closed when those of each value are. -/
theorem isChain_memberTokens {members : List (Content × Json)}
    (each : ∀ member ∈ members, ClosesBefore member.2) (closed : rest.IsChain Token.Precedes) :
    (memberTokens members ++ rest).IsChain Token.Precedes := by
  induction members with
  | nil => exact isChain_cons_of_ne (by simp) closed
  | cons member others inductionHypothesis =>
      obtain ⟨first, later⟩ := List.forall_mem_cons.mp each
      have tail := first _ (inductionHypothesis later) (head?_memberTokens _ _)
      rw [memberTokens, List.cons_append, List.cons_append, List.cons_append, List.append_assoc]
      exact isChain_cons_of_ne (by simp)
        (isChain_cons_of_ne (by simp) (isChain_cons_of_ne (by simp) tail))

/-- The numbers of every value are closed. -/
theorem closesBefore (json : Json) : json.ClosesBefore := by
  induction json using inductionOnParts with
  | null => exact fun rest closed _ => isChain_cons_of_ne (by simp) closed
  | boolean value => exact fun rest closed _ => isChain_cons_of_ne (by simp) closed
  | string content => exact fun rest closed _ => isChain_cons_of_ne (by simp) closed
  | number value =>
      exact fun rest closed closes =>
        List.isChain_cons.mpr ⟨fun token first _ _ => closes token first, closed⟩
  | array items each =>
      intro rest closed _
      cases items with
      | nil => exact isChain_cons_of_ne (by simp) (isChain_cons_of_ne (by simp) closed)
      | cons first others =>
          obtain ⟨head, later⟩ := List.forall_mem_cons.mp each
          have tail := head _ (isChain_itemTokens later closed) (head?_itemTokens _ _)
          rw [tokens, List.cons_append, List.append_assoc]
          exact isChain_cons_of_ne (by simp) tail
  | object members each =>
      intro rest closed _
      cases members with
      | nil => exact isChain_cons_of_ne (by simp) (isChain_cons_of_ne (by simp) closed)
      | cons first others =>
          obtain ⟨head, later⟩ := List.forall_mem_cons.mp each
          have tail := head _ (isChain_memberTokens later closed) (head?_memberTokens _ _)
          rw [tokens, List.cons_append, List.cons_append, List.cons_append, List.append_assoc]
          exact isChain_cons_of_ne (by simp)
            (isChain_cons_of_ne (by simp) (isChain_cons_of_ne (by simp) tail))

/-- The tokens of a value are read from each of its texts. -/
theorem lex?_of_isText {json : Json} {text : String} (isText : json.IsText text) :
    lex? text.toList = some json.tokens := by
  have closed := closesBefore json [] List.IsChain.nil (by simp)
  rw [List.append_nil] at closed
  exact Spaced.lexFrom_eq isText closed [] (Nat.le_refl _)

end FieldQuery.Json
