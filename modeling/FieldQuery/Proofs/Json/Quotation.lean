/-
This file proves that strings are read from their characters, with any escapes.
-/
import FieldQuery.Json.Lexer
import Mathlib.Data.List.Forall2

namespace FieldQuery.Json

theorem hexValue?_hexDigits {value : Nat} (small : value < 16) :
    hexValue? (hexDigits.getD value '0') = some value := by
  have all : ∀ value < 16, hexValue? (hexDigits.getD value '0') = some value := by decide
  exact all value small

/-- A control character is read back from its four digits. -/
theorem unitCode?_hexDigits {code : Nat} (control : code < 0x20) :
    unitCode? '0' '0' (hexDigits.getD (code / 16) '0') (hexDigits.getD (code % 16) '0') =
      some code := by
  have high : hexValue? (hexDigits.getD (code / 16) '0') = some (code / 16) :=
    hexValue?_hexDigits (by omega)
  have low : hexValue? (hexDigits.getD (code % 16) '0') = some (code % 16) :=
    hexValue?_hexDigits (by omega)
  have zero : hexValue? '0' = some 0 := rfl
  simp only [unitCode?, high, low, zero, Option.some.injEq]
  omega

/-- A piece spells a character when it adds exactly this character to a text. -/
def Piece.Spells (piece : Piece) (character : Char) : Prop :=
  ∀ before later, joinPieces before (piece :: later) = joinPieces (character :: before) later

theorem Piece.spells_plain (character : Char) : (Piece.plain character).Spells character := by
  intro before later
  rw [joinPieces]

/-- A unit below all surrogates spells the character with its code point. -/
theorem Piece.spells_unit {character : Char} (control : character.toNat < 0x20) :
    (Piece.unit character.toNat).Spells character := by
  intro before later
  rw [joinPieces.eq_def]
  simp only [Char.ofNat_toNat]
  exact if_pos (.inl (by omega))

/-- A backslash and a mark are one plain piece. -/
theorem stringPieces_backslash_cons {mark character : Char}
    (found : simpleEscape? mark = some character) (notUnit : mark ≠ 'u') (before : List Piece)
    (rest : List Char) :
    stringPieces before ('\\' :: mark :: rest) =
      stringPieces (.plain character :: before) rest := by
  rw [stringPieces]
  · simp only [found]
  · exact fun _ _ _ _ _ same _ => notUnit same

/-- A character that needs no escape is one plain piece. -/
theorem stringPieces_cons {character : Char} (notQuote : character ≠ '"')
    (notBackslash : character ≠ '\\') (printed : ¬ character.toNat < 0x20) (before : List Piece)
    (rest : List Char) :
    stringPieces before (character :: rest) = stringPieces (.plain character :: before) rest := by
  rw [stringPieces]
  · exact if_neg (not_or.mpr ⟨printed, notBackslash⟩)
  · exact notQuote
  · exact fun _ _ _ _ _ same _ => notBackslash same
  · exact fun _ _ same _ => notBackslash same

/-- A piece is a printed character, a mark behind a backslash, or four digits behind a u. -/
inductive Piece.HasText : Piece → List Char → Prop where
  | printed {character : Char} (notQuote : character ≠ '"') (notBackslash : character ≠ '\\')
      (printed : ¬ character.toNat < 0x20) : HasText (.plain character) [character]
  | marked {mark character : Char} (found : simpleEscape? mark = some character) :
      HasText (.plain character) ['\\', mark]
  | unit {first second third fourth : Char} {code : Nat}
      (found : unitCode? first second third fourth = some code) :
      HasText (.unit code) ['\\', 'u', first, second, third, fourth]

/-- A piece is read from each of its texts. -/
theorem stringPieces_append {piece : Piece} {characters : List Char}
    (text : piece.HasText characters) (before : List Piece) (rest : List Char) :
    stringPieces before (characters ++ rest) = stringPieces (piece :: before) rest := by
  cases text with
  | printed notQuote notBackslash printed =>
      exact stringPieces_cons notQuote notBackslash printed before rest
  | marked found =>
      refine stringPieces_backslash_cons found ?_ before rest
      rintro rfl
      cases found
  | unit found => simp only [List.cons_append, List.nil_append, stringPieces, found]

/-- All pieces are read up to the closing quote. -/
theorem stringPieces_flatten {pieces : List Piece} {texts : List (List Char)}
    (each : List.Forall₂ Piece.HasText pieces texts) (before : List Piece) (rest : List Char) :
    stringPieces before (texts.flatten ++ '"' :: rest) = some (before.reverse ++ pieces, rest) := by
  induction each generalizing before with
  | nil => simp [stringPieces]
  | cons first _ inductionHypothesis =>
      rw [List.flatten_cons, List.append_assoc, stringPieces_append first, inductionHypothesis,
        List.reverse_cons, List.append_assoc, List.singleton_append]

/-- A string stands between quotes, and its pieces make up its content. -/
def IsQuotation (content : Content) (characters : List Char) : Prop :=
  ∃ pieces texts, List.Forall₂ Piece.HasText pieces texts ∧ contentOf pieces = content ∧
    characters = '"' :: (texts.flatten ++ ['"'])

/-- A string is read from every spelling of it. -/
theorem token?_string {content : Content} {characters : List Char}
    (text : IsQuotation content characters) (rest : List Char) :
    token? (characters ++ rest) = some (.string content, rest) := by
  obtain ⟨pieces, texts, each, rfl, rfl⟩ := text
  rw [List.cons_append, List.append_assoc, List.singleton_append, token?,
    stringPieces_flatten each]
  rfl

/-- Every character is written as a piece that spells it. -/
theorem exists_hasText_escapedChar (character : Char) :
    ∃ piece : Piece, piece.Spells character ∧ piece.HasText (escapedChar character) := by
  have marked {mark : Char} (found : simpleEscape? mark = some character) :
      ∃ piece : Piece, piece.Spells character ∧ piece.HasText ['\\', mark] :=
    ⟨_, Piece.spells_plain character, .marked found⟩
  unfold escapedChar
  -- These seven characters have marks of their own.
  iterate 7
    split
    · subst_vars
      exact marked rfl
  split
  · rename_i control
    exact ⟨_, Piece.spells_unit control, .unit (unitCode?_hexDigits control)⟩
  · rename_i notQuote notBackslash _ _ _ _ _ printed
    exact ⟨_, Piece.spells_plain character, .printed notQuote notBackslash printed⟩

/-- The pieces of the written characters make up a text. -/
theorem exists_pieces (characters : List Char) : ∃ pieces : List Piece,
    List.Forall₂ Piece.HasText pieces (characters.map escapedChar) ∧
    ∀ before, joinPieces before pieces = some (before.reverse ++ characters) := by
  induction characters with
  | nil => exact ⟨[], .nil, by simp [joinPieces]⟩
  | cons character others inductionHypothesis =>
      obtain ⟨piece, spells, text⟩ := exists_hasText_escapedChar character
      obtain ⟨pieces, each, joined⟩ := inductionHypothesis
      refine ⟨piece :: pieces, .cons text each, fun before => ?_⟩
      rw [spells, joined, List.reverse_cons, List.append_assoc, List.singleton_append]

/-- A string is spelled by the characters that write it. -/
theorem isQuotation_stringChars (content : Content) :
    IsQuotation content (stringChars content) := by
  cases content with
  | none =>
      exact ⟨[.unit 0xD800], [['\\', 'u', 'd', '8', '0', '0']], .cons (.unit rfl) .nil, rfl, rfl⟩
  | some text =>
      obtain ⟨pieces, each, joined⟩ := exists_pieces text.toList
      refine ⟨pieces, _, each, ?_, ?_⟩
      · simp [contentOf, joined]
      · rw [stringChars, List.flatMap_def]

end FieldQuery.Json
