/-
This file reads the tokens of a JSON document.
-/
import FieldQuery.Json.Token

namespace FieldQuery.Json

open Number

/-- A piece of a string is a character, or one unit of a surrogate pair given by an escape. -/
inductive Piece where
  | plain (character : Char)
  | unit (code : Nat)
deriving DecidableEq

/-- A hexadecimal digit may be a small or a capital letter. -/
def hexValue? (character : Char) : Option Nat :=
  let code := character.toNat
  if 48 ≤ code ∧ code < 58 then some (code - 48)
  else if 97 ≤ code ∧ code < 103 then some (code - 87)
  else if 65 ≤ code ∧ code < 71 then some (code - 55)
  else none

/-- Four hexadecimal digits give one unit. -/
def unitCode? (first second third fourth : Char) : Option Nat :=
  match hexValue? first, hexValue? second, hexValue? third, hexValue? fourth with
  | some a, some b, some c, some d => some (((a * 16 + b) * 16 + c) * 16 + d)
  | _, _, _, _ => none

/-- These characters stand for themselves or for a control character after a backslash. -/
def simpleEscape? (character : Char) : Option Char :=
  if character = '"' then some '"'
  else if character = '\\' then some '\\'
  else if character = '/' then some '/'
  else if character = 'b' then some '\x08'
  else if character = 'f' then some '\x0c'
  else if character = 'n' then some '\n'
  else if character = 'r' then some '\r'
  else if character = 't' then some '\t'
  else none

/-- The pieces of a string reach up to its closing quote; a raw control character is refused. -/
def stringPieces (before : List Piece) : List Char → Option (List Piece × List Char)
  | [] => none
  | '"' :: rest => some (before.reverse, rest)
  | '\\' :: 'u' :: first :: second :: third :: fourth :: rest =>
    match unitCode? first second third fourth with
    | some code => stringPieces (.unit code :: before) rest
    | none => none
  | '\\' :: mark :: rest =>
    match simpleEscape? mark with
    | some character => stringPieces (.plain character :: before) rest
    | none => none
  | character :: rest =>
    if character.toNat < 0x20 ∨ character = '\\' then none
    else stringPieces (.plain character :: before) rest

/-- Two units make up a character when the first is a high one and the second a low one. -/
def pairedChar (high low : Nat) : Char :=
  Char.ofNat (0x10000 + (high - 0xD800) * 0x400 + (low - 0xDC00))

/-- The pieces spell a text when every high unit is followed by a low one and no other low is. -/
def joinPieces (before : List Char) : List Piece → Option (List Char)
  | [] => some before.reverse
  | .plain character :: rest => joinPieces (character :: before) rest
  | .unit code :: rest =>
    if code < 0xD800 ∨ 0xDFFF < code then joinPieces (Char.ofNat code :: before) rest
    else if code < 0xDC00 then
      match rest with
      | .unit low :: later =>
        if 0xDC00 ≤ low ∧ low ≤ 0xDFFF then joinPieces (pairedChar code low :: before) later
        else none
      | _ => none
    else none

/-- The content of a string comes from its pieces. -/
def contentOf (pieces : List Piece) : Content :=
  (joinPieces [] pieces).map String.ofList

/-- The fraction of a numeral is a point and at least one digit, or nothing. -/
def fractionPart? : List Char → Option DigitRun
  | '.' :: rest =>
    match digitRun rest with
    | ⟨[], _⟩ => none
    | run => some run
  | rest => some ⟨[], rest⟩

/-- The exponent of a numeral is a letter e, perhaps a sign, and at least one digit, or nothing. -/
def exponentPart? : List Char → Option (Option Int × List Char)
  | [] => some (none, [])
  | mark :: rest =>
    if mark = 'e' ∨ mark = 'E' then
      let (negative, characters) := signed rest
      match digitRun characters with
      | ⟨[], _⟩ => none
      | ⟨digits, later⟩ =>
        let value : Int := Digit.value 0 digits
        some (some (if negative then -value else value), later)
    else some (none, mark :: rest)

/-- The whole part of a numeral has at least one digit, and starts with zero only if it is zero. -/
def numeral? (negative : Bool) (characters : List Char) : Option (Numeral × List Char) :=
  let run := digitRun characters
  let whole? : Option Nat := match run.digits with
    | [] => none
    | [digit] => some digit.val
    | first :: rest => if first.val = 0 then none else some (Digit.value first.val rest)
  match whole?, fractionPart? run.rest with
  | some whole, some fraction =>
    match exponentPart? fraction.rest with
    | some (exponent, rest) => some (⟨negative, whole, fraction.digits, exponent⟩, rest)
    | none => none
  | _, _ => none

/-- This function reads one token at the start of a sequence of characters. -/
def token? : List Char → Option (Token × List Char)
  | '[' :: rest => some (.openArray, rest)
  | ']' :: rest => some (.closeArray, rest)
  | '\x7b' :: rest => some (.openObject, rest)
  | '\x7d' :: rest => some (.closeObject, rest)
  | ',' :: rest => some (.comma, rest)
  | ':' :: rest => some (.colon, rest)
  | 'n' :: 'u' :: 'l' :: 'l' :: rest => some (.null, rest)
  | 't' :: 'r' :: 'u' :: 'e' :: rest => some (.boolean true, rest)
  | 'f' :: 'a' :: 'l' :: 's' :: 'e' :: rest => some (.boolean false, rest)
  | '"' :: rest => (stringPieces [] rest).map fun (pieces, later) => (.string (contentOf pieces), later)
  | '-' :: rest => (numeral? true rest).map fun (value, later) => (.number value, later)
  | rest => (numeral? false rest).map fun (value, later) => (.number value, later)

/-- These characters may stand between tokens. -/
def isInsignificant (character : Char) : Bool :=
  character == ' ' || character == '\t' || character == '\n' || character == '\r'

/-- The tokens are read one by one; every step uses up at least one character. -/
def lexFrom : Nat → List Token → List Char → Option (List Token)
  | _, before, [] => some before.reverse
  | 0, _, _ :: _ => none
  | steps + 1, before, character :: rest =>
    if isInsignificant character then lexFrom steps before rest
    else match token? (character :: rest) with
      | some (token, later) => lexFrom steps (token :: before) later
      | none => none

def lex? (characters : List Char) : Option (List Token) :=
  lexFrom characters.length [] characters

end FieldQuery.Json
