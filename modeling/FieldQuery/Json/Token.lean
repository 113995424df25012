/-
This file defines the tokens of a JSON document and their spelling without blanks.
-/
import FieldQuery.Number.Numeral

namespace FieldQuery.Json

open Number

/--
This type contains what a string of a document holds: a text, or nothing when one of its escapes
stands for half of a surrogate pair.
-/
abbrev Content := Option String

/-- A document is a sequence of these tokens. -/
inductive Token where
  | openArray
  | closeArray
  | openObject
  | closeObject
  | comma
  | colon
  | null
  | boolean (value : Bool)
  | number (value : Numeral)
  | string (content : Content)
deriving DecidableEq

def hexDigits : List Char :=
  ['0', '1', '2', '3', '4', '5', '6', '7', '8', '9', 'a', 'b', 'c', 'd', 'e', 'f']

/-- A control character has a short escape, or is given by its code point in four digits. -/
def escapedChar (character : Char) : List Char :=
  if character = '"' then ['\\', '"']
  else if character = '\\' then ['\\', '\\']
  else if character = '\x08' then ['\\', 'b']
  else if character = '\x0c' then ['\\', 'f']
  else if character = '\n' then ['\\', 'n']
  else if character = '\r' then ['\\', 'r']
  else if character = '\t' then ['\\', 't']
  else if character.toNat < 0x20 then
    ['\\', 'u', '0', '0', hexDigits.getD (character.toNat / 16) '0',
      hexDigits.getD (character.toNat % 16) '0']
  else [character]

/-- The content of a string stands between quotes; without content half a pair stands there. -/
def stringChars : Content → List Char
  | some text => '"' :: (text.toList.flatMap escapedChar ++ ['"'])
  | none => ['"', '\\', 'u', 'd', '8', '0', '0', '"']

/-- This function spells a token. -/
def Token.chars : Token → List Char
  | .openArray => ['[']
  | .closeArray => [']']
  | .openObject => ['\x7b']
  | .closeObject => ['\x7d']
  | .comma => [',']
  | .colon => [':']
  | .null => ['n', 'u', 'l', 'l']
  | .boolean true => ['t', 'r', 'u', 'e']
  | .boolean false => ['f', 'a', 'l', 's', 'e']
  | .number value => value.chars
  | .string content => stringChars content

end FieldQuery.Json
