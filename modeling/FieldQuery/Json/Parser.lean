/-
This file reads JSON values from tokens and from text.
-/
import FieldQuery.Json.Lexer
import FieldQuery.Json.Value

namespace FieldQuery.Json

/-- This type contains the ways to read something at the start of a sequence of tokens. -/
abbrev Reader (Result : Type) := List Token → Option (Result × List Token)

/-- The items of an array are separated by commas up to the closing bracket. -/
def readItems (value : Reader Json) : Nat → Reader (List Json)
  | 0, _ => none
  | steps + 1, tokens =>
    match value tokens with
    | some (item, .comma :: rest) =>
      (readItems value steps rest).map fun (items, later) => (item :: items, later)
    | some (item, .closeArray :: rest) => some ([item], rest)
    | _ => none

/-- The members of an object are names and values, separated by commas up to the closing brace. -/
def readMembers (value : Reader Json) : Nat → Reader (List (Content × Json))
  | 0, _ => none
  | steps + 1, .string name :: .colon :: tokens =>
    match value tokens with
    | some (item, .comma :: rest) =>
      (readMembers value steps rest).map fun (members, later) => ((name, item) :: members, later)
    | some (item, .closeObject :: rest) => some ([(name, item)], rest)
    | _ => none
  | _ + 1, _ => none

/-- A value may contain other values up to a given depth. -/
def readValue : Nat → Reader Json
  | _, .null :: rest => some (.null, rest)
  | _, .boolean value :: rest => some (.boolean value, rest)
  | _, .number value :: rest => some (.number value, rest)
  | _, .string content :: rest => some (.string content, rest)
  | _ + 1, .openArray :: .closeArray :: rest => some (.array [], rest)
  | depth + 1, .openArray :: rest =>
    (readItems (readValue depth) rest.length rest).map fun (items, later) => (.array items, later)
  | _ + 1, .openObject :: .closeObject :: rest => some (.object [], rest)
  | depth + 1, .openObject :: rest =>
    (readMembers (readValue depth) rest.length rest).map fun (members, later) =>
      (.object members, later)
  | _, _ => none

/-- A document holds one value and nothing else; its depth is less than its number of tokens. -/
def ofTokens? (tokens : List Token) : Option Json :=
  match readValue tokens.length tokens with
  | some (value, []) => some value
  | _ => none

def parse? (text : String) : Option Json :=
  (lex? text.toList).bind ofTokens?

end FieldQuery.Json
