/-
This file defines JSON values and the tokens that write them.
-/
import FieldQuery.Json.Token

namespace FieldQuery

/-- This type contains the values of JSON; the members of an object keep their order. -/
inductive Json where
  | null
  | boolean (value : Bool)
  | number (value : Number.Numeral)
  | string (content : Json.Content)
  | array (items : List Json)
  | object (members : List (Json.Content × Json))

namespace Json

def text (value : String) : Json := .string (some value)

/-- A record is written as an object with its fields in order. -/
def record (fields : List (String × Json)) : Json :=
  .object (fields.map fun field => (some field.1, field.2))

/-- A variant with a payload is written as an object with the name of the variant as its key. -/
def tagged (name : String) (payload : Json) : Json :=
  record [(name, payload)]

mutual

/-- This function writes a value as tokens. -/
def tokens : Json → List Token
  | .null => [.null]
  | .boolean value => [.boolean value]
  | .number value => [.number value]
  | .string content => [.string content]
  | .array [] => [.openArray, .closeArray]
  | .array (first :: rest) => .openArray :: (tokens first ++ itemTokens rest)
  | .object [] => [.openObject, .closeObject]
  | .object ((name, value) :: rest) =>
    .openObject :: .string name :: .colon :: (tokens value ++ memberTokens rest)

/-- Every later item follows a comma, and the last one is followed by the closing bracket. -/
def itemTokens : List Json → List Token
  | [] => [.closeArray]
  | item :: rest => .comma :: (tokens item ++ itemTokens rest)

/-- Every later member follows a comma, and the last one is followed by the closing brace. -/
def memberTokens : List (Content × Json) → List Token
  | [] => [.closeObject]
  | (name, value) :: rest =>
    .comma :: .string name :: .colon :: (tokens value ++ memberTokens rest)

end

/-- The text of a value spells its tokens with nothing between them. -/
def toText (value : Json) : String :=
  String.ofList (value.tokens.flatMap Token.chars)

end Json

end FieldQuery
