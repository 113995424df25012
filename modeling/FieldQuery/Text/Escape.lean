/-
This file defines the characters that query syntax reserves and the escape that makes them literal.
-/

namespace FieldQuery.Text

/-- These characters have a meaning of their own in query syntax. -/
def reserved : List Char :=
  ['\\', '+', '-', '!', '(', ')', ':', '^', '[', ']', '"', '\x7b', '\x7d', '~', '*', '?', '|', '&']

/-- The escape of one character puts a backslash before a reserved one. -/
def escapeChar (character : Char) : List Char :=
  if character ∈ reserved then ['\\', character] else [character]

def escapeChars (characters : List Char) : List Char :=
  characters.flatMap escapeChar

def escape (text : String) : String :=
  String.ofList (escapeChars text.toList)

@[simp] theorem escapeChars_nil : escapeChars [] = [] := rfl

@[simp] theorem escapeChars_cons (character : Char) (rest : List Char) :
    escapeChars (character :: rest) = escapeChar character ++ escapeChars rest := rfl

@[simp] theorem escapeChars_append (left right : List Char) :
    escapeChars (left ++ right) = escapeChars left ++ escapeChars right := by
  simp [escapeChars]

end FieldQuery.Text
