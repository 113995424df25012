/-
This file defines the lowercase of a text, in which a capital sigma looks at its neighbours.
-/
import FieldQuery.Text.CaseData

namespace FieldQuery.Text

/-- A cased character is a letter that has a case, or stands in place of such a letter. -/
def isCased (character : Char) : Bool :=
  casedRanges.contains character

/-- A case-ignorable character is skipped in the search for a cased neighbour. -/
def isCaseIgnorable (character : Char) : Bool :=
  ignorableRanges.contains character

/-- An uppercase character has the Unicode property Uppercase. -/
def isUppercase (character : Char) : Bool :=
  uppercaseRanges.contains character

/-- The lowercase of one character is one character, or two for a capital I with a dot. -/
def lowercaseChar (character : Char) : List Char :=
  if character = 'İ' then ['i', '\u0307'] else
    match lowercaseShifts.find? fun shift => shift.range.contains character.toNat with
    | some shift => [Char.ofNat (character.toNat + shift.distance).toNat]
    | none => [character]

/-- The character on the right is cased when ignorable characters are skipped. -/
def startsCased : List Char → Bool
  | [] => false
  | character :: rest =>
    if isCaseIgnorable character then startsCased rest else isCased character

/-- A character on the left decides whether a cased one precedes, unless it is ignorable. -/
def followsCased (before : Bool) (character : Char) : Bool :=
  if isCaseIgnorable character then before else isCased character

/-- A capital sigma is final when a cased character precedes it and none follows. -/
def lowercaseIn (before : Bool) (character : Char) (rest : List Char) : List Char :=
  if character = 'Σ' then
    if before && !startsCased rest then ['ς'] else ['σ']
  else lowercaseChar character

/-- This function gives the lowercase of a sequence that stands after `before`. -/
def lowercaseFrom (before : Bool) : List Char → List Char
  | [] => []
  | character :: rest =>
    lowercaseIn before character rest ++ lowercaseFrom (followsCased before character) rest

/-- The lowercase of a sequence starts with no cased character on the left. -/
def lowercaseChars (characters : List Char) : List Char :=
  lowercaseFrom false characters

def lowercase (text : String) : String :=
  String.ofList (lowercaseChars text.toList)

@[simp] theorem lowercaseFrom_nil (before : Bool) : lowercaseFrom before [] = [] := rfl

theorem lowercaseFrom_cons (before : Bool) (character : Char) (rest : List Char) :
    lowercaseFrom before (character :: rest) =
      lowercaseIn before character rest ++
        lowercaseFrom (followsCased before character) rest := rfl

end FieldQuery.Text
