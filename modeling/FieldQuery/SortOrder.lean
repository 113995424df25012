/-
This file defines the order of field values, letters first without case and then by case, and the
keys by which documents are sorted.
-/
import FieldQuery.Text.Lowercase

namespace FieldQuery

namespace Text

/-- The folded form gives the code points of the lowercase of each character by itself. -/
def foldedCodes (text : String) : List Nat :=
  (text.toList.flatMap lowercaseChar).map Char.toNat

/-- The case weight puts every uppercase character after all others. -/
def caseWeight (character : Char) : Nat :=
  if isUppercase character then 0x110000 + character.toNat else character.toNat

/-- The case form gives the case weight of each character. -/
def caseWeights (text : String) : List Nat :=
  text.toList.map caseWeight

/-- Texts are compared by their folded forms, and by their case forms when these agree. -/
def collate (left right : String) : Ordering :=
  (compare (foldedCodes left) (foldedCodes right)).then
    (compare (caseWeights left) (caseWeights right))

end Text

/-- This structure contains a field to sort by and whether its order is reversed. -/
structure SortKey where
  field : String
  reversed : Bool
deriving DecidableEq

namespace SortKey

/-- Two values of the field are collated, and the result is reversed on demand. -/
def compare (key : SortKey) (left right : String) : Ordering :=
  if key.reversed then (Text.collate left right).swap else Text.collate left right

/-- Values are sorted so that equal ones keep their order. -/
def sort (key : SortKey) (values : List String) : List String :=
  values.mergeSort fun left right => (key.compare left right).isLE

def display (key : SortKey) : String :=
  if key.reversed then "!" ++ key.field else key.field

end SortKey

/-- This structure contains keys of falling weight. -/
structure SortOrder where
  keys : List SortKey
deriving DecidableEq

def SortOrder.display (order : SortOrder) : String :=
  ",".intercalate (order.keys.map SortKey.display)

end FieldQuery
