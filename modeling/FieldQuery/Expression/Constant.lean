/-
This file defines the constants of predicates and the text that stands for them.
-/
import FieldQuery.Calendar
import FieldQuery.Number.Layout

namespace FieldQuery

/-- A constant is a single value or a collection of constants. -/
inductive Constant where
  | text (value : String)
  | integer (value : Int64)
  | float (value : Number.Double)
  | boolean (value : Bool)
  | date (value : Date)
  | collection (values : List Constant)

namespace Constant

mutual

/-- The display of a constant is the text from which words are taken. -/
def display : Constant → String
  | .text value => value
  | .integer value => (Number.Numeral.ofInt value.toInt).text
  | .float value => value.text
  | .boolean true => "true"
  | .boolean false => "false"
  | .date value => value.text
  | .collection values => ", ".intercalate (displays values)

def displays : List Constant → List String
  | [] => []
  | first :: rest => display first :: displays rest

end

mutual

/-- Constants are equal when they have one kind and equal values; floats compare as numbers. -/
def equals : Constant → Constant → Bool
  | .text left, .text right => left == right
  | .integer left, .integer right => left == right
  | .float left, .float right => left.equals right
  | .boolean left, .boolean right => left == right
  | .date left, .date right => left == right
  | .collection left, .collection right => equalLists left right
  | _, _ => false

/-- Lists of constants are equal when they have one length and equal members. -/
def equalLists : List Constant → List Constant → Bool
  | [], [] => true
  | left :: lefts, right :: rights => equals left right && equalLists lefts rights
  | _, _ => false

end

def members? : Constant → Option (List Constant)
  | .collection values => some values
  | _ => none

end Constant

end FieldQuery
