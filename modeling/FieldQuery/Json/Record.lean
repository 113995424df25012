/-
This file takes JSON values apart into the fields of records and the payloads of variants.
-/
import FieldQuery.Json.Value
import FieldQuery.Number.Layout

namespace FieldQuery.Json

/-- A finite number is written as a numeral, and any other one as null. -/
def ofBinary {format : Number.Format} (layout : Number.Layout) (number : Number.Binary format) :
    Json :=
  match number.numeral? layout with
  | some numeral => .number numeral
  | none => .null

def text? : Json → Option String
  | .string content => content
  | _ => none

def boolean? : Json → Option Bool
  | .boolean value => some value
  | _ => none

def items? : Json → Option (List Json)
  | .array items => some items
  | _ => none

def number? : Json → Option Number.Numeral
  | .number value => some value
  | _ => none

/-- A field is read only when exactly one member has its name. -/
def field? (name : String) (members : List (Content × Json)) : Option Json :=
  match members.filter fun member => member.1 == some name with
  | [member] => some member.2
  | _ => none

/--
The fields of a record stand in an array in their order, or in an object under their names. Other
members of the object are passed over, but every member must have a name.
-/
def fields? (names : List String) : Json → Option (List Json)
  | .array items => if items.length = names.length then some items else none
  | .object members =>
    if members.all fun member => member.1.isSome then
      names.mapM fun name => field? name members
    else none
  | _ => none

/-- A variant with a payload is the only member of an object. -/
def tagged? : Json → Option (String × Json)
  | .object [(some name, payload)] => some (name, payload)
  | _ => none

/--
A variant without a payload is a string, or the only member of an object with the value null. The
object needs room for one more level.
-/
def bare? (room : Nat) : Json → Option String
  | .string content => content
  | .object [(some name, .null)] => if room = 0 then none else some name
  | _ => none

/-- This many levels of arrays and objects may stand inside each other where values are read. -/
def depthLimit : Nat := 127

end FieldQuery.Json
