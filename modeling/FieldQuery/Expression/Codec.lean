/-
This file writes expressions as JSON values and reads them back. Readers take the number of levels
of arrays and objects that may still open.
-/
import FieldQuery.Expression.Basic
import FieldQuery.Json.Parser
import FieldQuery.Json.Record
import FieldQuery.Number.Reading

namespace FieldQuery

open Number

def Operator.toJson (operator : Operator) : Json := .text operator.longName

def Operator.ofJson? (room : Nat) (json : Json) : Option Operator :=
  (json.bare? room).bind Operator.ofLongName?

namespace Constant

mutual

/-- A constant is written as a variant named for its kind. -/
def toJson : Constant → Json
  | .text value => .tagged "text" (.text value)
  | .integer value => .tagged "integer" (.number (.ofInt value.toInt))
  | .float value => .tagged "float" (.ofBinary .double value)
  | .boolean value => .tagged "boolean" (.boolean value)
  | .date value => .tagged "date" (.text value.text)
  | .collection values => .tagged "collection" (.array (toJsonItems values))

def toJsonItems : List Constant → List Json
  | [] => []
  | first :: rest => toJson first :: toJsonItems rest

end

/-- A single value is read as the kind that the variant names. -/
def single? (kind : String) (payload : Json) : Option Constant :=
  if kind = "text" then payload.text?.map .text
  else if kind = "integer" then (payload.number?.bind Numeral.int64?).map .integer
  else if kind = "float" then (payload.number?.bind Numeral.double?).map .float
  else if kind = "boolean" then payload.boolean?.map .boolean
  else if kind = "date" then (payload.text?.bind Date.ofText?).map .date
  else none

/-- A constant is one level, and a collection one more. -/
def ofJson? : Nat → Json → Option Constant
  | 0, _ => none
  | room + 1, json =>
    match json.tagged? with
    | none => none
    | some (kind, payload) =>
      if kind = "collection" then
        match room, payload.items? with
        | inner + 1, some items => (items.mapM (ofJson? inner)).map .collection
        | _, _ => none
      else single? kind payload

end Constant

namespace Expression

mutual

/-- An expression is written as a variant named for the kind of its node. -/
def toJson : Expression → Json
  | .path name => .tagged "path" (.record [("name", .text name)])
  | .constant value => .tagged "constant" value.toJson
  | .operation operator arguments =>
    .tagged "operation"
      (.record [("operator", operator.toJson), ("args", .array (toJsonItems arguments))])

def toJsonItems : List Expression → List Json
  | [] => []
  | first :: rest => toJson first :: toJsonItems rest

end

/-- A path is a record with a name. -/
def pathOfJson? (room : Nat) (payload : Json) : Option Expression :=
  match room, payload.fields? ["name"] with
  | _ + 1, some [name] => name.text?.map .path
  | _, _ => none

/-- A node is one level, its record another, and the list of arguments a third. -/
def ofJson? : Nat → Json → Option Expression
  | 0, _ => none
  | room + 1, json =>
    match json.tagged? with
    | none => none
    | some (kind, payload) =>
      if kind = "path" then pathOfJson? room payload
      else if kind = "constant" then (Constant.ofJson? room payload).map .constant
      else if kind = "operation" then
        match room, payload.fields? ["operator", "args"] with
        | inner + 2, some [operator, arguments] =>
          match Operator.ofJson? (inner + 1) operator, arguments.items? with
          | some operator, some items =>
            (items.mapM (ofJson? inner)).map (.operation operator)
          | _, _ => none
        | _, _ => none
      else none

def parse? (text : String) : Option Expression :=
  (Json.parse? text).bind (ofJson? Json.depthLimit)

end Expression

namespace OrderBy

def toJson (order : OrderBy) : Json :=
  .record [("target", order.target.toJson), ("ascending", .boolean order.ascending)]

/-- An order request is a record with a target and a direction. -/
def ofJson? (room : Nat) (json : Json) : Option OrderBy :=
  match room, json.fields? ["target", "ascending"] with
  | inner + 1, some [target, ascending] =>
    match Expression.ofJson? inner target, ascending.boolean? with
    | some target, some ascending => some ⟨target, ascending⟩
    | _, _ => none
  | _, _ => none

/-- Order requests stand in an array. -/
def listOfJson? (room : Nat) (json : Json) : Option (List OrderBy) :=
  match room, json.items? with
  | inner + 1, some items => items.mapM (ofJson? inner)
  | _, _ => none

end OrderBy

end FieldQuery
