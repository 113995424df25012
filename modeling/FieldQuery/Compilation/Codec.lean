/-
This file writes configurations and sort orders as JSON values and reads them back.
-/
import FieldQuery.Compilation.Config
import FieldQuery.Json.Parser
import FieldQuery.Json.Record
import FieldQuery.SortOrder

namespace FieldQuery

namespace Config

def toJson (config : Config) : Json :=
  .record [("lower_case_normalization", .boolean config.foldCase)]

/-- The choice may be left out, and words then stay as they are. -/
def ofJson? : Json → Option Config
  | .array [] => some exact
  | .array [choice] => choice.boolean?.map Config.mk
  | .object members =>
    if members.all fun member => member.1.isSome then
      match members.filter fun member => member.1 == some "lower_case_normalization" with
      | [] => some exact
      | [member] => member.2.boolean?.map Config.mk
      | _ => none
    else none
  | _ => none

def parse? (text : String) : Option Config :=
  (Json.parse? text).bind ofJson?

end Config

namespace SortKey

def collationName : String := "invariant_string"

def toJson (key : SortKey) : Json :=
  .record [("field", .text key.field), ("comparator", .text collationName),
    ("reverse", .boolean key.reversed)]

/-- A sort key is a record that names the collation. -/
def ofJson? (room : Nat) (json : Json) : Option SortKey :=
  match room, json.fields? ["field", "comparator", "reverse"] with
  | inner + 1, some [field, collation, reversed] =>
    match field.text?, collation.bare? inner, reversed.boolean? with
    | some field, some name, some reversed =>
      if name = collationName then some ⟨field, reversed⟩ else none
    | _, _, _ => none
  | _, _ => none

end SortKey

namespace SortOrder

def toJson (order : SortOrder) : Json :=
  .record [("fields", .array (order.keys.map SortKey.toJson))]

/-- A sort order is one level, and the array of its keys another. -/
def ofJson? (room : Nat) (json : Json) : Option SortOrder :=
  match room, json.fields? ["fields"] with
  | inner + 2, some [keys] =>
    (keys.items?.bind (List.mapM (SortKey.ofJson? inner))).map SortOrder.mk
  | _, _ => none

def parse? (text : String) : Option SortOrder :=
  (Json.parse? text).bind (ofJson? Json.depthLimit)

end SortOrder

end FieldQuery
