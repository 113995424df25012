/-
This file writes queries as JSON values and reads them back. Readers take the number of levels of
arrays and objects that may still open.
-/
import FieldQuery.Json.Parser
import FieldQuery.Json.Record
import FieldQuery.Number.Reading
import FieldQuery.Query.Basic

namespace FieldQuery

open Number

namespace Occur

/-- The long name of an occurrence stands in JSON documents. -/
def longName : Occur → String
  | .must => "must"
  | .should => "should"
  | .mustNot => "must_not"

def ofLongName? (text : String) : Option Occur :=
  all.find? fun occur => occur.longName == text

def toJson (occur : Occur) : Json := .text occur.longName

def ofJson? (room : Nat) (json : Json) : Option Occur :=
  (json.bare? room).bind ofLongName?

end Occur

namespace Bound

def toJson : Bound → Json
  | .included value => .tagged "included" (.text value)
  | .excluded value => .tagged "excluded" (.text value)
  | .unbounded => .text "unbounded"

/-- A present bound is one level. -/
def presentOfJson? (room : Nat) (json : Json) : Option Bound :=
  match room, json.tagged? with
  | _ + 1, some (kind, payload) =>
    if kind = "included" then payload.text?.map .included
    else if kind = "excluded" then payload.text?.map .excluded
    else none
  | _, _ => none

def ofJson? (room : Nat) (json : Json) : Option Bound :=
  if json.bare? room = some "unbounded" then some .unbounded else presentOfJson? room json

end Bound

namespace Query

/-- A boost is read from any number within the finite range of double numbers. -/
def boostOfJson? (json : Json) : Option Single :=
  json.number?.bind Numeral.single?

mutual

/-- A query is written as a variant named for its kind. -/
def toJson : Query → Json
  | .term field word boost =>
    .tagged "term"
      (.record [("field", .text field), ("term", .text word), ("boost", .ofBinary .single boost)])
  | .phrase field words boost =>
    .tagged "phrase"
      (.record [("field", .text field), ("terms", .array (words.map .text)),
        ("boost", .ofBinary .single boost)])
  | .wildcard field pattern boost =>
    .tagged "wildcard"
      (.record [("field", .text field), ("pattern", .text pattern),
        ("boost", .ofBinary .single boost)])
  | .prefixed field start boost =>
    .tagged "prefix"
      (.record [("field", .text field), ("prefix", .text start), ("boost", .ofBinary .single boost)])
  | .range field lower upper boost =>
    .tagged "range"
      (.record [("field", .text field), ("lower_bound", lower.toJson),
        ("upper_bound", upper.toJson), ("boost", .ofBinary .single boost)])
  | .boolean clauses boost =>
    .tagged "boolean"
      (.record [("clauses", .array (clausesToJson clauses)), ("boost", .ofBinary .single boost)])

/-- A clause is written as a record of its query and its occurrence. -/
def clausesToJson : List Clause → List Json
  | [] => []
  | ⟨occur, query⟩ :: rest =>
    .record [("query", toJson query), ("occur", occur.toJson)] :: clausesToJson rest

end

/-- A query with a field, one text and a boost is a record of the three. -/
def textual? (name : String) (build : String → String → Single → Query) (payload : Json) :
    Option Query :=
  match payload.fields? ["field", name, "boost"] with
  | some [field, text, boost] =>
    match field.text?, text.text?, boostOfJson? boost with
    | some field, some text, some boost => some (build field text boost)
    | _, _, _ => none
  | _ => none

/-- A phrase holds an array of texts, which is one more level. -/
def phrase? (room : Nat) (payload : Json) : Option Query :=
  match room, payload.fields? ["field", "terms", "boost"] with
  | _ + 1, some [field, words, boost] =>
    match field.text?, words.items?.bind (List.mapM Json.text?), boostOfJson? boost with
    | some field, some words, some boost => some (.phrase field words boost)
    | _, _, _ => none
  | _, _ => none

/-- A range holds two bounds. -/
def range? (room : Nat) (payload : Json) : Option Query :=
  match payload.fields? ["field", "lower_bound", "upper_bound", "boost"] with
  | some [field, lower, upper, boost] =>
    match field.text?, Bound.ofJson? room lower, Bound.ofJson? room upper, boostOfJson? boost with
    | some field, some lower, some upper, some boost => some (.range field lower upper boost)
    | _, _, _, _ => none
  | _ => none

/-- Every kind of query but the boolean one has a record with a field. -/
def fielded? (room : Nat) (kind : String) (payload : Json) : Option Query :=
  if kind = "term" then textual? "term" .term payload
  else if kind = "phrase" then phrase? room payload
  else if kind = "wildcard" then textual? "pattern" .wildcard payload
  else if kind = "prefix" then textual? "prefix" .prefixed payload
  else if kind = "range" then range? room payload
  else none

/-- A clause is a record whose query is read by a given reader. -/
def clause? (room : Nat) (query? : Json → Option Query) (json : Json) : Option Clause :=
  match json.fields? ["query", "occur"] with
  | some [query, occur] =>
    match query? query, Occur.ofJson? room occur with
    | some query, some occur => some ⟨occur, query⟩
    | _, _ => none
  | _ => none

/-- A boolean query is one level, its record another, the clauses a third and each clause a fourth. -/
def ofJson? : Nat → Json → Option Query
  | room + 2, json =>
    match json.tagged? with
    | none => none
    | some (kind, payload) =>
      if kind = "boolean" then
        match payload.fields? ["clauses", "boost"] with
        | some [clauses, boost] =>
          match room, clauses.items?, boostOfJson? boost with
          | _ + 1, some [], some boost => some (.boolean [] boost)
          | inner + 2, some items, some boost =>
            (items.mapM (clause? inner (ofJson? inner))).map fun clauses =>
              .boolean clauses boost
          | _, _, _ => none
        | _ => none
      else fielded? room kind payload
  | _, _ => none

def parse? (text : String) : Option Query :=
  (Json.parse? text).bind (ofJson? Json.depthLimit)

end Query

end FieldQuery
