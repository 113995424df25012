/-
This file defines full-text queries.
-/
import FieldQuery.Number.Binary

namespace FieldQuery

open Number

/-- A clause must hold, should hold, or must not hold. -/
inductive Occur where
  | must
  | should
  | mustNot
deriving DecidableEq

def Occur.all : List Occur := [.must, .should, .mustNot]

/-- A bound of a range belongs to it or not, and may be missing. -/
inductive Bound where
  | included (value : String)
  | excluded (value : String)
  | unbounded
deriving DecidableEq

namespace Bound

/-- A present bound has a value. -/
def value? : Bound → Option String
  | .included value => some value
  | .excluded value => some value
  | .unbounded => none

def isInclusive : Bound → Bool
  | .included _ => true
  | _ => false

/-- A bound given by a value is included, and a missing value leaves the range open. -/
def ofValue? : Option String → Bound
  | some value => .included value
  | none => .unbounded

end Bound

mutual

/-- A query looks for terms in a field, or combines clauses; each has a boost. -/
inductive Query where
  | term (field word : String) (boost : Single)
  | phrase (field : String) (words : List String) (boost : Single)
  | wildcard (field pattern : String) (boost : Single)
  | prefixed (field start : String) (boost : Single)
  | range (field : String) (lower upper : Bound) (boost : Single)
  | boolean (clauses : List Clause) (boost : Single)

/-- This structure contains a query and the occurrence that a boolean query asks of it. -/
structure Clause where
  occur : Occur
  query : Query

end

namespace Query

/-- A boolean query has no field of its own. -/
def field? : Query → Option String
  | .term field _ _ => some field
  | .phrase field _ _ => some field
  | .wildcard field _ _ => some field
  | .prefixed field _ _ => some field
  | .range field _ _ _ => some field
  | .boolean _ _ => none

/-- Every query has a boost. -/
def boost : Query → Single
  | .term _ _ boost => boost
  | .phrase _ _ boost => boost
  | .wildcard _ _ boost => boost
  | .prefixed _ _ boost => boost
  | .range _ _ _ boost => boost
  | .boolean _ boost => boost

/-- The boost of a query can be replaced. -/
def withBoost (query : Query) (boost : Single) : Query :=
  match query with
  | .term field word _ => .term field word boost
  | .phrase field words _ => .phrase field words boost
  | .wildcard field pattern _ => .wildcard field pattern boost
  | .prefixed field start _ => .prefixed field start boost
  | .range field lower upper _ => .range field lower upper boost
  | .boolean clauses _ => .boolean clauses boost

/-- The kind of a query names its constructor. -/
def kind : Query → String
  | .term _ _ _ => "term"
  | .phrase _ _ _ => "phrase"
  | .wildcard _ _ _ => "wildcard"
  | .prefixed _ _ _ => "prefix"
  | .range _ _ _ _ => "range"
  | .boolean _ _ => "boolean"

/-- A clause can be put behind the clauses of a boolean query. -/
def addClause? (query : Query) (clause : Clause) : Option Query :=
  match query with
  | .boolean clauses boost => some (.boolean (clauses ++ [clause]) boost)
  | _ => none

/-- All given queries become clauses with one occurrence. -/
def allWith (occur : Occur) (queries : List Query) : Query :=
  .boolean (queries.map fun query => ⟨occur, query⟩) .one

mutual

/-- Queries are equal when they have one shape and equal parts; boosts compare as numbers. -/
def equals : Query → Query → Bool
  | .term field word boost, .term otherField otherWord otherBoost =>
    field == otherField && word == otherWord && boost.equals otherBoost
  | .phrase field words boost, .phrase otherField otherWords otherBoost =>
    field == otherField && words == otherWords && boost.equals otherBoost
  | .wildcard field pattern boost, .wildcard otherField otherPattern otherBoost =>
    field == otherField && pattern == otherPattern && boost.equals otherBoost
  | .prefixed field start boost, .prefixed otherField otherStart otherBoost =>
    field == otherField && start == otherStart && boost.equals otherBoost
  | .range field lower upper boost, .range otherField otherLower otherUpper otherBoost =>
    field == otherField && lower == otherLower && upper == otherUpper &&
      boost.equals otherBoost
  | .boolean clauses boost, .boolean otherClauses otherBoost =>
    equalClauses clauses otherClauses && boost.equals otherBoost
  | _, _ => false

/-- Lists of clauses are equal when they have one length and equal members. -/
def equalClauses : List Clause → List Clause → Bool
  | [], [] => true
  | ⟨occur, query⟩ :: rest, ⟨otherOccur, otherQuery⟩ :: otherRest =>
    occur == otherOccur && equals query otherQuery && equalClauses rest otherRest
  | _, _ => false

end

end Query

def Clause.withOccur (occur : Occur) (clauses : List Clause) : List Clause :=
  clauses.filter fun clause => clause.occur == occur

end FieldQuery
