/-
This file writes queries in query syntax.
-/
import FieldQuery.Query.Basic
import FieldQuery.Number.Layout
import FieldQuery.Text.Escape

namespace FieldQuery

open Number

/-- The mark of an occurrence stands before a clause. -/
def Occur.mark : Occur → String
  | .must => "+"
  | .should => ""
  | .mustNot => "-"

namespace Query

/-- A boost is written after a circumflex unless it is one. -/
def boostSuffix (boost : Single) : String :=
  if boost.equals .one then "" else "^" ++ boost.text

/-- A missing bound is written as a star. -/
def boundText (bound : Bound) : String :=
  bound.value?.getD "*"

/-- Square brackets stand at included bounds, and braces at all others. -/
def rangeText (lower upper : Bound) : String :=
  (if lower.isInclusive then "[" else "\x7b") ++ boundText lower ++ " TO " ++ boundText upper ++
    (if upper.isInclusive then "]" else "\x7d")

/-- A boolean query inside another one stands in parentheses, and an empty one shows nothing else. -/
def nested (query : Query) (text : String) : String :=
  match query with
  | .boolean [] _ => "()"
  | .boolean _ _ => "(" ++ text ++ ")"
  | _ => text

/-- A boosted boolean query stands in parentheses. -/
def boostedBody (body : String) (boost : Single) : String :=
  if boost.equals .one then body else "(" ++ body ++ ")^" ++ boost.text

mutual

/-- Words are escaped, and patterns, starts and bounds are written as they are. -/
def render : Query → String
  | .term field word boost => field ++ ":" ++ Text.escape word ++ boostSuffix boost
  | .phrase field words boost =>
    field ++ ":\"" ++ " ".intercalate (words.map Text.escape) ++ "\"" ++ boostSuffix boost
  | .wildcard field pattern boost => field ++ ":" ++ pattern ++ boostSuffix boost
  | .prefixed field start boost => field ++ ":" ++ start ++ "*" ++ boostSuffix boost
  | .range field lower upper boost =>
    field ++ ":" ++ rangeText lower upper ++ boostSuffix boost
  | .boolean clauses boost => boostedBody (" ".intercalate (renderClauses clauses)) boost

def renderClauses : List Clause → List String
  | [] => []
  | ⟨occur, query⟩ :: rest => (occur.mark ++ nested query (render query)) :: renderClauses rest

end

end Query

end FieldQuery
