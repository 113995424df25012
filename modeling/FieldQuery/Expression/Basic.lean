/-
This file defines predicates as trees of paths, constants and operations.
-/
import FieldQuery.Expression.Constant
import FieldQuery.Expression.Operator

namespace FieldQuery

/-- A node names a field, holds a constant, or applies an operator to arguments. -/
inductive Expression where
  | path (name : String)
  | constant (value : Constant)
  | operation (operator : Operator) (arguments : List Expression)

namespace Expression

/-- The kind of a node stands in messages. -/
def kind : Expression → String
  | .path _ => "Path"
  | .constant _ => "Constant"
  | .operation _ _ => "Operation"

mutual

/-- The display of an operation lists its arguments in parentheses. -/
def display : Expression → String
  | .path name => name
  | .constant value => value.display
  | .operation operator arguments =>
    operator.name ++ "(" ++ ", ".intercalate (displays arguments) ++ ")"

def displays : List Expression → List String
  | [] => []
  | first :: rest => display first :: displays rest

end

mutual

/-- Expressions are equal when they have one shape and equal leaves. -/
def equals : Expression → Expression → Bool
  | .path left, .path right => left == right
  | .constant left, .constant right => left.equals right
  | .operation left lefts, .operation right rights => left == right && equalLists lefts rights
  | _, _ => false

/-- Lists of expressions are equal when they have one length and equal members. -/
def equalLists : List Expression → List Expression → Bool
  | [], [] => true
  | left :: lefts, right :: rights => equals left right && equalLists lefts rights
  | _, _ => false

end

end Expression

/-- This structure contains an expression to order by and the direction of the order. -/
structure OrderBy where
  target : Expression
  ascending : Bool

end FieldQuery
