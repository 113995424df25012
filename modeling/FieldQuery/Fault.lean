/-
This file defines the causes for which predicates, queries and documents are refused.
-/
import FieldQuery.Expression.Basic

namespace FieldQuery

/-- Each constructor is one cause of a refusal. -/
inductive Fault where
  | notAnOperation (found : Expression)
  | argumentCount (operator : Operator) (found : Nat)
  | notAConstant (operator : Operator) (position : Nat) (found : Expression)
  | notAField (found : Expression)
  | nothingWrapped (operator : Operator)
  | noWords (value : Constant)
  | notACollection (found : Expression)
  | unsupported (operator : Operator) (arguments : List Expression)
  | orderTarget (found : Expression)
  | refusedPattern (reason : String)
  | unread (reason : String)

namespace Fault

/-- Faults lie in the arguments, in the operation, in the query, or in a document. -/
inductive Kind where
  | invalidArgument
  | unsupportedOperation
  | query
  | json
deriving DecidableEq

/-- The heading of a kind stands before the message. -/
def Kind.heading : Kind → String
  | .invalidArgument => "Invalid argument"
  | .unsupportedOperation => "Unsupported operation"
  | .query => "Query error"
  | .json => "JSON error"

def Kind.display (kind : Kind) (message : String) : String :=
  kind.heading ++ ": " ++ message

/-- Most causes lie in the arguments. -/
def kind : Fault → Kind
  | .unsupported _ _ => .unsupportedOperation
  | .refusedPattern _ => .query
  | .unread _ => .json
  | _ => .invalidArgument

/-- The message describes the cause. -/
def message : Fault → String
  | .notAnOperation found =>
    s!"expected an Operation node, got {found.kind} `{found.display}`"
  | .argumentCount operator found =>
    s!"{operator.name} expects {operator.arity} arguments, got {found}"
  | .notAConstant operator position found =>
    s!"argument {position} of {operator.name} was not of type Constant: {found.display}"
  | .notAField found => s!"Unable to transform {found.display} to field"
  | .nothingWrapped operator => s!"{operator.name}() has no argument"
  | .noWords value => s!"literal `{value.display}` contains no terms"
  | .notACollection found =>
    s!"in() expects a collection constant, got {found.kind} `{found.display}`"
  | .unsupported operator arguments =>
    s!"Illegal operation {(Expression.operation operator arguments).display}"
  | .orderTarget found => s!"sort target was not of type Path: {found.display}"
  | .refusedPattern reason => s!"Invalid wildcard pattern: {reason}"
  | .unread reason => reason

def display (fault : Fault) : String :=
  fault.kind.display fault.message

/-- What is not read from a document is refused for the reason that the reader gives. -/
def orUnread {Result : Type} (reason : String) : Option Result → Except Fault Result
  | some result => .ok result
  | none => .error (.unread reason)

end Fault

end FieldQuery
