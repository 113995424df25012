/-
This file defines the operators of predicates.
-/

namespace FieldQuery

/-- These operators combine predicates, compare fields with constants, or wrap a field. -/
inductive Operator where
  | or
  | and
  | not
  | like
  | equals
  | equalsPrimitive
  | equalsIgnoreCase
  | notEquals
  | notEqualsPrimitive
  | startsWith
  | startsWithIgnoreCase
  | endsWith
  | endsWithIgnoreCase
  | contains
  | containsIgnoreCase
  | between
  | oneOf
  | lower
  | upper
  | lessThan
  | lessOrEqual
  | greaterThan
  | greaterOrEqual
  | isNull
  | isNotNull
  | matching
deriving DecidableEq

namespace Operator

/-- This list contains every operator in its usual order. -/
def all : List Operator :=
  [or, and, not, like, equals, equalsPrimitive, equalsIgnoreCase, notEquals, notEqualsPrimitive,
    startsWith, startsWithIgnoreCase, endsWith, endsWithIgnoreCase, contains, containsIgnoreCase,
    between, oneOf, lower, upper, lessThan, lessOrEqual, greaterThan, greaterOrEqual, isNull,
    isNotNull, matching]

/-- The short name stands in displays and messages. -/
def name : Operator → String
  | or => "or"
  | and => "and"
  | not => "not"
  | like => "like"
  | equals => "eq"
  | equalsPrimitive => "eq_primitive"
  | equalsIgnoreCase => "eq_ignore_case"
  | notEquals => "ne"
  | notEqualsPrimitive => "ne_primitive"
  | startsWith => "starts_with"
  | startsWithIgnoreCase => "starts_with_ic"
  | endsWith => "ends_with"
  | endsWithIgnoreCase => "ends_with_ic"
  | contains => "contains"
  | containsIgnoreCase => "contains_ic"
  | between => "between"
  | oneOf => "in"
  | lower => "lower"
  | upper => "upper"
  | lessThan => "lt"
  | lessOrEqual => "loe"
  | greaterThan => "gt"
  | greaterOrEqual => "goe"
  | isNull => "is_null"
  | isNotNull => "is_not_null"
  | matching => "matches"

/-- The long name stands in JSON documents. -/
def longName : Operator → String
  | or => "or"
  | and => "and"
  | not => "not"
  | like => "like"
  | equals => "equals"
  | equalsPrimitive => "equals_primitive"
  | equalsIgnoreCase => "equals_ignore_case"
  | notEquals => "not_equals"
  | notEqualsPrimitive => "not_equals_primitive"
  | startsWith => "starts_with"
  | startsWithIgnoreCase => "starts_with_ignore_case"
  | endsWith => "ends_with"
  | endsWithIgnoreCase => "ends_with_ignore_case"
  | contains => "contains"
  | containsIgnoreCase => "contains_ignore_case"
  | between => "between"
  | oneOf => "in"
  | lower => "lower"
  | upper => "upper"
  | lessThan => "less_than"
  | lessOrEqual => "less_or_equal"
  | greaterThan => "greater_than"
  | greaterOrEqual => "greater_or_equal"
  | isNull => "is_null"
  | isNotNull => "is_not_null"
  | matching => "matches"

def ofLongName? (text : String) : Option Operator :=
  all.find? fun operator => operator.longName == text

/-- The arity is the number of arguments that an operation with this operator carries. -/
def arity : Operator → Nat
  | not | lower | upper | isNull | isNotNull => 1
  | between => 3
  | _ => 2

/-- A case-folding operator wraps a field without changing which field it is. -/
def isCaseFolding : Operator → Bool
  | lower | upper => true
  | _ => false

theorem mem_all (operator : Operator) : operator ∈ all := by
  cases operator <;> decide

@[simp] theorem ofLongName?_longName (operator : Operator) :
    ofLongName? operator.longName = some operator := by
  cases operator <;> decide

end Operator

end FieldQuery
