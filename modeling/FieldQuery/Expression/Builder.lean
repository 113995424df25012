/-
This file builds predicates from smaller ones.
-/
import FieldQuery.Expression.Basic

namespace FieldQuery.Expression

/-- A comparison applies an operator to an expression and a constant. -/
def comparison (operator : Operator) (expression : Expression) (value : Constant) : Expression :=
  .operation operator [expression, .constant value]

def and (left right : Expression) : Expression := .operation .and [left, right]

def or (left right : Expression) : Expression := .operation .or [left, right]

def not (expression : Expression) : Expression := .operation .not [expression]

def lower (expression : Expression) : Expression := .operation .lower [expression]

def upper (expression : Expression) : Expression := .operation .upper [expression]

def like : Expression → Constant → Expression := comparison .like

def eq : Expression → Constant → Expression := comparison .equals

def eqIgnoreCase : Expression → Constant → Expression := comparison .equalsIgnoreCase

def ne : Expression → Constant → Expression := comparison .notEquals

def startsWith : Expression → Constant → Expression := comparison .startsWith

def startsWithIgnoreCase : Expression → Constant → Expression :=
  comparison .startsWithIgnoreCase

def endsWith : Expression → Constant → Expression := comparison .endsWith

def endsWithIgnoreCase : Expression → Constant → Expression := comparison .endsWithIgnoreCase

def contains : Expression → Constant → Expression := comparison .contains

def containsIgnoreCase : Expression → Constant → Expression := comparison .containsIgnoreCase

def between (expression : Expression) (lowest greatest : Constant) : Expression :=
  .operation .between [expression, .constant lowest, .constant greatest]

def oneOf (expression : Expression) (values : List Constant) : Expression :=
  comparison .oneOf expression (.collection values)

def ascending (expression : Expression) : OrderBy := ⟨expression, true⟩

def descending (expression : Expression) : OrderBy := ⟨expression, false⟩

end FieldQuery.Expression
