/-
This file compiles the comparison of a field with constants.
-/
import FieldQuery.Compilation.Config
import FieldQuery.Fault
import FieldQuery.Query.Basic
import FieldQuery.Text.Escape
import FieldQuery.Text.Words

namespace FieldQuery

/-- A path is the name of its field, also under operators that fold its case. -/
def Expression.fieldName : Expression → Except Fault String
  | .path name => .ok name
  | .constant value => .error (.notAField (.constant value))
  | .operation operator arguments =>
    if operator.isCaseFolding then
      match arguments with
      | [] => .error (.nothingWrapped operator)
      | inner :: _ => inner.fieldName
    else .error (.notAField (.operation operator arguments))

/-- A constant without words is refused. -/
def Constant.words (value : Constant) : Except Fault (List String) :=
  match Text.words value.display with
  | [] => .error (.noWords value)
  | first :: rest => .ok (first :: rest)

/-- The escaped words of a constant are those of its escaped display. -/
def Constant.escapedWords (value : Constant) : Except Fault (List String) :=
  match Text.words (Text.escape value.display) with
  | [] => .error (.noWords value)
  | first :: rest => .ok (first :: rest)

/-- A comparison of a field with constants is one of these. -/
inductive Comparison where
  | like
  | equal
  | different
  | startsWith
  | endsWith
  | contains
  | between
  | oneOf
deriving DecidableEq

/-- An operator combines predicates, negates one, compares a field, or has no query. -/
inductive Role where
  | combine (occur : Occur)
  | negate
  | compare (comparison : Comparison)
  | unsupported
deriving DecidableEq

/-- Operators with and without regard to case have one role. -/
def Operator.role : Operator → Role
  | or => .combine .should
  | and => .combine .must
  | not => .negate
  | like => .compare .like
  | equals | equalsPrimitive | equalsIgnoreCase => .compare .equal
  | notEquals | notEqualsPrimitive => .compare .different
  | startsWith | startsWithIgnoreCase => .compare .startsWith
  | endsWith | endsWithIgnoreCase => .compare .endsWith
  | contains | containsIgnoreCase => .compare .contains
  | between => .compare .between
  | oneOf => .compare .oneOf
  | lower | upper | lessThan | lessOrEqual | greaterThan | greaterOrEqual | isNull | isNotNull
  | matching => .unsupported

namespace Comparison

/-- A comparison with one constant takes a target and that constant. -/
def pair (operator : Operator) (arguments : List Expression) :
    Except Fault (Expression × Constant) :=
  match arguments with
  | [target, .constant value] => .ok (target, value)
  | [_, other] => .error (.notAConstant operator 1 other)
  | _ => .error (.argumentCount operator arguments.length)

/-- A comparison with two constants takes a target and those constants. -/
def triple (operator : Operator) (arguments : List Expression) :
    Except Fault (Expression × Constant × Constant) :=
  match arguments with
  | [target, .constant lower, .constant upper] => .ok (target, lower, upper)
  | [_, .constant _, other] => .error (.notAConstant operator 2 other)
  | [_, other, _] => .error (.notAConstant operator 1 other)
  | _ => .error (.argumentCount operator arguments.length)

/-- A single query stands alone, and several must all hold. -/
def together : List Query → Query
  | [query] => query
  | queries => .allWith .must queries

/-- This query finds a pattern in a field. -/
def pattern (field text : String) : Query := .wildcard field text .one

/-- This pattern finds a text between any others. -/
def inside (text : String) : String := "*" ++ text ++ "*"

/-- One word is a term, and several are a phrase. -/
def equality (config : Config) (field : String) : List String → Query
  | [word] => .term field (config.normalize word) .one
  | words => .phrase field (words.map config.normalize) .one

/-- Each word must be found somewhere. -/
def containment (config : Config) (field : String) (words : List String) : Query :=
  together (words.map fun word => pattern field (inside (config.normalize word)))

/-- The field starts with the first word, and each later word must be found somewhere. -/
def opening (config : Config) (field : String) : List String → Query
  | [word] => .prefixed field (config.normalize word) .one
  | [] => .allWith .must []
  | first :: rest =>
    .allWith .must (pattern field (config.normalize (first ++ "*")) ::
      rest.map fun word => pattern field (config.normalize (inside word)))

/-- The last pattern of a sequence of words ends with its word. -/
def endingPatterns : List String → List String
  | [] => []
  | [word] => ["*" ++ word]
  | first :: rest => inside first :: endingPatterns rest

/-- The field ends with the last word, and each earlier word must be found somewhere. -/
def ending (config : Config) (field : String) : List String → Query
  | [word] => pattern field ("*" ++ config.normalize word)
  | words =>
    .allWith .must ((endingPatterns words).map fun text => pattern field (config.normalize text))

/-- A range includes the first words of both constants. -/
def interval (config : Config) (field : String) (lower upper : List String) : Query :=
  .range field (.included (config.normalize (lower.headD "")))
    (.included (config.normalize (upper.headD ""))) .one

/-- Each constant of a collection becomes an equality. -/
def equalities (config : Config) (field : String) :
    List Constant → Except Fault (List Query)
  | [] => .ok []
  | value :: rest => do
    let words ← value.words
    let queries ← equalities config field rest
    return equality config field words :: queries

/-- The arguments are checked first, then the field, and the words of the constants last. -/
def query (config : Config) (comparison : Comparison) (operator : Operator)
    (arguments : List Expression) : Except Fault Query :=
  match comparison with
  | .like => do
    let (target, value) ← pair operator arguments
    let field ← target.fieldName
    let words ← value.words
    return containment config field words
  | .equal => do
    let (target, value) ← pair operator arguments
    let field ← target.fieldName
    let words ← value.words
    return equality config field words
  | .different => do
    let (target, value) ← pair operator arguments
    let field ← target.fieldName
    let words ← value.words
    return .allWith .mustNot [equality config field words]
  | .startsWith => do
    let (target, value) ← pair operator arguments
    let field ← target.fieldName
    let words ← value.escapedWords
    return opening config field words
  | .endsWith => do
    let (target, value) ← pair operator arguments
    let field ← target.fieldName
    let words ← value.escapedWords
    return ending config field words
  | .contains => do
    let (target, value) ← pair operator arguments
    let field ← target.fieldName
    let words ← value.escapedWords
    return containment config field words
  | .between => do
    let (target, lower, upper) ← triple operator arguments
    let field ← target.fieldName
    let lowerWords ← lower.words
    let upperWords ← upper.words
    return interval config field lowerWords upperWords
  | .oneOf =>
    match arguments with
    | [target, argument] => do
      let field ← target.fieldName
      match argument with
      | .constant (.collection values) =>
        let queries ← equalities config field values
        return .allWith .should queries
      | other => throw (.notACollection other)
    | _ => .error (.argumentCount operator arguments.length)

end Comparison

end FieldQuery
