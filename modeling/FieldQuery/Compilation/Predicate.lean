/-
This file compiles predicates to full-text queries, and requests for an order to sort keys.
-/
import FieldQuery.Compilation.Comparison
import FieldQuery.Compilation.Journal
import FieldQuery.SortOrder

namespace FieldQuery

namespace Query

/-- A predicate is compiled from the outside in, and its arguments from left to right. -/
def walk (config : Config) : Expression → Journal Query
  | .path name => .fail (.notAnOperation (.path name))
  | .constant value => .fail (.notAnOperation (.constant value))
  | .operation operator arguments =>
    .note (.operator operator) <|
      match operator.role with
      | .combine occur =>
        match arguments with
        | [left, right] => do
          let first ← walk config left
          let second ← walk config right
          return .allWith occur [first, second]
        | _ => .fail (.argumentCount operator arguments.length)
      | .negate =>
        match arguments with
        | [operand] => do
          let inner ← walk config operand
          return .allWith .mustNot [inner]
        | _ => .fail (.argumentCount operator arguments.length)
      | .compare comparison =>
        .ofOutcome (comparison.query config operator arguments)
      | .unsupported => .fail (.unsupported operator arguments)

/-- A run starts with a record of the whole predicate. -/
def ofExpression (config : Config) (expression : Expression) : Journal Query :=
  .note (.predicate expression) (walk config expression)

end Query

/-- Only a path can be a sort key; descending order reverses it. -/
def SortKey.ofOrder (order : OrderBy) : Except Fault SortKey :=
  match order.target with
  | .path name => .ok ⟨name, !order.ascending⟩
  | other => .error (.orderTarget other)

/-- The requests are compiled from left to right up to the first fault. -/
def SortKey.ofOrders : List OrderBy → Except Fault (List SortKey)
  | [] => .ok []
  | order :: rest => do
    let key ← SortKey.ofOrder order
    let keys ← SortKey.ofOrders rest
    return key :: keys

/-- A run starts with a record of the number of requests. -/
def SortOrder.ofOrders (orders : List OrderBy) : Journal SortOrder :=
  .note (.orders orders.length) (.ofOutcome ((SortKey.ofOrders orders).map SortOrder.mk))

end FieldQuery
