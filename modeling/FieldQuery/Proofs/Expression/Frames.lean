/-
This file takes predicates apart into a node and the connectives around it.
-/
import FieldQuery.Proofs.Expression.Structure

namespace FieldQuery

namespace Expression

/--
These nodes are reached from the outside in and from left to right, through combinations of two
sides and negations of one operand.
-/
def reached : Expression → List Expression
  | .path name => [.path name]
  | .constant value => [.constant value]
  | .operation operator arguments =>
    .operation operator arguments ::
      match operator.role with
      | .combine _ =>
        match arguments with
        | [left, right] => left.reached ++ right.reached
        | _ => []
      | .negate =>
        match arguments with
        | [operand] => operand.reached
        | _ => []
      | .compare _ | .unsupported => []

/-- The role and the arguments of an operation decide what is reached through it. -/
theorem reached_operation (operator : Operator) (arguments : List Expression) :
    (operation operator arguments).reached = .operation operator arguments ::
      match operator.role with
      | .combine _ =>
        match arguments with
        | [left, right] => left.reached ++ right.reached
        | _ => []
      | .negate =>
        match arguments with
        | [operand] => operand.reached
        | _ => []
      | .compare _ | .unsupported => [] :=
  reached.eq_def (.operation operator arguments)

variable {operator : Operator}

theorem reached_combine {occur : Occur} (role : operator.role = .combine occur)
    (left right : Expression) : (operation operator [left, right]).reached =
      .operation operator [left, right] :: (left.reached ++ right.reached) := by
  simp only [reached_operation, role]

theorem reached_negate (role : operator.role = .negate) (operand : Expression) :
    (operation operator [operand]).reached = .operation operator [operand] :: operand.reached := by
  simp only [reached_operation, role]

theorem reached_compare {comparison : Comparison} (role : operator.role = .compare comparison)
    (arguments : List Expression) :
    (operation operator arguments).reached = [.operation operator arguments] := by
  simp only [reached_operation, role]

/-- A node is the first one that is reached from it. -/
theorem exists_reached (expression : Expression) :
    ∃ inner, expression.reached = expression :: inner := by
  cases expression with
  | operation operator arguments => exact ⟨_, reached_operation operator arguments⟩
  | _ => exact ⟨[], rfl⟩

end Expression

/-- A frame is a combination that lacks its left or its right side, or a negation. -/
inductive Frame where
  | before (operator : Operator) {occur : Occur} (role : operator.role = .combine occur)
    (right : Expression)
  | after (operator : Operator) {occur : Occur} (role : operator.role = .combine occur)
    (left : Expression)
  | under (operator : Operator) (role : operator.role = .negate)

namespace Frame

/-- A frame with the operand that it lacks is a predicate. -/
def fill (operand : Expression) : Frame → Expression
  | .before operator _ right => .operation operator [operand, right]
  | .after operator _ left => .operation operator [left, operand]
  | .under operator _ => .operation operator [operand]

/-- These nodes of the other operand are reached before the operand that the frame lacks. -/
def passed : Frame → List Expression
  | .before _ _ _ => []
  | .after _ _ left => left.reached
  | .under _ _ => []

/-- A frame is reached first, then what it passes, and then the operand that it lacks. -/
theorem exists_reached_fill (frame : Frame) (operand : Expression) :
    ∃ later, (frame.fill operand).reached =
      frame.fill operand :: (frame.passed ++ operand.reached ++ later) := by
  cases frame with
  | before operator role right => exact ⟨right.reached, Expression.reached_combine role _ _⟩
  | after operator role left =>
      refine ⟨[], ?_⟩
      rw [List.append_nil]
      exact Expression.reached_combine role left operand
  | under operator role =>
      refine ⟨[], ?_⟩
      rw [List.append_nil]
      exact Expression.reached_negate role operand

/-- Frames agree on what they reach before the operand that they lack. -/
inductive Agree : Frame → Frame → Prop where
  | before (operator : Operator) {occur : Occur} (role : operator.role = .combine occur)
    (right other : Expression) : Agree (.before operator role right) (.before operator role other)
  | after (operator : Operator) {occur : Occur} (role : operator.role = .combine occur)
    (left : Expression) : Agree (.after operator role left) (.after operator role left)
  | under (operator : Operator) (role : operator.role = .negate) :
    Agree (.under operator role) (.under operator role)

end Frame

namespace Expression

/-- A node is placed inside frames, the first of which is the outermost one. -/
def place (frames : List Frame) (node : Expression) : Expression :=
  frames.foldr (fun frame operand => frame.fill operand) node

/-- These nodes are reached before a node that is placed inside frames. -/
def earlier : List Frame → Expression → List Expression
  | [], _ => []
  | frame :: rest, node => place (frame :: rest) node :: (frame.passed ++ earlier rest node)

/-- A node inside frames is reached after all earlier ones. -/
theorem exists_reached_place (frames : List Frame) (node : Expression) :
    ∃ later, (place frames node).reached = earlier frames node ++ node :: later := by
  induction frames with
  | nil => exact exists_reached node
  | cons frame rest inductionHypothesis =>
      obtain ⟨inner, reachedInside⟩ := inductionHypothesis
      obtain ⟨outer, reachedOutside⟩ := frame.exists_reached_fill (place rest node)
      refine ⟨inner ++ outer, ?_⟩
      change (frame.fill (place rest node)).reached = _
      rw [reachedOutside, reachedInside]
      simp [earlier, place]

end Expression

end FieldQuery
