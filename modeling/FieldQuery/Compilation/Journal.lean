/-
This file defines runs that write records and end with a result or a fault.
-/
import FieldQuery.Fault

namespace FieldQuery

/-- A record says what a run is about to do. -/
inductive Record where
  | predicate (expression : Expression)
  | orders (count : Nat)
  | operator (operator : Operator)

namespace Record

/-- The start of a run matters more than its steps. -/
def level : Record → String
  | .predicate _ => "DEBUG"
  | .orders _ => "DEBUG"
  | .operator _ => "TRACE"

/-- The message of a record names its subject. -/
def message : Record → String
  | .predicate whole => s!"serializing expression {whole.display}"
  | .orders count => s!"serializing {count} order specifiers"
  | .operator visited => s!"translating {visited.name}"

def display (record : Record) : String :=
  record.level ++ " " ++ record.message

end Record

/-- This structure contains the records of a run in order and its outcome. -/
structure Journal (Result : Type) where
  records : List Record
  outcome : Except Fault Result

namespace Journal

variable {Result Next : Type}

/-- This run writes nothing. -/
def ofOutcome (outcome : Except Fault Result) : Journal Result := ⟨[], outcome⟩

def fail (fault : Fault) : Journal Result := ofOutcome (.error fault)

def note (record : Record) (journal : Journal Result) : Journal Result :=
  ⟨record :: journal.records, journal.outcome⟩

/-- The second run starts only when the first one ends with a result. -/
def next (journal : Journal Result) (continuation : Result → Journal Next) : Journal Next :=
  match journal.outcome with
  | .error fault => ⟨journal.records, .error fault⟩
  | .ok result =>
    let later := continuation result
    ⟨journal.records ++ later.records, later.outcome⟩

instance : Monad Journal where
  pure result := ofOutcome (.ok result)
  bind := next

@[simp] theorem outcome_note (record : Record) (journal : Journal Result) :
    (note record journal).outcome = journal.outcome := rfl

@[simp] theorem outcome_bind (journal : Journal Result)
    (continuation : Result → Journal Next) :
    (journal >>= continuation).outcome =
      journal.outcome.bind fun result => (continuation result).outcome := by
  change (next journal continuation).outcome = _
  unfold next
  cases journal.outcome <;> rfl

@[simp] theorem outcome_pure (result : Result) :
    (pure result : Journal Result).outcome = .ok result := rfl

end Journal

end FieldQuery
