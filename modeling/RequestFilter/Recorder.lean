import RequestFilter.Pattern
import RequestFilter.Rule

/-!
# Recording builders

A builder that only records the predicates it is asked for. It may have no
table, and it may be set to refuse every predicate after a given number.
-/

namespace RequestFilter

inductive PredicateCall where
  | whereIn (field : QualifiedField) (values : List Scalar)
  | whereCompares (field : QualifiedField) (comparison : Comparison) (value : Scalar)
  | search (field : QualifiedField) (pattern : Scalar)
deriving DecidableEq

structure Recorder where
  table : Option String
  /-- The number of recorded calls at which further ones are refused. -/
  limit : Option Nat
  calls : List PredicateCall
  lookups : Nat

inductive RecorderError where
  | noTable
  | refused (call : Nat)
  | failed (reason : String)
deriving DecidableEq

namespace RecorderError

def message : RecorderError → String
  | noTable => "no table"
  | refused call => "call " ++ toString call ++ " refused"
  | failed reason => reason

end RecorderError

namespace Recorder

def new (table : Option String) (limit : Option Nat) : Recorder :=
  ⟨table, limit, [], 0⟩

/-- Record a call, unless the limit is reached. -/
def record (call : PredicateCall) : Building Recorder RecorderError Unit := do
  let recorder ← get
  if recorder.limit = some recorder.calls.length then
    throw (.refused recorder.calls.length)
  else
    set { recorder with calls := recorder.calls ++ [call] }

/-- Count a lookup of the table name and answer it. -/
def lookUpTable : Building Recorder RecorderError String := do
  let recorder ← get
  set { recorder with lookups := recorder.lookups + 1 }
  match recorder.table with
  | some table => pure table
  | none => throw .noTable

instance : QueryBuilder Recorder RecorderError where
  tableName := lookUpTable
  whereIn field values := record (.whereIn field values)
  whereCompares field comparison value := record (.whereCompares field comparison value)

/-- A search of several fields for the text of the value's first operand. -/
def search (fields : List String) : Handler Recorder RecorderError := fun target value =>
  match value.scalars with
  | [] => pure ()
  | operand :: _ =>
      fields.forM fun field =>
        record (.search (target.qualify field) (.string (containsPattern operand.text)))

def retarget (table : String) : Handler Recorder RecorderError := fun _ _ =>
  modify fun recorder => { recorder with table := some table }

end Recorder

end RequestFilter
