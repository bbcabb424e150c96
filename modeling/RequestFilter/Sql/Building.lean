import RequestFilter.Pattern
import RequestFilter.Rule
import RequestFilter.Sql.Select

/-!
# Selects under construction

A select is a query builder: predicates narrow its condition and speak of the
alias of its source. Without a source it has no fields to speak of.
-/

namespace RequestFilter.Sql

inductive TargetError where
  | missingSource
deriving DecidableEq

namespace TargetError

def message : TargetError → String
  | missingSource => "the query has no FROM clause to qualify fields against"

end TargetError

def fieldColumn (field : QualifiedField) : Expression :=
  .column (.aliased field.table) field.field

/-- Membership in a list of values; in no value, nothing. -/
def membership (field : QualifiedField) (values : List Scalar) : Expression :=
  if values.isEmpty then .never
  else .among (fieldColumn field) (values.map .literal)

def fieldComparison (field : QualifiedField) (comparison : Comparison) (value : Scalar) :
    Expression :=
  .compare (fieldColumn field) comparison (.literal value)

namespace Select

def tableName (select : Select) : Except TargetError String :=
  match select.source with
  | some source => .ok source.knownAs
  | none => .error .missingSource

instance : QueryBuilder Select TargetError where
  tableName := do
    match (← get).tableName with
    | .ok name => pure name
    | .error error => throw error
  whereIn field values := modify fun select => select.restrict (membership field values)
  whereCompares field comparison value :=
    modify fun select => select.restrict (fieldComparison field comparison value)

/-- Some field contains the text of the value's first operand; without operands, no predicate. -/
def search (fields : List String) : Handler Select TargetError := fun target value =>
  match value.scalars with
  | [] => pure ()
  | operand :: _ =>
      let pattern := Scalar.string (containsPattern operand.text)
      let found := fields.foldl (fun found field =>
        found.disj (fieldComparison (target.qualify field) .likeIgnoringCase pattern))
        Expression.never
      modify fun select => select.restrict found

/-- Select from another table, known under its own name. -/
def retarget (table : String) : Handler Select TargetError := fun _ _ =>
  modify fun select => { select with source := some (.table (.named none table) table) }

end Select

end RequestFilter.Sql
