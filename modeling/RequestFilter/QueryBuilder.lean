import RequestFilter.Scalar

/-!
# Query builders

Predicates are added to a query under construction by a builder. A builder
knows the table that its fields belong to, and may refuse a predicate; what it
took before a refusal stays.
-/

namespace RequestFilter

structure QualifiedField where
  table : String
  field : String
deriving DecidableEq

namespace QualifiedField

def text (field : QualifiedField) : String :=
  field.table ++ "." ++ field.field

end QualifiedField

/-- How a field is compared with one operand. The comparisons that a builder is asked for and the
operators in the conditions of a statement are the same eight, and this one type stands for both:
the translation of the former into the latter keeps every name, and is left out. -/
inductive Comparison where
  | equal
  | notEqual
  | less
  | lessOrEqual
  | greater
  | greaterOrEqual
  | like
  | likeIgnoringCase
deriving DecidableEq

/-- A step on a builder, which may fail and keeps what it changed before. -/
abbrev Building (β ε : Type) := ExceptT ε (StateM β)

/-- What a step answers on a builder, and the builder after it. -/
def Building.runOn {β ε α : Type} (step : Building β ε α) (builder : β) : Except ε α × β :=
  Id.run ((ExceptT.run step).run builder)

/-- What criteria need of a query under construction. -/
class QueryBuilder (β : Type) (ε : outParam Type) where
  tableName : Building β ε String
  whereIn : QualifiedField → List Scalar → Building β ε Unit
  whereCompares : QualifiedField → Comparison → Scalar → Building β ε Unit

/-- A builder's table, under the name it had when the target was made. -/
structure Target where
  table : String
deriving DecidableEq

namespace Target

variable {β ε : Type} [QueryBuilder β ε]

def resolve : Building β ε Target := do
  return ⟨← QueryBuilder.tableName⟩

def qualify (target : Target) (field : String) : QualifiedField :=
  ⟨target.table, field⟩

def whereIn (target : Target) (field : String) (values : List Scalar) : Building β ε Unit :=
  QueryBuilder.whereIn (target.qualify field) values

def whereCompares (target : Target) (field : String) (comparison : Comparison)
    (value : Scalar) : Building β ε Unit :=
  QueryBuilder.whereCompares (target.qualify field) comparison value

end Target

end RequestFilter
