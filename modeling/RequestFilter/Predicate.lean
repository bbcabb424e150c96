import RequestFilter.Operator
import RequestFilter.Pattern
import RequestFilter.QueryBuilder
import RequestFilter.Value

/-!
# Generic predicates

The predicate of a declared field without a rule of its own: membership for
exact fields, containment for pattern fields. A pattern field that receives a
sequence uses its first element, and this is reported.
-/

namespace RequestFilter

/-- A pattern field received a sequence, of which only one element was used. -/
structure Warning where
  field : String
  used : Scalar
deriving DecidableEq

namespace Warning

def message (warning : Warning) : String :=
  "field '" ++ warning.field ++
    "' expects a single value but received a list, using its first element '" ++
    warning.used.text ++ "'"

end Warning

/-- The operand of a pattern, and whether the others of a sequence were left out. -/
def patternOperand? : Value → Option (Scalar × Bool)
  | .scalar operand => some (operand, false)
  | .sequence (first :: _) => some (first, true)
  | .sequence [] | .null | .composite _ => none

variable {β ε : Type} [QueryBuilder β ε]

/-- Add the predicate of an operator, with a warning when the value had to be cut. -/
def applyGeneric (operator : Operator) (field : String) (value : Value) (target : Target) :
    Building β ε (Option Warning) :=
  match operator with
  | .exactOrIn => do
      unless value.scalars.isEmpty do
        target.whereIn field value.scalars
      return none
  | .like =>
      match patternOperand? value with
      | none => pure none
      | some (operand, cut) => do
          target.whereCompares field .likeIgnoringCase
            (.string (containsPattern operand.text))
          return if cut then some ⟨field, operand⟩ else none
  | .customOnly => pure none

end RequestFilter
