import RequestFilter.Json.Basic
import RequestFilter.Scalar

/-!
# Parameter values

What a request gives for a field: one scalar, a sequence of scalars, null, or a
composite document that cannot be an operand and is kept as it was received.
-/

namespace RequestFilter

inductive Value where
  | scalar (value : Scalar)
  | sequence (values : List Scalar)
  | null
  | composite (document : Json)

/-- An integer of 64 bits stays one; a larger one becomes the nearest double. -/
def Json.Number.toScalar : Json.Number → Scalar
  | .integer value _ =>
      if value < 9223372036854775808 then .int (Int64.ofInt value)
      else .float (Binary64.ofInt value)
  | .real value => .float (.finite value)

def Json.toScalar? : Json → Option Scalar
  | .bool value => some (.bool value)
  | .number value => some value.toScalar
  | .string value => some (.string value)
  | .null | .array _ | .object _ => none

namespace Value

/-- A list is a sequence when all its items are scalars, and composite as a whole otherwise. -/
def ofJson : Json → Value
  | .null => .null
  | .array items =>
      match items.mapM Json.toScalar? with
      | some values => .sequence values
      | none => .composite (.array items)
  | document =>
      match document.toScalar? with
      | some value => .scalar value
      | none => .composite document

def scalars : Value → List Scalar
  | .scalar value => [value]
  | .sequence values => values
  | .null | .composite _ => []

/-- Whether a value can be an operand at all; falsy scalars can. -/
def isUsable : Value → Bool
  | .scalar _ => true
  | .sequence values => !values.isEmpty
  | .null | .composite _ => false

/-- The usable values are those that carry an operand. -/
theorem isUsable_iff (value : Value) : value.isUsable = true ↔ value.scalars ≠ [] := by
  cases value with
  | scalar v => simp [isUsable, scalars]
  | sequence vs => cases vs <;> simp [isUsable, scalars]
  | null => simp [isUsable, scalars]
  | composite d => simp [isUsable, scalars]

end Value

end RequestFilter
