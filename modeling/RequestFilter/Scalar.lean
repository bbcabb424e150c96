import RequestFilter.Binary64.Text

/-!
# Scalars

The single operands of predicates: booleans, 64-bit integers, doubles and
strings, and the plain text each of them has in patterns and statements.
-/

namespace RequestFilter

/-- A single operand. The operands of predicates and the literal values of statements are of the
same four kinds, and this one type stands for both: the translation of the former into the latter
keeps kind and value, and is left out. -/
inductive Scalar where
  | bool (value : Bool)
  | int (value : Int64)
  | float (value : Binary64)
  | string (value : String)
deriving DecidableEq

namespace Scalar

inductive Kind where
  | bool
  | int
  | float
  | string
deriving DecidableEq

def kind : Scalar → Kind
  | .bool _ => .bool
  | .int _ => .int
  | .float _ => .float
  | .string _ => .string

/-- The text of a scalar: a string is its own text. -/
def text : Scalar → String
  | .bool true => "true"
  | .bool false => "false"
  | .int value => toString value.toInt
  | .float value => value.text
  | .string value => value

/-- Equality as values: of one kind, with doubles compared as numbers. -/
def equals : Scalar → Scalar → Bool
  | .bool a, .bool b => a == b
  | .int a, .int b => a == b
  | .float a, .float b => a.equals b
  | .string a, .string b => a == b
  | _, _ => false

end Scalar

end RequestFilter
