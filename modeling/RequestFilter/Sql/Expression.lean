import RequestFilter.QueryBuilder

/-!
# Expressions

The conditions and values of a statement as trees, and the conjunction and
disjunction that leave out an operand which cannot change the result.
-/

namespace RequestFilter.Sql

/-- A table of the database, or an alias given in the statement. -/
inductive TableRef where
  | named (schema : Option String) (table : String)
  | aliased (knownAs : String)
deriving DecidableEq

inductive Expression where
  | column (table : TableRef) (name : String)
  | literal (value : Scalar)
  | and (left right : Expression)
  | or (left right : Expression)
  | not (operand : Expression)
  | compare (left : Expression) (comparison : Comparison) (right : Expression)
  | among (operand : Expression) (items : List Expression)
  | isNull (operand : Expression)

namespace Expression

def always : Expression := .literal (.bool true)

def never : Expression := .literal (.bool false)

/-- Whether an expression is this very truth value. -/
def isBool (wanted : Bool) : Expression → Bool
  | .literal (.bool value) => value == wanted
  | _ => false

/-- The test for a literal truth value looks at nothing but the literal. -/
theorem isBool_iff (wanted : Bool) (expression : Expression) :
    expression.isBool wanted = true ↔ expression = .literal (.bool wanted) := by
  constructor
  · intro h
    unfold isBool at h
    split at h
    next value => rw [beq_iff_eq.mp h]
    next => contradiction
  · rintro rfl
    exact beq_self_eq_true wanted

/-- Both hold; a literal truth on either side is left out. -/
def conj (left right : Expression) : Expression :=
  if left.isBool true then right
  else if right.isBool true then left
  else .and left right

/-- One of them holds; a literal falsehood on either side is left out. -/
def disj (left right : Expression) : Expression :=
  if left.isBool false then right
  else if right.isBool false then left
  else .or left right

mutual

/-- Equality of trees, with the doubles in them compared as numbers. -/
def equals : Expression → Expression → Bool
  | .column table name, .column table' name' => table == table' && name == name'
  | .literal value, .literal value' => value.equals value'
  | .and left right, .and left' right' => left.equals left' && right.equals right'
  | .or left right, .or left' right' => left.equals left' && right.equals right'
  | .not operand, .not operand' => operand.equals operand'
  | .compare left comparison right, .compare left' comparison' right' =>
      left.equals left' && comparison == comparison' && right.equals right'
  | .among operand items, .among operand' items' =>
      operand.equals operand' && equalItems items items'
  | .isNull operand, .isNull operand' => operand.equals operand'
  | _, _ => false

def equalItems : List Expression → List Expression → Bool
  | [], [] => true
  | item :: rest, item' :: rest' => item.equals item' && equalItems rest rest'
  | _, _ => false

end

end Expression

end RequestFilter.Sql
