import RequestFilter.Text.Quoted

/-!
# Statement texts

The text of a statement and the values bound to its placeholders. A text is put
together from fragments: plain text, quoted identifiers and bound values. Only
plain text enters as it is; an identifier is quoted with its quotes doubled, and
a bound value leaves a numbered placeholder.
-/

namespace RequestFilter.Sql

structure Statement where
  text : String
  parameters : List String
  /-- The number of the last placeholder. -/
  index : Nat
deriving DecidableEq

inductive Fragment where
  | plain (text : String)
  | identifier (name : String)
  | parameter (value : String)
deriving DecidableEq

def doubleQuotes : List Char → List Char
  | [] => []
  | c :: rest => if c = '"' then '"' :: '"' :: doubleQuotes rest else c :: doubleQuotes rest

def quoteIdentifier (name : String) : String :=
  String.ofList ('"' :: doubleQuotes name.toList ++ ['"'])

namespace Fragment

def text (index : Nat) : Fragment → String
  | plain text => text
  | identifier name => quoteIdentifier name
  | parameter _ => "$" ++ toString (index + 1)

/-- The values that a fragment binds: at most one. -/
def bound : Fragment → List String
  | parameter value => [value]
  | plain _ | identifier _ => []

@[simp]
theorem bound_plain (text : String) : (plain text).bound = [] := rfl

end Fragment

namespace Statement

def empty : Statement := ⟨"", [], 0⟩

def push (statement : Statement) (fragment : Fragment) : Statement where
  text := statement.text ++ fragment.text statement.index
  parameters := statement.parameters ++ fragment.bound
  index := statement.index + fragment.bound.length

def append (statement : Statement) (fragments : List Fragment) : Statement :=
  fragments.foldl push statement

/-- The placeholders of fragments bind their values in order. -/
theorem parameters_append (statement : Statement) (fragments : List Fragment) :
    (statement.append fragments).parameters =
      statement.parameters ++ fragments.flatMap Fragment.bound := by
  unfold append
  induction fragments generalizing statement with
  | nil => simp
  | cons fragment rest ih => simp [ih, push]

/-- Every bound value advances the number of the last placeholder by one. -/
theorem index_append (statement : Statement) (fragments : List Fragment) :
    (statement.append fragments).index =
      statement.index + (fragments.flatMap Fragment.bound).length := by
  unfold append
  induction fragments generalizing statement with
  | nil => simp
  | cons fragment rest ih => simp [ih, push, Nat.add_assoc]

def ofFragments (fragments : List Fragment) : Statement :=
  empty.append fragments

/-- A bound value on a line of its own, after its placeholder. -/
def parameterLine (number : Nat) (value : String) : String :=
  "$" ++ toString number ++ " = " ++ quoted value ++ "\n"

/-- The lines of bound values, numbered from the one after `index`. -/
def parameterLines (index : Nat) : List String → List String
  | [] => []
  | value :: rest => parameterLine (index + 1) value :: parameterLines (index + 1) rest

/-- The text on lines of its own, then one line for each bound value. -/
def listing (statement : Statement) : String :=
  statement.text ++ "\n" ++ String.join (parameterLines 0 statement.parameters)

end Statement

end RequestFilter.Sql
