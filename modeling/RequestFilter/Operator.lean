import RequestFilter.Text.Blank

/-!
# Operators of declared fields

How a declared field turns its value into a predicate, and the names by which
configurations choose it.
-/

namespace RequestFilter

inductive Operator where
  /-- Membership in the given values. -/
  | exactOrIn
  /-- Containment of a text, in either case of its letters. -/
  | like
  /-- No predicate of its own: a custom rule makes it. -/
  | customOnly
deriving DecidableEq

namespace Operator

/-- The operator of a field declared without one. -/
def default : Operator := .exactOrIn

/-- The operators in the order in which names are tried. -/
def all : List Operator := [.exactOrIn, .like, .customOnly]

def name : Operator → String
  | .exactOrIn => "exact_or_in"
  | .like => "like"
  | .customOnly => "custom"

def aliases : Operator → List String
  | .exactOrIn => ["exact", "in", "="]
  | .like | .customOnly => []

/-- The name in descriptions of a definition. -/
def label : Operator → String
  | .exactOrIn => "ExactOrIn"
  | .like => "Like"
  | .customOnly => "CustomOnly"

def sameIgnoringCase (a b : List Char) : Bool :=
  a.map Char.toLower == b.map Char.toLower

/-- Whether a trimmed name means this operator. -/
def answersTo (operator : Operator) (wanted : List Char) : Bool :=
  (operator.name :: operator.aliases).any fun known =>
    sameIgnoringCase known.toList wanted

/-- The operator of a name, whatever its case and the blanks around it. -/
def ofName? (name : String) : Option Operator :=
  all.find? fun operator => operator.answersTo (trimBlanks name.toList)

def expectedNames : String :=
  ", ".intercalate (all.map name)

end Operator

end RequestFilter
