import RequestFilter.Binary64.Text
import RequestFilter.OrderedMap

/-!
# JSON documents

Documents as trees. Integers keep their value from `-2 ^ 63` up to below
`2 ^ 64`; every other number is a finite double. The members of an object stand
in document order.
-/

namespace RequestFilter

namespace Json

/-- From `-2 ^ 63` up to below `2 ^ 64`. -/
abbrev IsDocumentInteger (n : Int) : Prop :=
  -9223372036854775808 ≤ n ∧ n < 18446744073709551616

inductive Number where
  | integer (value : Int) (inRange : IsDocumentInteger value)
  | real (value : Finite64)
deriving DecidableEq

namespace Number

def text : Number → String
  | .integer value _ => toString value
  | .real value => value.documentText

end Number

end Json

inductive Json where
  | null
  | bool (value : Bool)
  | number (value : Json.Number)
  | string (value : String)
  | array (items : List Json)
  | object (members : List (String × Json))
deriving Inhabited

namespace Json

/-- An integer, or the nearest double when it has too many digits; `none` above all doubles. -/
def ofInt? (n : Int) : Option Json :=
  if h : IsDocumentInteger n then some (.number (.integer n h))
  else match Binary64.ofInt n with
    | .finite value => some (.number (.real value))
    | _ => none

/-- What a document is, with an article. -/
def kind : Json → String
  | .null => "null"
  | .bool _ => "a boolean"
  | .number _ => "a number"
  | .string _ => "a string"
  | .array _ => "an array"
  | .object _ => "an object"

/-- Members with distinct names: each where it first occurs, with its last value. -/
def distinctMembers (members : List (String × Json)) : List (String × Json) :=
  (OrderedMap.ofList members).entries

def member? (name : String) : Json → Option Json
  | .object members => findEntry? name members
  | _ => none

end Json

end RequestFilter
