import RequestFilter.Json.Typed
import RequestFilter.OrderedMap
import RequestFilter.Value

/-!
# Parameter bags

The parameters of a request by field, in the order in which they were supplied,
before anything is filtered out.
-/

namespace RequestFilter

/-- Fields and their values, in the order of first appearance. -/
abbrev Bag := OrderedMap Value

inductive BagError where
  | malformed (error : Json.Error)
  | notAnObject (kind : String)

namespace BagError

def message : BagError → String
  | malformed error => error.message
  | notAnObject kind => "parameters must be a JSON object, got " ++ kind

end BagError

namespace Bag

def ofMembers (members : List (String × Json)) : Bag :=
  OrderedMap.ofList (members.map fun member => (member.1, Value.ofJson member.2))

/-- Only an object is a bag. -/
def ofJson : Json → Except BagError Bag
  | .object members => .ok (ofMembers members)
  | document => .error (.notAnObject document.kind)

/-- The bag of a document: the whole text is read before it is looked at. -/
def parse (text : String) : Except BagError Bag :=
  match Json.parse text with
  | .ok document => ofJson document
  | .error error => .error (.malformed error)

/-- The bag of the object in front; every member goes straight into it. -/
def reader : Json.Reader Bag := do
  return ofMembers (← Json.Reader.members Json.maxLevels "a map")

/-- The bag of a document that is refused at once when it is no object. -/
def parseMembers (text : String) : Except BagError Bag :=
  match reader.run text with
  | .ok bag => .ok bag
  | .error error => .error (.malformed error)

end Bag

end RequestFilter
