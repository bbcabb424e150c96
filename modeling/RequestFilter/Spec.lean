import RequestFilter.Operator
import RequestFilter.OrderedMap

/-!
# Declared fields

Declarations say which fields may be filtered on, and how. They make a
specification when every name is given, every operator is known and no field
occurs twice; otherwise the first declaration at fault is reported.
-/

namespace RequestFilter

inductive DefinitionError where
  | unknownOperator (field operator : String)
  | duplicateField (field : String)
  | emptyFieldName
  | missingRule (field rule : String)
deriving DecidableEq

namespace DefinitionError

def message : DefinitionError → String
  | unknownOperator field operator =>
      "unrecognized operator '" ++ operator ++ "' for field '" ++ field ++
        "', expected one of: " ++ Operator.expectedNames
  | duplicateField field => "field '" ++ field ++ "' is declared more than once"
  | emptyFieldName => "field names must not be empty"
  | missingRule field rule =>
      "field '" ++ field ++ "' only has a custom rule, but no rule named '" ++ rule ++
        "' is registered"

end DefinitionError

/-- The operator of a field, or the reason why its name is none. -/
def Operator.parse (field name : String) : Except DefinitionError Operator :=
  match Operator.ofName? name with
  | some operator => .ok operator
  | none => .error (.unknownOperator field name)

inductive Declared where
  | operator (operator : Operator)
  | named (name : String)

structure Declaration where
  field : String
  declared : Declared

namespace Declaration

def plain (field : String) : Declaration :=
  ⟨field, .operator .default⟩

def withOperator (field : String) (operator : Operator) : Declaration :=
  ⟨field, .operator operator⟩

/-- A field with an operator by name, or with the default one. -/
def named (field : String) : Option String → Declaration
  | some name => ⟨field, .named name⟩
  | none => plain field

def operator (declaration : Declaration) : Except DefinitionError Operator :=
  match declaration.declared with
  | .operator operator => .ok operator
  | .named name => Operator.parse declaration.field name

end Declaration

structure Spec where
  fields : OrderedMap Operator

namespace Spec

def empty : Spec := ⟨∅⟩

/-- Add a declaration: the name is checked first, then the operator, then the repetition. -/
def declare (spec : Spec) (declaration : Declaration) : Except DefinitionError Spec := do
  if isBlankName declaration.field then
    throw .emptyFieldName
  let operator ← declaration.operator
  if spec.fields.contains declaration.field then
    throw (.duplicateField declaration.field)
  pure ⟨spec.fields.insert declaration.field operator⟩

/-- The specification of declarations, or the fault of the first one that has any. -/
def ofDeclarations (declarations : List Declaration) : Except DefinitionError Spec :=
  declarations.foldlM declare empty

def operator? (spec : Spec) (field : String) : Option Operator :=
  spec.fields.find? field

def isDeclared (spec : Spec) (field : String) : Bool :=
  spec.fields.contains field

def entries (spec : Spec) : List (String × Operator) :=
  spec.fields.entries

/-- The declared fields that only a custom rule can filter on. -/
def customOnlyFields (spec : Spec) : List String :=
  (spec.entries.filter fun entry => entry.2 = .customOnly).map Prod.fst

end Spec

end RequestFilter
