import RequestFilter.Json.Write

/-!
# Configuration files

What a configuration file declares: a table, its filterable fields and the
prefix of rule names; and the document that is written for it. Absent settings
are left out of the document, and a field without settings is written as its
bare name.
-/

namespace RequestFilter

structure TableSettings where
  schema : Option String
  name : String
  knownAs : Option String
deriving DecidableEq

namespace TableSettings

/-- The alias that fields are qualified with: the table's name when none is given. -/
def effectiveAlias (table : TableSettings) : String :=
  table.knownAs.getD table.name

end TableSettings

/-- A filterable field: its bare name, or a name with an operator that may be absent. -/
inductive FieldDeclaration where
  | bare (name : String)
  | detailed (name : String) (operator : Option String)
deriving DecidableEq

namespace FieldDeclaration

def name : FieldDeclaration → String
  | .bare name => name
  | .detailed name _ => name

def operator? : FieldDeclaration → Option String
  | .bare _ => none
  | .detailed _ operator => operator

end FieldDeclaration

structure ConfigurationFile where
  table : TableSettings
  fields : List FieldDeclaration
  rulePrefix : Option String
deriving DecidableEq

/-- The version of the format, which the file names. -/
def configurationVersion : String := "1"

def configurationFileName : String := "configuration.json"

def schemaFileName : String := "schema.json"

/-- A member that is left out when its value is absent. -/
def optionalMember (name : String) : Option String → List (String × Json)
  | some value => [(name, .string value)]
  | none => []

def TableSettings.toJson (table : TableSettings) : Json :=
  .object (optionalMember "schema" table.schema ++ [("name", .string table.name)] ++
    optionalMember "alias" table.knownAs)

def FieldDeclaration.toJson : FieldDeclaration → Json
  | .bare name => .string name
  | .detailed name operator =>
      .object (("name", .string name) :: optionalMember "operator" operator)

namespace ConfigurationFile

def toJson (file : ConfigurationFile) : Json :=
  .object ([("version", .string configurationVersion),
    ("table", file.table.toJson),
    ("fields", .array (file.fields.map FieldDeclaration.toJson))] ++
    optionalMember "customRulePrefix" file.rulePrefix)

def text (file : ConfigurationFile) : String :=
  file.toJson.indented ++ "\n"

def starter : ConfigurationFile where
  table := ⟨some "public", "users", none⟩
  fields := [.bare "status", .detailed "name" (some "like"), .bare "age"]
  rulePrefix := none

end ConfigurationFile

end RequestFilter
