import RequestFilter.Configuration.File
import RequestFilter.Definition
import RequestFilter.Sql.Building

/-!
# Configurations

A configuration is a file whose table has a name and whose field declarations
make a specification. It gives the select that requests narrow and the
definition that narrows it.
-/

namespace RequestFilter

structure Configuration where
  table : TableSettings
  spec : Spec
  rulePrefix : String

inductive ConfigurationError where
  | emptyTableName
  | invalidFields (error : DefinitionError)
deriving DecidableEq

namespace ConfigurationError

def message : ConfigurationError → String
  | emptyTableName => "the table name must not be empty"
  | invalidFields error => "invalid field declarations: " ++ error.message

end ConfigurationError

/-- The declarations of the fields, in the order of the file. -/
def ConfigurationFile.declarations (file : ConfigurationFile) : List Declaration :=
  file.fields.map fun field => .named field.name field.operator?

namespace Configuration

/-- The configuration of a file: the name of the table is checked before the fields. -/
def ofFile (file : ConfigurationFile) : Except ConfigurationError Configuration :=
  if isBlankName file.table.name then .error .emptyTableName
  else
    match Spec.ofDeclarations file.declarations with
    | .ok spec => .ok ⟨file.table, spec, file.rulePrefix.getD defaultRulePrefix⟩
    | .error error => .error (.invalidFields error)

def baseSelect (configuration : Configuration) : Sql.Select :=
  .star (.table (.named configuration.table.schema configuration.table.name)
    configuration.table.effectiveAlias)

def definitionBuilder (β ε : Type) (configuration : Configuration) : DefinitionBuilder β ε :=
  (DefinitionBuilder.new configuration.spec).withRulePrefix configuration.rulePrefix

end Configuration

end RequestFilter
