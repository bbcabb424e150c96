import RequestFilter.Json.Write

/-!
# The schema of configuration files

The JSON schema that editors and validators of configuration files use. It
stands beside every configuration that is written.
-/

namespace RequestFilter

namespace Schema

def described (text : String) : String × Json :=
  ("description", .string text)

def typed (name : String) : String × Json :=
  ("type", .string name)

def string : Json := .object [typed "string"]

def nullable : String × Json :=
  ("type", .array [.string "string", .string "null"])

def requires (names : List String) : String × Json :=
  ("required", .array (names.map .string))

def reference (name : String) : Json :=
  .object [("$ref", .string ("#/definitions/" ++ name))]

def version : Json :=
  .object [typed "string", ("enum", .array [.string "1"])]

def tableSettings : Json :=
  .object [
    described "The table predicates refer to.",
    typed "object",
    requires ["name"],
    ("properties", .object [
      ("schema", .object [nullable]),
      ("name", string),
      ("alias", .object [
        described "Alias fields are qualified with. Defaults to the table name.",
        nullable])])]

def operator : Json :=
  .object [
    described ("One of `exact_or_in` (also `exact`, `in`, `=`), `like` or `custom`. " ++
      "A `custom` field needs a rule registered in code, so it cannot be compiled from " ++
      "the command line."),
    nullable]

def fieldDeclaration : Json :=
  .object [
    described "A filterable field. A bare name uses the default operator.",
    ("anyOf", .array [
      string,
      .object [
        typed "object",
        requires ["name"],
        ("properties", .object [("name", string), ("operator", operator)])]])]

def fields : Json :=
  .object [
    described "Filterable fields, in declaration order.",
    ("default", .array []),
    typed "array",
    ("items", reference "FieldDeclaration")]

def rulePrefix : Json :=
  .object [
    described "Prefix of custom rule names. Defaults to `criteria`.",
    nullable]

end Schema

def configurationSchema : Json :=
  .object [
    ("$schema", .string "http://json-schema.org/draft-07/schema#"),
    ("title", .string "ParsedConfiguration"),
    Schema.described "The configuration as it is stored on disk.",
    Schema.typed "object",
    Schema.requires ["table", "version"],
    ("properties", .object [
      ("version", Schema.reference "Version"),
      ("table", Schema.reference "TableSettings"),
      ("fields", Schema.fields),
      ("customRulePrefix", Schema.rulePrefix)]),
    ("definitions", .object [
      ("Version", Schema.version),
      ("TableSettings", Schema.tableSettings),
      ("FieldDeclaration", Schema.fieldDeclaration)])]

/-- The schema as it is printed, without a line break at its end. -/
def schemaText : String :=
  configurationSchema.indented

end RequestFilter
