import RequestFilter.Configuration.File
import RequestFilter.Json.Typed

/-!
# Reading configuration files

A file is read twice. The first reading looks for the version only and passes
over everything else; a version other than the known one is reported whatever
the rest holds. The second reading takes the settings by name, in any order, and
passes over members that the format does not know.
-/

namespace RequestFilter

open Json (Reader TypedReader)

namespace ConfigurationFile

def isKnownVersion : Json → Bool
  | .string version => version == configurationVersion
  | _ => false

/-- The version member of an object; null when it is missing. -/
def versionMember : TypedReader Json := do
  let version ← TypedReader.membersInto
    (fun name =>
      if name = "version" then some fun (present : Option Json) =>
        some <$> TypedReader.once name present (Reader.value (Json.maxLevels - 1))
      else none)
    (← TypedReader.ofReader Reader.fuelLeft) true none
  pure (version.getD .null)

/-- The version as the only item of a list; null when it is missing. -/
def versionItem : TypedReader Json := do
  if ← TypedReader.ofReader (TypedReader.hasItem true) then
    TypedReader.ofReader (Reader.value (Json.maxLevels - 1))
  else pure .null

def version : Reader Json := do
  match ← Reader.peekToken with
  | none => Reader.failHere .endInValue
  | some c =>
      if c = '\x7b' then do
        Reader.skip
        TypedReader.object versionMember
      else if c = '[' then do
        Reader.skip
        TypedReader.list versionItem
      else Reader.refuseType "struct VersionTag"

structure TableRecord where
  schema : Option (Option String)
  name : Option String
  knownAs : Option (Option String)

def tableMember (member : String) : Option (TableRecord → TypedReader TableRecord) :=
  if member = "schema" then some fun record => do
    let schema ← TypedReader.once member record.schema Reader.nullableString
    pure { record with schema := some schema }
  else if member = "name" then some fun record => do
    let name ← TypedReader.once member record.name Reader.string
    pure { record with name := some name }
  else if member = "alias" then some fun record => do
    let knownAs ← TypedReader.once member record.knownAs Reader.nullableString
    pure { record with knownAs := some knownAs }
  else none

/-- A table given by the names of its settings. -/
def tableMembers : TypedReader TableSettings := do
  let record ← TypedReader.membersInto tableMember
    (← TypedReader.ofReader Reader.fuelLeft) true ⟨none, none, none⟩
  match record.name with
  | none => TypedReader.refuse (.missingMember "name")
  | some name => pure ⟨record.schema.join, name, record.knownAs.join⟩

/-- A table given by its settings in order; those at the end may be missing. -/
def tableItems : TypedReader TableSettings := do
  let schema ← if ← TypedReader.ofReader (TypedReader.hasItem true) then
      TypedReader.ofReader Reader.nullableString
    else pure none
  if ← TypedReader.ofReader (TypedReader.hasItem false) then
    let name ← TypedReader.ofReader Reader.string
    let knownAs ← if ← TypedReader.ofReader (TypedReader.hasItem false) then
        TypedReader.ofReader Reader.nullableString
      else pure none
    pure ⟨schema, name, knownAs⟩
  else TypedReader.refuse (.wrongLength 1 "struct TableSettings with 3 elements")

def tableSettings : Reader TableSettings := do
  match ← Reader.peekToken with
  | none => Reader.failHere .endInValue
  | some c =>
      if c = '\x7b' then do
        Reader.skip
        TypedReader.object tableMembers
      else if c = '[' then do
        Reader.skip
        TypedReader.list tableItems
      else Reader.refuseType "struct TableSettings"

def valuesOf (name : String) (members : List (String × Json)) : List Json :=
  (members.filter fun member => member.1 = name).map Prod.snd

/-- A field declared by an object: one name, and at most one operator, which may be null. -/
def detailedField? (members : List (String × Json)) : Option FieldDeclaration :=
  match valuesOf "name" members, valuesOf "operator" members with
  | [.string name], [] | [.string name], [.null] => some (.detailed name none)
  | [.string name], [.string operator] => some (.detailed name (some operator))
  | _, _ => none

/-- A field declared by its bare name or by an object. -/
def field : TypedReader FieldDeclaration := do
  let levels := Json.maxLevels - 2
  let declared ← match ← TypedReader.ofReader Reader.peekToken with
    | some '\x7b' => do
        let members ← TypedReader.ofReader (Reader.members levels "a map")
        pure (detailedField? members)
    | _ => do
        match ← TypedReader.ofReader (Reader.value levels) with
        | .string name => pure (some (.bare name))
        | _ => pure none
  match declared with
  | some declaration => pure declaration
  | none => TypedReader.refuse (.noMatch "FieldDeclaration")

def fieldList : Reader (List FieldDeclaration) := do
  match ← Reader.peekToken with
  | none => Reader.failHere .endInValue
  | some c =>
      if c = '[' then do
        Reader.skip
        TypedReader.list do
          TypedReader.items field (← TypedReader.ofReader Reader.fuelLeft) true
      else Reader.refuseType "a sequence"

structure Record where
  version : Option Json
  table : Option TableSettings
  fields : Option (List FieldDeclaration)
  rulePrefix : Option (Option String)

def fileMember (member : String) : Option (Record → TypedReader Record) :=
  if member = "version" then some fun record => do
    let version ← TypedReader.once member record.version (Reader.value (Json.maxLevels - 1))
    pure { record with version := some version }
  else if member = "table" then some fun record => do
    let table ← TypedReader.once member record.table tableSettings
    pure { record with table := some table }
  else if member = "fields" then some fun record => do
    let fields ← TypedReader.once member record.fields fieldList
    pure { record with fields := some fields }
  else if member = "customRulePrefix" then some fun record => do
    let rulePrefix ← TypedReader.once member record.rulePrefix Reader.nullableString
    pure { record with rulePrefix := some rulePrefix }
  else none

/-- A file given by the names of its settings. -/
def fileMembers : TypedReader ConfigurationFile := do
  let record ← TypedReader.membersInto fileMember
    (← TypedReader.ofReader Reader.fuelLeft) true ⟨none, none, none, none⟩
  match record.table with
  | none => TypedReader.refuse (.missingMember "table")
  | some table => pure ⟨table, record.fields.getD [], record.rulePrefix.join⟩

/-- A file given as a list holds its version and lacks everything else. -/
def fileItems : TypedReader ConfigurationFile := do
  let count ← if ← TypedReader.ofReader (TypedReader.hasItem true) then do
      let _ ← TypedReader.ofReader (Reader.value (Json.maxLevels - 1))
      pure 1
    else pure 0
  TypedReader.refuse (.wrongLength count "struct ParsedConfiguration with 4 elements")

/-- The settings of a file whose version is known. -/
def settings : Reader ConfigurationFile := do
  match ← Reader.peekToken with
  | none => Reader.failHere .endInValue
  | some c =>
      if c = '\x7b' then do
        Reader.skip
        TypedReader.object fileMembers
      else if c = '[' then do
        Reader.skip
        TypedReader.list fileItems
      else Reader.refuseType "struct ParsedConfiguration"

end ConfigurationFile

inductive ConfigurationFault where
  | malformed (error : Json.Error)
  | unsupportedVersion (found : String)

/-- The configuration of a text; the version decides first. -/
def ConfigurationFile.parse (text : String) : Except ConfigurationFault ConfigurationFile :=
  match version.run text with
  | .error error => .error (.malformed error)
  | .ok found =>
      if isKnownVersion found then
        match settings.run text with
        | .error error => .error (.malformed error)
        | .ok file => .ok file
      else .error (.unsupportedVersion found.compact)

end RequestFilter
