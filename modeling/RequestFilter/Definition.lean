import RequestFilter.Predicate
import RequestFilter.Rule
import RequestFilter.Sanitizer
import RequestFilter.Spec

/-!
# Criteria definitions

A definition holds the declared fields, the custom rules and the policy of
sanitizing. Applied to a bag, it goes through the sanitized entries in order: a
rule of the field comes first, then the generic predicate of a declared field,
and a field with neither is ignored.
-/

namespace RequestFilter

inductive Resolution where
  | custom (rule : String)
  | generic (operator : Operator)
  | ignored
deriving DecidableEq

/-- What became of every entry, and the warnings, both in the order of application. -/
structure Report where
  fields : List (String × Resolution)
  warnings : List Warning
deriving DecidableEq

namespace Report

def empty : Report := ⟨[], []⟩

def resolution? (report : Report) (field : String) : Option Resolution :=
  findEntry? field report.fields

def add (report : Report) (field : String) (resolution : Resolution)
    (warning : Option Warning) : Report :=
  ⟨report.fields ++ [(field, resolution)], report.warnings ++ warning.toList⟩

end Report

structure Definition (β ε : Type) where
  spec : Spec
  rules : RuleSet β ε
  sanitizer : Sanitizer

namespace Definition

variable {β ε : Type} [QueryBuilder β ε]

def resolveField (definition : Definition β ε) (target : Target) (field : String)
    (value : Value) : Building β ε (Resolution × Option Warning) := do
  if ← definition.rules.dispatch field value target then
    return (.custom (ruleName definition.rules.rulePrefix field), none)
  else
    match definition.spec.operator? field with
    | some operator => do
        let warning ← applyGeneric operator field value target
        return (.generic operator, warning)
    | none => return (.ignored, none)

def resolveEntries (definition : Definition β ε) (target : Target) (report : Report) :
    List (String × Value) → Building β ε Report
  | [] => pure report
  | (field, value) :: rest => do
      let (resolution, warning) ← definition.resolveField target field value
      resolveEntries definition target (report.add field resolution warning) rest

/-- Apply a bag: the table is looked up once, and the first failure ends everything. -/
def apply (definition : Definition β ε) (bag : Bag) : Building β ε Report := do
  let target ← Target.resolve
  definition.resolveEntries target .empty (definition.sanitizer.sanitize bag).bag.entries

end Definition

structure DefinitionBuilder (β ε : Type) where
  spec : Spec
  rulePrefix : String
  fieldRules : List (String × Handler β ε)
  namedRules : List (String × Handler β ε)
  sanitizer : Sanitizer

namespace DefinitionBuilder

variable {β ε : Type}

/-- No rules, the default prefix and the default policy. -/
def new (spec : Spec) : DefinitionBuilder β ε :=
  ⟨spec, defaultRulePrefix, [], [], .default⟩

def withRulePrefix (builder : DefinitionBuilder β ε) (rulePrefix : String) :
    DefinitionBuilder β ε :=
  { builder with rulePrefix := rulePrefix }

def rule (builder : DefinitionBuilder β ε) (field : String) (handler : Handler β ε) :
    DefinitionBuilder β ε :=
  { builder with fieldRules := builder.fieldRules ++ [(field, handler)] }

def namedRule (builder : DefinitionBuilder β ε) (name : String) (handler : Handler β ε) :
    DefinitionBuilder β ε :=
  { builder with namedRules := builder.namedRules ++ [(name, handler)] }

def withSanitizer (builder : DefinitionBuilder β ε) (sanitizer : Sanitizer) :
    DefinitionBuilder β ε :=
  { builder with sanitizer := sanitizer }

/-- The collected rules: those by name first, then those by field. -/
def rules (builder : DefinitionBuilder β ε) : RuleSet β ε :=
  let named := builder.namedRules.foldl (fun rules rule => rules.insert rule.1 rule.2)
    (RuleSet.empty builder.rulePrefix)
  builder.fieldRules.foldl (fun rules rule => rules.insertForField rule.1 rule.2) named

/-- The first field that needs a rule and has none. -/
def unruledField? (builder : DefinitionBuilder β ε) : Option String :=
  builder.spec.customOnlyFields.find? fun field => (builder.rules.ruleFor? field).isNone

/-- The definition, unless a field that only a rule can filter on has none. -/
def build (builder : DefinitionBuilder β ε) : Except DefinitionError (Definition β ε) :=
  match builder.unruledField? with
  | some field => .error (.missingRule field (ruleName builder.rulePrefix field))
  | none => .ok ⟨builder.spec, builder.rules, builder.sanitizer⟩

end DefinitionBuilder

namespace Definition

variable {β ε : Type}

/-- The definition in one line: the fields, the rules and whether the policy is a caller's. -/
def describe (definition : Definition β ε) : String :=
  let fields := definition.spec.entries.map fun entry =>
    quoted entry.1 ++ ": " ++ entry.2.label
  "CriteriaDefinition \x7b spec: CriteriaSpec \x7b fields: \x7b" ++ ", ".intercalate fields ++
    "\x7d \x7d, rules: " ++ definition.rules.describe ++ ", sanitizer: Sanitizer \x7b custom: " ++
    (if definition.sanitizer.isCustom then "true" else "false") ++ " \x7d \x7d"

end Definition

end RequestFilter
