import RequestFilter.Proofs.Definition.Composition
import RequestFilter.Proofs.Definition.Report
import RequestFilter.Proofs.Spec

/-!
# Rules and declarations

A definition is built of declared fields and of calls that set its prefix, its
rules and its policy of sanitizing. The prefix given last is the one that names
are derived with, for rules given before it too, and of several rules with one name
the last one stands. A definition is refused where a field that only a rule can
filter on has none.
-/

namespace RequestFilter

/-- A call on the builder of a definition. -/
inductive DefinitionCall (β ε : Type) where
  | rulePrefix (rulePrefix : String)
  | rule (field : String) (handler : Handler β ε)
  | namedRule (name : String) (handler : Handler β ε)
  | sanitizer (sanitizer : Sanitizer)

namespace DefinitionCall

variable {β ε : Type}

def perform (builder : DefinitionBuilder β ε) : DefinitionCall β ε → DefinitionBuilder β ε
  | rulePrefix given => builder.withRulePrefix given
  | rule field handler => builder.rule field handler
  | namedRule name handler => builder.namedRule name handler
  | sanitizer given => builder.withSanitizer given

def rulePrefix? : DefinitionCall β ε → Option String
  | rulePrefix given => some given
  | _ => none

def sanitizer? : DefinitionCall β ε → Option Sanitizer
  | sanitizer given => some given
  | _ => none

def rule? : DefinitionCall β ε → Option (String × Handler β ε)
  | rule field handler => some (field, handler)
  | _ => none

def namedRule? : DefinitionCall β ε → Option (String × Handler β ε)
  | namedRule name handler => some (name, handler)
  | _ => none

end DefinitionCall

/-- The builder of a definition of `spec` after the calls. -/
def DefinitionBuilder.ofCalls {β ε : Type} (spec : Spec) (calls : List (DefinitionCall β ε)) :
    DefinitionBuilder β ε :=
  calls.foldl DefinitionCall.perform (new spec)

namespace DefinitionCall

section Calls

variable {β ε : Type} (calls : List (DefinitionCall β ε))

/-- The prefix given last, or the default one. -/
def lastPrefix : String :=
  (calls.filterMap rulePrefix?).getLast?.getD defaultRulePrefix

/-- The policy given last, or the default one. -/
def lastSanitizer : Sanitizer :=
  (calls.filterMap sanitizer?).getLast?.getD .default

/-- The name under which the rule of a field is looked for. -/
def derivedName (field : String) : String :=
  ruleName (lastPrefix calls) field

/-- The rules under their names: those given by name, and then those given by field. -/
def registrations : List (String × Handler β ε) :=
  calls.filterMap namedRule? ++
    (calls.filterMap rule?).map fun rule => (derivedName calls rule.1, rule.2)

/-- The rule of a field: the last registration of its name. -/
def handlerOf? (field : String) : Option (Handler β ε) :=
  findEntry? (derivedName calls field) (registrations calls).reverse

/-- Only a rule can filter on the field, and there is none. -/
def leavesUnruled (declaration : Declaration) : Bool :=
  declaration.isCustomOnly && (handlerOf? calls declaration.field).isNone

end Calls

variable {β ε : Type}

/-- Each part of a builder depends on the calls that set it, whatever the others are. -/
theorem foldl_perform (calls : List (DefinitionCall β ε)) (builder : DefinitionBuilder β ε) :
    calls.foldl perform builder =
      ⟨builder.spec, (calls.filterMap rulePrefix?).getLast?.getD builder.rulePrefix,
        builder.fieldRules ++ calls.filterMap rule?,
        builder.namedRules ++ calls.filterMap namedRule?,
        (calls.filterMap sanitizer?).getLast?.getD builder.sanitizer⟩ := by
  induction calls generalizing builder with
  | nil => simp
  | cons call rest ih =>
      rw [List.foldl_cons, ih]
      cases call <;>
        simp [perform, rulePrefix?, sanitizer?, rule?, namedRule?, List.filterMap_cons,
          List.getLast?_cons, DefinitionBuilder.withRulePrefix, DefinitionBuilder.withSanitizer,
          DefinitionBuilder.rule, DefinitionBuilder.namedRule]

end DefinitionCall

namespace RuleSet

variable {β ε : Type} (rules : RuleSet β ε) (given : List (String × Handler β ε))

/-- Rules by name are entered under their names, one after the other. -/
theorem foldl_insert :
    given.foldl (fun rules rule => rules.insert rule.1 rule.2) rules =
      ⟨rules.rulePrefix, rules.handlers.insertMany given⟩ := by
  induction given generalizing rules with
  | nil => rfl
  | cons rule rest ih => exact ih (rules.insert rule.1 rule.2)

/-- Rules by field are entered under the names that the prefix derives. -/
theorem foldl_insertForField :
    given.foldl (fun rules rule => rules.insertForField rule.1 rule.2) rules =
      ⟨rules.rulePrefix, rules.handlers.insertMany
        (given.map fun rule => (ruleName rules.rulePrefix rule.1, rule.2))⟩ := by
  induction given generalizing rules with
  | nil => rfl
  | cons rule rest ih => exact ih (rules.insertForField rule.1 rule.2)

end RuleSet

namespace DefinitionCall

variable {β ε : Type} (spec : Spec) (calls : List (DefinitionCall β ε))

/-- Calls of different kinds do not get in each other's way. -/
theorem ofCalls_eq :
    DefinitionBuilder.ofCalls spec calls =
      ⟨spec, lastPrefix calls, calls.filterMap rule?, calls.filterMap namedRule?,
        lastSanitizer calls⟩ :=
  foldl_perform calls (DefinitionBuilder.new spec)

/-- The definition that a successful build makes. -/
def definition : Definition β ε :=
  ⟨spec, ⟨lastPrefix calls, OrderedMap.ofList (registrations calls)⟩, lastSanitizer calls⟩

/-- The rule of a field is the one that the calls leave it. -/
theorem handler?_definition (field : String) :
    (definition spec calls).rules.handler? field = handlerOf? calls field := by
  rw [RuleSet.handler?, definition, OrderedMap.ofList, OrderedMap.find?_insertMany]
  exact Option.or_none

theorem rules_ofCalls :
    (DefinitionBuilder.ofCalls spec calls).rules = (definition spec calls).rules := by
  rw [ofCalls_eq, DefinitionBuilder.rules, RuleSet.foldl_insert, RuleSet.foldl_insertForField,
    definition, OrderedMap.ofList, registrations, OrderedMap.insertMany_append]
  rfl

/-- A field has a rule when the calls leave it one. -/
theorem isNone_ruleFor?_ofCalls (field : String) :
    ((DefinitionBuilder.ofCalls spec calls).rules.ruleFor? field).isNone =
      (handlerOf? calls field).isNone := by
  rw [rules_ofCalls, Bool.eq_iff_iff, Option.isNone_iff_eq_none, Option.isNone_iff_eq_none,
    Definition.ruleFor?_eq_none_iff, handler?_definition]

/-- Building fails at the first declared field that only a rule can filter on and that has none. -/
theorem build_ofCalls {spec : Spec} {declarations : List Declaration}
    (hspec : Spec.ofDeclarations declarations = .ok spec) (calls : List (DefinitionCall β ε)) :
    (DefinitionBuilder.ofCalls spec calls).build =
      match declarations.find? (leavesUnruled calls) with
      | some declaration =>
          .error (.missingRule declaration.field (derivedName calls declaration.field))
      | none => .ok (definition spec calls) := by
  have hunruled : (DefinitionBuilder.ofCalls spec calls).unruledField? =
      (declarations.find? (leavesUnruled calls)).map Declaration.field := by
    rw [DefinitionBuilder.unruledField?, funext (isNone_ruleFor?_ofCalls spec calls), ofCalls_eq]
    exact Spec.find?_customOnlyFields hspec _
  rw [DefinitionBuilder.build, hunruled, rules_ofCalls, ofCalls_eq]
  cases declarations.find? (leavesUnruled calls) <;> rfl

end DefinitionCall

end RequestFilter
