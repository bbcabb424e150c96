import RequestFilter.OrderedMap
import RequestFilter.QueryBuilder
import RequestFilter.Text.Quoted
import RequestFilter.Text.WordCase
import RequestFilter.Value

/-!
# Custom rules

A custom rule makes all predicates of its field. Rules are found by a name
derived from the field, a prefix followed by the capitalized words. Fields that
spell the same words share a rule; the same letters cut into other words, as
`minage` and `minAge` are, lead to another one.
-/

namespace RequestFilter

def defaultRulePrefix : String := "criteria"

/-- The name of the rule that a field is handed to. -/
def ruleName (rulePrefix field : String) : String :=
  rulePrefix ++ pascalCase field

/-- A custom rule: what it does with a target and a value. It uses the target only through the
operations of targets and through the builder behind it, and never puts another target in its
place, so that the entries after its own find the target as it was made. -/
abbrev Handler (β ε : Type) := Target → Value → Building β ε Unit

/-- Rules by name, and the prefix that names are derived with. -/
structure RuleSet (β ε : Type) where
  rulePrefix : String
  handlers : OrderedMap (Handler β ε)

namespace RuleSet

variable {β ε : Type}

def empty (rulePrefix : String) : RuleSet β ε :=
  ⟨rulePrefix, ∅⟩

def insert (rules : RuleSet β ε) (name : String) (handler : Handler β ε) : RuleSet β ε :=
  { rules with handlers := rules.handlers.insert name handler }

def insertForField (rules : RuleSet β ε) (field : String) (handler : Handler β ε) :
    RuleSet β ε :=
  rules.insert (ruleName rules.rulePrefix field) handler

def handler? (rules : RuleSet β ε) (field : String) : Option (Handler β ε) :=
  rules.handlers.find? (ruleName rules.rulePrefix field)

def ruleFor? (rules : RuleSet β ε) (field : String) : Option String :=
  let name := ruleName rules.rulePrefix field
  if rules.handlers.contains name then some name else none

def size (rules : RuleSet β ε) : Nat :=
  rules.handlers.size

/-- Run the rule of a field; `false`, and the builder as it was, without one. -/
def dispatch (rules : RuleSet β ε) (field : String) (value : Value) (target : Target) :
    Building β ε Bool :=
  match rules.handler? field with
  | some handler => do
      handler target value
      return true
  | none => pure false

/-- The names of the rules, sorted by their characters. -/
def sortedNames (rules : RuleSet β ε) : List String :=
  rules.handlers.names.mergeSort fun a b => decide (a ≤ b)

/-- The rules in one line: the prefix and the sorted names. -/
def describe (rules : RuleSet β ε) : String :=
  "CustomRules \x7b prefix: " ++ quoted rules.rulePrefix ++ ", rules: [" ++
    ", ".intercalate (rules.sortedNames.map quoted) ++ "] \x7d"

end RuleSet

end RequestFilter
