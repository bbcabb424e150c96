import RequestFilter.Definition

/-!
# Properties that applications inherit

A property of steps that holds of every answer and of the predicates of a
target, and that a sequence inherits from its parts, holds of all that a
definition does with entries as soon as it holds of its rules.
-/

namespace RequestFilter

variable {β ε : Type} [QueryBuilder β ε]

/-- Answers and the predicates of a target have the property, and sequences inherit it. -/
structure Compositional (target : Target) (P : ∀ ⦃α : Type⦄, Building β ε α → Prop) : Prop where
  answer : ∀ {α : Type} (a : α), P (pure a : Building β ε α)
  sequence : ∀ {α γ : Type} {step : Building β ε α} {next : α → Building β ε γ},
    P step → (∀ a, P (next a)) → P (step >>= next)
  whereIn : ∀ field values, P (target.whereIn field values : Building β ε Unit)
  whereCompares : ∀ field comparison value,
    P (target.whereCompares field comparison value : Building β ε Unit)

namespace Compositional

variable {target : Target} {P : ∀ ⦃α : Type⦄, Building β ε α → Prop}

/-- An operator makes a sequence of one predicate at most and an answer. -/
theorem applyGeneric (hP : Compositional target P) (operator : Operator) (field : String)
    (value : Value) : P (RequestFilter.applyGeneric operator field value target) := by
  unfold RequestFilter.applyGeneric
  cases operator with
  | exactOrIn =>
      cases value.scalars.isEmpty with
      | true => exact hP.answer none
      | false => exact hP.sequence (hP.whereIn field _) fun _ => hP.answer none
  | like =>
      cases patternOperand? value with
      | none => exact hP.answer none
      | some found => exact hP.sequence (hP.whereCompares field _ _) fun _ => hP.answer _
  | customOnly => exact hP.answer none

variable {definition : Definition β ε}

/-- A field is left to its rule, or else to the generic predicate of its operator. -/
theorem resolveField (hP : Compositional target P) {field : String} {value : Value}
    (hrule : ∀ handler, definition.rules.handler? field = some handler →
      P (handler target value)) :
    P (definition.resolveField target field value) := by
  unfold Definition.resolveField
  refine hP.sequence ?_ fun handled => ?_
  · unfold RuleSet.dispatch
    split
    next handler hhandler => exact hP.sequence (hrule handler hhandler) fun _ => hP.answer true
    next => exact hP.answer false
  · cases handled with
    | true => exact hP.answer _
    | false =>
        cases definition.spec.operator? field with
        | none => exact hP.answer _
        | some operator =>
            exact hP.sequence (hP.applyGeneric operator field value) fun _ => hP.answer _

/-- The resolution of all entries is put together from rules, predicates and answers. -/
theorem resolveEntries (hP : Compositional target P)
    (hrules : ∀ name handler, definition.rules.handlers.find? name = some handler →
      ∀ value, P (handler target value))
    (report : Report) (entries : List (String × Value)) :
    P (definition.resolveEntries target report entries) := by
  induction entries generalizing report with
  | nil => exact hP.answer report
  | cons entry rest ih =>
      exact hP.sequence (hP.resolveField fun handler hhandler => hrules _ handler hhandler _)
        fun _ => ih _

end Compositional

end RequestFilter
