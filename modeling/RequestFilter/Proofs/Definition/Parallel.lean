import Mathlib.Data.Option.Basic
import RequestFilter.Proofs.Definition.Script

/-!
# Applications side by side

Two builders, of one kind or of two, may go through the same steps. When what
relates them survives every predicate and every rule, and the answers are the
same, then it survives the resolution of all entries, and the reports or errors
are the same.
-/

namespace RequestFilter

variable {β γ ε α δ : Type}

namespace Building

/-- Started on related builders, the steps come to the same and leave the builders related. -/
def Parallel (related : β → γ → Prop) (step : Building β ε α) (step' : Building γ ε α) : Prop :=
  ∀ builder builder', related builder builder' →
    (step.runOn builder).1 = (step'.runOn builder').1 ∧
      related (step.runOn builder).2 (step'.runOn builder').2

namespace Parallel

variable {related : β → γ → Prop}

theorem pure (a : α) :
    Parallel related (Pure.pure a : Building β ε α) (Pure.pure a : Building γ ε α) :=
  fun _ _ h => ⟨rfl, h⟩

/-- Steps in sequence run side by side when the first ones do, and the second ones do behind every
answer. -/
theorem bind {step : Building β ε α} {step' : Building γ ε α} {next : α → Building β ε δ}
    {next' : α → Building γ ε δ} (hstep : Parallel related step step')
    (hnext : ∀ a, Parallel related (next a) (next' a)) :
    Parallel related (step >>= next) (step' >>= next') := by
  intro builder builder' h
  obtain ⟨hresult, hafter⟩ := hstep builder builder' h
  rw [runOn_bind, runOn_bind]
  rcases hrun : step.runOn builder with ⟨result, after⟩
  rcases hrun' : step'.runOn builder' with ⟨result', after'⟩
  rw [hrun, hrun'] at hresult hafter
  obtain rfl : result = result' := hresult
  cases result with
  | error error => exact ⟨rfl, hafter⟩
  | ok a => exact hnext a after after' hafter

/-- A failure that is observed is an answer, and it is the same on both sides. -/
theorem observe {step : Building β ε α} {step' : Building γ ε α}
    (h : Parallel related step step') : Parallel related step.observe step'.observe := by
  intro builder builder' hrelated
  obtain ⟨hresult, hafter⟩ := h builder builder' hrelated
  exact ⟨congrArg Except.ok hresult, hafter⟩

end Parallel

end Building

namespace Definition

/-- Definitions with the same fields and the same policy of sanitizing, and with rules of the same
names that run side by side. -/
structure Parallel (related : β → γ → Prop) (definition : Definition β ε)
    (definition' : Definition γ ε) : Prop where
  spec : definition.spec = definition'.spec
  sanitizer : definition.sanitizer = definition'.sanitizer
  rulePrefix : definition.rules.rulePrefix = definition'.rules.rulePrefix
  rules : ∀ name, Option.Rel
    (fun handler handler' => ∀ target value,
      Building.Parallel related (handler target value) (handler' target value))
    (definition.rules.handlers.find? name) (definition'.rules.handlers.find? name)

/-- The rule of a field is found on both sides or on neither. -/
theorem Parallel.dispatch {related : β → γ → Prop} {definition : Definition β ε}
    {definition' : Definition γ ε} (h : Parallel related definition definition') (field : String)
    (value : Value) (target : Target) :
    Building.Parallel related (definition.rules.dispatch field value target)
      (definition'.rules.dispatch field value target) := by
  unfold RuleSet.dispatch RuleSet.handler?
  rw [h.rulePrefix]
  have hrule := h.rules (ruleName definition'.rules.rulePrefix field)
  revert hrule
  generalize definition.rules.handlers.find? _ = handler?
  generalize definition'.rules.handlers.find? _ = handler?'
  intro hrule
  cases hrule with
  | none => exact .pure false
  | some hhandler => exact .bind (hhandler target value) fun _ => .pure true

end Definition

variable [QueryBuilder β ε] [QueryBuilder γ ε] {related : β → γ → Prop}

/-- An operator adds one predicate at most, and which one depends on the value alone. -/
theorem Building.parallel_applyGeneric
    (hadd : ∀ predicate : Predicate, Parallel (ε := ε) related predicate.add predicate.add)
    (operator : Operator) (field : String) (value : Value) (target : Target) :
    Parallel (ε := ε) related (applyGeneric operator field value target)
      (applyGeneric operator field value target) := by
  unfold applyGeneric
  cases operator with
  | exactOrIn =>
      cases value.scalars.isEmpty with
      | true => exact .pure none
      | false => exact .bind (hadd (.among (target.qualify field) _)) fun _ => .pure none
  | like =>
      cases patternOperand? value with
      | none => exact .pure none
      | some found =>
          exact .bind (hadd (.compares (target.qualify field) _ _)) fun _ => .pure _
  | customOnly => exact .pure none

namespace Definition.Parallel

variable {definition : Definition β ε} {definition' : Definition γ ε}

/-- One entry: side by side its rule runs, or its operator, or nothing does. -/
theorem resolveField (h : Parallel related definition definition')
    (hadd : ∀ predicate : Predicate,
      Building.Parallel (ε := ε) related predicate.add predicate.add)
    (target : Target) (field : String) (value : Value) :
    Building.Parallel related (definition.resolveField target field value)
      (definition'.resolveField target field value) := by
  unfold Definition.resolveField
  refine .bind (h.dispatch field value target) fun handled => ?_
  cases handled with
  | true =>
      rw [h.rulePrefix]
      exact .pure _
  | false =>
      rw [h.spec]
      cases definition'.spec.operator? field with
      | none => exact .pure _
      | some operator =>
          exact .bind (Building.parallel_applyGeneric hadd operator field value target)
            fun _ => .pure _

/-- All entries, one after the other: the reports are the same, or the errors are. -/
theorem resolveEntries (h : Parallel related definition definition')
    (hadd : ∀ predicate : Predicate,
      Building.Parallel (ε := ε) related predicate.add predicate.add)
    (target : Target) (report : Report) (entries : List (String × Value)) :
    Building.Parallel related (definition.resolveEntries target report entries)
      (definition'.resolveEntries target report entries) := by
  induction entries generalizing report with
  | nil => exact .pure report
  | cons entry rest ih => exact .bind (h.resolveField hadd target entry.1 entry.2) fun _ => ih _

end Definition.Parallel

end RequestFilter
