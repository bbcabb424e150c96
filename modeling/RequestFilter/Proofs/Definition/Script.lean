import RequestFilter.Proofs.Building
import RequestFilter.Proofs.Definition.Compositional

/-!
# Rules that only add predicates

A rule may be a sequence of predicates that depends on the table and the value
alone, and it may end with an error of its own. A definition with such rules
does the same on every builder: it adds the same predicates in order, until the
builder refuses one of them, and ends as it would have ended anyway.
-/

namespace RequestFilter

/-- What a builder can be asked to add. -/
inductive Predicate where
  | among (field : QualifiedField) (values : List Scalar)
  | compares (field : QualifiedField) (comparison : Comparison) (value : Scalar)
deriving DecidableEq

/-- A step of a rule that only adds predicates, or gives up. -/
inductive PredicateStep (ε : Type) where
  | whereIn (field : String) (values : List Scalar)
  | whereCompares (field : String) (comparison : Comparison) (value : Scalar)
  /-- The generic predicate of an operator, for any field and value. -/
  | generic (operator : Operator) (field : String) (value : Value)
  | fail (error : ε)

variable {β ε α γ : Type} [QueryBuilder β ε]

def Predicate.add : Predicate → Building β ε Unit
  | among field values => QueryBuilder.whereIn field values
  | compares field comparison value => QueryBuilder.whereCompares field comparison value

def PredicateStep.perform (target : Target) : PredicateStep ε → Building β ε Unit
  | whereIn field values => target.whereIn field values
  | whereCompares field comparison value => target.whereCompares field comparison value
  | generic operator field value => do
      let _ ← applyGeneric operator field value target
  | fail error => throw error

/-- Perform steps in order; the first failure ends them. -/
def PredicateStep.performAll (target : Target) : List (PredicateStep ε) → Building β ε Unit
  | [] => pure ()
  | step :: rest => do
      step.perform target
      performAll target rest

/-- Every rule is a sequence of steps which the table and the value determine. -/
def Definition.IsScripted (definition : Definition β ε) : Prop :=
  ∀ name handler, definition.rules.handlers.find? name = some handler →
    ∃ script : Target → Value → List (PredicateStep ε),
      handler = fun target value => PredicateStep.performAll target (script target value)

namespace Predicate

/-- Add predicates in order; the first refusal ends them. -/
def addAll : List Predicate → Building β ε Unit
  | [] => pure ()
  | predicate :: rest => do
      predicate.add
      addAll rest

/-- What adding predicates and then ending somehow comes to on a builder. -/
def addThen (predicates : List Predicate) (ending : Except ε α) (builder : β) : Except ε α × β :=
  match (addAll predicates : Building β ε Unit).runOn builder with
  | (.ok _, after) => (ending, after)
  | (.error error, after) => (.error error, after)

@[simp]
theorem addThen_nil (ending : Except ε α) (builder : β) :
    addThen [] ending builder = (ending, builder) := rfl

theorem addThen_cons (predicate : Predicate) (rest : List Predicate) (ending : Except ε α)
    (builder : β) :
    addThen (predicate :: rest) ending builder =
      match (predicate.add : Building β ε Unit).runOn builder with
      | (.ok _, after) => addThen rest ending after
      | (.error error, after) => (.error error, after) := by
  unfold addThen
  rw [addAll, Building.runOn_bind]
  cases (predicate.add : Building β ε Unit).runOn builder with
  | mk result after => cases result <;> rfl

/-- Predicates that succeed are followed by the further ones. -/
theorem addThen_append (first second : List Predicate) (ending : Except ε α) (builder : β) :
    addThen (first ++ second) ending builder =
      match (addAll first : Building β ε Unit).runOn builder with
      | (.ok _, after) => addThen second ending after
      | (.error error, after) => (.error error, after) := by
  induction first generalizing builder with
  | nil => rfl
  | cons predicate rest ih =>
      rw [List.cons_append, addThen_cons, addAll, Building.runOn_bind]
      cases (predicate.add : Building β ε Unit).runOn builder with
      | mk result after =>
          cases result with
          | error error => rfl
          | ok _ => exact ih after

end Predicate

namespace Building

/-- A step that adds the same predicates to every builder, until one is refused, and that ends
in the same way on every builder that takes them all. -/
def OnlyAdds (step : Building β ε α) : Prop :=
  ∃ (predicates : List Predicate) (ending : Except ε α),
    ∀ builder, step.runOn builder = Predicate.addThen predicates ending builder

namespace OnlyAdds

theorem pure (a : α) : OnlyAdds (Pure.pure a : Building β ε α) :=
  ⟨[], .ok a, fun _ => rfl⟩

/-- A failure adds nothing. -/
theorem throw (error : ε) : OnlyAdds (MonadExcept.throw error : Building β ε α) :=
  ⟨[], .error error, fun _ => rfl⟩

/-- One predicate is added. -/
theorem add (predicate : Predicate) : OnlyAdds (predicate.add : Building β ε Unit) := by
  refine ⟨[predicate], .ok (), fun builder => ?_⟩
  rw [Predicate.addThen_cons]
  cases (predicate.add : Building β ε Unit).runOn builder with
  | mk result after => cases result <;> rfl

/-- A sequence only adds predicates when both of its steps do. -/
theorem bind {step : Building β ε α} {next : α → Building β ε γ} (hstep : OnlyAdds step)
    (hnext : ∀ a, OnlyAdds (next a)) : OnlyAdds (step >>= next) := by
  obtain ⟨predicates, ending, hrun⟩ := hstep
  cases ending with
  | error error =>
      -- the second step is never reached
      refine ⟨predicates, .error error, fun builder => ?_⟩
      rw [runOn_bind, hrun, Predicate.addThen, Predicate.addThen]
      cases (Predicate.addAll predicates : Building β ε Unit).runOn builder with
      | mk result after => cases result <;> rfl
  | ok a =>
      obtain ⟨more, ending, hmore⟩ := hnext a
      refine ⟨predicates ++ more, ending, fun builder => ?_⟩
      rw [runOn_bind, hrun, Predicate.addThen, Predicate.addThen_append]
      cases (Predicate.addAll predicates : Building β ε Unit).runOn builder with
      | mk result after =>
          cases result with
          | error error => rfl
          | ok _ => exact hmore after

end OnlyAdds

end Building

open Building

/-- What is made of predicates only adds predicates. -/
theorem Building.OnlyAdds.compositional (target : Target) :
    Compositional target fun ⦃_⦄ (step : Building β ε _) => OnlyAdds step where
  answer := .pure
  sequence := .bind
  whereIn field values := .add (.among (target.qualify field) values)
  whereCompares field comparison value := .add (.compares (target.qualify field) comparison value)

/-- A script has every compositional property that its own errors have. -/
theorem Compositional.performAll {target : Target} {P : ∀ ⦃α : Type⦄, Building β ε α → Prop}
    (hP : Compositional target P) {steps : List (PredicateStep ε)}
    (hfail : ∀ error, .fail error ∈ steps → P (throw error : Building β ε Unit)) :
    P (PredicateStep.performAll target steps) := by
  induction steps with
  | nil => exact hP.answer ()
  | cons step rest ih =>
      refine hP.sequence ?_ fun _ => ih fun error herror => hfail error (.tail _ herror)
      cases step with
      | whereIn field values => exact hP.whereIn field values
      | whereCompares field comparison value => exact hP.whereCompares field comparison value
      | generic operator field value =>
          exact hP.sequence (hP.applyGeneric operator field value) fun _ => hP.answer ()
      | fail error => exact hfail error (.head _)

/-- What a definition with such rules does with all entries only adds predicates. -/
theorem Definition.IsScripted.onlyAdds_resolveEntries {definition : Definition β ε}
    (hscripted : definition.IsScripted) (target : Target) (report : Report)
    (entries : List (String × Value)) :
    OnlyAdds (definition.resolveEntries target report entries) := by
  refine (OnlyAdds.compositional target).resolveEntries ?_ report entries
  intro name handler hhandler value
  obtain ⟨script, rfl⟩ := hscripted name handler hhandler
  exact (OnlyAdds.compositional target).performAll fun error _ => .throw error

end RequestFilter
