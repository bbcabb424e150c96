import RequestFilter.Proofs.Definition.Parallel
import RequestFilter.Proofs.OrderedMap

/-!
# Rules as programs

A rule may go on by what a step came to, and it may get over a refusal. Written
as a program, it can be performed on builders of every kind, and what it asks of
its target stands apart from what it does to the builder behind it.
-/

namespace RequestFilter

/-- What a rule does, step by step. How it goes on depends on what its steps came to. -/
inductive RuleProgram (σ ε : Type) where
  | finish (result : Except ε Unit)
  | whereIn (field : String) (values : List Scalar) (next : Except ε Unit → RuleProgram σ ε)
  | whereCompares (field : String) (comparison : Comparison) (value : Scalar)
      (next : Except ε Unit → RuleProgram σ ε)
  | generic (operator : Operator) (field : String) (value : Value)
      (next : Except ε (Option Warning) → RuleProgram σ ε)
  /-- Take hold of the builder behind the target: change it, and go on by what it was. -/
  | builder (change : σ → σ) (next : σ → RuleProgram σ ε)

/-- The part of a builder that rules can take hold of. -/
structure Access (β σ : Type) where
  look : β → σ
  change : (σ → σ) → β → β

namespace Access

variable {β : Type}

/-- Rules have nothing but their target. -/
def nothing : Access β Unit := ⟨fun _ => (), fun _ builder => builder⟩

/-- Rules may replace the whole builder. -/
def everything : Access β β := ⟨id, id⟩

end Access

section Run

variable {β γ ε σ : Type} [QueryBuilder β ε]

def RuleProgram.run (access : Access β σ) (target : Target) :
    RuleProgram σ ε → Building β ε Unit
  | finish result => MonadExcept.ofExcept result
  | whereIn field values next => do
      let result ← (target.whereIn field values).observe
      (next result).run access target
  | whereCompares field comparison value next => do
      let result ← (target.whereCompares field comparison value).observe
      (next result).run access target
  | generic operator field value next => do
      let result ← (applyGeneric operator field value target).observe
      (next result).run access target
  | builder change next => do
      let builder ← get
      set (access.change change builder)
      (next (access.look builder)).run access target

/-- What a rule comes to on each builder, as a program that asks nothing of its target. -/
def RuleProgram.ofStep (step : Building β ε Unit) : RuleProgram β ε :=
  .builder (fun builder => (step.runOn builder).2) fun builder =>
    .finish (step.runOn builder).1

/-- Programs leave no rule out. -/
theorem RuleProgram.run_ofStep (target : Target) (step : Building β ε Unit) :
    (RuleProgram.ofStep step).run .everything target = step := by
  funext builder
  exact Building.runOn_ofExcept (step.runOn builder).1 (step.runOn builder).2

variable [QueryBuilder γ ε]

open Building in
/-- A program goes the same way on two builders that answer its steps alike. -/
theorem RuleProgram.parallel_run {related : β → γ → Prop}
    (hadd : ∀ predicate : Predicate, Parallel (ε := ε) related predicate.add predicate.add)
    (access : Access β σ) (access' : Access γ σ)
    (haccess : ∀ builder builder', related builder builder' →
      access.look builder = access'.look builder' ∧
        ∀ change, related (access.change change builder) (access'.change change builder'))
    (target : Target) (program : RuleProgram σ ε) :
    Parallel related (program.run access target) (program.run access' target) := by
  induction program with
  | finish result =>
      intro builder builder' hrelated
      rw [run, run, runOn_ofExcept, runOn_ofExcept]
      exact ⟨rfl, hrelated⟩
  | whereIn field values next ih =>
      exact .bind (hadd (.among (target.qualify field) values)).observe ih
  | whereCompares field comparison value next ih =>
      exact .bind (hadd (.compares (target.qualify field) comparison value)).observe ih
  | generic operator field value next ih =>
      exact .bind (parallel_applyGeneric hadd operator field value target).observe ih
  | builder change next ih =>
      intro builder builder' hrelated
      obtain ⟨hlook, hchange⟩ := haccess builder builder' hrelated
      simp only [run, runOn_bind, runOn_get, runOn_set, hlook]
      exact ih _ _ _ (hchange change)

end Run

/-- A definition for builders of every kind. -/
structure PortableDefinition (σ ε : Type) where
  spec : Spec
  rulePrefix : String
  programs : OrderedMap (Target → Value → RuleProgram σ ε)
  sanitizer : Sanitizer

namespace PortableDefinition

variable {β γ ε σ : Type}

/-- The definition for one kind of builder, by the way in which programs are performed there. -/
def on (definition : PortableDefinition σ ε)
    (perform : Target → RuleProgram σ ε → Building β ε Unit) : Definition β ε where
  spec := definition.spec
  rules := ⟨definition.rulePrefix,
    definition.programs.map fun program target value => perform target (program target value)⟩
  sanitizer := definition.sanitizer

/-- Every definition for one kind of builder is a portable one on it. -/
theorem exists_on_eq [QueryBuilder β ε] (definition : Definition β ε) :
    ∃ portable : PortableDefinition β ε,
      portable.on (RuleProgram.run .everything) = definition := by
  obtain ⟨spec, ⟨rulePrefix, handlers⟩, sanitizer⟩ := definition
  refine ⟨⟨spec, rulePrefix, handlers.map fun handler target value =>
    .ofStep (handler target value), sanitizer⟩, ?_⟩
  simp only [on, OrderedMap.map, List.map_map, Function.comp_def, RuleProgram.run_ofStep,
    List.map_id']

theorem parallel_on (definition : PortableDefinition σ ε) {related : β → γ → Prop}
    {perform : Target → RuleProgram σ ε → Building β ε Unit}
    {perform' : Target → RuleProgram σ ε → Building γ ε Unit}
    (h : ∀ target program, Building.Parallel related (perform target program)
      (perform' target program)) :
    Definition.Parallel related (definition.on perform) (definition.on perform') where
  spec := rfl
  sanitizer := rfl
  rulePrefix := rfl
  rules name := by
    simp only [on, OrderedMap.find?_map]
    cases definition.programs.find? name with
    | none => exact .none
    | some program => exact .some fun target value => h target (program target value)

end PortableDefinition

end RequestFilter
