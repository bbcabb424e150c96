import Mathlib.Data.Set.Basic
import Mathlib.Tactic.Choose
import RequestFilter.Proofs.Sql.Recorded

/-!
# Narrowing in any order

Rules that have nothing but their target narrow a select by predicates that do
not depend on the select. So the order of the parameters, and how often they are
applied, change the shape of the narrowed condition, but not the rows that it
selects; and all of these were selected before.
-/

namespace RequestFilter

open Sql

namespace Sql.Expression

/-- The rows that a condition selects, once the truth of its atoms is given on each of them. -/
def rows {R : Type} (atoms : R → Expression → Truth) (condition : Expression) : Set R :=
  {row | condition.truthGiven (atoms row) = .yes}

/-- Of the rows that a condition selects, added predicates leave those that meet all of them. -/
theorem rows_foldl_conj {R : Type} (atoms : R → Expression → Truth) (condition : Expression)
    (predicates : List Expression) :
    (predicates.foldl conj condition).rows atoms =
      {row ∈ condition.rows atoms | ∀ predicate ∈ predicates, row ∈ predicate.rows atoms} := by
  ext row
  exact truthGiven_foldl_conj_eq_yes_iff (atoms row) condition predicates

end Sql.Expression

namespace Building

variable {α γ : Type}

/-- The step ends in one way on every select, and narrows each by the same predicates. -/
def Narrows (step : Building Select TargetError α) (result : Except TargetError α) : Prop :=
  ∃ predicates : List Expression,
    ∀ select, step.runOn select = (result, predicates.foldl Select.restrict select)

namespace Narrows

theorem pure (a : α) : Narrows (Pure.pure a) (.ok a) :=
  ⟨[], fun _ => rfl⟩

/-- Steps in sequence narrow the select one after the other. -/
theorem bind {step : Building Select TargetError α} {a : α}
    {next : α → Building Select TargetError γ} {result : Except TargetError γ}
    (hstep : Narrows step (.ok a)) (hnext : Narrows (next a) result) :
    Narrows (step >>= next) result := by
  obtain ⟨first, hfirst⟩ := hstep
  obtain ⟨second, hsecond⟩ := hnext
  refine ⟨first ++ second, fun select => ?_⟩
  rw [runOn_bind_of_ok (hfirst select), hsecond, List.foldl_append]

/-- A failure that is observed narrows as the failing step does. -/
theorem observe {step : Building Select TargetError α} {result : Except TargetError α}
    (hstep : Narrows step result) : Narrows step.observe (.ok result) := by
  obtain ⟨predicates, hrun⟩ := hstep
  refine ⟨predicates, fun select => ?_⟩
  rw [runOn_observe, hrun]

theorem add (predicate : Predicate) : Narrows predicate.add (.ok ()) :=
  ⟨[predicate.condition], Select.runOn_add predicate⟩

/-- What is made of predicates narrows every select, and succeeds. -/
theorem compositional (target : Target) :
    Compositional target fun ⦃_⦄ (step : Building Select TargetError _) =>
      ∃ a, Narrows step (.ok a) where
  answer a := ⟨a, .pure a⟩
  sequence := by
    rintro α γ step next ⟨a, hstep⟩ hnext
    obtain ⟨c, hc⟩ := hnext a
    exact ⟨c, hstep.bind hc⟩
  whereIn field values := ⟨(), .add (.among (target.qualify field) values)⟩
  whereCompares field comparison value :=
    ⟨(), .add (.compares (target.qualify field) comparison value)⟩

end Narrows

end Building

/-- A select answers every step alike, so a program on its target takes one way on all selects. -/
theorem RuleProgram.narrows_run (target : Target) (program : RuleProgram Unit TargetError) :
    ∃ result, Building.Narrows (program.run .nothing target) result := by
  induction program with
  | finish result => exact ⟨result, [], Building.runOn_ofExcept result⟩
  | whereIn field values next ih =>
      obtain ⟨result, hnext⟩ := ih (.ok ())
      exact ⟨result, (Building.Narrows.add (.among _ values)).observe.bind hnext⟩
  | whereCompares field comparison value next ih =>
      obtain ⟨result, hnext⟩ := ih (.ok ())
      exact ⟨result, (Building.Narrows.add (.compares _ comparison value)).observe.bind hnext⟩
  | generic operator field value next ih =>
      obtain ⟨warning, hgeneric⟩ :=
        (Building.Narrows.compositional target).applyGeneric operator field value
      obtain ⟨result, hnext⟩ := ih (.ok warning)
      exact ⟨result, hgeneric.observe.bind hnext⟩
  | builder change next ih =>
      obtain ⟨result, predicates, hnext⟩ := ih ()
      exact ⟨result, predicates, hnext⟩

namespace PortableDefinition

/-- The rules succeed on every select, for whichever table and value. -/
def RulesSucceed (definition : PortableDefinition Unit TargetError) : Prop :=
  ∀ name program, definition.programs.find? name = some program →
    ∀ target value (select : Select), ∃ narrowed,
      ((program target value).run .nothing target).runOn select = (.ok (), narrowed)

variable {definition : PortableDefinition Unit TargetError}

/-- One entry narrows the select by its rule, by its operator, or not at all. -/
theorem narrows_resolveField (hrules : definition.RulesSucceed) (target : Target)
    (field : String) (value : Value) :
    ∃ answer, Building.Narrows
      ((definition.on (RuleProgram.run .nothing)).resolveField target field value)
      (.ok answer) := by
  refine (Building.Narrows.compositional target).resolveField fun handler hhandler => ?_
  rw [RuleSet.handler?, on, OrderedMap.find?_map] at hhandler
  obtain ⟨program, hprogram, rfl⟩ := Option.map_eq_some_iff.mp hhandler
  obtain ⟨result, predicates, hrun⟩ := (program target value).narrows_run target
  -- the program ends in the same way on all selects, so one of them tells that it succeeds
  obtain ⟨narrowed, hsucceeds⟩ := hrules _ program hprogram target value
    ⟨.all, none, [], .never⟩
  obtain rfl : result = .ok () := congrArg Prod.fst ((hrun _).symm.trans hsucceeds)
  exact ⟨(), predicates, hrun⟩

/-- Applied to a select, a bag, the bag in another order and the bag twice in a row narrow it to
the same rows, whatever the comparisons and memberships mean, and these were selected before. -/
theorem apply_narrows_to_same_rows (definition : PortableDefinition Unit TargetError)
    (hrules : definition.RulesSucceed) (bag reordered : Bag)
    (hreordered : reordered.entries.Perm bag.entries) (projection : Projection) (source : Source)
    (joins : List Join) (condition : Expression) :
    let apply (bag : Bag) (condition : Expression) :=
      ((definition.on (RuleProgram.run .nothing)).apply bag).runOn
        (⟨projection, some source, joins, condition⟩ : Select)
    ∃ report report' report'' once once' twice,
      apply bag condition = (.ok report, ⟨projection, some source, joins, once⟩) ∧
      apply reordered condition = (.ok report', ⟨projection, some source, joins, once'⟩) ∧
      apply bag once = (.ok report'', ⟨projection, some source, joins, twice⟩) ∧
      ∀ (R : Type) (atoms : R → Expression → Truth),
        once'.rows atoms = once.rows atoms ∧ twice.rows atoms = once.rows atoms ∧
          once.rows atoms ⊆ condition.rows atoms := by
  intro apply
  choose answer predicates hentry using fun entry : String × Value =>
    narrows_resolveField hrules ⟨source.knownAs⟩ entry.1 entry.2
  let added (bag : Bag) := (definition.sanitizer.sanitize bag).bag.entries.flatMap predicates
  have happly (bag : Bag) (condition : Expression) : ∃ report, apply bag condition =
      (.ok report, ⟨projection, some source, joins, (added bag).foldl .conj condition⟩) :=
    Definition.runOn_apply_of_resolveField rfl
      (fun entry select => ⟨answer entry, hentry entry select⟩) bag
  have hadded : (added reordered).Perm (added bag) := (hreordered.filter _).flatMap_right _
  obtain ⟨report, honce⟩ := happly bag condition
  obtain ⟨report', honce'⟩ := happly reordered condition
  obtain ⟨report'', htwice⟩ := happly bag ((added bag).foldl .conj condition)
  refine ⟨report, report', report'', _, _, _, honce, honce', htwice, fun R atoms => ?_⟩
  simp only [Expression.rows_foldl_conj]
  refine ⟨?_, ?_, Set.sep_subset _ _⟩
  · simp only [hadded.mem_iff]
  · ext row
    exact ⟨fun h => h.1, fun h => ⟨h, h.2⟩⟩

/-- Roles are those of the request that do not name the table, so possibly none. -/
def roleSearch : PortableDefinition Unit TargetError where
  spec := ⟨.ofList [("status", .exactOrIn), ("role", .customOnly)]⟩
  rulePrefix := defaultRulePrefix
  programs := .ofList [(ruleName defaultRulePrefix "role", fun target value =>
    .whereIn "role" (value.scalars.filter (· ≠ .string target.table)) fun _ =>
      .whereCompares "level" .greater (.int 3) .finish)]
  sanitizer := .default

/-- No role is left for a parameter that names the table. The two orders make different trees,
which select the same rows. -/
theorem apply_narrows_to_same_rows_roleSearch :
    let bag : Bag := .ofList [("status", .scalar (.int 1)), ("role", .scalar (.string "u"))]
    let reordered : Bag :=
      .ofList [("role", .scalar (.string "u")), ("status", .scalar (.int 1))]
    let users : Select :=
      ⟨.all, some (.table (.named none "users") "u"), [], .literal (.bool true)⟩
    let status : Expression := .among (.column (.aliased "u") "status") [.literal (.int 1)]
    let level : Expression := .compare (.column (.aliased "u") "level") .greater (.literal (.int 3))
    let narrowed (bag : Bag) :=
      (((roleSearch.on (RuleProgram.run .nothing)).apply bag).runOn users).2.condition
    roleSearch.RulesSucceed ∧ reordered.entries.Perm bag.entries ∧
      narrowed bag = .and (.and status .never) level ∧
      narrowed reordered = .and (.and .never level) status ∧
      ∀ (R : Type) (atoms : R → Expression → Truth),
        (narrowed reordered).rows atoms = (narrowed bag).rows atoms := by
  intro bag reordered users status level narrowed
  have hrules : roleSearch.RulesSucceed := by
    intro name program hprogram target value select
    -- there is one program
    cases List.mem_singleton.mp (mem_of_findEntry_eq_some hprogram)
    exact ⟨_, rfl⟩
  have hreordered : reordered.entries.Perm bag.entries := .swap _ _ _
  obtain ⟨_, _, _, once, once', _, honce, honce', _, hrows⟩ :=
    apply_narrows_to_same_rows roleSearch hrules bag reordered hreordered .all _ [] _
  refine ⟨hrules, hreordered, rfl, rfl, fun R atoms => ?_⟩
  have hbag : narrowed bag = once := congrArg (fun run => run.2.condition) honce
  have hreorderedBag : narrowed reordered = once' :=
    congrArg (fun run => run.2.condition) honce'
  rw [hbag, hreorderedBag]
  exact (hrows R atoms).1

end PortableDefinition

end RequestFilter
