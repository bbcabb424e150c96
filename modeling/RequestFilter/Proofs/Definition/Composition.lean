import Mathlib.Data.Setoid.Basic
import Mathlib.Order.CompletePartialOrder
import RequestFilter.Proofs.Definition.Parallel
import RequestFilter.Proofs.OrderedMap
import RequestFilter.Recorder
import RequestFilter.Sql.Building

/-!
# Applications in turn

One bag after the other comes to the same as both in one bag. The builder ends
up the same, apart from the number of lookups of its table, and the reports join
to the one report; a failure is the same and leaves the builder the same.
-/

namespace RequestFilter

namespace QueryBuilder

variable {β ε : Type} [QueryBuilder β ε]

/-- What a builder answers to a lookup of its table. -/
def tableAnswer (builder : β) : Except ε String :=
  ((tableName : Building β ε String).runOn builder).1

/-- A builder as a lookup of its table leaves it. -/
def afterLookup (builder : β) : β :=
  ((tableName : Building β ε String).runOn builder).2

end QueryBuilder

open QueryBuilder

variable {β ε α : Type} [QueryBuilder β ε]

theorem Target.runOn_resolve (builder : β) :
    (Target.resolve : Building β ε Target).runOn builder =
      ((tableAnswer builder).map Target.mk, afterLookup builder) := by
  unfold resolve tableAnswer afterLookup
  rw [Building.runOn_bind]
  rcases (tableName : Building β ε String).runOn builder with ⟨result, after⟩
  cases result <;> rfl

/-- Whatever the step comes to, the builder goes by the same table as before; and the step does not
see the differences that `alike` leaves out. -/
structure Building.Respects (alike : Setoid β) (step : Building β ε α) : Prop where
  keepsTable : ∀ builder, tableAnswer (step.runOn builder).2 = tableAnswer builder
  parallel : Parallel alike.r step step

/-- When builders are compared exactly, a step only has to keep the table. -/
theorem Building.respects_bot_iff {step : Building β ε α} :
    step.Respects ⊥ ↔ ∀ builder, tableAnswer (step.runOn builder).2 = tableAnswer builder := by
  refine ⟨fun h => h.keepsTable, fun h => ⟨h, ?_⟩⟩
  rintro builder _ rfl
  exact ⟨rfl, rfl⟩

/-- The table of a builder stands: predicates do not change it, and to look it up shows only in
what `alike` leaves out, as a count of lookups may be. -/
structure Steady (alike : Setoid β) : Prop where
  afterLookup_alike : ∀ builder : β, alike.r (afterLookup builder) builder
  parallel_tableName : Building.Parallel (ε := ε) alike.r tableName tableName
  respects_add : ∀ predicate : Predicate, (predicate.add : Building β ε Unit).Respects alike

theorem Building.Respects.compositional {alike : Setoid β} (hsteady : Steady alike)
    (target : Target) :
    Compositional target fun ⦃_⦄ (step : Building β ε _) => step.Respects alike where
  answer a := ⟨fun _ => rfl, .pure a⟩
  sequence hstep hnext := by
    refine ⟨fun builder => ?_, hstep.parallel.bind fun a => (hnext a).parallel⟩
    rw [runOn_bind, ← hstep.keepsTable builder]
    rcases Building.runOn _ builder with ⟨result, after⟩
    cases result with
    | error error => rfl
    | ok a => exact (hnext a).keepsTable after
  whereIn field values := hsteady.respects_add (.among (target.qualify field) values)
  whereCompares field comparison value :=
    hsteady.respects_add (.compares (target.qualify field) comparison value)

namespace Recorder

/-- Recorders that differ in the number of lookups at most. -/
def apartFromLookups : Setoid Recorder :=
  Setoid.ker fun recorder => (recorder.table, recorder.limit, recorder.calls)

theorem runOn_record (call : PredicateCall) (recorder : Recorder) :
    (record call).runOn recorder =
      if recorder.limit = some recorder.calls.length then
        (.error (.refused recorder.calls.length), recorder)
      else (.ok (), { recorder with calls := recorder.calls ++ [call] }) := by
  rw [record, Building.runOn_bind, Building.runOn_get]
  by_cases h : recorder.limit = some recorder.calls.length <;> simp [h]

theorem steady : Steady apartFromLookups where
  afterLookup_alike := by
    rintro ⟨_ | table, limit, calls, lookups⟩ <;> rfl
  parallel_tableName := by
    rintro ⟨table, limit, calls, lookups⟩ ⟨table', limit', calls', lookups'⟩ h
    cases h
    cases table <;> exact ⟨rfl, rfl⟩
  respects_add predicate := by
    have hadd : ∃ call, (predicate.add : Building Recorder RecorderError Unit) = record call := by
      cases predicate <;> exact ⟨_, rfl⟩
    obtain ⟨call, hcall⟩ := hadd
    rw [hcall]
    constructor
    · rintro ⟨table, limit, calls, lookups⟩
      rw [runOn_record]
      split <;> cases table <;> rfl
    · rintro ⟨table, limit, calls, lookups⟩ ⟨table', limit', calls', lookups'⟩ h
      cases h
      rw [runOn_record, runOn_record]
      by_cases hlimit : limit = some calls.length
      · simp only [hlimit]
        exact ⟨rfl, rfl⟩
      · simp only [hlimit]
        exact ⟨rfl, rfl⟩

end Recorder

/-- A select is not changed by lookups, and predicates leave its source alone. -/
theorem Sql.Select.steady : Steady (⊥ : Setoid Sql.Select) where
  afterLookup_alike := by
    rintro ⟨projection, source, joins, condition⟩
    cases source <;> rfl
  parallel_tableName := by
    rintro select _ rfl
    exact ⟨rfl, rfl⟩
  respects_add predicate := by
    refine Building.respects_bot_iff.mpr ?_
    rintro ⟨projection, source, joins, condition⟩
    cases predicate <;> cases source <;> rfl

/-- The entries of one report, and then those of another. -/
def Report.append (report further : Report) : Report :=
  ⟨report.fields ++ further.fields, report.warnings ++ further.warnings⟩

@[simp]
theorem Report.append_empty (report : Report) : report.append .empty = report := by
  simp [append, empty]

namespace Definition

variable (definition : Definition β ε)

/-- Apply a bag and then, if that succeeded, another one. -/
def applyInTurn (first second : Bag) : Building β ε Report := do
  let report ← definition.apply first
  let further ← definition.apply second
  return report.append further

variable {definition}

/-- A report at the start only comes before what is reported of the entries. -/
theorem runOn_resolveEntries_append (definition : Definition β ε) (target : Target)
    (report start : Report) (entries : List (String × Value)) (builder : β) :
    (definition.resolveEntries target (report.append start) entries).runOn builder =
      (((definition.resolveEntries target start entries).runOn builder).1.map report.append,
        ((definition.resolveEntries target start entries).runOn builder).2) := by
  induction entries generalizing start builder with
  | nil => rfl
  | cons entry rest ih =>
      rw [resolveEntries, resolveEntries, Building.runOn_bind, Building.runOn_bind]
      rcases (definition.resolveField target entry.1 entry.2).runOn builder with ⟨result, after⟩
      cases result with
      | error error => rfl
      | ok answer =>
          have hadd : (report.append start).add entry.1 answer.1 answer.2 =
              report.append (start.add entry.1 answer.1 answer.2) := by
            simp [Report.append, Report.add]
          have hrest := ih (start.add entry.1 answer.1 answer.2) after
          rw [← hadd] at hrest
          exact hrest

/-- Entries behind others are taken up where those left the builder and the report. -/
theorem resolveEntries_append (target : Target) (report : Report)
    (first second : List (String × Value)) :
    definition.resolveEntries target report (first ++ second) =
      definition.resolveEntries target report first >>= fun middle =>
        definition.resolveEntries target middle second := by
  induction first generalizing report with
  | nil => rfl
  | cons entry rest ih =>
      simp only [List.cons_append, resolveEntries, bind_assoc]
      congr 1
      funext answer
      exact ih _

theorem runOn_apply_of_table (definition : Definition β ε) {builder : β} {table : String}
    (htable : tableAnswer builder = .ok table) (bag : Bag) :
    (definition.apply bag).runOn builder =
      (definition.resolveEntries ⟨table⟩ .empty
        (definition.sanitizer.sanitize bag).bag.entries).runOn (afterLookup builder) := by
  rw [apply, Building.runOn_bind, Target.runOn_resolve, htable]
  rfl

theorem runOn_apply_of_error (definition : Definition β ε) {builder : β} {error : ε}
    (htable : tableAnswer builder = .error error) (bag : Bag) :
    (definition.apply bag).runOn builder = (.error error, afterLookup builder) := by
  rw [apply, Building.runOn_bind, Target.runOn_resolve, htable]
  rfl

section Steady

variable {alike : Setoid β}

/-- No rule changes the table that the builder goes by, or looks at what `alike` leaves out. -/
def RulesRespect (alike : Setoid β) (definition : Definition β ε) : Prop :=
  ∀ name handler, definition.rules.handlers.find? name = some handler →
    ∀ target value, (handler target value).Respects alike

theorem RulesRespect.resolveEntries (hsteady : Steady alike)
    (hrules : definition.RulesRespect alike) (target : Target) (report : Report)
    (entries : List (String × Value)) :
    (definition.resolveEntries target report entries).Respects alike :=
  (Building.Respects.compositional hsteady target).resolveEntries
    (fun name handler hhandler => hrules name handler hhandler target) report entries

/-- To resolve a bag behind a report comes to the same as to apply it, with its own lookup of the
table, and to join the reports. -/
theorem resolveEntries_alike_apply (hsteady : Steady alike) (hrules : definition.RulesRespect alike)
    {builder : β} {table : String} (htable : tableAnswer builder = .ok table) (report : Report)
    (bag : Bag) :
    let resolved := (definition.resolveEntries ⟨table⟩ report
      (definition.sanitizer.sanitize bag).bag.entries).runOn builder
    let applied := (do
      let further ← definition.apply bag
      return report.append further : Building β ε Report).runOn builder
    resolved.1 = applied.1 ∧ alike.r resolved.2 applied.2 := by
  intro resolved applied
  have hresolved := definition.runOn_resolveEntries_append ⟨table⟩ report .empty
    (definition.sanitizer.sanitize bag).bag.entries builder
  rw [Report.append_empty] at hresolved
  obtain ⟨hresult, hafter⟩ := (hrules.resolveEntries hsteady ⟨table⟩ .empty
    (definition.sanitizer.sanitize bag).bag.entries).parallel builder (afterLookup builder)
      (alike.symm (hsteady.afterLookup_alike builder))
  rw [← definition.runOn_apply_of_table htable bag] at hresult hafter
  have happlied : applied = _ := Building.runOn_bind _ _ builder
  rw [show resolved = _ from hresolved, happlied, hresult]
  rcases hrun : (definition.apply bag).runOn builder with ⟨result, after⟩
  rw [hrun] at hafter
  cases result with
  | error error => exact ⟨rfl, hafter⟩
  | ok further => exact ⟨rfl, hafter⟩

/-- A bag that lists the entries of one bag and then those of another comes to the same as the two
bags in turn. -/
theorem apply_insertMany_eq_inTurn (definition : Definition β ε) (hsteady : Steady alike)
    (hrules : definition.RulesRespect alike) (first second : Bag)
    (hdisjoint : first.names.Disjoint second.names) (builder : β) :
    let joined := (definition.apply (first.insertMany second.entries)).runOn builder
    let inTurn := (definition.applyInTurn first second).runOn builder
    joined.1 = inTurn.1 ∧ alike.r joined.2 inTurn.2 := by
  intro joined inTurn
  let sanitized (bag : Bag) := (definition.sanitizer.sanitize bag).bag.entries
  have hentries : sanitized (first.insertMany second.entries) =
      sanitized first ++ sanitized second := by
    simp [sanitized, Sanitizer.sanitize,
      OrderedMap.entries_insertMany_of_disjoint second.nodup hdisjoint]
  cases htable : tableAnswer builder with
  | error error =>
      have hjoined : joined = (.error error, afterLookup builder) :=
        definition.runOn_apply_of_error htable _
      have hinTurn : inTurn = (.error error, afterLookup builder) :=
        Building.runOn_bind_of_error (definition.runOn_apply_of_error htable _)
      rw [hjoined, hinTurn]
      exact ⟨rfl, alike.refl _⟩
  | ok table =>
      have hjoined : joined = (definition.resolveEntries ⟨table⟩ .empty (sanitized first) >>=
          fun report => definition.resolveEntries ⟨table⟩ report (sanitized second)).runOn
            (afterLookup builder) := by
        rw [← resolveEntries_append, ← hentries]
        exact definition.runOn_apply_of_table htable _
      have hkept : tableAnswer ((definition.resolveEntries ⟨table⟩ .empty
          (sanitized first)).runOn (afterLookup builder)).2 = .ok table := by
        rw [(hrules.resolveEntries hsteady _ _ _).keepsTable]
        exact (hsteady.parallel_tableName _ _ (hsteady.afterLookup_alike builder)).1.trans htable
      have happlied := definition.runOn_apply_of_table htable first
      -- both runs resolve the entries of the first bag on the same builder
      rcases hfirst : (definition.resolveEntries ⟨table⟩ .empty (sanitized first)).runOn
        (afterLookup builder) with ⟨result, middle⟩
      rw [hfirst] at hkept happlied
      cases result with
      | error error =>
          have hinTurn : inTurn = (.error error, middle) :=
            Building.runOn_bind_of_error happlied
          rw [hjoined, hinTurn, Building.runOn_bind_of_error hfirst]
          exact ⟨rfl, alike.refl _⟩
      | ok report =>
          have hinTurn : inTurn = _ := Building.runOn_bind_of_ok happlied
          rw [hjoined, Building.runOn_bind_of_ok hfirst, hinTurn]
          exact resolveEntries_alike_apply hsteady hrules hkept report second

end Steady

/-- A declared status, and a rule that compares the age with every limit given. -/
def ageLimits : Definition Recorder RecorderError :=
  ⟨⟨.ofList [("status", .exactOrIn)]⟩,
    (RuleSet.empty defaultRulePrefix).insertForField "age" fun target value =>
      PredicateStep.performAll target
        (value.scalars.map fun limit => .whereCompares "age" .greaterOrEqual limit),
    .default⟩

/-- The recorder is full after the first of two limits, which belong to the second bag. -/
theorem apply_insertMany_eq_inTurn_ageLimits :
    let first : Bag := .ofList [("status", .scalar (.int 1)), ("page", .scalar (.int 2))]
    let second : Bag := .ofList [("age", .sequence [.int 18, .int 21])]
    let recorder := Recorder.new (some "users") (some 2)
    let joined := (ageLimits.apply (first.insertMany second.entries)).runOn recorder
    let inTurn := (ageLimits.applyInTurn first second).runOn recorder
    Steady Recorder.apartFromLookups ∧ ageLimits.RulesRespect Recorder.apartFromLookups ∧
      first.names.Disjoint second.names ∧
      joined.1 = .error (.refused 2) ∧ joined.2.lookups = 1 ∧ inTurn.2.lookups = 2 ∧
      joined.1 = inTurn.1 ∧ joined.2.calls = inTurn.2.calls := by
  intro first second recorder joined inTurn
  have hrules : ageLimits.RulesRespect Recorder.apartFromLookups := by
    intro name handler hhandler target value
    -- the rules have one entry
    cases List.mem_singleton.mp (mem_of_findEntry_eq_some hhandler)
    exact (Building.Respects.compositional Recorder.steady target).performAll (by simp)
  have hdisjoint : first.names.Disjoint second.names :=
    List.disjoint_singleton.mpr (by decide +kernel)
  obtain ⟨hresult, halike⟩ :=
    apply_insertMany_eq_inTurn ageLimits Recorder.steady hrules first second hdisjoint recorder
  exact ⟨Recorder.steady, hrules, hdisjoint, by decide +kernel, by decide +kernel,
    by decide +kernel, hresult, congrArg (fun parts => parts.2.2) halike⟩

/-- A query that becomes a subquery at every predicate, under an alias of its own. -/
structure Nested where
  conditions : List QualifiedField

/-- Add a predicate to the query and wrap it. -/
def Nested.filterOn (field : QualifiedField) : Building Nested Empty Unit :=
  modify fun query => ⟨query.conditions ++ [field]⟩

instance : QueryBuilder Nested Empty where
  tableName := do return "t" ++ toString (← get).conditions.length
  whereIn field _ := Nested.filterOn field
  whereCompares field _ _ := Nested.filterOn field

/-- A query that takes another alias at every lookup of its table. -/
structure Realiased where
  conditions : List QualifiedField
  lookups : Nat

/-- Add a predicate to the query. -/
def Realiased.filterOn (field : QualifiedField) : Building Realiased Empty Unit :=
  modify fun query => { query with conditions := query.conditions ++ [field] }

instance : QueryBuilder Realiased Empty where
  tableName := do
    let query ← get
    set { query with lookups := query.lookups + 1 }
    return "t" ++ toString query.lookups
  whereIn field _ := Realiased.filterOn field
  whereCompares field _ _ := Realiased.filterOn field

/-- Two declared fields and no rules. -/
def twoFields : DefinitionBuilder β Empty :=
  .new ⟨.ofList [("a", .exactOrIn), ("b", .exactOrIn)]⟩

/-- A rule that compares its field with the number of lookups of the table. -/
def lookupsRule : Handler Recorder RecorderError := fun target _ => do
  let recorder ← get
  target.whereCompares "b" .equal (.int (.ofNat recorder.lookups))

/-- No rule changes the table that the builder goes by. -/
def RulesKeepTable (definition : Definition β ε) : Prop :=
  ∀ name handler, definition.rules.handlers.find? name = some handler →
    ∀ target value builder, tableAnswer ((handler target value).runOn builder).2 =
      tableAnswer builder

/-- It is not enough that the rules keep the table. A builder whose predicates or whose lookups
change it gets the predicates of the second bag under another name, and a rule that looks at the
number of lookups finds one more. -/
theorem apply_insertMany_ne_inTurn :
    let first : Bag := .ofList [("a", .scalar (.int 1))]
    let second : Bag := .ofList [("b", .scalar (.int 2))]
    first.names.Disjoint second.names ∧
      (∃ definition : Definition Nested Empty, twoFields.build = .ok definition ∧
        definition.RulesKeepTable ∧
        ((definition.apply (first.insertMany second.entries)).runOn ⟨[]⟩).2.conditions =
          [⟨"t0", "a"⟩, ⟨"t0", "b"⟩] ∧
        ((definition.applyInTurn first second).runOn ⟨[]⟩).2.conditions =
          [⟨"t0", "a"⟩, ⟨"t1", "b"⟩]) ∧
      (∃ definition : Definition Realiased Empty, twoFields.build = .ok definition ∧
        definition.RulesKeepTable ∧
        ((definition.apply (first.insertMany second.entries)).runOn ⟨[], 0⟩).2.conditions =
          [⟨"t0", "a"⟩, ⟨"t0", "b"⟩] ∧
        ((definition.applyInTurn first second).runOn ⟨[], 0⟩).2.conditions =
          [⟨"t0", "a"⟩, ⟨"t1", "b"⟩]) ∧
      ∃ definition, ((DefinitionBuilder.new ⟨∅⟩).rule "b" lookupsRule).build = .ok definition ∧
        definition.RulesKeepTable ∧
        ((definition.apply (first.insertMany second.entries)).runOn
          (Recorder.new (some "t") none)).2.calls =
            [.whereCompares ⟨"t", "b"⟩ .equal (.int 1)] ∧
        ((definition.applyInTurn first second).runOn (Recorder.new (some "t") none)).2.calls =
          [.whereCompares ⟨"t", "b"⟩ .equal (.int 2)] := by
  intro first second
  refine ⟨List.disjoint_singleton.mpr (by decide +kernel),
    ⟨_, rfl, ?_, by decide +kernel, by decide +kernel⟩,
    ⟨_, rfl, ?_, by decide +kernel, by decide +kernel⟩,
    ⟨_, rfl, ?_, by decide +kernel, by decide +kernel⟩⟩
  · rintro name handler ⟨⟩
  · rintro name handler ⟨⟩
  · intro name handler hhandler target value recorder
    -- the rules have one entry
    cases List.mem_singleton.mp (mem_of_findEntry_eq_some hhandler)
    exact (Recorder.steady.respects_add (.compares _ _ _)).keepsTable recorder

end Definition

end RequestFilter
