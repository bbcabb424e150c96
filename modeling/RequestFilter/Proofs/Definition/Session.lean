import RequestFilter.Proofs.Definition.Composition
import RequestFilter.Proofs.Definition.Program

/-!
# Sessions on one builder

Several applications may follow each other on one builder, and their rules may
replace its table. Each of them looks up the table once, before anything else,
and qualifies every field by the name it found there.
-/

namespace RequestFilter

open QueryBuilder

/-- What is asked of a builder from outside of rules, and through their targets. -/
inductive Event (ε : Type) where
  | lookup (answer : Except ε String)
  /-- A rule begins. -/
  | rule
  | predicate (predicate : Predicate)

/-- Rules, and predicates on fields of this table. -/
def Event.IsUnder {ε : Type} (table : String) : Event ε → Prop
  | lookup _ => False
  | rule => True
  | predicate (.among field _) => field.table = table
  | predicate (.compares field _ _) => field.table = table

/-- A builder, and what it was asked for. -/
@[ext]
structure Watched (β ε : Type) where
  builder : β
  log : List (Event ε)

namespace Watched

variable {β ε α : Type}

def note (event : Event ε) : Building (Watched β ε) ε Unit := do
  let watched ← get
  set { watched with log := watched.log ++ [event] }

/-- A step of the builder itself. -/
def inside (step : Building β ε α) : Building (Watched β ε) ε α := do
  let watched ← get
  let (result, after) := step.runOn watched.builder
  set { watched with builder := after }
  MonadExcept.ofExcept result

/-- Rules may replace the builder, which is not noted. -/
def access : Access (Watched β ε) β :=
  ⟨builder, fun change watched => { watched with builder := change watched.builder }⟩

@[simp]
theorem runOn_note (event : Event ε) (watched : Watched β ε) :
    (note event).runOn watched =
      (.ok (), { watched with log := watched.log ++ [event] }) := rfl

@[simp]
theorem runOn_inside (step : Building β ε α) (watched : Watched β ε) :
    (inside step).runOn watched = ((step.runOn watched.builder).1,
      { watched with builder := (step.runOn watched.builder).2 }) := by
  simp [inside, Building.runOn_bind]

/-- All that the step asks for is under one table. -/
def StaysUnder (table : String) (step : Building (Watched β ε) ε α) : Prop :=
  ∀ watched, ∃ events, (step.runOn watched).2.log = watched.log ++ events ∧
    ∀ event ∈ events, event.IsUnder table

namespace StaysUnder

variable {γ : Type} {table : String}

theorem of_log_eq {step : Building (Watched β ε) ε α}
    (h : ∀ watched, (step.runOn watched).2.log = watched.log) : StaysUnder table step :=
  fun watched => ⟨[], by rw [h, List.append_nil], by simp⟩

theorem bind {step : Building (Watched β ε) ε α} {next : α → Building (Watched β ε) ε γ}
    (hstep : StaysUnder table step) (hnext : ∀ a, StaysUnder table (next a)) :
    StaysUnder table (step >>= next) := by
  intro watched
  obtain ⟨events, hlog, hevents⟩ := hstep watched
  rw [Building.runOn_bind]
  rcases hrun : step.runOn watched with ⟨result, after⟩
  rw [hrun] at hlog
  cases result with
  | error error => exact ⟨events, hlog, hevents⟩
  | ok a =>
      obtain ⟨more, hmore, hunder⟩ := hnext a after
      refine ⟨events ++ more, ?_, ?_⟩
      · rw [hmore, hlog, List.append_assoc]
      · intro event hevent
        exact (List.mem_append.mp hevent).elim (hevents event) (hunder event)

theorem observe {step : Building (Watched β ε) ε α} (h : StaysUnder table step) :
    StaysUnder table step.observe := h

theorem note (event : Event ε) (h : event.IsUnder table) :
    StaysUnder table (Watched.note event : Building (Watched β ε) ε Unit) :=
  fun _ => ⟨[event], rfl, List.forall_mem_singleton.mpr h⟩

end StaysUnder

variable [QueryBuilder β ε]

instance : QueryBuilder (Watched β ε) ε where
  tableName := do
    let answer ← (inside tableName).observe
    note (.lookup answer)
    MonadExcept.ofExcept answer
  whereIn field values := do
    note (.predicate (.among field values))
    inside (QueryBuilder.whereIn field values)
  whereCompares field comparison value := do
    note (.predicate (.compares field comparison value))
    inside (QueryBuilder.whereCompares field comparison value)

theorem tableAnswer_eq (watched : Watched β ε) :
    tableAnswer watched = tableAnswer watched.builder := by
  simp [tableAnswer, tableName, Building.runOn_bind]

theorem afterLookup_eq (watched : Watched β ε) :
    afterLookup watched = ⟨afterLookup watched.builder,
      watched.log ++ [.lookup (tableAnswer watched.builder)]⟩ := by
  simp [afterLookup, tableAnswer, tableName, Building.runOn_bind]

theorem runOn_add (predicate : Predicate) (watched : Watched β ε) :
    (predicate.add : Building (Watched β ε) ε Unit).runOn watched =
      (((predicate.add : Building β ε Unit).runOn watched.builder).1,
        ⟨((predicate.add : Building β ε Unit).runOn watched.builder).2,
          watched.log ++ [.predicate predicate]⟩) := by
  cases predicate <;>
    simp [Predicate.add, QueryBuilder.whereIn, QueryBuilder.whereCompares, Building.runOn_bind]

/-- The builder that is watched. -/
def IsAround (builder : β) (watched : Watched β ε) : Prop :=
  watched.builder = builder

/-- To be watched makes no difference to what a predicate comes to. -/
theorem parallel_add (predicate : Predicate) :
    Building.Parallel IsAround (predicate.add : Building β ε Unit)
      (predicate.add : Building (Watched β ε) ε Unit) := by
  rintro builder watched rfl
  rw [runOn_add]
  exact ⟨rfl, rfl⟩

namespace StaysUnder

variable {table : String}

theorem add (predicate : Predicate) (h : (Event.predicate predicate : Event ε).IsUnder table) :
    StaysUnder table (predicate.add : Building (Watched β ε) ε Unit) := by
  intro watched
  rw [runOn_add]
  exact ⟨[.predicate predicate], rfl, List.forall_mem_singleton.mpr h⟩

theorem compositional (target : Target) :
    Compositional target fun ⦃_⦄ (step : Building (Watched β ε) ε _) =>
      StaysUnder target.table step where
  answer _ := of_log_eq fun _ => rfl
  sequence := bind
  whereIn field values := add (.among (target.qualify field) values) rfl
  whereCompares field comparison value :=
    add (.compares (target.qualify field) comparison value) rfl

/-- Whatever a rule does, the predicates that it adds through its target are under one table. -/
theorem run (target : Target) (program : RuleProgram β ε) :
    StaysUnder target.table (program.run access target) := by
  induction program with
  | finish result => exact of_log_eq fun watched => by rw [RuleProgram.run, Building.runOn_ofExcept]
  | whereIn field values next ih =>
      exact ((compositional target).whereIn field values).observe.bind ih
  | whereCompares field comparison value next ih =>
      exact ((compositional target).whereCompares field comparison value).observe.bind ih
  | generic operator field value next ih =>
      exact ((compositional target).applyGeneric operator field value).observe.bind ih
  | builder change next ih =>
      -- the builder is replaced, and the log stays
      exact fun watched => ih watched.builder (access.change change watched)

end StaysUnder

end Watched

/-- A definition and the bag that it is applied to. -/
structure Application (β ε : Type) where
  definition : PortableDefinition β ε
  bag : Bag

namespace Application

variable {β ε : Type} [QueryBuilder β ε]

/-- The definition for a builder. -/
def plain (application : Application β ε) : Definition β ε :=
  application.definition.on (RuleProgram.run .everything)

/-- The definition for a watched builder, on which the beginning of every rule is noted. -/
def watched (application : Application β ε) : Definition (Watched β ε) ε :=
  application.definition.on fun target program => do
    Watched.note .rule
    program.run Watched.access target

def perform (application : Application β ε) : Building β ε Report :=
  application.plain.apply application.bag

def performWatched (application : Application β ε) : Building (Watched β ε) ε Report :=
  application.watched.apply application.bag

/-- A rule that is watched does what it does unwatched. -/
theorem parallel_watched (application : Application β ε) :
    Definition.Parallel Watched.IsAround application.plain application.watched := by
  refine application.definition.parallel_on fun target program => ?_
  have hrun := RuleProgram.parallel_run Watched.parallel_add .everything Watched.access
    (fun _ _ h => ⟨h.symm, fun change => congrArg change h⟩) target program
  rintro builder watched rfl
  exact hrun _ _ rfl

theorem staysUnder_watched (application : Application β ε) (target : Target) (report : Report)
    (entries : List (String × Value)) :
    Watched.StaysUnder target.table
      (application.watched.resolveEntries target report entries) := by
  refine (Watched.StaysUnder.compositional target).resolveEntries ?_ report entries
  intro name handler hhandler value
  rw [watched, PortableDefinition.on, OrderedMap.find?_map] at hhandler
  obtain ⟨program, _, rfl⟩ := Option.map_eq_some_iff.mp hhandler
  exact (Watched.StaysUnder.note .rule trivial).bind fun _ => .run target (program target value)

/-- An application that finds a table keeps to it, and comes to what it comes to unwatched. -/
theorem exists_runOn_performWatched (application : Application β ε) (watched : Watched β ε)
    {table : String} (htable : tableAnswer watched.builder = .ok table) :
    ∃ events, (∀ event ∈ events, event.IsUnder table) ∧
      application.performWatched.runOn watched =
        ((application.perform.runOn watched.builder).1,
          ⟨(application.perform.runOn watched.builder).2,
            watched.log ++ .lookup (.ok table) :: events⟩) := by
  have hwatched : tableAnswer watched = .ok table := watched.tableAnswer_eq.trans htable
  rw [perform, performWatched, application.watched.runOn_apply_of_table hwatched,
    application.plain.runOn_apply_of_table htable, watched.afterLookup_eq, htable]
  let looked : Watched β ε := ⟨afterLookup watched.builder, watched.log ++ [.lookup (.ok table)]⟩
  let entries := (application.definition.sanitizer.sanitize application.bag).bag.entries
  obtain ⟨hresult, hafter⟩ := application.parallel_watched.resolveEntries Watched.parallel_add
    ⟨table⟩ .empty entries looked.builder looked rfl
  obtain ⟨events, hlog, hevents⟩ :=
    application.staysUnder_watched ⟨table⟩ .empty entries looked
  refine ⟨events, hevents, Prod.ext hresult.symm (Watched.ext hafter ?_)⟩
  exact hlog.trans (List.append_assoc ..)

/-- An application that finds no table does nothing else. -/
theorem runOn_performWatched_of_error (application : Application β ε) (watched : Watched β ε)
    {error : ε} (htable : tableAnswer watched.builder = .error error) :
    application.performWatched.runOn watched =
      (.error error, ⟨afterLookup watched.builder, watched.log ++ [.lookup (.error error)]⟩) := by
  have hwatched : tableAnswer watched = .error error := watched.tableAnswer_eq.trans htable
  rw [performWatched, application.watched.runOn_apply_of_error hwatched, watched.afterLookup_eq,
    htable]

end Application

/-- Perform applications one after another, whatever they come to. -/
def performInTurn {β γ ε : Type} (perform : Application β ε → Building γ ε Report) :
    List (Application β ε) → γ → List (Except ε Report) × γ
  | [], builder => ([], builder)
  | application :: rest, builder =>
      let (result, after) := (perform application).runOn builder
      let (results, last) := performInTurn perform rest after
      (result :: results, last)

theorem performInTurn_cons {β γ ε : Type} {perform : Application β ε → Building γ ε Report}
    {application : Application β ε} {builder after : γ} {result : Except ε Report}
    (h : (perform application).runOn builder = (result, after)) (rest : List (Application β ε)) :
    performInTurn perform (application :: rest) builder =
      (result :: (performInTurn perform rest after).1, (performInTurn perform rest after).2) := by
  rw [performInTurn, h]

variable {β ε : Type} [QueryBuilder β ε]

/-- How a session on a builder goes: what its applications come to, how they leave the builder,
and the log. An application that finds no table ends at once; one that finds a table qualifies
by it to its end. -/
inductive Session :
    List (Application β ε) → β → List (Except ε Report) → β → List (Event ε) → Prop
  | done (builder : β) : Session [] builder [] builder []
  | missing {application : Application β ε} {rest : List (Application β ε)} {builder last : β}
      {error : ε} {results : List (Except ε Report)} {log : List (Event ε)}
      (htable : tableAnswer builder = .error error)
      (hrest : Session rest (afterLookup builder) results last log) :
      Session (application :: rest) builder (.error error :: results) last
        (.lookup (.error error) :: log)
  | found {application : Application β ε} {rest : List (Application β ε)}
      {builder after last : β} {table : String} {result : Except ε Report}
      {results : List (Except ε Report)} {events log : List (Event ε)}
      (htable : tableAnswer builder = .ok table)
      (hevents : ∀ event ∈ events, event.IsUnder table)
      (hrun : application.perform.runOn builder = (result, after))
      (hrest : Session rest after results last log) :
      Session (application :: rest) builder (result :: results) last
        (.lookup (.ok table) :: (events ++ log))

/-- A watched session goes as it does unwatched, and adds to the log what belongs to it. -/
theorem exists_session (applications : List (Application β ε)) (watched : Watched β ε) :
    let run := performInTurn Application.performWatched applications watched
    performInTurn Application.perform applications watched.builder = (run.1, run.2.builder) ∧
      ∃ events, run.2.log = watched.log ++ events ∧
        Session applications watched.builder run.1 run.2.builder events := by
  induction applications generalizing watched with
  | nil => exact ⟨rfl, [], (List.append_nil _).symm, .done _⟩
  | cons application rest ih =>
      cases htable : tableAnswer watched.builder with
      | error error =>
          have hplain : application.perform.runOn watched.builder = _ :=
            application.plain.runOn_apply_of_error htable _
          have hwatched := application.runOn_performWatched_of_error watched htable
          rw [performInTurn_cons hplain, performInTurn_cons hwatched]
          obtain ⟨hsame, events, hlog, hsession⟩ :=
            ih ⟨afterLookup watched.builder, watched.log ++ [.lookup (.error error)]⟩
          rw [hsame]
          exact ⟨rfl, .lookup (.error error) :: events,
            hlog.trans (List.append_assoc ..), .missing htable hsession⟩
      | ok table =>
          obtain ⟨first, hfirst, hwatched⟩ :=
            application.exists_runOn_performWatched watched htable
          rcases hplain : application.perform.runOn watched.builder with ⟨result, after⟩
          rw [hplain] at hwatched
          rw [performInTurn_cons hplain, performInTurn_cons hwatched]
          obtain ⟨hsame, events, hlog, hsession⟩ :=
            ih ⟨after, watched.log ++ .lookup (.ok table) :: first⟩
          rw [hsame]
          exact ⟨rfl, .lookup (.ok table) :: (first ++ events),
            hlog.trans (List.append_assoc ..), .found htable hfirst hplain hsession⟩

/-- In a session of applications to one builder, each looks up the table once, before its rules
and predicates, and all fields that it qualifies until its end have the table that the builder had
at its start. Without a table it fails with the builder's error, no rule begins, and the lookup is
all that happens to the builder; to a select, for want of a source, nothing happens. -/
theorem session_of_watched (applications : List (Application β ε)) (builder : β) :
    let run := performInTurn Application.performWatched applications ⟨builder, []⟩
    (performInTurn Application.perform applications builder = (run.1, run.2.builder) ∧
      Session applications builder run.1 run.2.builder run.2.log) ∧
    ∀ projection joins condition,
      let select : Sql.Select := ⟨projection, none, joins, condition⟩
      tableAnswer select = .error .missingSource ∧ afterLookup select = select := by
  refine ⟨?_, fun _ _ _ => ⟨rfl, rfl⟩⟩
  obtain ⟨hsame, events, hlog, hsession⟩ := exists_session applications ⟨builder, []⟩
  rw [List.nil_append] at hlog
  exact ⟨hsame, hlog ▸ hsession⟩

/-- Filters by status, behind a rule that moves the select to the archive. -/
def archiveSearch : Application Sql.Select Sql.TargetError where
  definition :=
    { spec := ⟨.ofList [("status", .exactOrIn)]⟩
      rulePrefix := defaultRulePrefix
      programs := .ofList [(ruleName defaultRulePrefix "archive", fun _ _ =>
        .builder (fun select => { select with source := some (.table (.named none "archive") "a") })
          fun _ => .whereCompares "closed" .equal (.bool true) .finish)]
      sanitizer := .default }
  bag := .ofList [("archive", .scalar (.bool true)), ("status", .scalar (.int 1))]

/-- The first application keeps to the table that it started from. -/
example :
    (performInTurn Application.performWatched [archiveSearch, archiveSearch]
      ⟨⟨.all, some (.table (.named none "users") "u"), [], .literal (.bool true)⟩, []⟩).2.log =
      [.lookup (.ok "u"), .rule, .predicate (.compares ⟨"u", "closed"⟩ .equal (.bool true)),
        .predicate (.among ⟨"u", "status"⟩ [.int 1]),
        .lookup (.ok "a"), .rule, .predicate (.compares ⟨"a", "closed"⟩ .equal (.bool true)),
        .predicate (.among ⟨"a", "status"⟩ [.int 1])] := by
  rfl

end RequestFilter
