import RequestFilter.Proofs.Definition.Composition
import RequestFilter.Proofs.Sql.Operand

/-!
# Predicates that stand in a statement

Whatever the rules of other fields do, a field without a rule restricts the select
by its own predicate when its turn comes. As long as the rules leave the condition
standing and only add to it, the predicate stands in the statement.
-/

namespace RequestFilter

namespace Sql

/-- The condition is written out, and the predicate stands in it. -/
def Expression.Stands (predicate condition : Expression) : Prop :=
  condition.isBool true = false ∧ predicate.tokens <:+: condition.tokens

namespace Expression.Stands

variable {predicate condition : Expression}

/-- A predicate still stands in a condition after another one was added. -/
theorem conj (h : predicate.Stands condition) (added : Expression) :
    predicate.Stands (condition.conj added) := by
  obtain ⟨hcondition, hinfix⟩ := h
  unfold Expression.conj
  rw [if_neg (Bool.eq_false_iff.mp hcondition)]
  split
  · exact ⟨hcondition, hinfix⟩
  · refine ⟨rfl, hinfix.trans ?_⟩
    rw [tokens_and]
    exact ⟨[.mark .opening], .mark .and :: added.tokens ++ [.mark .closing], by simp⟩

/-- So it does after any number of them. -/
theorem foldl_conj (h : predicate.Stands condition) (added : List Expression) :
    predicate.Stands (added.foldl .conj condition) := by
  induction added generalizing condition with
  | nil => exact h
  | cons next rest ih => exact ih (h.conj next)

/-- A predicate that was just added stands in the condition, unless it is the literal truth. -/
theorem of_conj (condition : Expression) (h : predicate.isBool true = false) :
    predicate.Stands (condition.conj predicate) := by
  unfold Expression.conj
  split
  · exact ⟨h, List.infix_rfl⟩
  · rw [if_neg (Bool.eq_false_iff.mp h)]
    refine ⟨rfl, ?_⟩
    rw [tokens_and]
    exact ⟨.mark .opening :: condition.tokens ++ [.mark .and], [.mark .closing], by simp⟩

/-- What stands in the condition of a select stands in its statement. -/
theorem infix_statement {select : Select} (h : predicate.Stands select.condition) :
    predicate.tokens <:+: select.statement.tokens := by
  obtain ⟨projection, source, joins, condition⟩ := select
  obtain ⟨hcondition, hinfix⟩ := h
  rw [Select.statement, Statement.tokens_ofFragments (Select.separable _), ← Select.tokens,
    Select.tokens_eq_append, conditionTokens_eq_cons hcondition]
  refine hinfix.trans ?_
  exact ⟨Select.tokens ⟨projection, source, joins, .always⟩ ++ [.mark .condition], [], by simp⟩

end Expression.Stands

end Sql

open Sql

namespace Building

variable {α γ : Type}

/-- On every select the step fails in a way that it may, or it leaves the condition standing and
only adds to it. -/
def Extends (mayFail : TargetError → Prop) (step : Building Select TargetError α) : Prop :=
  ∀ select : Select,
    (∃ error after, step.runOn select = (.error error, after) ∧ mayFail error) ∨
      ∃ a after added, step.runOn select = (.ok a, after) ∧
        after.condition = List.foldl Expression.conj select.condition added

namespace Extends

variable {mayFail : TargetError → Prop}

theorem pure (a : α) : Extends mayFail (Pure.pure a) :=
  fun select => .inr ⟨a, select, [], rfl, rfl⟩

/-- A sequence adds what its steps add, and fails as one of them may. -/
theorem bind {step : Building Select TargetError α} {next : α → Building Select TargetError γ}
    (hstep : Extends mayFail step) (hnext : ∀ a, Extends mayFail (next a)) :
    Extends mayFail (step >>= next) := by
  intro select
  rcases hstep select with ⟨error, after, hrun, hfail⟩ | ⟨a, middle, added, hrun, hadded⟩
  · exact .inl ⟨error, after, runOn_bind_of_error hrun, hfail⟩
  · rw [runOn_bind_of_ok hrun]
    rcases hnext a middle with hfails | ⟨c, after, more, hrun', hmore⟩
    · exact .inl hfails
    · refine .inr ⟨c, after, added ++ more, hrun', ?_⟩
      rw [hmore, hadded, List.foldl_append]

/-- Predicates only add to the condition and never fail, so what is made of them extends it. -/
theorem compositional (mayFail : TargetError → Prop) (target : Target) :
    Compositional target fun ⦃_⦄ (step : Building Select TargetError _) =>
      Extends mayFail step where
  answer := pure
  sequence := bind
  whereIn field values _ :=
    .inr ⟨(), _, [membership (target.qualify field) values], rfl, rfl⟩
  whereCompares field comparison value _ :=
    .inr ⟨(), _, [fieldComparison (target.qualify field) comparison value], rfl, rfl⟩

end Extends

end Building

namespace Definition

variable {definition : Definition Select TargetError}

/-- The rules fail in ways that they may, or leave the condition of a select standing. -/
def RulesExtend (definition : Definition Select TargetError) (mayFail : TargetError → Prop) :
    Prop :=
  ∀ name handler, definition.rules.handlers.find? name = some handler →
    ∀ target value, (handler target value).Extends mayFail

/-- An application fails in a way that its rules may, or the tokens stand in the statement. -/
def Writes (definition : Definition Select TargetError) (mayFail : TargetError → Prop) (bag : Bag)
    (select : Select) (tokens : List Token) : Prop :=
  (∃ error after, (definition.apply bag).runOn select = (.error error, after) ∧ mayFail error) ∨
    ∃ report narrowed, (definition.apply bag).runOn select = (.ok report, narrowed) ∧
      tokens <:+: narrowed.statement.tokens

/-- The entries before the given one end the application by a failure; or else the select is
restricted by the predicate, and the entries behind are resolved on it. -/
def Restricts (definition : Definition Select TargetError) (target : Target) (bag : Bag)
    (select : Select) (entry : String × Value) (predicate : Expression) : Prop :=
  ∃ earlier later, (definition.sanitizer.sanitize bag).bag.entries = earlier ++ entry :: later ∧
    match (definition.resolveEntries target .empty earlier).runOn select with
    | (.error error, after) => (definition.apply bag).runOn select = (.error error, after)
    | (.ok report, middle) => ∃ resolution warning, (definition.apply bag).runOn select =
        (definition.resolveEntries target (report.add entry.1 resolution warning) later).runOn
          (middle.restrict predicate)

/-- The select is restricted for the field by a predicate with these tokens, and they stand in the
statement unless rules do away with conditions. -/
def Filters (definition : Definition Select TargetError) (target : Target) (bag : Bag)
    (select : Select) (field : String) (tokens : List Token) : Prop :=
  ∃ value predicate, predicate.tokens = tokens ∧
    definition.Restricts target bag select (field, value) predicate ∧
    ∀ mayFail, definition.RulesExtend mayFail → definition.Writes mayFail bag select tokens

section Unruled

variable {select : Select} {source : Source} {bag : Bag} {field : String} {value : Value}
  {predicate : Expression}

/-- An entry without a rule restricts the select by the one predicate of its operator. -/
theorem restricts_of_unruled (hsource : select.source = some source)
    (hrule : definition.rules.handler? field = none)
    (hentry : (field, value) ∈ (definition.sanitizer.sanitize bag).bag.entries)
    (hown : definition.entryPredicates ⟨source.knownAs⟩ (field, value) = [predicate]) :
    definition.Restricts ⟨source.knownAs⟩ bag select (field, value) predicate := by
  obtain ⟨earlier, later, hentries⟩ := List.append_of_mem hentry
  have hrun : (definition.apply bag).runOn select =
      (definition.resolveEntries ⟨source.knownAs⟩ .empty earlier >>= fun report =>
        definition.resolveEntries ⟨source.knownAs⟩ report ((field, value) :: later)).runOn
          select := by
    unfold apply
    rw [Building.runOn_bind_of_ok (Select.runOn_resolve hsource), hentries,
      resolveEntries_append]
  refine ⟨earlier, later, hentries, ?_⟩
  split
  next error after hearlier => exact hrun.trans (Building.runOn_bind_of_error hearlier)
  next report middle hearlier =>
    obtain ⟨⟨resolution, warning⟩, hanswer⟩ :=
      runOn_resolveField_of_unruled hrule ⟨source.knownAs⟩ value middle
    have hmiddle : (definition.resolveEntries ⟨source.knownAs⟩ report
        ((field, value) :: later)).runOn middle = _ := Building.runOn_bind_of_ok hanswer
    rw [hown] at hmiddle
    rw [Building.runOn_bind_of_ok hearlier, hmiddle] at hrun
    exact ⟨resolution, warning, hrun⟩

/-- A predicate that a select is restricted by is not lost to rules that leave conditions alone. -/
theorem Restricts.writes {target : Target} {entry : String × Value} {mayFail : TargetError → Prop}
    (h : definition.Restricts target bag select entry predicate)
    (hrules : definition.RulesExtend mayFail) (hpredicate : predicate.isBool true = false) :
    definition.Writes mayFail bag select predicate.tokens := by
  obtain ⟨earlier, later, -, hrun⟩ := h
  have hextends := (Building.Extends.compositional mayFail target).resolveEntries
    fun name handler hhandler => hrules name handler hhandler target
  rcases hextends .empty earlier select with ⟨error, after, hearlier, hfail⟩ |
    ⟨report, middle, added, hearlier, -⟩
  · rw [hearlier] at hrun
    exact .inl ⟨error, after, hrun, hfail⟩
  · rw [hearlier] at hrun
    obtain ⟨resolution, warning, hrun⟩ := hrun
    rcases hextends (report.add entry.1 resolution warning) later (middle.restrict predicate) with
      ⟨error, after, hlater, hfail⟩ | ⟨final, narrowed, more, hlater, hmore⟩
    · exact .inl ⟨error, after, hrun.trans hlater, hfail⟩
    · refine .inr ⟨final, narrowed, hrun.trans hlater, Expression.Stands.infix_statement ?_⟩
      rw [hmore]
      exact (Expression.Stands.of_conj middle.condition hpredicate).foldl_conj more

/-- The tokens of such a predicate stand in the statement. -/
theorem filters_of_unruled (hsource : select.source = some source)
    (hrule : definition.rules.handler? field = none)
    (hentry : (field, value) ∈ (definition.sanitizer.sanitize bag).bag.entries)
    (hown : definition.entryPredicates ⟨source.knownAs⟩ (field, value) = [predicate])
    (hpredicate : predicate.isBool true = false) :
    definition.Filters ⟨source.knownAs⟩ bag select field predicate.tokens := by
  have hrestricts := restricts_of_unruled hsource hrule hentry hown
  exact ⟨value, predicate, rfl, hrestricts, fun _ hrules => hrestricts.writes hrules hpredicate⟩

end Unruled

end Definition

end RequestFilter
