import RequestFilter.Definition
import RequestFilter.Proofs.OrderedMap

/-!
# Sanitized bags

Sanitizing selects entries and changes none: those stay that carry an operand and
that the caller's test, if there is one, does not refuse. So a second time it has
nothing to do, and several policies come to one that asks for all their tests.
Whatever rules and predicates receive has passed the policy of their definition.
-/

namespace RequestFilter

theorem FilteredBag.ext_entries {filtered filtered' : FilteredBag}
    (h : filtered.bag.entries = filtered'.bag.entries) : filtered = filtered' := by
  obtain ⟨bag, usable⟩ := filtered
  obtain ⟨bag', usable'⟩ := filtered'
  cases OrderedMap.ext_entries h
  rfl

namespace Sanitizer

/-- The entry carries an operand, and the caller's test does not refuse it. -/
def Passes (sanitizer : Sanitizer) (entry : String × Value) : Prop :=
  entry.2.scalars ≠ [] ∧ ∀ keep, sanitizer.keep = some keep → keep entry.1 entry.2 = true

variable (sanitizer : Sanitizer) (bag : Bag)

theorem keeps_iff_passes (entry : String × Value) :
    sanitizer.keeps entry.1 entry.2 = true ↔ sanitizer.Passes entry := by
  unfold keeps Passes
  rw [Bool.and_eq_true, Value.isUsable_iff]
  refine and_congr_right fun _ => ?_
  cases sanitizer.keep with
  | none => simp
  | some keep => simp

instance : DecidablePred sanitizer.Passes :=
  fun entry => decidable_of_iff _ (sanitizer.keeps_iff_passes entry)

/-- The entries that pass stay, in the order in which they were. -/
theorem entries_sanitize :
    (sanitizer.sanitize bag).bag.entries =
      bag.entries.filter fun entry => decide (sanitizer.Passes entry) := by
  refine List.filter_congr fun entry _ => ?_
  rw [Bool.eq_iff_iff, decide_eq_true_iff]
  exact sanitizer.keeps_iff_passes entry

theorem mem_entries_sanitize {entry : String × Value} :
    entry ∈ (sanitizer.sanitize bag).bag.entries ↔
      entry ∈ bag.entries ∧ sanitizer.Passes entry := by
  rw [entries_sanitize, List.mem_filter, decide_eq_true_iff]

/-- Every entry that is left has an operand. -/
theorem scalars_ne_nil_of_mem_sanitize :
    ∀ entry ∈ (sanitizer.sanitize bag).bag.entries, entry.2.scalars ≠ [] :=
  fun _ hentry => ((sanitizer.mem_entries_sanitize bag).mp hentry).2.1

/-- The fields that are gone were missing before, or their values were dropped. -/
theorem not_mem_names_sanitize_iff {field : String} :
    field ∉ (sanitizer.sanitize bag).bag.names ↔
      bag.find? field = none ∨
        ∃ value, bag.find? field = some value ∧ sanitizer.keeps field value = false := by
  have hkept : field ∈ (sanitizer.sanitize bag).bag.names ↔
      ∃ value, bag.find? field = some value ∧ sanitizer.keeps field value = true := by
    simp [OrderedMap.names, OrderedMap.find?_eq_some_iff, sanitize]
  rw [hkept]
  cases bag.find? field with
  | none => simp
  | some value => simp

/-- A bag whose entries all pass is left as it is. -/
theorem sanitize_of_forall_passes {filtered : FilteredBag}
    (h : ∀ entry ∈ filtered.bag.entries, sanitizer.Passes entry) :
    sanitizer.sanitize filtered.bag = filtered := by
  apply FilteredBag.ext_entries
  rw [entries_sanitize, List.filter_eq_self]
  exact fun entry hentry => decide_eq_true (h entry hentry)

/-- Two tests in turn come to one that asks for both. -/
theorem sanitize_custom_sanitize_custom (keep keep' : String → Value → Bool) :
    (custom keep').sanitize ((custom keep).sanitize bag).bag =
      (custom fun field value => keep field value && keep' field value).sanitize bag := by
  apply FilteredBag.ext_entries
  have hboth : ∀ entry, (custom fun field value => keep field value && keep' field value).Passes
      entry ↔ (custom keep').Passes entry ∧ (custom keep).Passes entry := by
    intro entry
    simp only [Passes, custom, Option.some.injEq, forall_eq', Bool.and_eq_true]
    tauto
  rw [entries_sanitize, entries_sanitize, entries_sanitize, List.filter_filter]
  refine List.filter_congr fun entry _ => ?_
  rw [← Bool.decide_and, decide_eq_decide]
  exact (hboth entry).symm

end Sanitizer

namespace Definition

variable {β ε : Type} [QueryBuilder β ε]

/-- Steps that are made of lookups of the table, and of rules and generic predicates of the
definition, each of them on a value with an operand. -/
inductive ActsOnOperands (definition : Definition β ε) : ∀ {α : Type}, Building β ε α → Prop
  | answer {α : Type} (a : α) : definition.ActsOnOperands (pure a)
  | sequence {α γ : Type} {step : Building β ε α} {next : α → Building β ε γ}
      (hstep : definition.ActsOnOperands step)
      (hnext : ∀ a, definition.ActsOnOperands (next a)) :
      definition.ActsOnOperands (step >>= next)
  | lookup : definition.ActsOnOperands Target.resolve
  | rule {field : String} {handler : Handler β ε} {target : Target} {value : Value}
      (hrule : definition.rules.handler? field = some handler) (hvalue : value.scalars ≠ []) :
      definition.ActsOnOperands (handler target value)
  | generic {field : String} {operator : Operator} {target : Target} {value : Value}
      (hoperator : definition.spec.operator? field = some operator)
      (hvalue : value.scalars ≠ []) :
      definition.ActsOnOperands (applyGeneric operator field value target)

variable (definition : Definition β ε)

/-- A rule or an operator is only asked about a value with an operand. -/
theorem actsOnOperands_resolveField (target : Target) (field : String) {value : Value}
    (hvalue : value.scalars ≠ []) :
    definition.ActsOnOperands (definition.resolveField target field value) := by
  unfold resolveField
  refine .sequence ?_ fun handled => ?_
  · unfold RuleSet.dispatch
    cases hrule : definition.rules.handler? field with
    | some handler => exact .sequence (.rule hrule hvalue) fun _ => .answer true
    | none => exact .answer false
  · cases handled with
    | true => exact .answer _
    | false =>
        cases hoperator : definition.spec.operator? field with
        | some operator => exact .sequence (.generic hoperator hvalue) fun warning => .answer _
        | none => exact .answer _

theorem actsOnOperands_resolveEntries (target : Target) (report : Report)
    {entries : List (String × Value)} (hentries : ∀ entry ∈ entries, entry.2.scalars ≠ []) :
    definition.ActsOnOperands (definition.resolveEntries target report entries) := by
  induction entries generalizing report with
  | nil => exact .answer report
  | cons entry rest ih =>
      obtain ⟨hvalue, hrest⟩ := List.forall_mem_cons.mp hentries
      exact .sequence (definition.actsOnOperands_resolveField target entry.1 hvalue)
        fun answer => ih _ hrest

theorem actsOnOperands_apply (bag : Bag) :
    definition.ActsOnOperands (definition.apply bag) := by
  have hentries := definition.sanitizer.scalars_ne_nil_of_mem_sanitize bag
  exact .sequence .lookup fun target =>
    definition.actsOnOperands_resolveEntries target .empty hentries

end Definition

/-- Sanitizing keeps the entries that pass the policy, as they stand, and collecting them one by one
comes to the same. None is without an operand; neither the same policy nor the default one drops any
of them again; two tests can be asked in either order, or together. And whatever a definition hands
to its rules and generic predicates carries an operand. -/
theorem sanitize_keeps_exactly_passing (sanitizer : Sanitizer) (bag : Bag) :
    let kept := sanitizer.sanitize bag
    kept.bag.entries = bag.entries.filter (fun entry => decide (sanitizer.Passes entry)) ∧
    OrderedMap.ofList (bag.entries.filter fun entry => decide (sanitizer.Passes entry)) =
      kept.bag ∧
    (∀ field, (field, .null) ∉ kept.bag.entries ∧ (field, .sequence []) ∉ kept.bag.entries ∧
      ∀ document, (field, .composite document) ∉ kept.bag.entries) ∧
    sanitizer.sanitize kept.bag = kept ∧
    Sanitizer.default.sanitize kept.bag = kept ∧
    (∀ keep keep', let both := fun field value => keep field value && keep' field value
      (Sanitizer.custom keep').sanitize ((Sanitizer.custom keep).sanitize bag).bag =
        (Sanitizer.custom both).sanitize bag ∧
      (Sanitizer.custom keep).sanitize ((Sanitizer.custom keep').sanitize bag).bag =
        (Sanitizer.custom both).sanitize bag) ∧
    ∀ (β ε : Type) [QueryBuilder β ε] (definition : Definition β ε),
      definition.ActsOnOperands (definition.apply bag) := by
  intro kept
  have hentries := sanitizer.entries_sanitize bag
  have hmem : ∀ entry, entry ∈ kept.bag.entries ↔
      entry ∈ bag.entries ∧ sanitizer.Passes entry := by
    intro entry
    exact sanitizer.mem_entries_sanitize bag
  refine ⟨hentries, ?_, fun field => ⟨?_, ?_, fun document => ?_⟩, ?_, ?_, ?_,
    fun β ε _ definition => definition.actsOnOperands_apply bag⟩
  · rw [← hentries]
    exact kept.bag.ofList_entries
  · exact fun h => ((hmem _).mp h).2.1 rfl
  · exact fun h => ((hmem _).mp h).2.1 rfl
  · exact fun h => ((hmem _).mp h).2.1 rfl
  · exact sanitizer.sanitize_of_forall_passes fun entry h => ((hmem entry).mp h).2
  · refine Sanitizer.default.sanitize_of_forall_passes fun entry h => ?_
    exact ⟨((hmem entry).mp h).2.1, nofun⟩
  · intro keep keep' both
    refine ⟨Sanitizer.sanitize_custom_sanitize_custom bag keep keep', ?_⟩
    rw [Sanitizer.sanitize_custom_sanitize_custom]
    have hcomm : (fun field value => keep' field value && keep field value) = both :=
      funext fun field => funext fun value => Bool.and_comm _ _
    rw [hcomm]

/-- A test that accepts everything is not asked about values without an operand. -/
example : ((Sanitizer.custom fun _ _ => true).sanitize
    (.ofList [("status", .null), ("age", .scalar (.int 0)), ("name", .sequence []),
      ("nickname", .scalar (.string ""))])).bag.entries =
    [("age", .scalar (.int 0)), ("nickname", .scalar (.string ""))] := by
  rfl

end RequestFilter
