import Mathlib.Logic.Relation
import RequestFilter.Proofs.Definition.Report
import RequestFilter.Recorder
import RequestFilter.Rule.Script

/-!
# Fields that are not listed

A field that is neither declared nor covered by a rule has no influence. Entries
of such fields may be taken out of a bag, put into it or given other values: the
builder, the error or success, the warnings and the resolutions of all other
entries stay the same, whatever the rules and the policy of sanitizing are.
-/

namespace RequestFilter

/-- One change of a list of entries at a chosen field: an entry goes, comes or has another value. -/
inductive EntryEdit (chosen : String → Prop) :
    List (String × Value) → List (String × Value) → Prop
  | removal (front : List (String × Value)) {back : List (String × Value)} {field : String}
      {value : Value} (h : chosen field) :
      EntryEdit chosen (front ++ (field, value) :: back) (front ++ back)
  | addition (front : List (String × Value)) {back : List (String × Value)} {field : String}
      {value : Value} (h : chosen field) :
      EntryEdit chosen (front ++ back) (front ++ (field, value) :: back)
  | change (front : List (String × Value)) {back : List (String × Value)} {field : String}
      {value value' : Value} (h : chosen field) :
      EntryEdit chosen (front ++ (field, value) :: back) (front ++ (field, value') :: back)

/-- Edits leave the entries of all other fields alone. -/
theorem EntryEdit.filter_eq {chosen : String → Prop} [DecidablePred chosen]
    {entries entries' : List (String × Value)}
    (h : Relation.ReflTransGen (EntryEdit chosen) entries entries') :
    (entries.filter fun entry => ¬ chosen entry.1) =
      entries'.filter fun entry => ¬ chosen entry.1 := by
  induction h with
  | refl => rfl
  | tail _ hedit ih =>
      rw [ih]
      cases hedit with
      | removal _ hchosen => simp [hchosen]
      | addition _ hchosen => simp [hchosen]
      | change _ hchosen => simp [hchosen]

/-- A policy of sanitizing takes every entry by itself, whichever others are there. -/
theorem Sanitizer.filter_entries_sanitize (sanitizer : Sanitizer) (bag : Bag)
    (wanted : String × Value → Bool) :
    (sanitizer.sanitize bag).bag.entries.filter wanted =
      (bag.entries.filter wanted).filter fun entry => sanitizer.keeps entry.1 entry.2 := by
  simp only [Sanitizer.sanitize, OrderedMap.entries_filter, List.filter_filter, Bool.and_comm]

namespace Definition

variable {β ε : Type} [QueryBuilder β ε] {definition : Definition β ε}

/-- An entry of an unlisted field is ignored, and the builder does not see it. -/
theorem resolveField_of_isUnlisted {field : String} (h : definition.IsUnlisted field)
    (target : Target) (value : Value) :
    definition.resolveField target field value = pure (.ignored, none) := by
  have hhandler : definition.rules.handler? field = none := ruleFor?_eq_none_iff.mp h.2
  have hoperator : definition.spec.operator? field = none := by
    simpa [Spec.isDeclared, Spec.operator?, OrderedMap.contains] using h.1
  simp [resolveField, RuleSet.dispatch, hhandler, hoperator]

/-- What an application shows to a caller who does not look at ignored entries. -/
def heededOutcome (outcome : Except ε Report × β) :
    Except ε (List (String × Resolution) × List Warning) × β :=
  (outcome.1.map fun report => (report.heeded, report.warnings), outcome.2)

/-- The entries of unlisted fields can be left out of a run. -/
theorem heededOutcome_resolveEntries (target : Target) (entries : List (String × Value))
    {report report' : Report} (hheeded : report.heeded = report'.heeded)
    (hwarnings : report.warnings = report'.warnings) (builder : β) :
    heededOutcome ((definition.resolveEntries target report entries).runOn builder) =
      heededOutcome ((definition.resolveEntries target report' (entries.filter fun entry =>
        ¬ definition.IsUnlisted entry.1)).runOn builder) := by
  induction entries generalizing report report' builder with
  | nil => simp [resolveEntries, heededOutcome, Except.map, hheeded, hwarnings]
  | cons entry rest ih =>
      obtain ⟨field, value⟩ := entry
      by_cases hunlisted : definition.IsUnlisted field
      · -- the run goes on with an ignored entry more in the report
        have hignored : (report.add field .ignored none).heeded = report'.heeded := by
          rw [report.heeded_add, if_pos rfl, List.append_nil, hheeded]
        rw [resolveEntries, resolveField_of_isUnlisted hunlisted, pure_bind,
          List.filter_cons_of_neg (by simpa using hunlisted)]
        exact ih hignored (by simpa [Report.add] using hwarnings) builder
      · rw [List.filter_cons_of_pos (by simpa using hunlisted), resolveEntries, resolveEntries,
          Building.runOn_bind, Building.runOn_bind]
        cases (definition.resolveField target field value).runOn builder with
        | mk result after =>
            cases result with
            | error error => rfl
            | ok answer =>
                refine ih ?_ (by simp [Report.add, hwarnings]) after
                rw [report.heeded_add, report'.heeded_add, hheeded]

/-- Entries of unlisted fields make no difference to the builder, to the success or the error,
to the warnings and to how the other entries are resolved. -/
theorem apply_eq_of_unlisted_edits (definition : Definition β ε) (builder : β) (bag bag' : Bag)
    (hedits : Relation.ReflTransGen (EntryEdit definition.IsUnlisted)
      bag.entries bag'.entries) :
    ((definition.apply bag).runOn builder).2 = ((definition.apply bag').runOn builder).2 ∧
      ((definition.apply bag).runOn builder).1.map
          (fun report => (report.heeded, report.warnings)) =
        ((definition.apply bag').runOn builder).1.map
          (fun report => (report.heeded, report.warnings)) := by
  have hlisted := EntryEdit.filter_eq hedits
  have hsanitized :
      ((definition.sanitizer.sanitize bag).bag.entries.filter fun entry =>
          ¬ definition.IsUnlisted entry.1) =
        (definition.sanitizer.sanitize bag').bag.entries.filter fun entry =>
          ¬ definition.IsUnlisted entry.1 := by
    rw [definition.sanitizer.filter_entries_sanitize, hlisted,
      ← definition.sanitizer.filter_entries_sanitize]
  have houtcome : heededOutcome ((definition.apply bag).runOn builder) =
      heededOutcome ((definition.apply bag').runOn builder) := by
    unfold apply
    rw [Building.runOn_bind, Building.runOn_bind]
    cases (Target.resolve : Building β ε Target).runOn builder with
    | mk result looked =>
        cases result with
        | error error => rfl
        | ok target =>
            simp only
            rw [heededOutcome_resolveEntries target _ rfl rfl, hsanitized,
              ← heededOutcome_resolveEntries target _ rfl rfl]
  exact ⟨(congrArg Prod.snd houtcome :), (congrArg Prod.fst houtcome :)⟩

/-- A declared status, a rule for ages, and drafts refused by the policy of sanitizing. -/
def ageSearch : Definition Recorder RecorderError :=
  ⟨⟨.ofList [("status", .exactOrIn)]⟩,
    (RuleSet.empty defaultRulePrefix).insertForField "min_age"
      (scriptHandler [.compareEach "age" .greaterOrEqual]),
    .custom fun field _ => field ≠ "draft"⟩

/-- An undeclared key in another spelling still reaches the rule; a page number that is no
longer an operand and a new key in front change nothing. -/
theorem apply_eq_of_unlisted_edits_ageSearch :
    let bag : Bag := .ofList [("status", .scalar (.int 1)), ("page", .scalar (.int 2)),
      ("Min-Age", .scalar (.int 18))]
    let bag' : Bag := .ofList [("sort", .scalar (.string "age")), ("status", .scalar (.int 1)),
      ("page", .null), ("Min-Age", .scalar (.int 18))]
    let run (bag : Bag) := (ageSearch.apply bag).runOn (.new (some "users") none)
    Relation.ReflTransGen (EntryEdit ageSearch.IsUnlisted) bag.entries bag'.entries ∧
      (run bag).2.calls = [.whereIn ⟨"users", "status"⟩ [.int 1],
        .whereCompares ⟨"users", "age"⟩ .greaterOrEqual (.int 18)] ∧
      (run bag).2 = (run bag').2 ∧
      (run bag).1.map (fun report => (report.heeded, report.warnings)) =
        (run bag').1.map (fun report => (report.heeded, report.warnings)) := by
  intro bag bag' run
  have hpage : ageSearch.IsUnlisted "page" := by decide +kernel
  have hsort : ageSearch.IsUnlisted "sort" := by decide +kernel
  have hedits : Relation.ReflTransGen (EntryEdit ageSearch.IsUnlisted)
      bag.entries bag'.entries := by
    have hchanged : EntryEdit ageSearch.IsUnlisted bag.entries
        [("status", .scalar (.int 1)), ("page", .null), ("Min-Age", .scalar (.int 18))] :=
      .change [("status", .scalar (.int 1))] hpage
    exact .tail (.single hchanged) (.addition [] hsort)
  exact ⟨hedits, by decide +kernel, apply_eq_of_unlisted_edits ageSearch _ bag bag' hedits⟩

end Definition

end RequestFilter
