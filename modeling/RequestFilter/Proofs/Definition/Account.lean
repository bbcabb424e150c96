import RequestFilter.Proofs.Definition.Report
import RequestFilter.Proofs.Definition.Session
import RequestFilter.Proofs.Definition.Whitelist
import RequestFilter.Proofs.Sanitizer
import RequestFilter.Proofs.Spec

/-!
# What an application leaves behind

A successful application accounts for every sanitized entry, in order: by its
place in the report, by a warning where a pattern was given a sequence, and by one
predicate of its own where no rule took it up. What rules do on their own account
shows in neither.
-/

namespace RequestFilter

open QueryBuilder

section Generic

variable {β ε : Type} [QueryBuilder β ε] (field : String) (target : Target) {value : Value}

theorem applyGeneric_exactOrIn (hvalue : value.scalars ≠ []) :
    (applyGeneric .exactOrIn field value target : Building β ε (Option Warning)) = do
      (Predicate.among ⟨target.table, field⟩ value.scalars).add
      return none := by
  have hnonempty : value.scalars.isEmpty = false := by
    rw [List.isEmpty_eq_false_iff]
    exact hvalue
  rw [applyGeneric, hnonempty]
  rfl

/-- The first operand makes the pattern; it is reported when it was part of a sequence. -/
theorem applyGeneric_like {operand : Scalar} {others : List Scalar}
    (hvalue : value.scalars = operand :: others) :
    (applyGeneric .like field value target : Building β ε (Option Warning)) = do
      (Predicate.compares ⟨target.table, field⟩ .likeIgnoringCase
        (.string (containsPattern operand.text))).add
      return match value with
        | .sequence _ => some ⟨field, operand⟩
        | _ => none := by
  cases value with
  | scalar scalar =>
      cases hvalue
      rfl
  | sequence values =>
      cases hvalue
      rfl
  | null => cases hvalue
  | composite document => cases hvalue

end Generic

namespace Definition

section Own

variable {β ε : Type}

/-- No rule takes up the field, and it is declared with the operator. -/
def IsGeneric (definition : Definition β ε) (field : String) (operator : Operator) : Prop :=
  definition.rules.ruleFor? field = none ∧ definition.spec.operator? field = some operator

instance (definition : Definition β ε) (field : String) (operator : Operator) :
    Decidable (definition.IsGeneric field operator) :=
  inferInstanceAs (Decidable (_ ∧ _))

/-- The warning that an entry is due: a pattern field without a rule, given a sequence, uses its
first element. -/
def warning? (definition : Definition β ε) (entry : String × Value) : Option Warning :=
  if definition.IsGeneric entry.1 .like then
    match entry.2 with
    | .sequence (first :: _) => some ⟨entry.1, first⟩
    | _ => none
  else none

/-- What an entry leaves in the log of a builder: that its rule began, or the one predicate that its
declaration comes to, or nothing. -/
inductive Leaves (definition : Definition β ε) (table : String) :
    String × Value → List (Event ε) → Prop
  | rule {field rule : String} {value : Value}
      (hrule : definition.rules.ruleFor? field = some rule) :
      definition.Leaves table (field, value) [.rule]
  | pattern {field : String} {value : Value} {operand : Scalar} {others : List Scalar}
      (hlike : definition.IsGeneric field .like) (hvalue : value.scalars = operand :: others) :
      definition.Leaves table (field, value)
        [.predicate (.compares ⟨table, field⟩ .likeIgnoringCase
          (.string (containsPattern operand.text)))]
  | membership {field : String} {value : Value}
      (hexact : definition.IsGeneric field .exactOrIn) (hvalue : value.scalars ≠ []) :
      definition.Leaves table (field, value) [.predicate (.among ⟨table, field⟩ value.scalars)]
  | unlisted {field : String} {value : Value} (hunlisted : definition.IsUnlisted field) :
      definition.Leaves table (field, value) []

/-- Every field that only a rule can filter on has one. -/
def IsRuled (definition : Definition β ε) : Prop :=
  ∀ field, ¬definition.IsGeneric field .customOnly

theorem isRuled_of_build {builder : DefinitionBuilder β ε} {definition : Definition β ε}
    (h : builder.build = .ok definition) : definition.IsRuled := by
  unfold DefinitionBuilder.build at h
  split at h
  next => cases h
  next hunruled =>
    cases h
    rintro field ⟨hrule, hoperator⟩
    have hentry : (field, .customOnly) ∈ builder.spec.entries :=
      (OrderedMap.find?_eq_some_iff _).mp hoperator
    have hfield : field ∈ builder.spec.customOnlyFields :=
      List.mem_map.mpr ⟨_, List.mem_filter.mpr ⟨hentry, rfl⟩, rfl⟩
    have hfound := List.find?_eq_none.mp hunruled field hfield
    exact hfound (Option.isNone_iff_eq_none.mpr hrule)

variable {definition : Definition β ε} {field : String}

/-- A field has a rule, or a declaration by which it can be filtered on, or it is unlisted. -/
theorem IsRuled.cases (hruled : definition.IsRuled) (field : String) :
    (∃ handler, definition.rules.handler? field = some handler) ∨
      definition.IsGeneric field .exactOrIn ∨ definition.IsGeneric field .like ∨
      definition.IsUnlisted field := by
  cases hhandler : definition.rules.handler? field with
  | some handler => exact Or.inl ⟨handler, rfl⟩
  | none =>
      have hrule := ruleFor?_eq_none_iff.mpr hhandler
      cases hoperator : definition.spec.operator? field with
      | none =>
          have hundeclared : definition.spec.isDeclared field = false := by
            rw [Spec.isDeclared_eq_isSome, hoperator]
            rfl
          exact Or.inr (Or.inr (Or.inr ⟨hundeclared, hrule⟩))
      | some operator =>
          cases operator with
          | exactOrIn => exact Or.inr (Or.inl ⟨hrule, hoperator⟩)
          | like => exact Or.inr (Or.inr (Or.inl ⟨hrule, hoperator⟩))
          | customOnly => exact absurd ⟨hrule, hoperator⟩ (hruled field)

theorem warning?_of_handler? {handler : Handler β ε} {value : Value}
    (hrule : definition.rules.handler? field = some handler) :
    definition.warning? (field, value) = none := by
  refine if_neg fun hlike => ?_
  rw [IsGeneric, ruleFor?_eq_none_iff, hrule] at hlike
  cases hlike.1

theorem warning?_of_operator?_ne {value : Value}
    (h : definition.spec.operator? field ≠ some .like) :
    definition.warning? (field, value) = none :=
  if_neg fun hlike => h hlike.2

theorem warning?_of_like {value : Value} {operand : Scalar} {others : List Scalar}
    (hlike : definition.IsGeneric field .like) (hvalue : value.scalars = operand :: others) :
    definition.warning? (field, value) =
      match value with
      | .sequence _ => some ⟨field, operand⟩
      | _ => none := by
  rw [warning?, if_pos hlike]
  cases value with
  | scalar scalar => rfl
  | sequence values =>
      cases hvalue
      rfl
  | null => rfl
  | composite document => rfl

/-- A rule for a watched builder. Only its beginning is noted; what it asks of the builder is its
own affair. -/
def watchedRule (handler : Handler β ε) : Handler (Watched β ε) ε := fun target value => do
  Watched.note .rule
  Watched.inside (handler target value)

/-- The definition for a watched builder. -/
def watched (definition : Definition β ε) : Definition (Watched β ε) ε where
  spec := definition.spec
  rules := ⟨definition.rules.rulePrefix, definition.rules.handlers.map watchedRule⟩
  sanitizer := definition.sanitizer

theorem runOn_watchedRule (handler : Handler β ε) (target : Target) (value : Value)
    (builder : Watched β ε) :
    (watchedRule handler target value).runOn builder =
      (((handler target value).runOn builder.builder).1,
        ⟨((handler target value).runOn builder.builder).2, builder.log ++ [.rule]⟩) := by
  rw [watchedRule, Building.runOn_bind, Watched.runOn_note]
  exact Watched.runOn_inside _ _

/-- To be watched makes no difference to what an application comes to. -/
theorem parallel_watched (definition : Definition β ε) :
    Definition.Parallel Watched.IsAround definition definition.watched where
  spec := rfl
  sanitizer := rfl
  rulePrefix := rfl
  rules name := by
    rw [watched, OrderedMap.find?_map]
    cases definition.rules.handlers.find? name with
    | none => exact .none
    | some handler =>
        refine .some fun target value => ?_
        rintro builder watched rfl
        rw [runOn_watchedRule]
        exact ⟨rfl, rfl⟩

theorem handler?_watched (field : String) :
    definition.watched.rules.handler? field =
      (definition.rules.handler? field).map watchedRule :=
  OrderedMap.find?_map _ _

theorem ruleFor?_watched_eq_none_iff :
    definition.watched.rules.ruleFor? field = none ↔ definition.rules.ruleFor? field = none := by
  rw [ruleFor?_eq_none_iff, ruleFor?_eq_none_iff, handler?_watched, Option.map_eq_none_iff]

theorem isGeneric_watched {operator : Operator} :
    definition.watched.IsGeneric field operator ↔ definition.IsGeneric field operator :=
  and_congr_left' ruleFor?_watched_eq_none_iff

theorem isUnlisted_watched : definition.watched.IsUnlisted field ↔ definition.IsUnlisted field :=
  and_congr_right' ruleFor?_watched_eq_none_iff

end Own

variable {β ε : Type} [QueryBuilder β ε]

section Steps

variable {definition : Definition β ε} {field : String}

theorem resolveField_of_handler? {handler : Handler β ε}
    (hrule : definition.rules.handler? field = some handler) (target : Target) (value : Value) :
    definition.resolveField target field value = do
      handler target value
      return (.custom (ruleName definition.rules.rulePrefix field), none) := by
  simp [resolveField, RuleSet.dispatch, hrule]

theorem resolveField_of_isGeneric {operator : Operator}
    (hgeneric : definition.IsGeneric field operator) (target : Target) (value : Value) :
    definition.resolveField target field value = do
      let warning ← applyGeneric operator field value target
      return (.generic operator, warning) := by
  simp [resolveField, RuleSet.dispatch, ruleFor?_eq_none_iff.mp hgeneric.1, hgeneric.2]

/-- The warning of an entry is due to its field and value, whatever its rule does. -/
theorem warning_of_resolveField (hruled : definition.IsRuled) {target : Target} {value : Value}
    (hvalue : value.scalars ≠ []) {builder after : β} {answer : Resolution × Option Warning}
    (h : (definition.resolveField target field value).runOn builder = (.ok answer, after)) :
    answer.2 = definition.warning? (field, value) := by
  rcases hruled.cases field with ⟨handler, hrule⟩ | hexact | hlike | hunlisted
  · rw [resolveField_of_handler? hrule] at h
    obtain ⟨_, _, _, hanswer⟩ := Building.exists_of_runOn_bind_eq_ok h
    cases hanswer
    exact (warning?_of_handler? hrule).symm
  · rw [resolveField_of_isGeneric hexact, applyGeneric_exactOrIn field target hvalue,
      bind_assoc] at h
    obtain ⟨_, _, _, hanswer⟩ := Building.exists_of_runOn_bind_eq_ok h
    cases hanswer
    have hother : definition.spec.operator? field ≠ some .like := by
      rw [hexact.2]
      nofun
    exact (warning?_of_operator?_ne hother).symm
  · obtain ⟨operand, others, hoperands⟩ := List.exists_cons_of_ne_nil hvalue
    rw [resolveField_of_isGeneric hlike, applyGeneric_like field target hoperands,
      bind_assoc] at h
    obtain ⟨_, _, _, hanswer⟩ := Building.exists_of_runOn_bind_eq_ok h
    cases hanswer
    exact (warning?_of_like hlike hoperands).symm
  · rw [resolveField_of_isUnlisted hunlisted, Building.runOn_pure] at h
    cases h
    have hother : definition.spec.operator? field ≠ some .like := by
      intro hlike
      have hundeclared := hunlisted.1
      rw [Spec.isDeclared_eq_isSome, hlike] at hundeclared
      cases hundeclared
    exact (warning?_of_operator?_ne hother).symm

/-- The warnings of a run are those that its entries are due, in order. -/
theorem warnings_of_resolveEntries (hruled : definition.IsRuled) {target : Target}
    {report final : Report} {entries : List (String × Value)}
    (hentries : ∀ entry ∈ entries, entry.2.scalars ≠ []) {builder after : β}
    (h : (definition.resolveEntries target report entries).runOn builder = (.ok final, after)) :
    final.warnings = report.warnings ++ entries.filterMap definition.warning? := by
  induction entries generalizing report builder with
  | nil =>
      cases h
      simp
  | cons entry rest ih =>
      obtain ⟨hvalue, hrest⟩ := List.forall_mem_cons.mp hentries
      unfold resolveEntries at h
      obtain ⟨answer, middle, hfield, hfinal⟩ := Building.exists_of_runOn_bind_eq_ok h
      have hanswer := warning_of_resolveField hruled hvalue hfield
      rw [ih hrest hfinal, Report.add, hanswer, List.append_assoc, List.filterMap_cons]
      cases definition.warning? (entry.1, entry.2) <;> rfl

theorem warnings_of_apply (hruled : definition.IsRuled) {bag : Bag} {report : Report}
    {builder after : β} (h : (definition.apply bag).runOn builder = (.ok report, after)) :
    report.warnings =
      (definition.sanitizer.sanitize bag).bag.entries.filterMap definition.warning? := by
  unfold apply at h
  obtain ⟨target, middle, _, hentries⟩ := Building.exists_of_runOn_bind_eq_ok h
  exact warnings_of_resolveEntries hruled
    (definition.sanitizer.scalars_ne_nil_of_mem_sanitize bag) hentries

end Steps

section Log

variable {definition : Definition β ε}

theorem log_of_add {predicate : Predicate} {answer answer' : Resolution × Option Warning}
    {builder after : Watched β ε}
    (h : (do
      predicate.add
      return answer : Building (Watched β ε) ε _).runOn builder = (.ok answer', after)) :
    after.log = builder.log ++ [.predicate predicate] := by
  obtain ⟨_, middle, hadd, hanswer⟩ := Building.exists_of_runOn_bind_eq_ok h
  cases hanswer
  rw [Watched.runOn_add] at hadd
  exact congrArg Watched.log (Prod.mk.inj hadd).2.symm

/-- The entry leaves in the log what its field and value are due to leave. -/
theorem exists_events_of_resolveField (hruled : definition.IsRuled) {target : Target}
    {field : String} {value : Value} (hvalue : value.scalars ≠ []) {builder after : Watched β ε}
    {answer : Resolution × Option Warning}
    (h : (definition.watched.resolveField target field value).runOn builder =
      (.ok answer, after)) :
    ∃ events, definition.Leaves target.table (field, value) events ∧
      after.log = builder.log ++ events := by
  rcases hruled.cases field with ⟨handler, hrule⟩ | hexact | hlike | hunlisted
  · have hwatched : definition.watched.rules.handler? field = some (watchedRule handler) := by
      rw [handler?_watched, hrule]
      rfl
    rw [resolveField_of_handler? hwatched] at h
    obtain ⟨_, middle, hrun, hanswer⟩ := Building.exists_of_runOn_bind_eq_ok h
    cases hanswer
    rw [runOn_watchedRule] at hrun
    refine ⟨[.rule], .rule (ruleFor?_of_handler? hrule), ?_⟩
    exact congrArg Watched.log (Prod.mk.inj hrun).2.symm
  · have hwatched : definition.watched.IsGeneric field .exactOrIn := isGeneric_watched.mpr hexact
    rw [resolveField_of_isGeneric hwatched, applyGeneric_exactOrIn field target hvalue,
      bind_assoc] at h
    exact ⟨_, .membership hexact hvalue, log_of_add h⟩
  · obtain ⟨operand, others, hoperands⟩ := List.exists_cons_of_ne_nil hvalue
    have hwatched : definition.watched.IsGeneric field .like := isGeneric_watched.mpr hlike
    rw [resolveField_of_isGeneric hwatched, applyGeneric_like field target hoperands,
      bind_assoc] at h
    exact ⟨_, .pattern hlike hoperands, log_of_add h⟩
  · have hwatched : definition.watched.IsUnlisted field := isUnlisted_watched.mpr hunlisted
    rw [resolveField_of_isUnlisted hwatched, Building.runOn_pure] at h
    cases h
    exact ⟨[], .unlisted hunlisted, (List.append_nil _).symm⟩

theorem exists_traces_of_resolveEntries (hruled : definition.IsRuled) {target : Target}
    {report final : Report} {entries : List (String × Value)}
    (hentries : ∀ entry ∈ entries, entry.2.scalars ≠ []) {builder after : Watched β ε}
    (h : (definition.watched.resolveEntries target report entries).runOn builder =
      (.ok final, after)) :
    ∃ traces, List.Forall₂ (definition.Leaves target.table) entries traces ∧
      after.log = builder.log ++ traces.flatten := by
  induction entries generalizing report builder with
  | nil =>
      cases h
      exact ⟨[], .nil, (List.append_nil _).symm⟩
  | cons entry rest ih =>
      obtain ⟨hvalue, hrest⟩ := List.forall_mem_cons.mp hentries
      unfold resolveEntries at h
      obtain ⟨answer, middle, hfield, hfinal⟩ := Building.exists_of_runOn_bind_eq_ok h
      obtain ⟨events, hleaves, hlog⟩ := exists_events_of_resolveField hruled hvalue hfield
      obtain ⟨traces, htraces, hlast⟩ := ih hrest hfinal
      refine ⟨events :: traces, .cons hleaves htraces, ?_⟩
      rw [hlast, hlog, List.append_assoc, List.flatten_cons]

/-- A run that succeeds goes the same way when the builder is watched, and the log has the lookup of
the table and then what the entries leave, in order. -/
theorem exists_runOn_watched_apply (hruled : definition.IsRuled) {bag : Bag} {report : Report}
    {builder after : β} (h : (definition.apply bag).runOn builder = (.ok report, after)) :
    ∃ table traces,
      List.Forall₂ (definition.Leaves table) (definition.sanitizer.sanitize bag).bag.entries
        traces ∧
      (definition.watched.apply bag).runOn ⟨builder, []⟩ =
        (.ok report, ⟨after, .lookup (.ok table) :: traces.flatten⟩) := by
  cases htable : tableAnswer builder with
  | error error =>
      rw [definition.runOn_apply_of_error htable] at h
      cases h
  | ok table =>
      have hwatched : tableAnswer (⟨builder, []⟩ : Watched β ε) = .ok table :=
        (Watched.tableAnswer_eq _).trans htable
      rw [definition.runOn_apply_of_table htable] at h
      rw [definition.watched.runOn_apply_of_table hwatched, Watched.afterLookup_eq, htable]
      -- the log begins with the lookup, and what the entries leave comes behind it
      let looked : Watched β ε := ⟨afterLookup builder, [.lookup (.ok table)]⟩
      obtain ⟨hresult, hafter⟩ := definition.parallel_watched.resolveEntries Watched.parallel_add
        ⟨table⟩ .empty (definition.sanitizer.sanitize bag).bag.entries looked.builder looked rfl
      rw [h] at hresult hafter
      rcases hrun : (definition.watched.resolveEntries ⟨table⟩ .empty
        (definition.sanitizer.sanitize bag).bag.entries).runOn looked with ⟨result, last⟩
      rw [hrun] at hresult hafter
      obtain rfl : Except.ok report = result := hresult
      obtain ⟨traces, htraces, hlog⟩ := exists_traces_of_resolveEntries hruled
        (definition.sanitizer.scalars_ne_nil_of_mem_sanitize bag) hrun
      exact ⟨table, traces, htraces, hrun.trans (Prod.ext rfl (Watched.ext hafter hlog))⟩

end Log

/-- Whatever a built definition is applied to with success: the report names the fields of the
sanitized bag in order, so that it has no resolution for exactly those that are missing or dropped;
its warnings are those that the entries are due; and of the entries that no rule takes up, each
declared one adds the one predicate of its declaration, in order, as the log of the builder
shows. -/
theorem apply_accounts_for_entries {declared : DefinitionBuilder β ε}
    {definition : Definition β ε} (hbuild : declared.build = .ok definition) {bag : Bag}
    {builder after : β} {report : Report}
    (happly : (definition.apply bag).runOn builder = (.ok report, after)) :
    let kept := (definition.sanitizer.sanitize bag).bag
    (report.fields.map Prod.fst = kept.names ∧ (report.fields.map Prod.fst).Nodup) ∧
    (∀ field, report.resolution? field = none ↔
      bag.find? field = none ∨
        ∃ value, bag.find? field = some value ∧ definition.sanitizer.keeps field value = false) ∧
    report.warnings = kept.entries.filterMap definition.warning? ∧
    ∃ table traces, List.Forall₂ (definition.Leaves table) kept.entries traces ∧
      (definition.watched.apply bag).runOn ⟨builder, []⟩ =
        (.ok report, ⟨after, .lookup (.ok table) :: traces.flatten⟩) := by
  intro kept
  have hruled := isRuled_of_build hbuild
  have hnames : report.fields.map Prod.fst = kept.names := by
    rw [fields_of_apply happly, List.map_map]
    rfl
  refine ⟨⟨hnames, hnames ▸ kept.nodup⟩, fun field => ?_, ?_,
    exists_runOn_watched_apply hruled happly⟩
  · rw [Report.resolution?, findEntry?_eq_none_iff, hnames]
    exact definition.sanitizer.not_mem_names_sanitize_iff bag
  · exact warnings_of_apply hruled happly

/-- A search for names, and for labels by a rule that is given tags. -/
def labelSearch : DefinitionBuilder Recorder RecorderError :=
  (DefinitionBuilder.new
    ⟨.ofList [("status", .exactOrIn), ("name", .like), ("tags", .like)]⟩).rule "tags"
      fun target value => do
        let _ ← applyGeneric .like "label" value target

def labelBag : Bag :=
  .ofList [("tags", .sequence [.string "a", .string "b"]), ("nickname", .null),
    ("name", .sequence [.string "Rei", .string "Sho"]), ("status", .scalar (.int 3))]

/-- The rule's own pattern was given a sequence too, which is not reported. -/
theorem apply_accounts_for_entries_labels :
    ∃ definition, labelSearch.build = .ok definition ∧
      ∃ report after,
        (definition.apply labelBag).runOn (Recorder.new (some "users") none) =
          (.ok report, after) ∧
        report.fields.map Prod.fst = ["tags", "name", "status"] ∧
        report.resolution? "nickname" = none ∧
        report.warnings = [⟨"name", .string "Rei"⟩] := by
  let definition : Definition Recorder RecorderError :=
    ⟨labelSearch.spec, labelSearch.rules, labelSearch.sanitizer⟩
  have hbuild : labelSearch.build = .ok definition := by rfl
  have hok : ((definition.apply labelBag).runOn (Recorder.new (some "users") none)).1.isOk =
      true := by
    decide +kernel
  rcases hrun : (definition.apply labelBag).runOn (Recorder.new (some "users") none) with
    ⟨result, after⟩
  rw [hrun] at hok
  cases result with
  | error error => cases hok
  | ok report =>
      obtain ⟨⟨hnames, _⟩, hresolution, hwarnings, _⟩ := apply_accounts_for_entries hbuild hrun
      refine ⟨definition, hbuild, report, after, hrun, hnames, ?_, ?_⟩
      · exact (hresolution "nickname").mpr (Or.inr ⟨.null, rfl, rfl⟩)
      · rw [hwarnings]
        decide +kernel

end Definition

end RequestFilter
