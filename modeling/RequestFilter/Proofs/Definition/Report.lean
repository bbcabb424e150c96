import RequestFilter.Definition
import RequestFilter.Proofs.Building

/-!
# What a report says

How an entry is resolved depends on its field alone: on the rule of the field,
then on its declaration. A successful application reports every sanitized entry
in order, on whatever builder it ran and whatever its rules did there.
-/

namespace RequestFilter

/-- The entries that a rule or a declaration took up. -/
def Report.heeded (report : Report) : List (String × Resolution) :=
  report.fields.filter fun entry => entry.2 ≠ .ignored

theorem Report.heeded_add (report : Report) (field : String) (resolution : Resolution)
    (warning : Option Warning) :
    (report.add field resolution warning).heeded =
      report.heeded ++ if resolution = .ignored then [] else [(field, resolution)] := by
  unfold Report.heeded Report.add
  by_cases h : resolution = .ignored <;> simp [h]

namespace Definition

section Resolution

variable {β ε : Type}

/-- The resolution of a field: its rule comes first, then its declaration. -/
def resolution (definition : Definition β ε) (field : String) : Resolution :=
  match definition.rules.ruleFor? field with
  | some rule => .custom rule
  | none =>
      match definition.spec.operator? field with
      | some operator => .generic operator
      | none => .ignored

/-- Neither declared nor covered by a rule. -/
def IsUnlisted (definition : Definition β ε) (field : String) : Prop :=
  definition.spec.isDeclared field = false ∧ definition.rules.ruleFor? field = none

instance (definition : Definition β ε) : DecidablePred definition.IsUnlisted :=
  fun _ => inferInstanceAs (Decidable (_ ∧ _))

variable {definition : Definition β ε} {field : String}

/-- The fields that are ignored are those that are not listed. -/
theorem resolution_eq_ignored_iff :
    definition.resolution field = .ignored ↔ definition.IsUnlisted field := by
  unfold resolution IsUnlisted Spec.isDeclared Spec.operator? OrderedMap.contains
  cases definition.rules.ruleFor? field with
  | some rule => simp
  | none => cases hoperator : definition.spec.fields.find? field <;> simp

theorem ruleFor?_eq_none_iff :
    definition.rules.ruleFor? field = none ↔ definition.rules.handler? field = none := by
  unfold RuleSet.ruleFor? RuleSet.handler? OrderedMap.contains
  cases hfind : definition.rules.handlers.find? (ruleName definition.rules.rulePrefix field) <;>
    simp [hfind]

theorem ruleFor?_of_handler? {handler : Handler β ε}
    (h : definition.rules.handler? field = some handler) :
    definition.rules.ruleFor? field = some (ruleName definition.rules.rulePrefix field) := by
  unfold RuleSet.handler? at h
  simp [RuleSet.ruleFor?, OrderedMap.contains, h]

end Resolution

variable {β ε : Type} [QueryBuilder β ε]
variable {definition : Definition β ε}

/-- A field is resolved as its rule or its declaration says, whatever its value is. -/
theorem resolution_of_resolveField {target : Target} {field : String} {value : Value}
    {builder after : β} {answer : Resolution × Option Warning}
    (h : (definition.resolveField target field value).runOn builder = (.ok answer, after)) :
    answer.1 = definition.resolution field := by
  unfold resolveField RuleSet.dispatch at h
  cases hhandler : definition.rules.handler? field with
  | some handler =>
      simp only [hhandler, bind_assoc, pure_bind] at h
      obtain ⟨_, _, _, hanswer⟩ := Building.exists_of_runOn_bind_eq_ok h
      cases hanswer
      simp [resolution, ruleFor?_of_handler? hhandler]
  | none =>
      simp only [hhandler, pure_bind] at h
      unfold resolution
      rw [ruleFor?_eq_none_iff.mpr hhandler]
      cases hoperator : definition.spec.operator? field with
      | some operator =>
          simp only [hoperator] at h
          obtain ⟨_, _, _, hanswer⟩ := Building.exists_of_runOn_bind_eq_ok h
          cases hanswer
          rfl
      | none =>
          simp only [hoperator] at h
          cases h
          rfl

theorem fields_of_resolveEntries {target : Target} {report final : Report}
    {entries : List (String × Value)} {builder after : β}
    (h : (definition.resolveEntries target report entries).runOn builder = (.ok final, after)) :
    final.fields =
      report.fields ++ entries.map fun entry => (entry.1, definition.resolution entry.1) := by
  induction entries generalizing report builder with
  | nil =>
      cases h
      simp
  | cons entry rest ih =>
      unfold resolveEntries at h
      obtain ⟨answer, middle, hfield, hrest⟩ := Building.exists_of_runOn_bind_eq_ok h
      have hanswer := resolution_of_resolveField hfield
      rw [ih hrest]
      simp [Report.add, hanswer]

/-- A successful application reports every sanitized entry, in order. -/
theorem fields_of_apply {bag : Bag} {report : Report} {builder after : β}
    (h : (definition.apply bag).runOn builder = (.ok report, after)) :
    report.fields = (definition.sanitizer.sanitize bag).bag.entries.map
      fun entry => (entry.1, definition.resolution entry.1) := by
  unfold apply at h
  obtain ⟨target, middle, _, hentries⟩ := Building.exists_of_runOn_bind_eq_ok h
  exact fields_of_resolveEntries hentries

end Definition

end RequestFilter
