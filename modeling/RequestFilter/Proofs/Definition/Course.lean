import RequestFilter.Proofs.Definition.Registration

/-!
# The course of an application

An entry of a field with a rule goes to the rule and to nothing else. Any other
entry gets the predicate of its declaration, and is passed over only where there
is no declaration. A field that only a rule can filter on is never passed over:
a definition in which it had no rule was not built.
-/

namespace RequestFilter

open DefinitionCall QueryBuilder

section Unfiltered

variable {β ε : Type} {declarations : List Declaration} {calls : List (DefinitionCall β ε)}

/-- Every field that only a rule can filter on has one. -/
def AllRuled (declarations : List Declaration) (calls : List (DefinitionCall β ε)) : Prop :=
  ∀ declaration ∈ declarations, declaration.operator = .ok .customOnly →
    (handlerOf? calls declaration.field).isSome = true

theorem allRuled_of_find?_eq_none (h : declarations.find? (leavesUnruled calls) = none) :
    AllRuled declarations calls := by
  intro declaration hdeclaration hoperator
  have hruled := List.find?_eq_none.mp h declaration hdeclaration
  rw [leavesUnruled, Declaration.isCustomOnly_iff.mpr hoperator, Bool.true_and,
    Option.isNone_iff_eq_none] at hruled
  exact Option.isSome_iff_ne_none.mpr hruled

/-- A field without a rule can be filtered on as its declaration says. -/
theorem AllRuled.operator_ne_customOnly (hruled : AllRuled declarations calls) {field : String}
    (hrule : handlerOf? calls field = none) {declaration : Declaration}
    (hdeclared : declaration ∈ declarations) (hfield : declaration.field = field) :
    declaration.operator ≠ .ok .customOnly := by
  intro hoperator
  have hsome := hruled declaration hdeclared hoperator
  rw [hfield, hrule] at hsome
  cases hsome

end Unfiltered

section Course

variable {β ε : Type} [QueryBuilder β ε]

/-- What becomes of entries in turn: the report of them, and what their rules and predicates make of
a builder. -/
inductive Course (declarations : List Declaration) (calls : List (DefinitionCall β ε))
    (target : Target) : List (String × Value) → β → Report → β → Prop
  | done (builder : β) : Course declarations calls target [] builder .empty builder
  /-- The rule of the field runs on the value, and nothing else does. -/
  | custom {field : String} {value : Value} {handler : Handler β ε}
      {rest : List (String × Value)} {report : Report} {builder middle after : β}
      (hrule : handlerOf? calls field = some handler)
      (hrun : (handler target value).runOn builder = (.ok (), middle))
      (hrest : Course declarations calls target rest middle report after) :
      Course declarations calls target ((field, value) :: rest) builder
        ((Report.empty.add field (.custom (derivedName calls field)) none).append report) after
  | generic {declaration : Declaration} {operator : Operator} {value : Value}
      {warning : Option Warning} {rest : List (String × Value)} {report : Report}
      {builder middle after : β}
      (hrule : handlerOf? calls declaration.field = none)
      (hdeclared : declaration ∈ declarations)
      (hoperator : declaration.operator = .ok operator)
      (hcustom : operator ≠ .customOnly)
      (hrun : (applyGeneric operator declaration.field value target).runOn builder =
        (.ok warning, middle))
      (hrest : Course declarations calls target rest middle report after) :
      Course declarations calls target ((declaration.field, value) :: rest) builder
        ((Report.empty.add declaration.field (.generic operator) warning).append report) after
  /-- Without a rule and a declaration, the builder stays as it is. -/
  | ignored {field : String} {value : Value} {rest : List (String × Value)} {report : Report}
      {builder after : β}
      (hrule : handlerOf? calls field = none)
      (hundeclared : ∀ declaration ∈ declarations, declaration.field ≠ field)
      (hrest : Course declarations calls target rest builder report after) :
      Course declarations calls target ((field, value) :: rest) builder
        ((Report.empty.add field .ignored none).append report) after

/-- The resolution is the one due to the field: by its rule, whatever its declaration says, and not
to be passed over when it has one of both. -/
structure IsDue (declarations : List Declaration) (calls : List (DefinitionCall β ε))
    (entry : String × Resolution) : Prop where
  custom_of_rule : (handlerOf? calls entry.1).isSome = true →
    entry.2 = .custom (derivedName calls entry.1)
  custom_of_customOnly : ∀ declaration ∈ declarations, declaration.operator = .ok .customOnly →
    declaration.field = entry.1 → entry.2 = .custom (derivedName calls entry.1)
  ne_customOnly : entry.2 ≠ .generic .customOnly
  unlisted_of_ignored : entry.2 = .ignored →
    (∀ declaration ∈ declarations, declaration.field ≠ entry.1) ∧
      handlerOf? calls entry.1 = none

variable {declarations : List Declaration} {calls : List (DefinitionCall β ε)} {target : Target}

theorem Course.isDue (hruled : AllRuled declarations calls) {entries : List (String × Value)}
    {builder after : β} {report : Report}
    (h : Course declarations calls target entries builder report after) :
    ∀ entry ∈ report.fields, IsDue declarations calls entry := by
  induction h with
  | done builder => exact List.forall_mem_nil _
  | custom hrule hrun hrest ih =>
      refine List.forall_mem_cons.mpr ⟨?_, ih⟩
      exact ⟨fun _ => rfl, fun _ _ _ _ => rfl, nofun, nofun⟩
  | generic hrule hdeclared hoperator hcustom hrun hrest ih =>
      refine List.forall_mem_cons.mpr ⟨⟨fun hsome => ?_, ?_, ?_, nofun⟩, ih⟩
      · exact absurd hrule (Option.isSome_iff_ne_none.mp hsome)
      · intro other hother honly hfield
        exact absurd honly (hruled.operator_ne_customOnly hrule hother hfield)
      · exact fun hsame => hcustom (Resolution.generic.inj hsame)
  | ignored hrule hundeclared hrest ih =>
      refine List.forall_mem_cons.mpr
        ⟨⟨fun hsome => ?_, ?_, nofun, fun _ => ⟨hundeclared, hrule⟩⟩, ih⟩
      · exact absurd hrule (Option.isSome_iff_ne_none.mp hsome)
      · intro other hother _ hfield
        exact absurd hfield (hundeclared other hother)

/-- One entry is resolved as the first step of a course is. -/
theorem Course.of_resolveField {spec : Spec} (hspec : Spec.ofDeclarations declarations = .ok spec)
    (hruled : AllRuled declarations calls) {field : String} {value : Value}
    {answer : Resolution × Option Warning} {rest : List (String × Value)} {report : Report}
    {builder middle after : β}
    (hfield : ((definition spec calls).resolveField target field value).runOn builder =
      (.ok answer, middle))
    (hrest : Course declarations calls target rest middle report after) :
    Course declarations calls target ((field, value) :: rest) builder
      ((Report.empty.add field answer.1 answer.2).append report) after := by
  unfold Definition.resolveField RuleSet.dispatch at hfield
  rw [handler?_definition] at hfield
  cases hrule : handlerOf? calls field with
  | some handler =>
      simp only [hrule, bind_assoc, pure_bind] at hfield
      obtain ⟨_, _, hrun, hanswer⟩ := Building.exists_of_runOn_bind_eq_ok hfield
      cases hanswer
      exact .custom hrule hrun hrest
  | none =>
      simp only [hrule, pure_bind] at hfield
      cases hoperator : (definition spec calls).spec.operator? field with
      | some operator =>
          simp only [hoperator] at hfield
          obtain ⟨warning, _, hrun, hanswer⟩ := Building.exists_of_runOn_bind_eq_ok hfield
          cases hanswer
          obtain ⟨declaration, hdeclared, rfl, hdeclares⟩ :=
            (Spec.operator?_eq_some_iff hspec).mp hoperator
          have hcustom : operator ≠ .customOnly := fun honly =>
            hruled.operator_ne_customOnly hrule hdeclared rfl (honly ▸ hdeclares)
          exact .generic hrule hdeclared hdeclares hcustom hrun hrest
      | none =>
          simp only [hoperator] at hfield
          cases hfield
          exact .ignored hrule ((Spec.operator?_eq_none_iff hspec).mp hoperator) hrest

theorem Course.of_resolveEntries {spec : Spec}
    (hspec : Spec.ofDeclarations declarations = .ok spec) (hruled : AllRuled declarations calls)
    {entries : List (String × Value)} {report : Report} {builder after : β}
    (h : ((definition spec calls).resolveEntries target .empty entries).runOn builder =
      (.ok report, after)) :
    Course declarations calls target entries builder report after := by
  induction entries generalizing report builder with
  | nil =>
      cases h
      exact .done _
  | cons entry rest ih =>
      unfold Definition.resolveEntries at h
      obtain ⟨answer, middle, hfield, hentries⟩ := Building.exists_of_runOn_bind_eq_ok h
      have happend := Definition.runOn_resolveEntries_append (definition spec calls) target
        (Report.empty.add entry.1 answer.1 answer.2) .empty rest middle
      rw [Report.append_empty, hentries] at happend
      rcases hrest : ((definition spec calls).resolveEntries target .empty rest).runOn middle with
        ⟨result, final⟩
      rw [hrest] at happend
      cases result with
      | error error => cases happend
      | ok tail =>
          cases happend
          exact .of_resolveField hspec hruled hfield (ih hrest)

/-- A definition is built unless a field that only a rule can filter on has no rule, and then the
first such field is named with its rule; and whatever is built, no application of it lets an entry
pass that has a rule or a declaration. -/
theorem build_leaves_nothing_unfiltered {spec : Spec}
    (hspec : Spec.ofDeclarations declarations = .ok spec) (calls : List (DefinitionCall β ε)) :
    (∀ declaration, declarations.find? (leavesUnruled calls) = some declaration →
      (DefinitionBuilder.ofCalls spec calls).build =
        .error (.missingRule declaration.field (derivedName calls declaration.field))) ∧
    (declarations.find? (leavesUnruled calls) = none →
      ∃ definition, (DefinitionBuilder.ofCalls spec calls).build = .ok definition ∧
        ∀ bag builder report after,
          (Definition.apply definition bag).runOn builder = (.ok report, after) →
            (∃ table, tableAnswer builder = .ok table ∧
              Course declarations calls ⟨table⟩ ((lastSanitizer calls).sanitize bag).bag.entries
                (afterLookup builder) report after) ∧
            ∀ entry ∈ report.fields, IsDue declarations calls entry) := by
  have hbuild := build_ofCalls hspec calls
  constructor
  · intro declaration hfind
    rw [hbuild, hfind]
  · intro hfind
    have hruled := allRuled_of_find?_eq_none hfind
    rw [hfind] at hbuild
    refine ⟨_, hbuild, fun bag builder report after happly => ?_⟩
    cases htable : tableAnswer builder with
    | error error =>
        rw [Definition.runOn_apply_of_error _ htable] at happly
        cases happly
    | ok table =>
        rw [Definition.runOn_apply_of_table _ htable] at happly
        have hcourse := Course.of_resolveEntries hspec hruled happly
        exact ⟨⟨table, rfl, hcourse⟩, hcourse.isDue hruled⟩

def ageDeclarations : List Declaration :=
  [.plain "status", .named "min_age" (some "custom"), .withOperator "maxAge" .customOnly]

def ageCalls : List (DefinitionCall Recorder RecorderError) :=
  [.rule "MinAge" (Recorder.retarget "adults"), .namedRule "filterMaxAge" (Recorder.search ["age"])]

/-- Two spellings of a field share its rule, another rule is given under its name, and the prefix
that this name has comes last. Without it, the first field that needs a rule is named. -/
theorem build_leaves_nothing_unfiltered_ages :
    let spec : Spec :=
      ⟨.ofList [("status", .exactOrIn), ("min_age", .customOnly), ("maxAge", .customOnly)]⟩
    let calls := ageCalls ++ [.rulePrefix "filter"]
    Spec.ofDeclarations ageDeclarations = .ok spec ∧
      (DefinitionBuilder.ofCalls spec ageCalls).build =
        .error (.missingRule "maxAge" "criteriaMaxAge") ∧
      ∃ definition, (DefinitionBuilder.ofCalls spec calls).build = .ok definition ∧
        ∀ bag recorder report after, (definition.apply bag).runOn recorder = (.ok report, after) →
          ∀ entry ∈ report.fields, IsDue ageDeclarations calls entry := by
  intro spec calls
  have hspec : Spec.ofDeclarations ageDeclarations = .ok spec := by rfl
  have hunruled : ageDeclarations.map (leavesUnruled ageCalls) = [false, false, true] := by
    decide +kernel
  have hmissing : ageDeclarations.find? (leavesUnruled ageCalls) =
      some (.withOperator "maxAge" .customOnly) := by
    simp only [ageDeclarations, List.map_cons, List.cons.injEq] at hunruled
    rw [ageDeclarations, List.find?_cons, hunruled.1, List.find?_cons, hunruled.2.1,
      List.find?_cons, hunruled.2.2.1]
  have hnamed : derivedName ageCalls "maxAge" = "criteriaMaxAge" := by decide +kernel
  have hfails := (build_leaves_nothing_unfiltered hspec ageCalls).1 _ hmissing
  have hruled : (ageDeclarations.find?
      (leavesUnruled (ageCalls ++ [.rulePrefix "filter"]))).isNone = true := by
    decide +kernel
  obtain ⟨definition, hbuild, happly⟩ :=
    (build_leaves_nothing_unfiltered hspec calls).2 (Option.isNone_iff_eq_none.mp hruled)
  exact ⟨hspec, hnamed ▸ hfails, definition, hbuild,
    fun bag recorder report after hrun => (happly bag recorder report after hrun).2⟩

end Course

end RequestFilter
