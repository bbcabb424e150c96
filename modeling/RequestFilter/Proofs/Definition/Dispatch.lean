import Mathlib.Data.Finset.Card
import RequestFilter.Proofs.Definition.Registration
import RequestFilter.Rule.Script

/-!
# Which rule a field reaches

A field is handed to the rule given last for a field of the same name, whatever
rules were given under names; where there is no such rule, to the one given last
under its name; and otherwise to none. What counts of the calls is therefore the
order of the rules for fields, that of the rules under names, and the prefix given
last: the three may be interleaved in any way.
-/

namespace RequestFilter

namespace DefinitionCall

section Calls

variable {β ε : Type} (calls : List (DefinitionCall β ε))

/-- The rule given last for a field that shares its name with this one. -/
def lastFieldRule? (field : String) : Option (Handler β ε) :=
  ((calls.filterMap rule?).filter fun rule =>
    derivedName calls rule.1 = derivedName calls field).getLast?.map Prod.snd

/-- The rule given last under a name. -/
def lastNamedRule? (name : String) : Option (Handler β ε) :=
  ((calls.filterMap namedRule?).filter fun rule => rule.1 = name).getLast?.map Prod.snd

/-- The names under which there is a rule, with repetitions. -/
def ruleNames : List String :=
  (calls.filterMap namedRule?).map Prod.fst ++
    (calls.filterMap rule?).map fun rule => derivedName calls rule.1

/-- A rule for a field comes before one under a name, whichever was given first. -/
theorem handlerOf?_eq (field : String) :
    handlerOf? calls field =
      (lastFieldRule? calls field).or (lastNamedRule? calls (derivedName calls field)) := by
  rw [handlerOf?, findEntry?_reverse, registrations, List.filter_append, List.getLast?_append,
    List.filter_map, List.getLast?_map, Option.map_or, Option.map_map]
  rfl

theorem map_fst_registrations : (registrations calls).map Prod.fst = ruleNames calls := by
  rw [registrations, List.map_append, List.map_map]
  rfl

end Calls

/-- Calls with the same rules for fields and the same rules under names, each in the same order,
and with the same prefix in the end. -/
structure SameRules {β ε : Type} (calls calls' : List (DefinitionCall β ε)) : Prop where
  fieldRules : calls'.filterMap rule? = calls.filterMap rule?
  namedRules : calls'.filterMap namedRule? = calls.filterMap namedRule?
  lastPrefix : lastPrefix calls' = lastPrefix calls

variable {β ε : Type} {spec : Spec} {calls calls' : List (DefinitionCall β ε)}
variable {definition : Definition β ε}

theorem rules_of_build (h : (DefinitionBuilder.ofCalls spec calls).build = .ok definition) :
    definition.rules = (DefinitionCall.definition spec calls).rules := by
  rw [← rules_ofCalls]
  unfold DefinitionBuilder.build at h
  split at h
  next => cases h
  next =>
    cases h
    rfl

theorem handler?_of_build (h : (DefinitionBuilder.ofCalls spec calls).build = .ok definition)
    (field : String) :
    definition.rules.handler? field =
      (lastFieldRule? calls field).or (lastNamedRule? calls (derivedName calls field)) := by
  rw [rules_of_build h, handler?_definition, handlerOf?_eq]

theorem ruleFor?_of_build (h : (DefinitionBuilder.ofCalls spec calls).build = .ok definition)
    (field : String) :
    definition.rules.ruleFor? field =
      if derivedName calls field ∈ ruleNames calls then some (derivedName calls field)
      else none := by
  have hcontains : (OrderedMap.ofList (registrations calls)).contains (derivedName calls field) =
      decide (derivedName calls field ∈ ruleNames calls) := by
    rw [← map_fst_registrations, Bool.eq_iff_iff, OrderedMap.contains_eq_true_iff,
      OrderedMap.mem_names_ofList, decide_eq_true_iff]
  have hname : ruleName (lastPrefix calls) field = derivedName calls field := rfl
  rw [rules_of_build h, RuleSet.ruleFor?, DefinitionCall.definition]
  simp only [hname, hcontains, decide_eq_true_eq]

theorem size_of_build (h : (DefinitionBuilder.ofCalls spec calls).build = .ok definition) :
    definition.rules.size = (ruleNames calls).toFinset.card := by
  have hnames : (OrderedMap.ofList (registrations calls)).names.toFinset =
      (ruleNames calls).toFinset := by
    ext name
    rw [List.mem_toFinset, List.mem_toFinset, OrderedMap.mem_names_ofList, map_fst_registrations]
  have hnodup : (OrderedMap.ofList (registrations calls)).names.Nodup := OrderedMap.nodup _
  rw [rules_of_build h, ← hnames, List.toFinset_card_of_nodup hnodup]
  exact (List.length_map Prod.fst).symm

theorem SameRules.rules_eq (h : SameRules calls calls') :
    (DefinitionBuilder.ofCalls spec calls').rules =
      (DefinitionBuilder.ofCalls spec calls).rules := by
  have hderived : derivedName calls' = derivedName calls := by
    funext field
    rw [derivedName, derivedName, h.lastPrefix]
  have hregistrations : registrations calls' = registrations calls := by
    rw [registrations, registrations, h.namedRules, h.fieldRules, hderived]
  rw [rules_ofCalls, rules_ofCalls, DefinitionCall.definition, DefinitionCall.definition,
    h.lastPrefix, hregistrations]

/-- What is built from one chain of calls is built from every other one with the same rules, but
for the policy of sanitizing. -/
theorem SameRules.build_eq (hsame : SameRules calls calls')
    (h : (DefinitionBuilder.ofCalls spec calls).build = .ok definition) :
    (DefinitionBuilder.ofCalls spec calls').build =
      .ok { definition with sanitizer := lastSanitizer calls' } := by
  have hunruled : (DefinitionBuilder.ofCalls spec calls').unruledField? =
      (DefinitionBuilder.ofCalls spec calls).unruledField? := by
    rw [DefinitionBuilder.unruledField?, DefinitionBuilder.unruledField?, hsame.rules_eq,
      ofCalls_eq, ofCalls_eq]
  unfold DefinitionBuilder.build at h ⊢
  rw [hunruled, hsame.rules_eq]
  split at h
  next => cases h
  next =>
    cases h
    rw [ofCalls_eq, ofCalls_eq]

/-- A field reaches the rule given last for a field of the same name, then the one given last under
its name, and else none; and how the rules of either kind stand among the other calls makes no
difference to that, nor to the names and the number of the rules. -/
theorem dispatch_of_build (hbuild : (DefinitionBuilder.ofCalls spec calls).build = .ok definition) :
    (∀ field value target,
      (∀ handler, lastFieldRule? calls field = some handler →
        definition.rules.dispatch field value target = do
          handler target value
          return true) ∧
      (lastFieldRule? calls field = none →
        ∀ handler, lastNamedRule? calls (derivedName calls field) = some handler →
          definition.rules.dispatch field value target = do
            handler target value
            return true) ∧
      (lastFieldRule? calls field = none → lastNamedRule? calls (derivedName calls field) = none →
        ∀ builder, (definition.rules.dispatch field value target).runOn builder =
          (.ok false, builder))) ∧
    (∀ field, definition.rules.ruleFor? field =
      if derivedName calls field ∈ ruleNames calls then some (derivedName calls field)
      else none) ∧
    definition.rules.size = (ruleNames calls).toFinset.card ∧
    ∀ calls', SameRules calls calls' →
      ∃ definition', (DefinitionBuilder.ofCalls spec calls').build = .ok definition' ∧
        (∀ field, definition'.rules.ruleFor? field = definition.rules.ruleFor? field) ∧
        definition'.rules.size = definition.rules.size ∧
        ∀ field value target,
          definition'.rules.dispatch field value target =
            definition.rules.dispatch field value target := by
  refine ⟨fun field value target => ?_, ruleFor?_of_build hbuild, size_of_build hbuild, ?_⟩
  · have hhandler := handler?_of_build hbuild field
    refine ⟨fun handler hfield => ?_, fun hfield handler hnamed => ?_, fun hfield hnamed => ?_⟩
    · rw [hfield, Option.some_or] at hhandler
      rw [RuleSet.dispatch, hhandler]
    · rw [hfield, Option.none_or, hnamed] at hhandler
      rw [RuleSet.dispatch, hhandler]
    · rw [hfield, Option.none_or, hnamed] at hhandler
      intro builder
      rw [RuleSet.dispatch, hhandler, Building.runOn_pure]
  · intro calls' hsame
    exact ⟨_, hsame.build_eq hbuild, fun _ => rfl, rfl, fun _ _ _ => rfl⟩

/-- Two spellings of a field, a prefix that comes between them, and rules under names before and
behind them. -/
def adultCalls : List (DefinitionCall Recorder RecorderError) :=
  [.namedRule "criteriaMinAge" (Recorder.search ["a"]), .rule "min_age" (Recorder.search ["b"]),
    .rulePrefix "filter", .rule "Min-Age" (Recorder.retarget "adults"),
    .namedRule "filterMinAge" (Recorder.search ["c"])]

/-- The same rules with the prefix in front. -/
def adultCallsInOrder : List (DefinitionCall Recorder RecorderError) :=
  [.rulePrefix "filter", .rule "min_age" (Recorder.search ["b"]),
    .rule "Min-Age" (Recorder.retarget "adults"),
    .namedRule "criteriaMinAge" (Recorder.search ["a"]),
    .namedRule "filterMinAge" (Recorder.search ["c"])]

/-- The later spelling has the rule, although a rule was given under the name after it; a field of
another name has none. -/
theorem dispatch_of_build_adults :
    let spec : Spec := ⟨.ofList [("status", .exactOrIn)]⟩
    ∃ definition, (DefinitionBuilder.ofCalls spec adultCalls).build = .ok definition ∧
      (∀ value target, definition.rules.dispatch "minAge" value target = do
        Recorder.retarget "adults" target value
        return true) ∧
      (∀ value target recorder, (definition.rules.dispatch "age" value target).runOn recorder =
        (.ok false, recorder)) ∧
      definition.rules.ruleFor? "minAge" = some "filterMinAge" ∧
      definition.rules.size = 2 ∧
      SameRules adultCalls adultCallsInOrder ∧
      ∃ definition', (DefinitionBuilder.ofCalls spec adultCallsInOrder).build = .ok definition' ∧
        definition'.rules.size = definition.rules.size := by
  intro spec
  have hbuild : (DefinitionBuilder.ofCalls spec adultCalls).build =
      .ok (definition spec adultCalls) := by rfl
  have hfirst : derivedName adultCalls "min_age" = "filterMinAge" := by decide +kernel
  have hsecond : derivedName adultCalls "Min-Age" = "filterMinAge" := by decide +kernel
  have hthird : derivedName adultCalls "minAge" = "filterMinAge" := by decide +kernel
  have hother : derivedName adultCalls "age" = "filterAge" := by decide +kernel
  have hrules : adultCalls.filterMap rule? =
      [("min_age", Recorder.search ["b"]), ("Min-Age", Recorder.retarget "adults")] := rfl
  have hnamed : adultCalls.filterMap namedRule? =
      [("criteriaMinAge", Recorder.search ["a"]), ("filterMinAge", Recorder.search ["c"])] := rfl
  have hlast : lastFieldRule? adultCalls "minAge" = some (Recorder.retarget "adults") := by
    simp [lastFieldRule?, hrules, hfirst, hsecond, hthird]
  have hnoField : lastFieldRule? adultCalls "age" = none := by
    simp [lastFieldRule?, hrules, hfirst, hsecond, hother]
  have hnoName : lastNamedRule? adultCalls (derivedName adultCalls "age") = none := by
    simp [lastNamedRule?, hnamed, hother]
  have hnames : ruleNames adultCalls =
      ["criteriaMinAge", "filterMinAge", "filterMinAge", "filterMinAge"] := by decide +kernel
  have hsame : SameRules adultCalls adultCallsInOrder := ⟨rfl, rfl, rfl⟩
  obtain ⟨hdispatch, hruleFor, hsize, hreordered⟩ := dispatch_of_build hbuild
  obtain ⟨definition', hbuild', _, hsize', _⟩ := hreordered adultCallsInOrder hsame
  refine ⟨_, hbuild, fun value target => (hdispatch "minAge" value target).1 _ hlast,
    fun value target => (hdispatch "age" value target).2.2 hnoField hnoName, ?_, ?_, hsame,
    definition', hbuild', hsize'⟩
  · rw [hruleFor, hthird, hnames, if_pos (by decide)]
  · rw [hsize, hnames]
    decide

end DefinitionCall

end RequestFilter
