import RequestFilter.Proofs.OrderedMap
import RequestFilter.Spec

/-!
# Fields of a specification

A specification has the declared fields in the order of their declarations, each
with the operator that its declaration comes to.
-/

namespace RequestFilter

namespace Declaration

/-- What a declaration comes to. -/
def outcome (declaration : Declaration) : String × Except DefinitionError Operator :=
  (declaration.field, declaration.operator)

/-- Only a rule can filter on the field. -/
def isCustomOnly (declaration : Declaration) : Bool :=
  match declaration.operator with
  | .ok .customOnly => true
  | _ => false

theorem isCustomOnly_iff {declaration : Declaration} :
    declaration.isCustomOnly = true ↔ declaration.operator = .ok .customOnly := by
  unfold isCustomOnly
  split
  next h => simp [h]
  next h => simpa using h

end Declaration

namespace Spec

variable {spec : Spec} {declarations : List Declaration}

/-- The outcomes of the declarations that make up a specification. -/
def outcomes (spec : Spec) : List (String × Except DefinitionError Operator) :=
  spec.entries.map fun entry => (entry.1, .ok entry.2)

theorem outcomes_of_declare {after : Spec} {declaration : Declaration}
    (h : spec.declare declaration = .ok after) :
    after.outcomes = spec.outcomes ++ [declaration.outcome] := by
  unfold declare at h
  cases hblank : isBlankName declaration.field with
  | true =>
      rw [hblank] at h
      cases h
  | false =>
      cases hoperator : declaration.operator with
      | error error =>
          rw [hblank, hoperator] at h
          cases h
      | ok operator =>
          cases hdeclared : spec.fields.contains declaration.field with
          | true =>
              rw [hblank, hoperator, hdeclared] at h
              cases h
          | false =>
              rw [hblank, hoperator, hdeclared] at h
              cases h
              have hfresh : declaration.field ∉ spec.fields.names := by
                rw [← OrderedMap.find?_eq_none_iff, ← Option.not_isSome_iff_eq_none]
                exact Bool.not_eq_true _ ▸ hdeclared
              simp [outcomes, entries, insertEntry_of_not_mem hfresh, Declaration.outcome,
                hoperator]

theorem outcomes_of_foldlM_declare {start : Spec}
    (h : declarations.foldlM declare start = .ok spec) :
    spec.outcomes = start.outcomes ++ declarations.map Declaration.outcome := by
  induction declarations generalizing start with
  | nil =>
      cases h
      exact (List.append_nil _).symm
  | cons declaration rest ih =>
      rw [List.foldlM_cons] at h
      cases hdeclare : start.declare declaration with
      | error error =>
          rw [hdeclare] at h
          cases h
      | ok middle =>
          rw [hdeclare] at h
          rw [ih h, outcomes_of_declare hdeclare, List.append_assoc, List.singleton_append,
            List.map_cons]

/-- Every declaration has its entry, in order, and there are no others. -/
theorem outcomes_of_ofDeclarations (h : ofDeclarations declarations = .ok spec) :
    spec.outcomes = declarations.map Declaration.outcome :=
  outcomes_of_foldlM_declare h

theorem names_of_ofDeclarations (h : ofDeclarations declarations = .ok spec) :
    spec.fields.names = declarations.map Declaration.field := by
  have houtcomes := congrArg (List.map Prod.fst) (outcomes_of_ofDeclarations h)
  rwa [outcomes, List.map_map, List.map_map] at houtcomes

theorem isDeclared_eq_isSome (spec : Spec) (field : String) :
    spec.isDeclared field = (spec.operator? field).isSome := rfl

/-- The operator of a field is the one that its declaration comes to. -/
theorem operator?_eq_some_iff (h : ofDeclarations declarations = .ok spec) {field : String}
    {operator : Operator} :
    spec.operator? field = some operator ↔
      ∃ declaration ∈ declarations, declaration.field = field ∧
        declaration.operator = .ok operator := by
  have houtcome : spec.operator? field = some operator ↔ (field, .ok operator) ∈ spec.outcomes := by
    rw [operator?, OrderedMap.find?_eq_some_iff]
    simp [outcomes, entries]
  rw [houtcome, outcomes_of_ofDeclarations h]
  simp [Declaration.outcome]

theorem operator?_eq_none_iff (h : ofDeclarations declarations = .ok spec) {field : String} :
    spec.operator? field = none ↔ ∀ declaration ∈ declarations, declaration.field ≠ field := by
  rw [operator?, OrderedMap.find?_eq_none_iff, names_of_ofDeclarations h]
  simp

/-- The fields that only a rule can filter on are those of such declarations, in their order. -/
theorem customOnlyFields_of_ofDeclarations (h : ofDeclarations declarations = .ok spec) :
    spec.customOnlyFields =
      (declarations.filter Declaration.isCustomOnly).map Declaration.field := by
  let wanted (outcome : String × Except DefinitionError Operator) : Bool :=
    match outcome.2 with | .ok .customOnly => true | _ => false
  have hentries : spec.customOnlyFields = (spec.outcomes.filter wanted).map Prod.fst := by
    rw [customOnlyFields, outcomes, List.filter_map, List.map_map]
    refine congrArg (List.map Prod.fst) (List.filter_congr fun entry _ => ?_)
    obtain ⟨field, _ | _ | _⟩ := entry <;> rfl
  rw [hentries, outcomes_of_ofDeclarations h, List.filter_map, List.map_map]
  rfl

/-- The first declaration of a kind among those of fields that only a rule can filter on. -/
theorem find?_customOnlyFields (h : ofDeclarations declarations = .ok spec) (p : String → Bool) :
    spec.customOnlyFields.find? p =
      (declarations.find? fun declaration =>
        declaration.isCustomOnly && p declaration.field).map Declaration.field := by
  rw [customOnlyFields_of_ofDeclarations h, List.find?_map, List.find?_filter]
  simp only [Bool.decide_and, Bool.decide_eq_true, Function.comp_apply]

end Spec

end RequestFilter
