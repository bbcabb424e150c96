import RequestFilter.Definition
import RequestFilter.Proofs.Building
import RequestFilter.Proofs.Sql.Meaning
import RequestFilter.Sql.Building

/-!
# What an application means

Without custom rules an application adds one predicate for each usable parameter
of a declared field, and nothing else. A row satisfies the narrowed condition
exactly when it satisfied the old one and meets every such parameter.
-/

namespace RequestFilter

open Sql

/-- The default policy drops the values without an operand and nothing else. -/
theorem Sanitizer.entries_sanitize_default (bag : Bag) :
    (Sanitizer.default.sanitize bag).bag.entries =
      bag.entries.filter fun entry => entry.2.isUsable := by
  simp [sanitize, keeps, default]

namespace Sql

/-- The predicates that an operator makes of a value: at most one. -/
def predicatesOf (target : Target) (field : String) (value : Value) : Operator → List Expression
  | .exactOrIn =>
      if value.scalars.isEmpty then []
      else [membership (target.qualify field) value.scalars]
  | .like =>
      match patternOperand? value with
      | none => []
      | some (operand, _) =>
          [fieldComparison (target.qualify field) .likeIgnoringCase
            (.string (containsPattern operand.text))]
  | .customOnly => []

theorem membership_eq_among (field : QualifiedField) {values : List Scalar} (h : values ≠ []) :
    membership field values = .among (fieldColumn field) (values.map .literal) :=
  if_neg (by simpa using h)

theorem predicatesOf_exactOrIn (target : Target) (field : String) {value : Value}
    (h : value.scalars ≠ []) :
    predicatesOf target field value .exactOrIn =
      [membership (target.qualify field) value.scalars] :=
  if_neg (by simpa using h)

/-- The operand of a pattern is the first one of its value. -/
theorem predicatesOf_like (target : Target) (field : String) (value : Value) :
    predicatesOf target field value .like =
      value.scalars.head?.toList.map fun operand =>
        fieldComparison (target.qualify field) .likeIgnoringCase
          (.string (containsPattern operand.text)) := by
  cases value with
  | sequence values => cases values <;> rfl
  | scalar _ | null | composite _ => rfl

namespace Select

/-- A select with a source is known by the alias of the source. -/
theorem runOn_resolve {select : Select} {source : Source} (hsource : select.source = some source) :
    (Target.resolve : Building Select TargetError Target).runOn select =
      (.ok ⟨source.knownAs⟩, select) := by
  obtain ⟨projection, _, joins, condition⟩ := select
  subst hsource
  rfl

theorem foldl_restrict (select : Select) (predicates : List Expression) :
    predicates.foldl restrict select =
      { select with condition := predicates.foldl Expression.conj select.condition } := by
  induction predicates generalizing select with
  | nil =>
      -- a select may hold another one, so it is equal to its parts only once it is split
      cases select
      rfl
  | cons predicate rest ih =>
      rw [List.foldl_cons, ih]
      rfl

/-- The generic predicate of an operator succeeds on every select and only narrows its condition. -/
theorem runOn_applyGeneric (operator : Operator) (target : Target) (field : String)
    (value : Value) (select : Select) :
    ∃ warning, (applyGeneric operator field value target : Building Select TargetError _).runOn
      select = (.ok warning, (predicatesOf target field value operator).foldl restrict select) := by
  cases operator with
  | exactOrIn =>
      unfold applyGeneric predicatesOf
      cases value.scalars.isEmpty with
      | true => exact ⟨none, rfl⟩
      | false => exact ⟨none, rfl⟩
  | like =>
      unfold applyGeneric predicatesOf
      cases patternOperand? value with
      | none => exact ⟨none, rfl⟩
      | some found => exact ⟨if found.2 then some ⟨field, found.1⟩ else none, rfl⟩
  | customOnly => exact ⟨none, rfl⟩

end Select

end Sql

namespace Definition

variable (definition : Definition Select TargetError)

/-- The predicates of an entry: those of its field's operator, none for an undeclared field. -/
def entryPredicates (target : Target) (entry : String × Value) : List Expression :=
  match definition.spec.operator? entry.1 with
  | some operator => predicatesOf target entry.1 entry.2 operator
  | none => []

variable {definition}

/-- A field without a rule adds exactly its own predicates. -/
theorem runOn_resolveField_of_unruled {field : String}
    (hrule : definition.rules.handler? field = none) (target : Target) (value : Value)
    (select : Select) :
    ∃ answer, (definition.resolveField target field value).runOn select =
      (.ok answer, (definition.entryPredicates target (field, value)).foldl
        Select.restrict select) := by
  have hdispatch : (definition.rules.dispatch field value target).runOn select =
      (.ok false, select) := by
    simp [RuleSet.dispatch, hrule]
  unfold resolveField entryPredicates
  rw [Building.runOn_bind_of_ok hdispatch]
  cases definition.spec.operator? field with
  | none => exact ⟨(.ignored, none), rfl⟩
  | some operator =>
      obtain ⟨warning, hgeneric⟩ :=
        Select.runOn_applyGeneric operator target field value select
      refine ⟨(.generic operator, warning), ?_⟩
      exact Building.runOn_bind_of_ok hgeneric

/-- Without rules, every entry adds its own predicates. -/
theorem runOn_resolveField (hrules : definition.rules.handlers.entries = [])
    (target : Target) (field : String) (value : Value) (select : Select) :
    ∃ answer, (definition.resolveField target field value).runOn select =
      (.ok answer, (definition.entryPredicates target (field, value)).foldl
        Select.restrict select) := by
  have hrule : definition.rules.handler? field = none := by
    simp [RuleSet.handler?, OrderedMap.find?, hrules, findEntry?]
  exact runOn_resolveField_of_unruled hrule target value select

/-- When every entry narrows each select by predicates of its own, the resolution of many narrows
it by the predicates of all of them, in order. -/
theorem runOn_resolveEntries {target : Target} {predicates : String × Value → List Expression}
    (hfield : ∀ entry select, ∃ answer,
      (definition.resolveField target entry.1 entry.2).runOn select =
        (.ok answer, (predicates entry).foldl Select.restrict select))
    (report : Report) (entries : List (String × Value)) (select : Select) :
    ∃ final, (definition.resolveEntries target report entries).runOn select =
      (.ok final, (entries.flatMap predicates).foldl Select.restrict select) := by
  induction entries generalizing report select with
  | nil => exact ⟨report, rfl⟩
  | cons entry rest ih =>
      obtain ⟨answer, hentry⟩ := hfield entry select
      unfold resolveEntries
      rw [Building.runOn_bind_of_ok hentry, List.flatMap_cons, List.foldl_append]
      exact ih _ _

/-- When every entry narrows each select, an application to a select with a source succeeds and
only narrows its condition, by the predicates of the sanitized entries in order. -/
theorem runOn_apply_of_resolveField {select : Select} {source : Source}
    (hsource : select.source = some source) {predicates : String × Value → List Expression}
    (hfield : ∀ entry select, ∃ answer,
      (definition.resolveField ⟨source.knownAs⟩ entry.1 entry.2).runOn select =
        (.ok answer, (predicates entry).foldl Select.restrict select)) (bag : Bag) :
    ∃ report, (definition.apply bag).runOn select =
      (.ok report, { select with
        condition := ((definition.sanitizer.sanitize bag).bag.entries.flatMap predicates).foldl
          Expression.conj select.condition }) := by
  obtain ⟨report, hentries⟩ := runOn_resolveEntries hfield .empty
    (definition.sanitizer.sanitize bag).bag.entries select
  refine ⟨report, ?_⟩
  unfold apply
  rw [Building.runOn_bind_of_ok (Select.runOn_resolve hsource), hentries, Select.foldl_restrict]

/-- Without rules, the predicates are those of the declared fields. -/
theorem runOn_apply (hrules : definition.rules.handlers.entries = []) (bag : Bag)
    {select : Select} {source : Source} (hsource : select.source = some source) :
    ∃ report, (definition.apply bag).runOn select =
      (.ok report, { select with
        condition := ((definition.sanitizer.sanitize bag).bag.entries.flatMap
          (definition.entryPredicates ⟨source.knownAs⟩)).foldl Expression.conj
            select.condition }) :=
  runOn_apply_of_resolveField hsource
    (fun entry select => runOn_resolveField hrules _ entry.1 entry.2 select) bag

end Definition

namespace Sql

variable {V : Type} (database : Interpretation V) (row : Row V)

/-- Membership holds where the column equals one of the values, and nowhere without values. -/
theorem truth_membership_eq_yes_iff (field : QualifiedField) (values : List Scalar) :
    (membership field values).truth database row = .yes ↔
      ∃ operand ∈ values, database.compared .equal (row (.aliased field.table) field.field)
        (some (database.literal operand)) = .yes := by
  unfold membership
  cases values with
  | nil => simp [Expression.truth_never]
  | cons first rest =>
      simp only [List.isEmpty_cons, Bool.false_eq_true, if_false, Expression.truth,
        Expression.value, fieldColumn, Interpretation.holds_ofTruth, Expression.values_eq_map,
        Interpretation.amongTruth_eq_yes_iff, List.map_map, List.mem_map, Function.comp_apply,
        exists_exists_and_eq_and]

/-- The predicate of a pattern field holds where the column is present and its folded text
contains that of the operand. -/
theorem truth_containment_eq_yes_iff (field : QualifiedField) (operand : Scalar) :
    (fieldComparison field .likeIgnoringCase
        (.string (containsPattern operand.text))).truth database row = .yes ↔
      ∃ present, row (.aliased field.table) field.field = some present ∧
        operand.text.toList.map database.folding.fold <:+:
          (database.text present).toList.map database.folding.fold := by
  simp only [Expression.truth, fieldComparison, Expression.value, fieldColumn,
    Interpretation.holds_ofTruth]
  cases row (.aliased field.table) field.field with
  | none => simp [Interpretation.compared]
  | some present => simp [Interpretation.compared_containsPattern]

/-- What a parameter of a declared field asks of a row: an exact field equals one of the
operands, a pattern field is present and contains the text of the first operand in either case.
A field that only a rule can filter on asks for nothing by itself. -/
def Meets (table field : String) (value : Value) : Operator → Prop
  | .exactOrIn =>
      ∃ operand ∈ value.scalars, database.compared .equal (row (.aliased table) field)
        (some (database.literal operand)) = .yes
  | .like =>
      ∃ operand ∈ value.scalars.head?, ∃ present, row (.aliased table) field = some present ∧
        operand.text.toList.map database.folding.fold <:+:
          (database.text present).toList.map database.folding.fold
  | .customOnly => True

/-- The predicates of a usable value hold on the rows that meet it. -/
theorem forall_predicatesOf_iff_meets (table field : String) {value : Value}
    (husable : value.isUsable = true) (operator : Operator) :
    (∀ predicate ∈ predicatesOf ⟨table⟩ field value operator,
        predicate.truth database row = .yes) ↔
      Meets database row table field value operator := by
  have hscalars : value.scalars ≠ [] := (Value.isUsable_iff value).mp husable
  cases operator with
  | exactOrIn =>
      simp only [predicatesOf_exactOrIn _ field hscalars, List.forall_mem_singleton,
        truth_membership_eq_yes_iff, Target.qualify, Meets]
  | like =>
      cases hoperands : value.scalars with
      | nil => contradiction
      | cons first rest =>
          simp only [predicatesOf_like, hoperands, List.head?_cons, Option.toList_some,
            List.map_cons, List.map_nil, List.forall_mem_singleton, truth_containment_eq_yes_iff,
            Target.qualify, Meets, Option.mem_some_iff, exists_eq_left']
  | customOnly => simp [predicatesOf, Meets]

end Sql

namespace Definition

/-- An application without custom rules succeeds, and a row satisfies the narrowed condition
exactly when it satisfied the old one and meets every sanitized parameter of a declared field. -/
theorem apply_selects_iff_meets (definition : Definition Select TargetError)
    (hrules : definition.rules.size = 0) (hsanitizer : definition.sanitizer.isCustom = false)
    (bag : Bag) (select : Select) (source : Source) (hsource : select.source = some source) :
    ∃ report condition,
      (definition.apply bag).runOn select = (.ok report, { select with condition := condition }) ∧
      ∀ (V : Type) (database : Interpretation V) (row : Row V),
        condition.truth database row = .yes ↔
          select.condition.truth database row = .yes ∧
            ∀ field value operator,
              (field, value) ∈ (Sanitizer.default.sanitize bag).bag.entries →
              definition.spec.operator? field = some operator →
              Meets database row source.knownAs field value operator := by
  -- without a handler every entry is left to the operator of its field
  have hentries : definition.rules.handlers.entries = [] := List.length_eq_zero_iff.mp hrules
  have hdefault : definition.sanitizer = Sanitizer.default := by
    cases hkeep : definition.sanitizer with
    | mk keep =>
        cases keep with
        | none => rfl
        | some keep => simp [hkeep, Sanitizer.isCustom] at hsanitizer
  obtain ⟨report, hrun⟩ := runOn_apply hentries bag hsource
  refine ⟨report, _, hrun, ?_⟩
  intro V database row
  rw [Expression.truth_foldl_conj_eq_yes_iff, hdefault]
  refine and_congr_right fun _ => ?_
  simp only [List.mem_flatMap, forall_exists_index, and_imp, Prod.forall]
  constructor
  · intro h field value operator hentry hoperator
    have husable := (Sanitizer.default.sanitize bag).usable _ hentry
    refine (forall_predicatesOf_iff_meets database row _ _ husable operator).mp ?_
    intro predicate hpredicate
    refine h predicate field value hentry ?_
    rw [entryPredicates, hoperator]
    exact hpredicate
  · intro h predicate field value hentry hpredicate
    unfold entryPredicates at hpredicate
    split at hpredicate
    next operator hoperator =>
      have husable := (Sanitizer.default.sanitize bag).usable _ hentry
      exact (forall_predicatesOf_iff_meets database row _ _ husable operator).mpr
        (h field value operator hentry hoperator) predicate hpredicate
    next => cases hpredicate

def userSearch : Definition Select TargetError :=
  ⟨⟨.ofList [("status", .exactOrIn), ("name", .like)]⟩, .empty defaultRulePrefix, .default⟩

/-- A search over a table with a condition of its own, with a parameter that is not declared
and a name full of special characters. -/
theorem apply_selects_iff_meets_search :
    userSearch.rules.size = 0 ∧ userSearch.sanitizer.isCustom = false ∧
      ∃ report condition,
        (userSearch.apply (.ofList [("status", .sequence [.int 1, .int 3]),
            ("page", .scalar (.int 2)), ("name", .sequence [.string "5%_"])])).runOn
          ⟨.all, some (.table (.named none "users") "u"), [],
            .isNull (.column (.aliased "u") "gone")⟩ =
        (.ok report, ⟨.all, some (.table (.named none "users") "u"), [], condition⟩) ∧
        ∀ (V : Type) (database : Interpretation V) (row : Row V),
          condition.truth database row = .yes →
            (∃ operand ∈ [Scalar.int 1, .int 3], database.compared .equal
              (row (.aliased "u") "status") (some (database.literal operand)) = .yes) ∧
            ∃ present, row (.aliased "u") "name" = some present ∧
              ['5', '%', '_'].map database.folding.fold <:+:
                (database.text present).toList.map database.folding.fold := by
  refine ⟨rfl, rfl, ?_⟩
  obtain ⟨report, condition, hrun, hmeaning⟩ := apply_selects_iff_meets userSearch rfl rfl
    (.ofList [("status", .sequence [.int 1, .int 3]), ("page", .scalar (.int 2)),
      ("name", .sequence [.string "5%_"])])
    ⟨.all, some (.table (.named none "users") "u"), [], .isNull (.column (.aliased "u") "gone")⟩
    _ rfl
  refine ⟨report, condition, hrun, fun V database row hcondition => ?_⟩
  have hmeets := ((hmeaning V database row).mp hcondition).2
  have hstatus := hmeets "status" (.sequence [.int 1, .int 3]) .exactOrIn (.head _) rfl
  have hname := hmeets "name" (.sequence [.string "5%_"]) .like (.tail _ (.tail _ (.head _))) rfl
  obtain ⟨operand, hoperand, hpresent⟩ := hname
  obtain rfl : Scalar.string "5%_" = operand := Option.mem_some_iff.mp hoperand
  exact ⟨hstatus, hpresent⟩

end Definition

end RequestFilter
