import Mathlib.Data.List.Forall2
import RequestFilter.Proofs.Definition.Report
import RequestFilter.Proofs.OrderedMap
import RequestFilter.Proofs.Spec
import RequestFilter.Proofs.Sql.Application
import RequestFilter.Proofs.Sql.Placeholder

/-!
# What a statement shows of a request

The strings of a request do not reach the text of a statement. Two requests that
differ in the contents of strings, in the operands of pattern fields and in the
values of undeclared fields give the same text, the same number of parameters
and the same resolutions of declared fields. Whether an undeclared field is
usable shows in the report, and the two zeros, which are equal as numbers, show
in the text.
-/

namespace RequestFilter

open Sql

/-- Two operands that are both strings, or one operand that is none. -/
def Scalar.Interchangeable (operand operand' : Scalar) : Prop :=
  (operand.kind = .string ∧ operand'.kind = .string) ∨
    (operand.kind ≠ .string ∧ operand = operand')

/-- Two bags with the same fields in the same order. A declared field is usable in both or in
neither, and the operands of an exact field are interchangeable one by one. -/
structure InterchangeableBags (spec : Spec) (bag bag' : Bag) : Prop where
  names : bag.names = bag'.names
  usable : ∀ field value value', spec.isDeclared field = true →
    bag.find? field = some value → bag'.find? field = some value' →
      value.isUsable = value'.isUsable
  operands : ∀ field value value', spec.operator? field = some .exactOrIn →
    bag.find? field = some value → bag'.find? field = some value' → value.isUsable = true →
      List.Forall₂ Scalar.Interchangeable value.scalars value'.scalars

namespace Sql

/-- Empty all strings. -/
def Expression.blank (expression : Expression) : Expression :=
  expression.mapStrings fun _ => ""

/-- Statements of selects that differ in strings only have one text and as many parameters. -/
theorem Select.statement_of_mapStrings_eq {select select' : Select} {g : String → String}
    (h : select.mapStrings g = select'.mapStrings g) :
    select.statement.text = select'.statement.text ∧
      select.statement.parameters.length = select'.statement.parameters.length := by
  have hfragments : select.fragments.map (Fragment.mapBound g) =
      select'.fragments.map (Fragment.mapBound g) := by
    rw [← Select.fragments_mapStrings, h, Select.fragments_mapStrings]
  constructor
  · refine String.toList_inj.mp ?_
    rw [statement, statement, Statement.text_ofFragments, Statement.text_ofFragments,
      ← spelled_map_mapBound g, hfragments, spelled_map_mapBound]
  · have hbound := congrArg (fun fragments => (fragments.flatMap Fragment.bound).length) hfragments
    simpa [flatMap_bound_map_mapBound, statement, Statement.parameters_ofFragments] using hbound

theorem Expression.mapStrings_conj (g : String → String) (left right : Expression) :
    (left.conj right).mapStrings g = (left.mapStrings g).conj (right.mapStrings g) := by
  unfold conj
  rw [isBool_mapStrings, isBool_mapStrings]
  split
  · rfl
  · split <;> rfl

theorem Expression.blank_foldl_conj (condition : Expression) (predicates : List Expression) :
    (predicates.foldl conj condition).blank =
      (predicates.map blank).foldl conj condition.blank := by
  induction predicates generalizing condition with
  | nil => rfl
  | cons predicate rest ih =>
      rw [List.foldl_cons, ih, blank, mapStrings_conj]
      rfl

theorem Select.blank_condition (select : Select) {condition condition' : Expression}
    (h : condition.blank = condition'.blank) :
    ({ select with condition := condition } : Select).mapStrings (fun _ => "") =
      ({ select with condition := condition' } : Select).mapStrings fun _ => "" := by
  unfold Expression.blank at h
  obtain ⟨projection, source, joins, _⟩ := select
  cases source <;> simp only [mapStrings, h]

/-- A value that is not usable makes no predicate. -/
theorem predicatesOf_of_isUsable_eq_false {value : Value} (h : value.isUsable = false)
    (target : Target) (field : String) (operator : Operator) :
    predicatesOf target field value operator = [] := by
  have hscalars : value.scalars = [] := by
    by_contra hne
    rw [(Value.isUsable_iff value).mpr hne] at h
    contradiction
  cases operator with
  | exactOrIn => simp [predicatesOf, hscalars]
  | like => simp [predicatesOf_like, hscalars]
  | customOnly => rfl

/-- Interchangeable operands leave the same literals once their strings are emptied. -/
theorem map_blank_literal {operands operands' : List Scalar}
    (h : List.Forall₂ Scalar.Interchangeable operands operands') :
    (operands.map Expression.literal).map Expression.blank =
      (operands'.map Expression.literal).map Expression.blank := by
  induction h with
  | nil => rfl
  | @cons operand operand' _ _ hfirst _ ih =>
      rw [List.map_cons, List.map_cons, List.map_cons, List.map_cons, ih]
      congr 1
      rcases hfirst with ⟨hkind, hkind'⟩ | ⟨_, rfl⟩
      · cases operand <;> cases operand' <;> first | contradiction | rfl
      · rfl

theorem blank_membership (field : QualifiedField) {operands operands' : List Scalar}
    (h : List.Forall₂ Scalar.Interchangeable operands operands') :
    (membership field operands).blank = (membership field operands').blank := by
  have hitems := map_blank_literal h
  unfold membership
  cases h with
  | nil => rfl
  | cons _ _ =>
      simp only [List.isEmpty_cons, Bool.false_eq_true, if_false, Expression.blank,
        Expression.mapStrings, Expression.mapItemStrings_eq_map]
      exact congrArg _ hitems

/-- Values of one operator that are interchangeable make predicates that differ in strings only. -/
theorem map_blank_predicatesOf {value value' : Value} (husable : value.isUsable = value'.isUsable)
    (operator : Operator)
    (hoperands : operator = .exactOrIn → value.isUsable = true →
      List.Forall₂ Scalar.Interchangeable value.scalars value'.scalars)
    (target : Target) (field : String) :
    (predicatesOf target field value operator).map Expression.blank =
      (predicatesOf target field value' operator).map Expression.blank := by
  cases hvalue : value.isUsable with
  | false =>
      rw [predicatesOf_of_isUsable_eq_false hvalue,
        predicatesOf_of_isUsable_eq_false (husable.symm.trans hvalue)]
  | true =>
      have hscalars := (Value.isUsable_iff value).mp hvalue
      have hscalars' := (Value.isUsable_iff value').mp (husable.symm.trans hvalue)
      cases operator with
      | exactOrIn =>
          simp [predicatesOf, hscalars, hscalars', blank_membership _ (hoperands rfl hvalue)]
      | like =>
          -- whatever the operands are, their patterns are strings
          obtain ⟨operand, rest, hoperand⟩ := List.exists_cons_of_ne_nil hscalars
          obtain ⟨operand', rest', hoperand'⟩ := List.exists_cons_of_ne_nil hscalars'
          simp only [predicatesOf_like, hoperand, hoperand']
          rfl
      | customOnly => rfl

end Sql

namespace Definition

section Entries

variable {α γ : Type}

/-- Lists that agree pair by pair on what each kept element gives. -/
theorem flatMap_filter_eq_of_forall₂ {R : α → α → Prop} {keep : α → Bool} {f : α → List γ}
    {entries entries' : List α} (h : List.Forall₂ R entries entries')
    (hf : ∀ entry entry', R entry entry' →
      (if keep entry then f entry else []) = if keep entry' then f entry' else []) :
    (entries.filter keep).flatMap f = (entries'.filter keep).flatMap f := by
  have hstep : ∀ (first : α) (rest : List α), ((first :: rest).filter keep).flatMap f =
      (if keep first then f first else []) ++ (rest.filter keep).flatMap f := by
    intro first rest
    by_cases hkeep : keep first = true <;> simp [hkeep]
  induction h with
  | nil => rfl
  | cons hfirst _ ih => rw [hstep, hstep, hf _ _ hfirst, ih]

end Entries

variable {definition : Definition Select TargetError} {bag bag' : Bag}

/-- The predicates that interchangeable bags make differ in strings only. -/
theorem map_blank_flatMap_entryPredicates (hbags : InterchangeableBags definition.spec bag bag')
    (target : Target) :
    ((Sanitizer.default.sanitize bag).bag.entries.flatMap
        (definition.entryPredicates target)).map Expression.blank =
      ((Sanitizer.default.sanitize bag').bag.entries.flatMap
        (definition.entryPredicates target)).map Expression.blank := by
  rw [Sanitizer.entries_sanitize_default, Sanitizer.entries_sanitize_default, List.map_flatMap,
    List.map_flatMap]
  refine flatMap_filter_eq_of_forall₂ (OrderedMap.forall₂_entries hbags.names) ?_
  rintro ⟨field, value⟩ ⟨_, value'⟩ ⟨rfl, hvalue, hvalue'⟩
  cases hoperator : definition.spec.operator? field with
  | none => simp [entryPredicates, hoperator]
  | some operator =>
      have hdeclared : definition.spec.isDeclared field = true := by
        rw [Spec.isDeclared_eq_isSome, hoperator]
        rfl
      have husable := hbags.usable field value value' hdeclared hvalue hvalue'
      have hblank := map_blank_predicatesOf husable operator
        (fun hexact => hbags.operands field value value' (hexact ▸ hoperator) hvalue hvalue')
        target field
      simp only [entryPredicates, hoperator, hblank, husable]

theorem isUnlisted_iff_of_rules_eq_nil (hrules : definition.rules.handlers.entries = [])
    (field : String) :
    definition.IsUnlisted field ↔ definition.spec.isDeclared field = false := by
  have hhandler : definition.rules.handler? field = none := by
    simp [RuleSet.handler?, OrderedMap.find?, hrules, findEntry?]
  exact and_iff_left (ruleFor?_eq_none_iff.mpr hhandler)

/-- What becomes of the usable entries of a bag, in order. -/
def resolutions (definition : Definition Select TargetError) (bag : Bag) :
    List (String × Resolution) :=
  (Sanitizer.default.sanitize bag).bag.entries.map fun entry =>
    (entry.1, definition.resolution entry.1)

theorem resolutions_eq_flatMap (definition : Definition Select TargetError) (bag : Bag) :
    definition.resolutions bag = (bag.entries.filter fun entry => entry.2.isUsable).flatMap
      fun entry => [(entry.1, definition.resolution entry.1)] := by
  rw [resolutions, Sanitizer.entries_sanitize_default, List.map_eq_flatMap]

/-- The entries of interchangeable bags that are taken up are resolved alike. -/
theorem filter_resolutions_eq (hbags : InterchangeableBags definition.spec bag bag')
    (hrules : definition.rules.handlers.entries = []) :
    ((definition.resolutions bag).filter fun entry => entry.2 ≠ .ignored) =
      (definition.resolutions bag').filter fun entry => entry.2 ≠ .ignored := by
  rw [resolutions_eq_flatMap, resolutions_eq_flatMap, List.filter_flatMap, List.filter_flatMap]
  refine flatMap_filter_eq_of_forall₂ (OrderedMap.forall₂_entries hbags.names) ?_
  rintro ⟨field, value⟩ ⟨_, value'⟩ ⟨rfl, hvalue, hvalue'⟩
  by_cases hignored : definition.resolution field = .ignored
  · simp [hignored]
  · rw [resolution_eq_ignored_iff, isUnlisted_iff_of_rules_eq_nil hrules,
      Bool.not_eq_false] at hignored
    rw [hbags.usable field value value' hignored hvalue hvalue']

/-- A field is reported exactly when its value is usable. -/
theorem mem_map_fst_resolutions_iff {field : String} {value : Value}
    (hvalue : bag.find? field = some value) :
    field ∈ (definition.resolutions bag).map Prod.fst ↔ value.isUsable = true := by
  simp only [resolutions, Sanitizer.entries_sanitize_default, List.map_map, List.mem_map,
    List.mem_filter, Function.comp_apply]
  constructor
  · rintro ⟨⟨_, other⟩, ⟨hentry, husable⟩, rfl⟩
    rw [← bag.find?_eq_some_iff, hvalue] at hentry
    cases hentry
    exact husable
  · exact fun husable => ⟨(field, value), ⟨bag.find?_eq_some_iff.mp hvalue, husable⟩, rfl⟩

/-- All entries are resolved alike exactly when undeclared fields are usable alike, too. -/
theorem resolutions_eq_iff (hbags : InterchangeableBags definition.spec bag bag') :
    definition.resolutions bag = definition.resolutions bag' ↔
      ∀ field value value', definition.spec.isDeclared field = false →
        bag.find? field = some value → bag'.find? field = some value' →
          value.isUsable = value'.isUsable := by
  constructor
  · intro heq field value value' _ hvalue hvalue'
    rw [Bool.eq_iff_iff, ← mem_map_fst_resolutions_iff hvalue,
      ← mem_map_fst_resolutions_iff hvalue', heq]
  · intro hundeclared
    rw [resolutions_eq_flatMap, resolutions_eq_flatMap]
    refine flatMap_filter_eq_of_forall₂ (OrderedMap.forall₂_entries hbags.names) ?_
    rintro ⟨field, value⟩ ⟨_, value'⟩ ⟨rfl, hvalue, hvalue'⟩
    have husable : value.isUsable = value'.isUsable := by
      cases hdeclared : definition.spec.isDeclared field with
      | true => exact hbags.usable field value value' hdeclared hvalue hvalue'
      | false => exact hundeclared field value value' hdeclared hvalue hvalue'
    rw [husable]

/-- Without rules, requests that differ in the contents of strings, in the operands of pattern
fields and in undeclared fields give statements of the same text with as many parameters, and
declared fields are resolved alike; all fields are when the undeclared ones are usable alike. -/
theorem apply_reveals_no_strings (definition : Definition Select TargetError)
    (hrules : definition.rules.size = 0) (hsanitizer : definition.sanitizer.isCustom = false)
    (bag bag' : Bag) (hbags : InterchangeableBags definition.spec bag bag')
    (select : Select) (source : Source) (hsource : select.source = some source) :
    ∃ report report' narrowed narrowed',
      (definition.apply bag).runOn select = (.ok report, narrowed) ∧
      (definition.apply bag').runOn select = (.ok report', narrowed') ∧
      narrowed.statement.text = narrowed'.statement.text ∧
      narrowed.statement.parameters.length = narrowed'.statement.parameters.length ∧
      report.heeded = report'.heeded ∧
      (report.fields = report'.fields ↔
        ∀ field value value', definition.spec.isDeclared field = false →
          bag.find? field = some value → bag'.find? field = some value' →
            value.isUsable = value'.isUsable) := by
  have hentries : definition.rules.handlers.entries = [] := List.length_eq_zero_iff.mp hrules
  have hdefault : definition.sanitizer = Sanitizer.default := by
    obtain ⟨_, _, keep⟩ := definition
    cases keep with
    | mk keep => cases keep <;> first | rfl | contradiction
  obtain ⟨report, hrun⟩ := runOn_apply hentries bag hsource
  obtain ⟨report', hrun'⟩ := runOn_apply hentries bag' hsource
  have hfields : report.fields = definition.resolutions bag := by
    rw [fields_of_apply hrun, hdefault, resolutions]
  have hfields' : report'.fields = definition.resolutions bag' := by
    rw [fields_of_apply hrun', hdefault, resolutions]
  rw [hdefault] at hrun hrun'
  have hcondition : ∀ target, (((Sanitizer.default.sanitize bag).bag.entries.flatMap
        (definition.entryPredicates target)).foldl Expression.conj select.condition).blank =
      (((Sanitizer.default.sanitize bag').bag.entries.flatMap
        (definition.entryPredicates target)).foldl Expression.conj select.condition).blank := by
    intro target
    rw [Expression.blank_foldl_conj, Expression.blank_foldl_conj,
      map_blank_flatMap_entryPredicates hbags]
  have hstatement := Select.statement_of_mapStrings_eq
    (select.blank_condition (hcondition ⟨source.knownAs⟩))
  refine ⟨report, report', _, _, hrun, hrun', hstatement.1, hstatement.2, ?_, ?_⟩
  · rw [Report.heeded, Report.heeded, hfields, hfields']
    exact filter_resolutions_eq hbags hentries
  · rw [hfields, hfields']
    exact resolutions_eq_iff hbags

def usersSelect : Select :=
  .star (.table (.named none "users") "u")

/-- A status that tries to leave its quotes, a name with a list of numbers for another name, and
another page: the texts agree. -/
theorem apply_reveals_no_strings_userSearch :
    let bag : Bag := .ofList [("status", .sequence [.string "1", .int 3]),
      ("page", .scalar (.int 2)), ("name", .scalar (.string "Rei"))]
    let bag' : Bag := .ofList [("status", .sequence [.string "') OR true --", .int 3]),
      ("page", .scalar (.string "$1")), ("name", .sequence [.int 5, .bool true])]
    userSearch.rules.size = 0 ∧ userSearch.sanitizer.isCustom = false ∧
      InterchangeableBags userSearch.spec bag bag' ∧
      ∃ report report' narrowed narrowed',
        (userSearch.apply bag).runOn usersSelect = (.ok report, narrowed) ∧
        (userSearch.apply bag').runOn usersSelect = (.ok report', narrowed') ∧
        narrowed.statement.text = narrowed'.statement.text ∧
        narrowed.statement.parameters.length = narrowed'.statement.parameters.length ∧
        report.fields = report'.fields := by
  intro bag bag'
  have husable : ∀ field value value', bag.find? field = some value →
      bag'.find? field = some value' → value.isUsable = value'.isUsable := by
    intro field value value' hvalue hvalue'
    have hall : ∀ entry ∈ bag.entries, entry.2.isUsable = true := by decide
    have hall' : ∀ entry ∈ bag'.entries, entry.2.isUsable = true := by decide
    rw [hall _ (bag.find?_eq_some_iff.mp hvalue), hall' _ (bag'.find?_eq_some_iff.mp hvalue')]
  have hbags : InterchangeableBags userSearch.spec bag bag' := by
    refine ⟨rfl, fun field value value' _ => husable field value value', ?_⟩
    intro field value value' hoperator hvalue hvalue' _
    have hfield : (field, Operator.exactOrIn) ∈ [("status", .exactOrIn), ("name", .like)] :=
      userSearch.spec.fields.find?_eq_some_iff.mp hoperator
    obtain rfl : field = "status" := by simpa using hfield
    obtain rfl : .sequence [.string "1", .int 3] = value := Option.some.inj hvalue
    obtain rfl : .sequence [.string "') OR true --", .int 3] = value' := Option.some.inj hvalue'
    exact .cons (.inl ⟨rfl, rfl⟩) (.cons (.inr ⟨by decide, rfl⟩) .nil)
  obtain ⟨report, report', narrowed, narrowed', hrun, hrun', htext, hlength, _, hfields⟩ :=
    apply_reveals_no_strings userSearch rfl rfl bag bag' hbags usersSelect _ rfl
  refine ⟨rfl, rfl, hbags, report, report', narrowed, narrowed', hrun, hrun', htext, hlength,
    hfields.mpr fun field value value' _ => husable field value value'⟩

/-- What interchangeable bags do show: whether an undeclared field is usable, in the report, and
which of the two zeros, equal as numbers, is meant, in the text. -/
theorem userSearch_tells_apart :
    let page : Bag := .ofList [("page", .scalar (.int 2))]
    let noPage : Bag := .ofList [("page", .null)]
    let zero (negative : Bool) : Scalar := .float (.zero negative)
    let zeroStatus (negative : Bool) : Bag := .ofList [("status", .scalar (zero negative))]
    InterchangeableBags userSearch.spec page noPage ∧
      ((userSearch.apply page).runOn usersSelect).1 = .ok ⟨[("page", .ignored)], []⟩ ∧
      ((userSearch.apply noPage).runOn usersSelect).1 = .ok ⟨[], []⟩ ∧
      (zero false).equals (zero true) = true ∧
      ((userSearch.apply (zeroStatus false)).runOn usersSelect).2.statement.text =
        "SELECT * FROM \"users\" AS \"u\" WHERE (\"u\".\"status\" IN (0))" ∧
      ((userSearch.apply (zeroStatus true)).runOn usersSelect).2.statement.text =
        "SELECT * FROM \"users\" AS \"u\" WHERE (\"u\".\"status\" IN (-0))" := by
  intro page noPage zero zeroStatus
  refine ⟨⟨rfl, ?_, ?_⟩, rfl, rfl, rfl, by decide +kernel, by decide +kernel⟩
  · intro field value value' hdeclared hvalue _
    cases List.mem_singleton.mp (page.find?_eq_some_iff.mp hvalue)
    contradiction
  · intro field value value' hoperator hvalue _
    cases List.mem_singleton.mp (page.find?_eq_some_iff.mp hvalue)
    contradiction

end Definition

end RequestFilter
