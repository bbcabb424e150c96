import RequestFilter.Proofs.Compilation
import RequestFilter.Proofs.Declarations
import RequestFilter.Proofs.Sql.Listing

/-!
# Names in statements

The quoted names in the text of a statement are the identifiers that it was put
together from, in the same order. In the statement of a request these are the
table with its schema, its alias, and the alias with a field for every predicate.
The name of the table and those of the fields are never blank; a schema or an
alias is taken as it is configured, so that one of them may be the empty name.
-/

namespace RequestFilter

namespace Sql

def Token.name? : Token → Option String
  | .name given => some given
  | _ => none

def Fragment.identifier? : Fragment → Option String
  | .identifier given => some given
  | _ => none

/-- The quoted names of a text. -/
def namesOf (text : String) : List String :=
  (tokensOf text.toList).filterMap Token.name?

/-- The identifiers among fragments. -/
def identifiers (fragments : List Fragment) : List String :=
  fragments.filterMap Fragment.identifier?

theorem mem_namesOf_iff {name text : String} :
    name ∈ namesOf text ↔ .name name ∈ tokensOf text.toList := by
  unfold namesOf
  rw [List.mem_filterMap]
  constructor
  · rintro ⟨token, htoken, hname⟩
    cases token with
    | name other =>
        cases hname
        exact htoken
    | mark _ | literal _ | placeholder _ | bound _ => cases hname
  · exact fun hname => ⟨_, hname, rfl⟩

section Identifiers

theorem identifiers_append (first second : List Fragment) :
    identifiers (first ++ second) = identifiers first ++ identifiers second :=
  List.filterMap_append

@[simp]
theorem identifiers_nil : identifiers [] = [] := rfl

@[simp]
theorem identifiers_plain (text : String) (rest : List Fragment) :
    identifiers (.plain text :: rest) = identifiers rest := rfl

@[simp]
theorem identifiers_identifier (name : String) (rest : List Fragment) :
    identifiers (.identifier name :: rest) = name :: identifiers rest := rfl

@[simp]
theorem identifiers_parameter (value : String) (rest : List Fragment) :
    identifiers (.parameter value :: rest) = identifiers rest := rfl

theorem identifiers_commaSeparated (parts : List (List Fragment)) :
    identifiers (commaSeparated parts) = parts.flatMap identifiers := by
  induction parts with
  | nil => rfl
  | cons first rest ih =>
      cases rest with
      | nil => simp
      | cons second others =>
          rw [commaSeparated_cons_cons, identifiers_append, identifiers_plain, ih]
          simp

/-- Inline literals and placeholders are no names. -/
theorem identifiers_literal (value : Scalar) :
    identifiers (Expression.literal value).fragments = [] := by
  cases value <;> rfl

theorem identifiers_fieldColumn (field : QualifiedField) :
    identifiers (fieldColumn field).fragments = [field.table, field.field] := rfl

theorem identifiers_membership (field : QualifiedField) {values : List Scalar}
    (h : values ≠ []) :
    identifiers (membership field values).fragments = [field.table, field.field] := by
  have hitems : ((values.map Expression.literal).map Expression.fragments).flatMap identifiers =
      [] := by
    simp [List.flatMap_eq_nil_iff, identifiers_literal]
  simp only [membership_eq_among field h, Expression.fragments, itemFragments_eq_map,
    List.cons_append, identifiers_plain, identifiers_append, identifiers_fieldColumn,
    identifiers_commaSeparated, hitems, identifiers_nil, List.append_nil]

theorem identifiers_fieldComparison (field : QualifiedField) (comparison : Comparison)
    (value : Scalar) :
    identifiers (fieldComparison field comparison value).fragments =
      [field.table, field.field] := by
  simp only [fieldComparison, Expression.fragments, List.cons_append, identifiers_plain,
    identifiers_append, identifiers_fieldColumn, identifiers_nil]
  cases value <;> rfl

/-- The predicate of a usable value names the table and the field. -/
theorem flatMap_identifiers_predicatesOf (target : Target) (field : String) {value : Value}
    (husable : value.isUsable = true) {operator : Operator} (hoperator : operator ≠ .customOnly) :
    ((predicatesOf target field value operator).flatMap fun predicate =>
      identifiers predicate.fragments) = [target.table, field] := by
  have hscalars : value.scalars ≠ [] := (Value.isUsable_iff value).mp husable
  cases operator with
  | exactOrIn =>
      rw [predicatesOf_exactOrIn target field hscalars, List.flatMap_singleton,
        identifiers_membership _ hscalars]
      rfl
  | like =>
      obtain ⟨first, rest, hoperands⟩ := List.exists_cons_of_ne_nil hscalars
      rw [predicatesOf_like, hoperands, List.head?_cons, Option.toList_some, List.map_singleton,
        List.flatMap_singleton, identifiers_fieldComparison]
      rfl
  | customOnly => contradiction

theorem identifiers_foldl_and (first : Expression) (others : List Expression) :
    identifiers (others.foldl .and first).fragments =
      (first :: others).flatMap fun condition => identifiers condition.fragments := by
  induction others generalizing first with
  | nil => simp
  | cons second rest ih =>
      rw [List.foldl_cons, ih]
      simp [Expression.fragments, identifiers_append]

theorem identifiers_conditionFragments {predicates : List Expression}
    (h : ∀ predicate ∈ predicates, predicate.isBool true = false) :
    identifiers (conditionFragments (predicates.foldl .conj .always)) =
      predicates.flatMap fun predicate => identifiers predicate.fragments := by
  cases predicates with
  | nil => rfl
  | cons first others =>
      rw [conditionFragments_foldl_conj h]
      exact identifiers_foldl_and first others

/-- No plain text of a rendered statement has a name in it. -/
theorem filterMap_name?_numbered {fragments : List Fragment} (h : AreRendered fragments)
    (index : Nat) :
    (Fragment.numbered index fragments).filterMap Token.name? = identifiers fragments := by
  have hfixed : ∀ text ∈ fixedTexts, (tokensOf text.toList).filterMap Token.name? = [] := by
    decide
  induction fragments generalizing index with
  | nil => rfl
  | cons fragment rest ih =>
      obtain ⟨hfragment, hrest⟩ := List.forall_mem_cons.mp h
      cases hfragment with
      | fixed htext =>
          rw [Fragment.numbered_plain, List.filterMap_append, hfixed _ htext, ih hrest]
          rfl
      | scalar hkind =>
          rw [Fragment.numbered_plain, tokensOf_scalar hkind, List.filterMap_append, ih hrest]
          rfl
      | identifier name => exact congrArg (name :: ·) (ih hrest index)
      | parameter value => exact ih hrest (index + 1)

/-- The names in the text of a select are its identifiers. -/
theorem Select.namesOf_statement (select : Select) :
    namesOf select.statement.text = identifiers select.fragments := by
  rw [namesOf, statement, tokensOf_text_ofFragments select.separable]
  exact filterMap_name?_numbered select.areRendered 0

end Identifiers

end Sql

namespace Definition

open Sql

/-- The predicates of a usable entry name the table and its field, if the field is declared. -/
theorem flatMap_identifiers_entryPredicates {definition : Definition Select TargetError}
    (hcustom : ∀ field, definition.spec.operator? field ≠ some .customOnly) (target : Target)
    {entry : String × Value} (husable : entry.2.isUsable = true) :
    ((definition.entryPredicates target entry).flatMap fun predicate =>
      identifiers predicate.fragments) =
      if definition.spec.isDeclared entry.1 then [target.table, entry.1] else [] := by
  unfold entryPredicates
  rw [Spec.isDeclared_eq_isSome]
  cases hoperator : definition.spec.operator? entry.1 with
  | none => rfl
  | some operator =>
      exact flatMap_identifiers_predicatesOf target entry.1 husable
        fun honly => hcustom entry.1 (honly ▸ hoperator)

end Definition

namespace Configuration

open Sql

variable {configuration : Configuration}

/-- The names of a request: the table, its alias, and the alias with the field for each usable
value of a declared field. -/
theorem namesOf_narrowedSelect (h : configuration.spec.customOnlyFields = []) (bag : Bag) :
    namesOf (configuration.narrowedSelect bag).statement.text =
      configuration.table.schema.toList ++ configuration.table.name ::
        configuration.table.effectiveAlias ::
          (Sanitizer.default.sanitize bag).bag.entries.flatMap fun entry =>
            if configuration.spec.isDeclared entry.1 then
              [configuration.table.effectiveAlias, entry.1]
            else [] := by
  have hcondition : identifiers (conditionFragments
      ((configuration.predicates bag).foldl .conj .always)) =
      (Sanitizer.default.sanitize bag).bag.entries.flatMap fun entry =>
        if configuration.spec.isDeclared entry.1 then
          [configuration.table.effectiveAlias, entry.1]
        else [] := by
    rw [identifiers_conditionFragments isBool_of_mem_predicates, predicates, List.flatMap_assoc]
    refine List.flatMap_congr fun entry hentry => ?_
    have hcustom : ∀ field, configuration.definition.spec.operator? field ≠ some .customOnly :=
      Spec.operator?_ne_customOnly h
    exact Definition.flatMap_identifiers_entryPredicates hcustom
      ⟨configuration.table.effectiveAlias⟩ ((Sanitizer.default.sanitize bag).usable entry hentry)
  have hfragments : (configuration.narrowedSelect bag).fragments =
      .plain "SELECT " :: .plain "*" :: .plain " " :: .plain "FROM " ::
        ((TableRef.named configuration.table.schema configuration.table.name).fragments ++
          .plain " AS " :: .identifier configuration.table.effectiveAlias ::
            conditionFragments ((configuration.predicates bag).foldl .conj .always)) := by
    simp [narrowedSelect, baseSelect, Select.star, Select.fragments, Projection.fragments,
      Source.fragments]
  rw [Select.namesOf_statement, hfragments]
  cases hschema : configuration.table.schema <;>
    simp [TableRef.fragments, hcondition]

end Configuration

theorem ne_empty_of_isBlankName {name : String} (h : isBlankName name = false) : name ≠ "" := by
  rintro rfl
  exact absurd h (by decide)

/-- A table with a name has an empty alias only where it is given one. -/
theorem TableSettings.effectiveAlias_eq_empty_iff {table : TableSettings} (h : table.name ≠ "") :
    table.effectiveAlias = "" ↔ table.knownAs = some "" := by
  unfold effectiveAlias
  cases table.knownAs with
  | none => simpa using h
  | some knownAs => simp

theorem Spec.field_ne_empty {declarations : List Declaration} {spec : Spec}
    (h : ofDeclarations declarations = .ok spec) {field : String}
    (hfield : spec.isDeclared field = true) : field ≠ "" := by
  obtain ⟨operator, hoperator⟩ := Option.isSome_iff_exists.mp hfield
  obtain ⟨declaration, hdeclared, rfl, _⟩ := (operator?_eq_some_iff h).mp hoperator
  have hnamed := (exists_ofDeclarations_iff.mp ⟨spec, h⟩).named declaration hdeclared
  exact ne_empty_of_isBlankName (isBlankName_eq_false_iff.mpr hnamed)

namespace ConfigurationFile

open Sql

variable {file : ConfigurationFile} {configuration : Configuration}

theorem name_ne_empty_of_ofFile (h : Configuration.ofFile file = .ok configuration) :
    file.table.name ≠ "" := by
  unfold Configuration.ofFile at h
  split at h
  next => cases h
  next hname => exact ne_empty_of_isBlankName (Bool.not_eq_true _ ▸ hname)

/-- In the statement of an accepted configuration a name is empty only where the schema or the
alias is configured to be so. -/
theorem emptyName_mem_statement_iff (hfile : Configuration.ofFile file = .ok configuration)
    (hcustom : configuration.spec.customOnlyFields = []) (bag : Bag) :
    ∃ compiled, file.compile bag = .ok compiled ∧
      (.name "" ∈ tokensOf compiled.statement.text.toList ↔
        file.table.schema = some "" ∨ file.table.knownAs = some "") := by
  obtain ⟨htable, hspec⟩ := Configuration.table_and_spec_of_ofFile hfile
  obtain ⟨warnings, hcompile⟩ := Configuration.exists_compile_eq_narrowedSelect hcustom bag
  have hname := name_ne_empty_of_ofFile hfile
  refine ⟨_, (by rw [compile, hfile]; exact hcompile), ?_⟩
  rw [← mem_namesOf_iff, ← TableSettings.effectiveAlias_eq_empty_iff hname,
    Compiled.statement, Configuration.namesOf_narrowedSelect hcustom, htable]
  simp only [List.mem_append, List.mem_cons, Option.mem_toList, List.mem_flatMap]
  constructor
  · rintro (hschema | hempty | hempty | ⟨entry, _, hentry⟩)
    · exact Or.inl hschema
    · exact absurd hempty.symm hname
    · exact Or.inr hempty.symm
    · split at hentry
      next hdeclared =>
        rcases List.mem_pair.mp hentry with hempty | hempty
        · exact Or.inr hempty.symm
        · exact absurd hempty.symm (Spec.field_ne_empty hspec hdeclared)
      next => cases hentry
  · rintro (hschema | hempty)
    · exact Or.inl hschema
    · exact Or.inr (Or.inr (Or.inl hempty.symm))

/-- A schema and an alias, a field with an empty value, and a parameter without a name. -/
theorem emptyName_mem_statement_iff_users :
    let bag : Bag := .ofList [("status", .scalar (.string "")), ("", .scalar (.int 1))]
    ∃ configuration, Configuration.ofFile Program.usersFile = .ok configuration ∧
      configuration.spec.customOnlyFields = [] ∧
      ∃ compiled, Program.usersFile.compile bag = .ok compiled ∧
        .name "" ∉ tokensOf compiled.statement.text.toList := by
  intro bag
  have hfile : Configuration.ofFile Program.usersFile =
      .ok ⟨Program.usersFile.table, ⟨.ofList [("status", .exactOrIn), ("name", .like)]⟩,
        defaultRulePrefix⟩ := by rfl
  obtain ⟨compiled, hcompiled, hempty⟩ := emptyName_mem_statement_iff hfile rfl bag
  exact ⟨_, hfile, rfl, compiled, hcompiled, fun h => absurd (hempty.mp h) (by decide)⟩

/-- A table with a name and an alias that has none. -/
def unnamedAliasFile : ConfigurationFile :=
  ⟨⟨none, "users", some ""⟩, [.bare "status"], none⟩

/-- An empty alias is accepted, and stands in the statement. -/
theorem unnamedAlias_mem_statement :
    ∃ configuration compiled, Configuration.ofFile unnamedAliasFile = .ok configuration ∧
      configuration.spec.customOnlyFields = [] ∧
      unnamedAliasFile.compile ∅ = .ok compiled ∧
      compiled.statement.text = "SELECT * FROM \"users\" AS \"\"" ∧
      .name "" ∈ tokensOf compiled.statement.text.toList := by
  have hfile : Configuration.ofFile unnamedAliasFile =
      .ok ⟨unnamedAliasFile.table, ⟨.ofList [("status", .exactOrIn)]⟩, defaultRulePrefix⟩ := by rfl
  have hcompile : unnamedAliasFile.compile ∅ =
      .ok ⟨.star (.table (.named none "users") ""), []⟩ := by rfl
  exact ⟨_, _, hfile, rfl, hcompile, rfl, by decide⟩

end ConfigurationFile

end RequestFilter
