import RequestFilter.Configuration.File
import RequestFilter.Proofs.Spec
import RequestFilter.Proofs.Sql.Application
import RequestFilter.Proofs.Sql.Rendering

/-!
# Statements in phrases

The statement of a request, written down without trees and fragments: phrases
follow one another, and each numbers its placeholders on from those before it.
What the generic predicates of a request are rendered as is shown to be exactly
such a statement.
-/

namespace RequestFilter

namespace Sql

/-- A part of a statement: its text behind a number of placeholders, and the values it binds. -/
@[ext]
structure Phrase where
  text : Nat → String
  bound : List String

namespace Phrase

def fixed (text : String) : Phrase :=
  ⟨fun _ => text, []⟩

/-- The next placeholder, for a value. -/
def placeholder (value : String) : Phrase :=
  ⟨fun before => "$" ++ toString (before + 1), [value]⟩

instance : Append Phrase where
  append first second :=
    ⟨fun before => first.text before ++ second.text (before + first.bound.length),
      first.bound ++ second.bound⟩

def name (identifier : String) : Phrase :=
  fixed (quoteIdentifier identifier)

def commaSeparated : List Phrase → Phrase
  | [] => fixed ""
  | [last] => last
  | first :: rest => first ++ fixed ", " ++ commaSeparated rest

def column (knownAs field : String) : Phrase :=
  name knownAs ++ fixed "." ++ name field

/-- An operand of a list: a string behind a placeholder, any other one by its text. -/
def operand : Scalar → Phrase
  | .string value => placeholder value
  | value => fixed value.text

def membership (column : Phrase) (operands : List Scalar) : Phrase :=
  fixed "(" ++ column ++ fixed " IN (" ++ commaSeparated (operands.map operand) ++ fixed "))"

def containment (column : Phrase) (operand : Scalar) : Phrase :=
  fixed "(" ++ column ++ fixed " ILIKE " ++ placeholder (containsPattern operand.text) ++ fixed ")"

def and (left right : Phrase) : Phrase :=
  fixed "(" ++ left ++ fixed " AND " ++ right ++ fixed ")"

/-- Nothing, or a clause that joins its conditions from the left. -/
def condition : List Phrase → Phrase
  | [] => fixed ""
  | first :: others => fixed " WHERE " ++ others.foldl and first

def table (table : TableSettings) : Phrase :=
  match table.schema with
  | some schema => name schema ++ fixed "." ++ name table.name
  | none => name table.name

/-- All columns of a table, under the alias by which its fields are qualified. -/
def selection (settings : TableSettings) : Phrase :=
  fixed "SELECT * FROM " ++ table settings ++ fixed " AS " ++ name settings.effectiveAlias

/-- How the value of a field with an operator stands in a statement. -/
inductive Filters (knownAs field : String) : Operator → Value → Phrase → Prop
  | among {value : Value} (h : value.scalars ≠ []) :
      Filters knownAs field .exactOrIn value (membership (column knownAs field) value.scalars)
  | contains {value : Value} {first : Scalar} (h : value.scalars.head? = some first) :
      Filters knownAs field .like value (containment (column knownAs field) first)

/-- The second phrase is told how many placeholders the first one has. -/
@[simp]
theorem text_append (first second : Phrase) (before : Nat) :
    (first ++ second).text before =
      first.text before ++ second.text (before + first.bound.length) := rfl

@[simp]
theorem bound_append (first second : Phrase) :
    (first ++ second).bound = first.bound ++ second.bound := rfl

theorem append_assoc (first second third : Phrase) :
    first ++ second ++ third = first ++ (second ++ third) := by
  ext1
  · funext before
    simp [String.append_assoc, Nat.add_assoc]
  · simp

@[simp]
theorem append_fixed_empty (phrase : Phrase) : phrase ++ fixed "" = phrase := by
  ext1
  · funext before
    simp [fixed]
  · simp [fixed]

/-- A conjunction binds what its parts bind, from the first on. -/
theorem bound_foldl_and (first : Phrase) (others : List Phrase) :
    (others.foldl and first).bound = first.bound ++ others.flatMap bound := by
  induction others generalizing first with
  | nil => simp
  | cons second rest ih =>
      rw [List.foldl_cons, ih]
      simp [and, fixed]

/-- A clause binds what its conditions bind, in order. -/
theorem bound_condition (phrases : List Phrase) :
    (condition phrases).bound = phrases.flatMap bound := by
  cases phrases with
  | nil => rfl
  | cons first others =>
      rw [condition, bound_append, bound_foldl_and]
      rfl

/-- What is selected from binds nothing. -/
theorem bound_selection (settings : TableSettings) : (selection settings).bound = [] := by
  obtain ⟨schema, _, _⟩ := settings
  cases schema <;> rfl

/-- What fragments spell and bind. -/
def ofFragments (fragments : List Fragment) : Phrase :=
  ⟨fun before => String.ofList (Fragment.spelled before fragments),
    fragments.flatMap Fragment.bound⟩

/-- The phrase of fragments is put together as they are. -/
@[simp]
theorem ofFragments_append (first second : List Fragment) :
    ofFragments (first ++ second) = ofFragments first ++ ofFragments second := by
  ext1
  · funext before
    simp [ofFragments, Fragment.spelled_append]
  · simp [ofFragments]

@[simp]
theorem ofFragments_nil : ofFragments [] = fixed "" := rfl

@[simp]
theorem ofFragments_plain (text : String) (rest : List Fragment) :
    ofFragments (.plain text :: rest) = fixed text ++ ofFragments rest := by
  ext1
  · funext before
    simp [ofFragments, fixed]
  · rfl

@[simp]
theorem ofFragments_identifier (identifier : String) (rest : List Fragment) :
    ofFragments (.identifier identifier :: rest) = name identifier ++ ofFragments rest := by
  ext1
  · funext before
    simp [ofFragments, name, fixed]
  · rfl

@[simp]
theorem ofFragments_parameter (value : String) (rest : List Fragment) :
    ofFragments (.parameter value :: rest) = placeholder value ++ ofFragments rest := by
  ext1
  · funext before
    change String.ofList (("$" ++ toString (before + 1)).toList ++ Fragment.spelled _ rest) = _
    rw [String.ofList_append, String.ofList_toList]
    rfl
  · rfl

/-- The statement of fragments has their text behind no placeholder, and binds their values. -/
theorem statement_ofFragments (fragments : List Fragment) :
    (Statement.ofFragments fragments).text = (ofFragments fragments).text 0 ∧
      (Statement.ofFragments fragments).parameters = (ofFragments fragments).bound := by
  refine ⟨?_, ?_⟩
  · rw [← String.toList_inj, Statement.text_ofFragments]
    simp [ofFragments]
  · rw [Statement.ofFragments, Statement.parameters_append]
    rfl

/-- Lists with commas between are phrases with commas between. -/
theorem ofFragments_commaSeparated (parts : List (List Fragment)) :
    ofFragments (Sql.commaSeparated parts) = commaSeparated (parts.map ofFragments) := by
  unfold Sql.commaSeparated
  induction parts with
  | nil => rfl
  | cons first rest ih =>
      cases rest with
      | nil => simp [commaSeparated]
      | cons second others =>
          rw [List.intercalate_cons_cons, ofFragments_append, ofFragments_append, ih]
          simp [commaSeparated]

theorem ofFragments_literal (value : Scalar) :
    ofFragments (Expression.literal value).fragments = operand value := by
  cases value <;>
    simp [Expression.fragments, literalFragment, operand]

theorem ofFragments_fieldColumn (target : Target) (field : String) :
    ofFragments (fieldColumn (target.qualify field)).fragments = column target.table field := by
  simp [fieldColumn, Target.qualify, Expression.fragments, TableRef.fragments, column,
    append_assoc]

/-- The membership of a column in operands, of which there is one at least. -/
theorem ofFragments_membership (target : Target) (field : String) {operands : List Scalar}
    (h : operands ≠ []) :
    ofFragments (Sql.membership (target.qualify field) operands).fragments =
      membership (column target.table field) operands := by
  have hitems : operands.map ((ofFragments ∘ Expression.fragments) ∘ Expression.literal) =
      operands.map operand :=
    List.map_congr_left fun value _ => ofFragments_literal value
  have hopening : fixed " IN " ++ fixed "(" = fixed " IN (" := rfl
  have hclosing : fixed ")" ++ fixed ")" = fixed "))" := rfl
  simp only [membership_eq_among _ h, Expression.fragments, itemFragments_eq_map, List.cons_append,
    ofFragments_plain, ofFragments_append, ofFragments_fieldColumn, ofFragments_commaSeparated,
    List.map_map, ofFragments_nil, append_fixed_empty]
  rw [← Function.comp_assoc, hitems]
  simp only [membership, ← hopening, ← hclosing, append_assoc]

/-- The test whether a column contains the text of an operand. -/
theorem ofFragments_containment (target : Target) (field : String) (first : Scalar) :
    ofFragments (fieldComparison (target.qualify field) .likeIgnoringCase
        (.string (containsPattern first.text))).fragments =
      containment (column target.table field) first := by
  simp [fieldComparison, Expression.fragments, literalFragment, comparisonSign,
    ofFragments_fieldColumn, containment, append_assoc]

/-- The selection from a configured table, whatever its condition. -/
theorem ofFragments_select (settings : TableSettings) (condition : Expression) :
    ofFragments (Select.fragments ⟨.all, some (.table (.named settings.schema settings.name)
        settings.effectiveAlias), [], condition⟩) =
      selection settings ++ ofFragments (conditionFragments condition) := by
  have hopening : fixed "SELECT " ++ (fixed "*" ++ (fixed " " ++ fixed "FROM ")) =
      fixed "SELECT * FROM " := rfl
  have htable : ofFragments (TableRef.named settings.schema settings.name).fragments =
      table settings := by
    unfold table
    cases settings.schema <;> simp [TableRef.fragments, append_assoc]
  simp only [Select.fragments, Projection.fragments, Source.fragments, List.cons_append,
    List.nil_append, List.flatMap_nil, ofFragments_plain, ofFragments_append, htable,
    ofFragments_identifier, ofFragments_nil, append_fixed_empty, selection, ← hopening,
    append_assoc]

/-- A conjunction is put together from the left, in parentheses. -/
theorem ofFragments_foldl_and (first : Expression) (others : List Expression) :
    ofFragments (others.foldl .and first).fragments =
      (others.map (ofFragments ∘ Expression.fragments)).foldl and
        (ofFragments first.fragments) := by
  induction others generalizing first with
  | nil => rfl
  | cons second rest ih =>
      rw [List.foldl_cons, ih]
      simp [Expression.fragments, and, append_assoc]

end Phrase

namespace Expression

/-- Conditions that are no truth values are all kept, from the left. -/
theorem foldl_conj_eq_foldl_and {first : Expression} (hfirst : first.isBool true = false)
    {others : List Expression} (hothers : ∀ other ∈ others, other.isBool true = false) :
    others.foldl conj first = others.foldl and first := by
  induction others generalizing first with
  | nil => rfl
  | cons second rest ih =>
      obtain ⟨hsecond, hrest⟩ := List.forall_mem_cons.mp hothers
      have hboth : first.conj second = .and first second := by
        simp [conj, hfirst, hsecond]
      rw [List.foldl_cons, List.foldl_cons, hboth]
      exact ih rfl hrest

/-- A conjunction that does not begin with the literal truth is not the literal truth. -/
theorem isBool_foldl_and {first : Expression} (h : first.isBool true = false)
    (others : List Expression) : (others.foldl and first).isBool true = false := by
  induction others generalizing first with
  | nil => exact h
  | cons second rest ih => exact ih rfl

end Expression

/-- Conditions that are no truth values stand in one clause, joined from the left. -/
theorem conditionFragments_foldl_conj {first : Expression} {others : List Expression}
    (h : ∀ predicate ∈ first :: others, predicate.isBool true = false) :
    conditionFragments ((first :: others).foldl .conj .always) =
      .plain " WHERE " :: (others.foldl .and first).fragments := by
  obtain ⟨hfirst, hothers⟩ := List.forall_mem_cons.mp h
  have hjoined : (first :: others).foldl .conj .always = others.foldl .and first :=
    Expression.foldl_conj_eq_foldl_and hfirst hothers
  rw [hjoined, conditionFragments, Expression.isBool_foldl_and hfirst]
  rfl

namespace Phrase

/-- Predicates that are none of them the literal truth make the condition of their phrases. -/
theorem ofFragments_conditionFragments {predicates : List Expression}
    (h : ∀ predicate ∈ predicates, predicate.isBool true = false) :
    ofFragments (conditionFragments (predicates.foldl .conj .always)) =
      condition (predicates.map (ofFragments ∘ Expression.fragments)) := by
  cases predicates with
  | nil => rfl
  | cons first others =>
      rw [conditionFragments_foldl_conj h]
      simp [ofFragments_foldl_and, condition]

/-- The predicate of a usable value, which every operator but that of custom rules makes. -/
theorem exists_predicatesOf_eq_singleton {value : Value} (husable : value.isUsable = true)
    {operator : Operator} (hoperator : operator ≠ .customOnly) (target : Target) (field : String) :
    ∃ predicate, predicatesOf target field value operator = [predicate] ∧
      Filters target.table field operator value (ofFragments predicate.fragments) := by
  have hscalars : value.scalars ≠ [] := (Value.isUsable_iff value).mp husable
  cases operator with
  | exactOrIn =>
      refine ⟨_, predicatesOf_exactOrIn target field hscalars, ?_⟩
      rw [ofFragments_membership target field hscalars]
      exact .among hscalars
  | like =>
      obtain ⟨first, rest, hoperands⟩ := List.exists_cons_of_ne_nil hscalars
      refine ⟨fieldComparison (target.qualify field) .likeIgnoringCase
        (.string (containsPattern first.text)), ?_, ?_⟩
      · simp [predicatesOf_like, hoperands]
      · rw [ofFragments_containment]
        exact .contains (by rw [hoperands]; rfl)
  | customOnly => contradiction

end Phrase

/-- No predicate of a value is the literal truth. -/
theorem isBool_of_mem_predicatesOf {target : Target} {field : String} {value : Value}
    {operator : Operator} {predicate : Expression}
    (h : predicate ∈ predicatesOf target field value operator) :
    predicate.isBool true = false := by
  cases operator with
  | exactOrIn =>
      cases hscalars : value.scalars.isEmpty with
      | true => simp [predicatesOf, hscalars] at h
      | false =>
          obtain rfl : predicate = membership (target.qualify field) value.scalars := by
            simpa [predicatesOf, hscalars] using h
          simp [membership, hscalars, Expression.isBool]
  | like =>
      rw [predicatesOf_like] at h
      obtain ⟨operand, -, rfl⟩ := List.mem_map.mp h
      rfl
  | customOnly => cases h

end Sql

namespace Definition

open Sql

variable {definition : Definition Select TargetError}

/-- The predicate of an entry is never the literal truth. -/
theorem isBool_of_mem_entryPredicates {target : Target} {entry : String × Value}
    {predicate : Expression} (h : predicate ∈ definition.entryPredicates target entry) :
    predicate.isBool true = false := by
  unfold entryPredicates at h
  split at h
  next => exact isBool_of_mem_predicatesOf h
  next => cases h

/-- The predicates of a bag stand side by side with the usable values of declared fields. -/
theorem forall₂_entryPredicates
    (hcustom : ∀ field, definition.spec.operator? field ≠ some .customOnly) (target : Target)
    (bag : Bag) :
    List.Forall₂ (fun entry predicate => ∃ operator,
        definition.spec.operator? entry.1 = some operator ∧
          Phrase.Filters target.table entry.1 operator entry.2
            (Phrase.ofFragments predicate.fragments))
      (bag.entries.filter fun entry => entry.2.isUsable && definition.spec.isDeclared entry.1)
      ((Sanitizer.default.sanitize bag).bag.entries.flatMap
        (definition.entryPredicates target)) := by
  rw [Sanitizer.entries_sanitize_default]
  induction bag.entries with
  | nil => exact .nil
  | cons entry rest ih =>
      cases husable : entry.2.isUsable with
      | false => simpa [husable] using ih
      | true =>
          cases hoperator : definition.spec.operator? entry.1 with
          | none => simpa [husable, Spec.isDeclared_eq_isSome, hoperator, entryPredicates] using ih
          | some operator =>
              obtain ⟨predicate, hpredicate, hfilters⟩ :=
                Phrase.exists_predicatesOf_eq_singleton husable
                  (fun h => hcustom entry.1 (h ▸ hoperator)) target entry.1
              have hentry : definition.entryPredicates target entry = [predicate] := by
                simp only [entryPredicates, hoperator, hpredicate]
              simpa [husable, Spec.isDeclared_eq_isSome, hoperator, hentry] using
                And.intro hfilters ih

end Definition

end RequestFilter
