import Mathlib.Data.List.Basic
import RequestFilter.Proofs.Sql.Rendering

/-!
# Placeholders

The strings of a select and the placeholders of its statement correspond one to
one. The strings are bound in the order in which they are written, placeholders
are numbered from one, and the text does not depend on what the strings are.
-/

namespace RequestFilter

namespace Scalar

def strings : Scalar → List String
  | .string value => [value]
  | .bool _ | .int _ | .float _ => []

def mapStrings (g : String → String) : Scalar → Scalar
  | .string value => .string (g value)
  | value => value

end Scalar

namespace Sql

namespace Expression

mutual

/-- The string literals of an expression from left to right. -/
def strings : Expression → List String
  | .column _ _ => []
  | .literal value => value.strings
  | .and left right | .or left right | .compare left _ right => left.strings ++ right.strings
  | .not operand | .isNull operand => operand.strings
  | .among operand items => operand.strings ++ itemStrings items

def itemStrings : List Expression → List String
  | [] => []
  | item :: rest => item.strings ++ itemStrings rest

end

mutual

def mapStrings (g : String → String) : Expression → Expression
  | .column table name => .column table name
  | .literal value => .literal (value.mapStrings g)
  | .and left right => .and (left.mapStrings g) (right.mapStrings g)
  | .or left right => .or (left.mapStrings g) (right.mapStrings g)
  | .not operand => .not (operand.mapStrings g)
  | .compare left comparison right =>
      .compare (left.mapStrings g) comparison (right.mapStrings g)
  | .among operand items => .among (operand.mapStrings g) (mapItemStrings g items)
  | .isNull operand => .isNull (operand.mapStrings g)

def mapItemStrings (g : String → String) : List Expression → List Expression
  | [] => []
  | item :: rest => item.mapStrings g :: mapItemStrings g rest

end

theorem itemStrings_eq_flatMap (items : List Expression) :
    itemStrings items = items.flatMap strings := by
  induction items with
  | nil => rfl
  | cons item rest ih => rw [itemStrings, ih, List.flatMap_cons]

theorem mapItemStrings_eq_map (g : String → String) (items : List Expression) :
    mapItemStrings g items = items.map (mapStrings g) := by
  induction items with
  | nil => rfl
  | cons item rest ih => rw [mapItemStrings, ih, List.map_cons]

/-- Replaced strings do not make a condition the literal truth, nor keep it from being that. -/
theorem isBool_mapStrings (g : String → String) (wanted : Bool) (expression : Expression) :
    (expression.mapStrings g).isBool wanted = expression.isBool wanted := by
  cases expression with
  | literal value => cases value <;> rfl
  | column _ _ | and _ _ | or _ _ | not _ | compare _ _ _ | among _ _ | isNull _ => rfl

end Expression

namespace Projection

def strings : Projection → List String
  | .all => []
  | .columns listed => listed.flatMap fun column => column.2.strings

def mapStrings (g : String → String) : Projection → Projection
  | .all => .all
  | .columns listed => .columns (listed.map fun column => (column.1, column.2.mapStrings g))

end Projection

namespace Join

def strings (join : Join) : List String :=
  join.condition.strings

def mapStrings (g : String → String) (join : Join) : Join :=
  { join with condition := join.condition.mapStrings g }

end Join

mutual

/-- The string literals of a select: those of its columns, of the select it reads from, of its
joins and of its condition. -/
def Select.strings : Select → List String
  | ⟨projection, source, joins, condition⟩ =>
      projection.strings ++
        (match source with
          | none => []
          | some source => source.strings) ++
        joins.flatMap Join.strings ++ condition.strings

def Source.strings : Source → List String
  | .table _ _ => []
  | .subquery select _ => select.strings

end

mutual

def Select.mapStrings (g : String → String) : Select → Select
  | ⟨projection, source, joins, condition⟩ =>
      ⟨projection.mapStrings g,
        (match source with
          | none => none
          | some source => some (source.mapStrings g)),
        joins.map (Join.mapStrings g), condition.mapStrings g⟩

def Source.mapStrings (g : String → String) : Source → Source
  | .table table knownAs => .table table knownAs
  | .subquery select knownAs => .subquery (select.mapStrings g) knownAs

end

open Fragment

section Bound

/-- Names bind no values. -/
theorem flatMap_bound_pathFragments (names : List String) :
    (pathFragments names).flatMap bound = [] := by
  induction names with
  | nil => rfl
  | cons name rest ih =>
      cases rest with
      | nil => rfl
      | cons next others => simpa [pathFragments, bound] using ih

/-- A list binds what its parts bind. -/
theorem flatMap_bound_commaSeparated (parts : List (List Fragment)) :
    (commaSeparated parts).flatMap bound = parts.flatMap fun part => part.flatMap bound := by
  induction parts with
  | nil => rfl
  | cons part rest ih =>
      cases rest with
      | nil => simp
      | cons next others => simp [ih]

theorem TableRef.flatMap_bound (table : TableRef) : table.fragments.flatMap bound = [] := by
  rw [table.fragments_eq_path, flatMap_bound_pathFragments]

/-- An expression binds its strings in order. -/
theorem Expression.flatMap_bound (expression : Expression) :
    expression.fragments.flatMap bound = expression.strings := by
  induction expression with
  | column table name => simp [fragments, strings, table.flatMap_bound, bound]
  | literal value => cases value <;> rfl
  | and left right ihleft ihright => simp [fragments, strings, ihleft, ihright]
  | or left right ihleft ihright => simp [fragments, strings, ihleft, ihright]
  | not operand ih => simp [fragments, strings, ih]
  | compare left comparison right ihleft ihright => simp [fragments, strings, ihleft, ihright]
  | among operand items ih ihitems =>
      have hitems : (items.flatMap fun item => item.fragments.flatMap bound) =
          items.flatMap strings := List.flatMap_congr ihitems
      simp [fragments, strings, itemFragments_eq_map, itemStrings_eq_flatMap,
        flatMap_bound_commaSeparated, List.flatMap_map, ih, hitems]
  | isNull operand ih => simp [fragments, strings, ih]

/-- The columns of a projection bind their strings, from the first on. -/
theorem Projection.flatMap_bound (projection : Projection) :
    projection.fragments.flatMap bound = projection.strings := by
  cases projection with
  | all => rfl
  | columns listed =>
      simp [fragments, strings, flatMap_bound_commaSeparated, List.flatMap_map,
        Expression.flatMap_bound, bound]

/-- A join binds the strings of its condition. -/
theorem Join.flatMap_bound (join : Join) : join.fragments.flatMap bound = join.strings := by
  simp [fragments, strings, join.table.flatMap_bound, join.condition.flatMap_bound, bound]

/-- A condition that is left out has no strings. -/
theorem flatMap_bound_conditionFragments (condition : Expression) :
    (conditionFragments condition).flatMap bound = condition.strings := by
  unfold conditionFragments
  split
  next htrue =>
    unfold Expression.isBool at htrue
    split at htrue
    · rfl
    · contradiction
  next => simp [condition.flatMap_bound]

theorem flatMap_bound_joins (joins : List Join) :
    (joins.flatMap Join.fragments).flatMap bound = joins.flatMap Join.strings := by
  rw [List.flatMap_assoc]
  exact List.flatMap_congr fun join _ => join.flatMap_bound

/-- A select binds its strings clause by clause, those of a subquery where it stands. -/
theorem Select.flatMap_bound (select : Select) :
    select.fragments.flatMap bound = select.strings := by
  induction select with
  | bare projection joins condition =>
      simp [fragments, strings, projection.flatMap_bound, flatMap_bound_joins,
        flatMap_bound_conditionFragments]
  | table projection table knownAs joins condition =>
      simp [fragments, Source.fragments, strings, Source.strings, projection.flatMap_bound,
        table.flatMap_bound, flatMap_bound_joins, flatMap_bound_conditionFragments, bound]
  | subquery projection inner knownAs joins condition ih =>
      simp [fragments, Source.fragments, strings, Source.strings, projection.flatMap_bound, ih,
        flatMap_bound_joins, flatMap_bound_conditionFragments, bound]

theorem Source.flatMap_bound (source : Source) :
    source.fragments.flatMap bound = source.strings := by
  cases source with
  | table table knownAs => simp [fragments, strings, table.flatMap_bound, bound]
  | subquery select knownAs => simp [fragments, strings, select.flatMap_bound, bound]

end Bound

section Replacement

def Fragment.mapBound (g : String → String) : Fragment → Fragment
  | .plain text => .plain text
  | .identifier name => .identifier name
  | .parameter value => .parameter (g value)

variable (g : String → String)

theorem map_mapBound_pathFragments (names : List String) :
    (pathFragments names).map (mapBound g) = pathFragments names := by
  induction names with
  | nil => rfl
  | cons name rest ih =>
      cases rest with
      | nil => rfl
      | cons next others => rw [pathFragments, List.map_cons, List.map_cons, ih, mapBound, mapBound]

/-- To change the bound values of a list changes those of its parts. -/
theorem map_mapBound_commaSeparated (parts : List (List Fragment)) :
    (commaSeparated parts).map (mapBound g) =
      commaSeparated (parts.map (List.map (mapBound g))) := by
  induction parts with
  | nil => rfl
  | cons part rest ih =>
      cases rest with
      | nil => simp
      | cons next others =>
          rw [commaSeparated_cons_cons, List.map_append, List.map_cons, ih]
          simp [mapBound]

@[simp]
theorem TableRef.map_mapBound (table : TableRef) :
    table.fragments.map (mapBound g) = table.fragments := by
  rw [table.fragments_eq_path, map_mapBound_pathFragments]

/-- Replacing strings replaces the values bound, and nothing else that is written. -/
theorem Expression.fragments_mapStrings (expression : Expression) :
    (expression.mapStrings g).fragments = expression.fragments.map (mapBound g) := by
  induction expression with
  | column table name => simp [mapStrings, fragments, mapBound]
  | literal value => cases value <;> rfl
  | and left right ihleft ihright => simp [mapStrings, fragments, ihleft, ihright, mapBound]
  | or left right ihleft ihright => simp [mapStrings, fragments, ihleft, ihright, mapBound]
  | not operand ih => simp [mapStrings, fragments, ih, mapBound]
  | compare left comparison right ihleft ihright =>
      simp [mapStrings, fragments, ihleft, ihright, mapBound]
  | among operand items ih ihitems =>
      have hitems : items.map (fun item => (item.mapStrings g).fragments) =
          items.map fun item => item.fragments.map (mapBound g) := List.map_congr_left ihitems
      simp [mapStrings, fragments, itemFragments_eq_map, mapItemStrings_eq_map,
        map_mapBound_commaSeparated, ih, hitems, Function.comp_def, mapBound]
  | isNull operand ih => simp [mapStrings, fragments, ih, mapBound]

theorem Projection.fragments_mapStrings (projection : Projection) :
    (projection.mapStrings g).fragments = projection.fragments.map (mapBound g) := by
  cases projection with
  | all => rfl
  | columns listed =>
      simp [mapStrings, fragments, map_mapBound_commaSeparated, Expression.fragments_mapStrings,
        Function.comp_def, mapBound]

theorem Join.fragments_mapStrings (join : Join) :
    (join.mapStrings g).fragments = join.fragments.map (mapBound g) := by
  simp [mapStrings, fragments, Expression.fragments_mapStrings, mapBound]

/-- Changed strings make no condition the literal truth, or take it away. -/
theorem conditionFragments_mapStrings (condition : Expression) :
    conditionFragments (condition.mapStrings g) =
      (conditionFragments condition).map (mapBound g) := by
  unfold conditionFragments
  rw [Expression.isBool_mapStrings, Expression.fragments_mapStrings]
  split <;> rfl

theorem joinFragments_mapStrings (joins : List Join) :
    (joins.map (Join.mapStrings g)).flatMap Join.fragments =
      (joins.flatMap Join.fragments).map (mapBound g) := by
  rw [List.flatMap_map, List.map_flatMap]
  exact List.flatMap_congr fun join _ => join.fragments_mapStrings g

/-- The fragments of a select with changed strings bind the changed strings, and are the same apart
from that. -/
theorem Select.fragments_mapStrings (select : Select) :
    (select.mapStrings g).fragments = select.fragments.map (mapBound g) := by
  induction select with
  | bare projection joins condition =>
      simp [mapStrings, fragments, Projection.fragments_mapStrings, joinFragments_mapStrings,
        conditionFragments_mapStrings, mapBound]
  | table projection table knownAs joins condition =>
      simp [mapStrings, Source.mapStrings, fragments, Source.fragments,
        Projection.fragments_mapStrings, joinFragments_mapStrings,
        conditionFragments_mapStrings, mapBound]
  | subquery projection inner knownAs joins condition ih =>
      simp [mapStrings, Source.mapStrings, fragments, Source.fragments, ih,
        Projection.fragments_mapStrings, joinFragments_mapStrings,
        conditionFragments_mapStrings, mapBound]

/-- What is spelled does not depend on the values bound. -/
theorem spelled_map_mapBound (index : Nat) (fragments : List Fragment) :
    spelled index (fragments.map (mapBound g)) = spelled index fragments := by
  induction fragments generalizing index with
  | nil => rfl
  | cons fragment rest ih => cases fragment <;> simp [mapBound, ih]

/-- Changed fragments bind the changed values. -/
theorem flatMap_bound_map_mapBound (fragments : List Fragment) :
    (fragments.map (mapBound g)).flatMap bound = (fragments.flatMap bound).map g := by
  induction fragments with
  | nil => rfl
  | cons fragment rest ih => cases fragment <;> simp [mapBound, bound, ih]

end Replacement

/-- The placeholders of fragments are numbered on from those before them. -/
theorem filterMap_digits_numbered {fragments : List Fragment}
    (hplain : ∀ text, .plain text ∈ fragments → ∀ digits,
      .placeholder digits ∉ tokensOf text.toList) (index : Nat) :
    (numbered index fragments).filterMap Token.digits? =
      (List.range' (index + 1) (fragments.flatMap bound).length).map (Nat.toDigits 10) := by
  induction fragments generalizing index with
  | nil => rfl
  | cons fragment rest ih =>
      have htail := ih fun text htext => hplain text (List.mem_cons_of_mem _ htext)
      cases fragment with
      | plain text =>
          -- plain text has no placeholders, whatever is written in quoted names
          have hnone : (tokensOf text.toList).filterMap Token.digits? = [] := by
            refine List.filterMap_eq_nil_iff.mpr fun token htoken => ?_
            cases token with
            | placeholder digits => exact absurd htoken (hplain text List.mem_cons_self digits)
            | mark _ | name _ | literal _ | bound _ => rfl
          rw [numbered_plain, List.filterMap_append, hnone, htail]
          rfl
      | identifier name => exact htail index
      | parameter value =>
          have hhead : ∀ digits, (Token.placeholder digits).digits? = some digits := fun _ => rfl
          rw [numbered_parameter, List.filterMap_cons_some (hhead _), htail]
          simp [bound, List.range'_succ]

/-- The parameters of a select are its strings in the order in which they are written, the
placeholders are numbered from one on without a gap, and replacing the strings replaces the
parameters and leaves the text as it is. -/
theorem Select.statement_placeholders (select : Select) :
    select.statement.parameters = select.strings ∧
      select.statement.index = select.statement.parameters.length ∧
      (tokensOf select.statement.text.toList).filterMap Token.digits? =
        (List.range' 1 select.statement.parameters.length).map (Nat.toDigits 10) ∧
      ∀ g : String → String,
        (select.mapStrings g).statement.text = select.statement.text ∧
          (select.mapStrings g).statement.parameters = select.statement.parameters.map g := by
  have hparameters : select.statement.parameters = select.fragments.flatMap bound :=
    Statement.parameters_ofFragments select.fragments
  refine ⟨hparameters.trans select.flatMap_bound, ?_, ?_, fun g => ⟨?_, ?_⟩⟩
  · have hindex : select.statement.index = 0 + (select.fragments.flatMap bound).length :=
      Statement.index_append .empty select.fragments
    rw [hindex, hparameters, Nat.zero_add]
  · rw [statement, tokensOf_text_ofFragments select.separable, ← statement, hparameters]
    exact filterMap_digits_numbered select.separable.not_placeholder 0
  · -- both texts are spelled from fragments that differ in bound values only
    refine String.toList_inj.mp ?_
    rw [statement, statement, Statement.text_ofFragments, Statement.text_ofFragments,
      select.fragments_mapStrings, spelled_map_mapBound]
  · rw [hparameters, ← flatMap_bound_map_mapBound, ← select.fragments_mapStrings]
    exact Statement.parameters_ofFragments _

end Sql

end RequestFilter
