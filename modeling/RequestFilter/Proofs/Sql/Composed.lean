import RequestFilter.Proofs.Sql.Rendering

/-!
# What statements are composed of

The fragments of every node are fixed texts, quoted identifiers and literals, and
a literal stands before something that ends it. A property of the text of all
nodes is shown along this composition, with one case for each kind of fragment.
-/

namespace RequestFilter.Sql

open Fragment

/-- The plain texts of every statement, apart from those of scalars. -/
def fixedTexts : List String := [
  "(", ")", ", ", ".", "*", " ", "SELECT ", "FROM ", " AS ", " LEFT OUTER JOIN ", " ON ",
  " WHERE ", " AND ", " OR ", "NOT ", " IN ", " IS NULL",
  " = ", " <> ", " > ", " >= ", " < ", " <= ", " LIKE ", " ILIKE "]

/-- Fragments as they follow one another in rendered nodes. -/
inductive Composed : List Fragment → Prop
  | nil : Composed []
  | fixed {text : String} {rest : List Fragment} (htext : text ∈ fixedTexts)
      (hrest : Composed rest) : Composed (.plain text :: rest)
  | identifier (name : String) {rest : List Fragment} (hrest : Composed rest) :
      Composed (.identifier name :: rest)
  | literal (value : Scalar) {rest : List Fragment} (hrest : Composed rest)
      (hleads : Leads rest) : Composed (literalFragment value :: rest)

namespace Composed

variable {first second : List Fragment}

/-- Fragments followed by others that end the operand before them. -/
theorem append (hfirst : Composed first) (hsecond : Composed second) (hleads : Leads second) :
    Composed (first ++ second) := by
  induction hfirst with
  | nil => exact hsecond
  | fixed htext _ ih => exact .fixed htext ih
  | identifier name _ ih => exact .identifier name ih
  | literal value _ hrest ih => exact .literal value ih (hrest.append hleads)

/-- Fragments followed by a fixed text that ends the operand before it. -/
theorem before {text : String} (hfirst : Composed first) (htext : text ∈ fixedTexts)
    (hends : endsOperand text = true) (hsecond : Composed second) :
    Composed (first ++ .plain text :: second) :=
  hfirst.append (.fixed htext hsecond) (leads_plain hends second)

theorem closing : Composed [.plain ")"] :=
  .fixed (by decide) .nil

/-- An alias behind what it names. -/
theorem aliased (knownAs : String) : Composed [.plain " AS ", .identifier knownAs] :=
  .fixed (by decide) (.identifier knownAs .nil)

/-- Names with points between are composed. -/
theorem path (names : List String) : Composed (pathFragments names) := by
  induction names with
  | nil => exact .nil
  | cons name rest ih =>
      cases rest with
      | nil => exact .identifier name .nil
      | cons next others => exact .identifier name (.fixed (by decide) ih)

/-- Two operands in parentheses with marks between them. -/
theorem group {marks : String} (hfirst : Composed first) (hmarks : marks ∈ fixedTexts)
    (hends : endsOperand marks = true) (hsecond : Composed second) :
    Composed (.plain "(" :: first ++ .plain marks :: second ++ [.plain ")"]) := by
  have hright : Composed (second ++ [.plain ")"]) := hsecond.before (by decide) rfl .nil
  have hopening : "(" ∈ fixedTexts := by decide
  simpa using Composed.fixed hopening (hfirst.before hmarks hends hright)

/-- Composed parts are composed when commas stand between them. -/
theorem commaSeparated {parts : List (List Fragment)} (h : ∀ part ∈ parts, Composed part) :
    Composed (commaSeparated parts) := by
  induction parts with
  | nil => exact .nil
  | cons part rest ih =>
      obtain ⟨hpart, hrest⟩ := List.forall_mem_cons.mp h
      cases rest with
      | nil => simpa using hpart
      | cons next others =>
          have hcomma : ", " ∈ fixedTexts := by decide
          simpa using hpart.before hcomma rfl (ih hrest)

end Composed

/-- The signs of comparisons are fixed texts. -/
theorem comparisonSign_mem_fixedTexts (comparison : Comparison) :
    comparisonSign comparison ∈ fixedTexts := by
  cases comparison <;> decide

theorem TableRef.composed (table : TableRef) : Composed table.fragments := by
  rw [table.fragments_eq_path]
  exact .path _

/-- Every node puts fixed texts around its operands, and what follows an operand ends it. -/
theorem Expression.composed (expression : Expression) : Composed expression.fragments := by
  induction expression with
  | column table name =>
      rw [fragments, table.column_fragments_eq_path]
      exact .path _
  | literal value => exact .literal value .nil leads_nil
  | and left right ihleft ihright => exact ihleft.group (by decide) rfl ihright
  | or left right ihleft ihright => exact ihleft.group (by decide) rfl ihright
  | not operand ih => exact .fixed (by decide) ih
  | compare left comparison right ihleft ihright =>
      refine ihleft.group (comparisonSign_mem_fixedTexts comparison) ?_ ihright
      cases comparison <;> rfl
  | among operand items ih ihitems =>
      have hitems : Composed (commaSeparated (items.map fragments)) :=
        .commaSeparated (by simpa using ihitems)
      have hlist : Composed (.plain "(" ::
          (commaSeparated (items.map fragments) ++ [.plain ")"])) :=
        .fixed (by decide) (hitems.before (by decide) rfl .nil)
      have hin : " IN " ∈ fixedTexts := by decide
      simpa [fragments, itemFragments_eq_map] using ih.group hin rfl hlist
  | isNull operand ih =>
      have htest : " IS NULL" ∈ fixedTexts := by decide
      exact .fixed (by decide) (ih.before htest rfl .closing)

/-- A projection is a star, or its columns with commas between. -/
theorem Projection.composed (projection : Projection) : Composed projection.fragments := by
  cases projection with
  | all => exact .fixed (by decide) .nil
  | columns listed =>
      refine .commaSeparated ?_
      intro part hpart
      obtain ⟨column, _, rfl⟩ := List.mem_map.mp hpart
      exact column.2.composed.append (.aliased column.1) (leads_plain rfl _)

/-- A join is composed of fixed texts, names and its condition. -/
theorem Join.composed (join : Join) : Composed join.fragments := by
  have hon : Composed (.plain " ON " :: join.condition.fragments) :=
    .fixed (by decide) join.condition.composed
  have hnamed : Composed (.plain " AS " :: .identifier join.knownAs ::
      .plain " ON " :: join.condition.fragments) :=
    .fixed (by decide) (.identifier join.knownAs hon)
  have hjoin : " LEFT OUTER JOIN " ∈ fixedTexts := by decide
  simpa [fragments] using
    Composed.fixed hjoin (join.table.composed.append hnamed (leads_plain rfl _))

/-- The clause of the condition is composed, or it is not there. -/
theorem conditionFragments_composed (condition : Expression) :
    Composed (conditionFragments condition) := by
  unfold conditionFragments
  split
  · exact .nil
  · exact .fixed (by decide) condition.composed

theorem joinFragments_composed (joins : List Join) :
    Composed (joins.flatMap Join.fragments) := by
  induction joins with
  | nil => exact .nil
  | cons join rest ih =>
      rw [List.flatMap_cons]
      exact join.composed.append ih (joinFragments_separable rest).2

theorem Source.table_composed (table : TableRef) (knownAs : String) :
    Composed (Source.table table knownAs).fragments :=
  .fixed (by decide) (table.composed.append (.aliased knownAs) (leads_plain rfl _))

/-- A subquery stands in fixed parentheses. -/
theorem Source.subquery_composed {select : Select} (h : Composed select.fragments)
    (knownAs : String) : Composed (Source.subquery select knownAs).fragments := by
  have hbehind : Composed (select.fragments ++ .plain ")" ::
      [.plain " AS ", .identifier knownAs]) := h.before (by decide) rfl (.aliased knownAs)
  have hall : Composed (.plain "FROM " :: .plain "(" :: (select.fragments ++ .plain ")" ::
      [.plain " AS ", .identifier knownAs])) := .fixed (by decide) (.fixed (by decide) hbehind)
  simpa [Source.fragments] using hall

/-- A select is composed of known fragments when its source is. -/
theorem Select.composed_of_source {source : Option Source}
    (h : ∀ given ∈ source, Composed given.fragments) (projection : Projection)
    (joins : List Join) (condition : Expression) :
    Composed (Select.fragments ⟨projection, source, joins, condition⟩) := by
  have hconditionLeads := (conditionFragments_separable condition).2
  have htail := (joinFragments_composed joins).append
    (conditionFragments_composed condition) hconditionLeads
  have htailLeads := (joinFragments_separable joins).2.append hconditionLeads
  have hselect : "SELECT " ∈ fixedTexts := by decide
  cases source with
  | none =>
      have hall := Composed.fixed hselect (projection.composed.append htail htailLeads)
      simpa [Select.fragments] using hall
  | some given =>
      have hspace : " " ∈ fixedTexts := by decide
      have hclauses := (h given rfl).append htail htailLeads
      have hall := Composed.fixed hselect (projection.composed.before hspace rfl hclauses)
      simpa [Select.fragments] using hall

/-- A select is composed of its clauses, and so is every select within it. -/
theorem Select.composed (select : Select) : Composed select.fragments := by
  induction select with
  | bare projection joins condition => exact composed_of_source (by simp) _ _ _
  | table projection table knownAs joins condition =>
      refine composed_of_source ?_ _ _ _
      rintro given ⟨⟩
      exact Source.table_composed table knownAs
  | subquery projection inner knownAs joins condition ih =>
      refine composed_of_source ?_ _ _ _
      rintro given ⟨⟩
      exact Source.subquery_composed ih knownAs

theorem Source.composed (source : Source) : Composed source.fragments := by
  cases source with
  | table table knownAs => exact table_composed table knownAs
  | subquery select knownAs => exact subquery_composed select.composed knownAs

end RequestFilter.Sql
