import Mathlib.Data.List.Forall2
import RequestFilter.Proofs.Sql.Rendering

/-!
# Alike statements

Two statements are alike when they are built in the same way and differ at most
in two respects, neither of which their text shows: inline literals of the same
text are not told apart, nor is a table without a schema from an alias of its
name. Alike statements are written alike.
-/

namespace RequestFilter

/-- The same scalar, or two of the same text that are no strings. -/
def Scalar.Alike (value value' : Scalar) : Prop :=
  value = value' ∨ value.kind ≠ .string ∧ value'.kind ≠ .string ∧ value.text = value'.text

namespace Sql

/-- The same reference, or a table without a schema and an alias of its name. -/
def TableRef.Alike (table table' : TableRef) : Prop :=
  table = table' ∨
    ∃ name, table = .named none name ∧ table' = .aliased name ∨
      table = .aliased name ∧ table' = .named none name

namespace Expression

mutual

def Alike : Expression → Expression → Prop
  | .column table name, .column table' name' => table.Alike table' ∧ name = name'
  | .literal value, .literal value' => value.Alike value'
  | .and left right, .and left' right' => left.Alike left' ∧ right.Alike right'
  | .or left right, .or left' right' => left.Alike left' ∧ right.Alike right'
  | .not operand, .not operand' => operand.Alike operand'
  | .compare left comparison right, .compare left' comparison' right' =>
      left.Alike left' ∧ comparison = comparison' ∧ right.Alike right'
  | .among operand items, .among operand' items' => operand.Alike operand' ∧ AlikeItems items items'
  | .isNull operand, .isNull operand' => operand.Alike operand'
  | _, _ => False

def AlikeItems : List Expression → List Expression → Prop
  | [], [] => True
  | item :: rest, item' :: rest' => item.Alike item' ∧ AlikeItems rest rest'
  | _, _ => False

end

end Expression

def Projection.Alike : Projection → Projection → Prop
  | .all, .all => True
  | .columns listed, .columns listed' =>
      List.Forall₂ (fun column column' => column.1 = column'.1 ∧ column.2.Alike column'.2)
        listed listed'
  | _, _ => False

def Join.Alike (join join' : Join) : Prop :=
  join.table.Alike join'.table ∧ join.knownAs = join'.knownAs ∧
    join.condition.Alike join'.condition

mutual

def Select.Alike : Select → Select → Prop
  | ⟨projection, source, joins, condition⟩, ⟨projection', source', joins', condition'⟩ =>
      projection.Alike projection' ∧ Source.AlikeOptions source source' ∧
        List.Forall₂ Join.Alike joins joins' ∧ condition.Alike condition'

def Source.AlikeOptions : Option Source → Option Source → Prop
  | none, none => True
  | some source, some source' => source.Alike source'
  | _, _ => False

def Source.Alike : Source → Source → Prop
  | .table table knownAs, .table table' knownAs' => table.Alike table' ∧ knownAs = knownAs'
  | .subquery select knownAs, .subquery select' knownAs' =>
      select.Alike select' ∧ knownAs = knownAs'
  | _, _ => False

end

/-- Tables are alike when they have the same path. -/
theorem TableRef.alike_iff_path_eq (table table' : TableRef) :
    table.Alike table' ↔ table.path = table'.path := by
  cases table with
  | named schema name =>
      cases table' with
      | named schema' name' => cases schema <;> cases schema' <;> simp [Alike, path]
      | aliased knownAs => cases schema <;> simp [Alike, path, eq_comm]
  | aliased knownAs =>
      cases table' with
      | named schema name => cases schema <;> simp [Alike, path, eq_comm]
      | aliased knownAs' => simp [Alike, path]

/-- Lists of operands are alike item by item. -/
theorem Expression.alikeItems_iff (items items' : List Expression) :
    AlikeItems items items' ↔ List.Forall₂ Alike items items' := by
  induction items generalizing items' with
  | nil => cases items' <;> simp [AlikeItems]
  | cons item rest ih => cases items' <;> simp [AlikeItems, ih]

/-- Related lists are mapped to the same when their related members are. -/
theorem map_eq_map_of_forall₂ {α β : Type} {related : α → α → Prop} {f : α → β}
    {listed listed' : List α} (h : List.Forall₂ related listed listed')
    (hf : ∀ a ∈ listed, ∀ b, related a b → f a = f b) : listed.map f = listed'.map f := by
  induction h with
  | nil => rfl
  | cons hrelated _ ih =>
      obtain ⟨hhead, htail⟩ := List.forall_mem_cons.mp hf
      rw [List.map_cons, List.map_cons, hhead _ hrelated, ih htail]

/-- Alike values are written the same way. -/
theorem Scalar.Alike.literalFragment_eq {value value' : Scalar} (h : value.Alike value') :
    literalFragment value = literalFragment value' := by
  rcases h with rfl | ⟨hkind, hkind', htext⟩
  · rfl
  · rw [literalFragment_eq_plain hkind, literalFragment_eq_plain hkind', htext]

/-- Alike tables are written the same way. -/
theorem TableRef.Alike.fragments_eq {table table' : TableRef} (h : table.Alike table') :
    table.fragments = table'.fragments := by
  rw [table.fragments_eq_path, table'.fragments_eq_path, (table.alike_iff_path_eq table').mp h]

/-- Alike expressions are written alike. -/
theorem Expression.Alike.fragments_eq {expression expression' : Expression}
    (h : expression.Alike expression') : expression.fragments = expression'.fragments := by
  induction expression generalizing expression' with
  | column table name =>
      cases expression' with
      | column table' name' =>
          obtain ⟨htable, rfl⟩ := h
          rw [fragments, fragments, htable.fragments_eq]
      | _ => cases h
  | literal value =>
      cases expression' with
      | literal value' => rw [fragments, fragments, Scalar.Alike.literalFragment_eq h]
      | _ => cases h
  | and left right ihleft ihright =>
      cases expression' with
      | and left' right' =>
          obtain ⟨hleft, hright⟩ := h
          rw [fragments, fragments, ihleft hleft, ihright hright]
      | _ => cases h
  | or left right ihleft ihright =>
      cases expression' with
      | or left' right' =>
          obtain ⟨hleft, hright⟩ := h
          rw [fragments, fragments, ihleft hleft, ihright hright]
      | _ => cases h
  | not operand ih =>
      cases expression' with
      | not operand' => rw [fragments, fragments, ih h]
      | _ => cases h
  | compare left comparison right ihleft ihright =>
      cases expression' with
      | compare left' comparison' right' =>
          obtain ⟨hleft, rfl, hright⟩ := h
          rw [fragments, fragments, ihleft hleft, ihright hright]
      | _ => cases h
  | among operand items ih ihitems =>
      cases expression' with
      | among operand' items' =>
          obtain ⟨hoperand, hitems⟩ := h
          have hfragments : items.map fragments = items'.map fragments :=
            map_eq_map_of_forall₂ ((alikeItems_iff items items').mp hitems)
              fun item hitem _ hsame => ihitems item hitem hsame
          rw [fragments, fragments, itemFragments_eq_map, itemFragments_eq_map, ih hoperand,
            hfragments]
      | _ => cases h
  | isNull operand ih =>
      cases expression' with
      | isNull operand' => rw [fragments, fragments, ih h]
      | _ => cases h

theorem Projection.Alike.fragments_eq {projection projection' : Projection}
    (h : projection.Alike projection') : projection.fragments = projection'.fragments := by
  cases projection with
  | all =>
      cases projection' with
      | all => rfl
      | columns _ => cases h
  | columns listed =>
      cases projection' with
      | all => cases h
      | columns listed' =>
          refine congrArg commaSeparated (map_eq_map_of_forall₂ h ?_)
          rintro column _ column' ⟨halias, hexpression⟩
          rw [halias, hexpression.fragments_eq]

theorem Join.Alike.fragments_eq {join join' : Join} (h : join.Alike join') :
    join.fragments = join'.fragments := by
  obtain ⟨htable, halias, hcondition⟩ := h
  rw [Join.fragments, Join.fragments, htable.fragments_eq, halias, hcondition.fragments_eq]

/-- Alike joins are written the same way. -/
theorem joinFragments_eq_of_alike {joins joins' : List Join}
    (h : List.Forall₂ Join.Alike joins joins') :
    joins.flatMap Join.fragments = joins'.flatMap Join.fragments := by
  have hfragments := map_eq_map_of_forall₂ h fun _ _ _ hjoin => Join.Alike.fragments_eq hjoin
  rw [List.flatMap_def, List.flatMap_def, hfragments]

/-- A truth value is alike to itself only. -/
theorem Scalar.Alike.eq_bool_iff {value value' : Scalar} (h : value.Alike value') (b : Bool) :
    value = .bool b ↔ value' = .bool b := by
  rcases h with rfl | ⟨hkind, hkind', htext⟩
  · rfl
  · constructor
    · rintro rfl
      exact Scalar.eq_bool_of_text_eq hkind' htext.symm
    · rintro rfl
      exact Scalar.eq_bool_of_text_eq hkind htext

theorem Expression.isBool_literal_iff (wanted : Bool) (value : Scalar) :
    (literal value).isBool wanted = true ↔ value = .bool wanted := by
  rw [isBool_iff, literal.injEq]

/-- An expression alike to a literal truth value is that value. -/
theorem Expression.Alike.isBool_eq {expression expression' : Expression}
    (h : expression.Alike expression') (wanted : Bool) :
    expression.isBool wanted = expression'.isBool wanted := by
  cases expression with
  | literal value =>
      cases expression' with
      | literal value' =>
          -- a truth value has its text alone among the inline literals
          rw [Bool.eq_iff_iff, isBool_literal_iff, isBool_literal_iff]
          exact Scalar.Alike.eq_bool_iff h wanted
      | _ => cases h
  | _ =>
      cases expression' with
      | literal _ => cases h
      | _ => rfl

/-- Of two alike conditions both are left out, or they are written the same way. -/
theorem conditionFragments_eq_of_alike {condition condition' : Expression}
    (h : condition.Alike condition') :
    conditionFragments condition = conditionFragments condition' := by
  rw [conditionFragments, conditionFragments, h.isBool_eq true, h.fragments_eq]

/-- Alike selects are written alike. -/
theorem Select.Alike.fragments_eq {select select' : Select} (h : select.Alike select') :
    select.fragments = select'.fragments := by
  induction select generalizing select' with
  | bare projection joins condition =>
      obtain ⟨projection', source', joins', condition'⟩ := select'
      obtain ⟨hprojection, hsource, hjoins, hcondition⟩ := h
      cases source' with
      | some _ => cases hsource
      | none =>
          simp only [fragments, hprojection.fragments_eq, joinFragments_eq_of_alike hjoins,
            conditionFragments_eq_of_alike hcondition]
  | table projection table knownAs joins condition =>
      obtain ⟨projection', source', joins', condition'⟩ := select'
      obtain ⟨hprojection, hsource, hjoins, hcondition⟩ := h
      cases source' with
      | none => cases hsource
      | some source' =>
          cases source' with
          | subquery _ _ => cases hsource
          | table table' knownAs' =>
              obtain ⟨htable, rfl⟩ := hsource
              simp only [fragments, Source.fragments, hprojection.fragments_eq,
                htable.fragments_eq, joinFragments_eq_of_alike hjoins,
                conditionFragments_eq_of_alike hcondition]
  | subquery projection inner knownAs joins condition ih =>
      obtain ⟨projection', source', joins', condition'⟩ := select'
      obtain ⟨hprojection, hsource, hjoins, hcondition⟩ := h
      cases source' with
      | none => cases hsource
      | some source' =>
          cases source' with
          | table _ _ => cases hsource
          | subquery inner' knownAs' =>
              obtain ⟨hinner, rfl⟩ := hsource
              simp only [fragments, Source.fragments, hprojection.fragments_eq, ih hinner,
                joinFragments_eq_of_alike hjoins, conditionFragments_eq_of_alike hcondition]

end Sql

end RequestFilter
