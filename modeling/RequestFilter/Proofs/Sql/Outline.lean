import RequestFilter.Proofs.Sql.Meaning
import RequestFilter.Proofs.Sql.Rendering

/-!
# Outlines

The tree of an expression as far as text can show it: a column is its names and
an inline literal its text. Outlines mean what their expressions mean to a
database that knows columns by their names and inline literals by their texts.
-/

namespace RequestFilter.Sql

inductive Outline where
  | column (names : List String)
  | inline (text : String)
  | bound (value : String)
  | and (left right : Outline)
  | or (left right : Outline)
  | not (operand : Outline)
  | compare (left : Outline) (comparison : Comparison) (right : Outline)
  | among (operand : Outline) (items : List Outline)
  | isNull (operand : Outline)

def literalOutline : Scalar → Outline
  | .string value => .bound value
  | value => .inline value.text

namespace Expression

mutual

/-- The outline of an expression: what differs only in a table or an alias of the same name, or
in inline literals of the same text, has the same outline. -/
def outline : Expression → Outline
  | .column table name => .column (table.path ++ [name])
  | .literal value => literalOutline value
  | .and left right => .and left.outline right.outline
  | .or left right => .or left.outline right.outline
  | .not operand => .not operand.outline
  | .compare left comparison right => .compare left.outline comparison right.outline
  | .among operand items => .among operand.outline (outlines items)
  | .isNull operand => .isNull operand.outline

def outlines : List Expression → List Outline
  | [] => []
  | item :: rest => item.outline :: outlines rest

end

theorem outlines_eq_map (items : List Expression) : outlines items = items.map outline := by
  induction items with
  | nil => rfl
  | cons item rest ih => rw [outlines, ih, List.map_cons]

end Expression

/-- How a database takes a text: an inline literal denotes a value by its text. -/
structure Reading (V : Type) extends Interpretation V where
  inline : String → V
  literal_eq_inline : ∀ value : Scalar, value.kind ≠ .string → literal value = inline value.text

abbrev Cells (V : Type) := List String → Option V

/-- A row whose columns are known by their names. -/
def Cells.row {V : Type} (cells : Cells V) : Row V :=
  fun table name => cells (table.path ++ [name])

namespace Outline

variable {V : Type} (database : Reading V) (cells : Cells V)

mutual

/-- The value of an outline, `none` for NULL. -/
def value : Outline → Option V
  | .column names => cells names
  | .inline text => some (database.inline text)
  | .bound value => some (database.literal (.string value))
  | .and left right =>
      database.ofTruth ((database.holds left.value).and (database.holds right.value))
  | .or left right =>
      database.ofTruth ((database.holds left.value).or (database.holds right.value))
  | .not operand => database.ofTruth (database.holds operand.value).not
  | .compare left comparison right =>
      database.ofTruth (database.compared comparison left.value right.value)
  | .among operand items => database.ofTruth (database.amongTruth operand.value (values items))
  | .isNull operand => database.ofTruth (.ofBool operand.value.isNone)

def values : List Outline → List (Option V)
  | [] => []
  | item :: rest => item.value :: values rest

end

/-- The truth of a condition that is read as an outline. -/
def truth (condition : Outline) : Truth :=
  database.holds (condition.value database cells)

theorem values_eq_map (items : List Outline) :
    values database cells items = items.map (value database cells) := by
  induction items with
  | nil => rfl
  | cons item rest ih => rw [values, ih, List.map_cons]

end Outline

section Meaning

variable {V : Type} (database : Reading V) (cells : Cells V)

/-- The outline of a scalar has the value that the database gives to the scalar. -/
theorem value_literalOutline (scalar : Scalar) :
    (literalOutline scalar).value database cells = some (database.literal scalar) := by
  by_cases h : scalar.kind = .string
  · cases scalar with
    | string _ => rfl
    | bool _ | int _ | float _ => contradiction
  · have hinline : literalOutline scalar = .inline scalar.text := by
      cases scalar <;> first | rfl | contradiction
    rw [hinline, Outline.value, database.literal_eq_inline scalar h]

/-- The outline of an expression has the value of the expression. -/
theorem Expression.value_outline (expression : Expression) :
    expression.outline.value database cells =
      expression.value database.toInterpretation cells.row := by
  induction expression with
  | column table name => rfl
  | literal scalar => exact value_literalOutline database cells scalar
  | and left right ihleft ihright => rw [outline, Outline.value, ihleft, ihright, value]
  | or left right ihleft ihright => rw [outline, Outline.value, ihleft, ihright, value]
  | not operand ih => rw [outline, Outline.value, ih, value]
  | compare left comparison right ihleft ihright =>
      rw [outline, Outline.value, ihleft, ihright, value]
  | among operand items ih ihitems =>
      have hitems : (items.map outline).map (Outline.value database cells) =
          items.map (value database.toInterpretation cells.row) := by
        rw [List.map_map]
        exact List.map_congr_left ihitems
      rw [outline, Outline.value, ih, outlines_eq_map, Outline.values_eq_map, hitems, value,
        values_eq_map]
  | isNull operand ih => rw [outline, Outline.value, ih, value]

/-- The outline of a condition is true of a row exactly where the condition is. -/
theorem Expression.truth_outline (condition : Expression) :
    condition.outline.truth database cells =
      condition.truth database.toInterpretation cells.row := by
  rw [Outline.truth, condition.value_outline, truth]

end Meaning

end RequestFilter.Sql
