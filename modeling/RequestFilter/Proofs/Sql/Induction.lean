import RequestFilter.Sql.Select

/-!
# Induction over statements

An expression is built from its operands and the items of its lists, and a select
from at most one select that it reads from.
-/

namespace RequestFilter.Sql

/-- What holds of an expression when it holds of its operands holds of all expressions. -/
@[induction_eliminator]
theorem Expression.induction {motive : Expression → Prop}
    (column : ∀ table name, motive (.column table name))
    (literal : ∀ value, motive (.literal value))
    (and : ∀ left right, motive left → motive right → motive (.and left right))
    (or : ∀ left right, motive left → motive right → motive (.or left right))
    (not : ∀ operand, motive operand → motive (.not operand))
    (compare : ∀ left comparison right, motive left → motive right →
      motive (.compare left comparison right))
    (among : ∀ operand items, motive operand → (∀ item ∈ items, motive item) →
      motive (.among operand items))
    (isNull : ∀ operand, motive operand → motive (.isNull operand))
    (expression : Expression) : motive expression :=
  -- the second motive is that of the items of a list
  @Expression.rec motive (fun items => ∀ item ∈ items, motive item)
    column literal and or not compare among isNull (by simp)
    (fun _ _ hhead htail => List.forall_mem_cons.mpr ⟨hhead, htail⟩) expression

/-- What holds of a select when it holds of the one it reads from holds of all selects. -/
@[induction_eliminator]
theorem Select.induction {motive : Select → Prop}
    (bare : ∀ projection joins condition, motive ⟨projection, none, joins, condition⟩)
    (table : ∀ projection table knownAs joins condition,
      motive ⟨projection, some (.table table knownAs), joins, condition⟩)
    (subquery : ∀ projection inner knownAs joins condition, motive inner →
      motive ⟨projection, some (.subquery inner knownAs), joins, condition⟩)
    (select : Select) : motive select :=
  match select with
  | ⟨projection, none, joins, condition⟩ => bare projection joins condition
  | ⟨projection, some (.table reference knownAs), joins, condition⟩ =>
      table projection reference knownAs joins condition
  | ⟨projection, some (.subquery inner knownAs), joins, condition⟩ =>
      subquery projection inner knownAs joins condition
        (Select.induction bare table subquery inner)

end RequestFilter.Sql
