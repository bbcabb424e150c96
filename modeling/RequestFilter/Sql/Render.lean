import RequestFilter.Sql.Select
import RequestFilter.Sql.Statement

/-!
# Rendering

The fragments of expressions and statements. Every operator of two operands is
written with its operands in parentheses. Booleans and numbers stand in the
text; strings are bound.
-/

namespace RequestFilter.Sql

/-- The sign of a comparison, with the blanks around it. -/
def comparisonSign : Comparison → String
  | .equal => " = "
  | .notEqual => " <> "
  | .greater => " > "
  | .greaterOrEqual => " >= "
  | .less => " < "
  | .lessOrEqual => " <= "
  | .like => " LIKE "
  | .likeIgnoringCase => " ILIKE "

/-- A literal: a string is bound, any other value is written as its text. -/
def literalFragment : Scalar → Fragment
  | .string value => .parameter value
  | value => .plain value.text

def commaSeparated (parts : List (List Fragment)) : List Fragment :=
  [Fragment.plain ", "].intercalate parts

def TableRef.fragments : TableRef → List Fragment
  | .named none table => [.identifier table]
  | .named (some schema) table => [.identifier schema, .plain ".", .identifier table]
  | .aliased knownAs => [.identifier knownAs]

mutual

def Expression.fragments : Expression → List Fragment
  | .column table name => table.fragments ++ [.plain ".", .identifier name]
  | .literal value => [literalFragment value]
  | .and left right =>
      .plain "(" :: left.fragments ++ .plain " AND " :: right.fragments ++ [.plain ")"]
  | .or left right =>
      .plain "(" :: left.fragments ++ .plain " OR " :: right.fragments ++ [.plain ")"]
  | .not operand => .plain "NOT " :: operand.fragments
  | .compare left comparison right =>
      .plain "(" :: left.fragments ++ .plain (comparisonSign comparison) :: right.fragments ++
        [.plain ")"]
  | .among operand items =>
      .plain "(" :: operand.fragments ++ .plain " IN " :: .plain "(" ::
        commaSeparated (Expression.itemFragments items) ++ [.plain ")", .plain ")"]
  | .isNull operand => .plain "(" :: operand.fragments ++ [.plain " IS NULL", .plain ")"]

def Expression.itemFragments : List Expression → List (List Fragment)
  | [] => []
  | item :: rest => item.fragments :: Expression.itemFragments rest

end

def Projection.fragments : Projection → List Fragment
  | .all => [.plain "*"]
  | .columns listed =>
      commaSeparated (listed.map fun column =>
        column.2.fragments ++ [.plain " AS ", .identifier column.1])

def Join.fragments (join : Join) : List Fragment :=
  .plain " LEFT OUTER JOIN " :: join.table.fragments ++
    [.plain " AS ", .identifier join.knownAs, .plain " ON "] ++ join.condition.fragments

/-- A condition, which is left out when it is the literal truth. -/
def conditionFragments (condition : Expression) : List Fragment :=
  if condition.isBool true then [] else .plain " WHERE " :: condition.fragments

mutual

def Select.fragments : Select → List Fragment
  | ⟨projection, source, joins, condition⟩ =>
      .plain "SELECT " :: projection.fragments ++
        (match source with
          | none => []
          | some source => .plain " " :: source.fragments) ++
        joins.flatMap Join.fragments ++ conditionFragments condition

def Source.fragments : Source → List Fragment
  | .table table knownAs =>
      .plain "FROM " :: table.fragments ++ [.plain " AS ", .identifier knownAs]
  | .subquery select knownAs =>
      .plain "FROM " :: .plain "(" :: select.fragments ++
        [.plain ")", .plain " AS ", .identifier knownAs]

end

def Select.statement (select : Select) : Statement :=
  .ofFragments select.fragments

end RequestFilter.Sql
