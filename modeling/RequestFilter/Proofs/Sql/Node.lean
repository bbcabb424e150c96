import RequestFilter.Proofs.Sql.Placeholder
import RequestFilter.Proofs.Sql.Relocation
import RequestFilter.Proofs.Sql.Writing

/-!
# Nodes of a statement

Every part of a select is written by itself, behind whatever the statement has
already. What it adds is what it gives alone, with its placeholders moved by the
number of those before it.
-/

namespace RequestFilter.Sql

open Fragment

/-- A part of a statement that is written by itself. -/
inductive Node where
  | expression (expression : Expression)
  | projection (projection : Projection)
  | source (source : Source)
  | join (join : Join)
  | condition (condition : Expression)
  | select (select : Select)

namespace Node

def fragments : Node → List Fragment
  | expression given => given.fragments
  | projection given => given.fragments
  | source given => given.fragments
  | join given => given.fragments
  | condition given => conditionFragments given
  | select given => given.fragments

def write : Node → Writing Unit
  | expression given => given.write
  | projection given => given.write
  | source given => given.write
  | join given => given.write
  | condition given => writeCondition given
  | select given => given.write

/-- The string literals of a node from left to right. -/
def strings : Node → List String
  | expression given => given.strings
  | projection given => given.strings
  | source given => given.strings
  | join given => given.strings
  | condition given => given.strings
  | select given => given.strings

variable (node : Node)

/-- Every node is composed of fixed texts, names and values. -/
theorem composed : Composed node.fragments := by
  cases node with
  | expression given => exact given.composed
  | projection given => exact given.composed
  | source given => exact given.composed
  | join given => exact given.composed
  | condition given => exact conditionFragments_composed given
  | select given => exact given.composed

/-- The writer of a node appends the fragments of the node. -/
theorem writes : Writes node.write node.fragments := by
  cases node with
  | expression given => exact given.writes
  | projection given => exact given.writes
  | source given => exact given.writes
  | join given => exact given.writes
  | condition given => exact writes_condition given
  | select given => exact given.writes

/-- The values that a node binds are its strings. -/
theorem flatMap_bound : node.fragments.flatMap bound = node.strings := by
  cases node with
  | expression given => exact given.flatMap_bound
  | projection given => exact given.flatMap_bound
  | source given => exact given.flatMap_bound
  | join given => exact given.flatMap_bound
  | condition given => exact flatMap_bound_conditionFragments given
  | select given => exact given.flatMap_bound

end Node

/-- A selected column with its alias. -/
def columnFragments (column : String × Expression) : List Fragment :=
  column.2.fragments ++ [.plain " AS ", .identifier column.1]

/-- The texts of parts that are written one behind the other after `index` placeholders. -/
def textsFrom : Nat → List (List Fragment) → List (List Char)
  | _, [] => []
  | index, part :: rest =>
      spelled index part :: textsFrom (index + (part.flatMap bound).length) rest

/-- Parts in a list are written with commas between, each numbered behind the ones before it. -/
theorem spelled_commaSeparated (index : Nat) (parts : List (List Fragment)) :
    spelled index (commaSeparated parts) = ", ".toList.intercalate (textsFrom index parts) := by
  induction parts generalizing index with
  | nil => rfl
  | cons part rest ih =>
      cases rest with
      | nil => simp [textsFrom]
      | cons next others =>
          rw [commaSeparated_cons_cons, spelled_append, spelled_plain, ih]
          simp [textsFrom, List.intercalate_cons_cons]

theorem Projection.spelled_columns (index : Nat) (listed : List (String × Expression)) :
    spelled index (columns listed).fragments =
      ", ".toList.intercalate (textsFrom index (listed.map columnFragments)) :=
  spelled_commaSeparated index (listed.map columnFragments)

/-- A membership test is its operand, and behind it the listed items in parentheses. -/
theorem Expression.spelled_among (index : Nat) (operand : Expression) (items : List Expression) :
    spelled index (operand.among items).fragments =
      "(".toList ++ spelled index operand.fragments ++ " IN (".toList ++
        ", ".toList.intercalate
          (textsFrom (index + operand.strings.length) (items.map fragments)) ++ "))".toList := by
  simp [fragments, spelled_append, spelled_commaSeparated, itemFragments_eq_map,
    operand.flatMap_bound]

/-- A node that has room for the numbers of its placeholders is written into every statement. What
the statement has stays in front; behind it comes what the node gives in an empty statement, with
every placeholder moved by the number of the last one before. The parameters of both are the same,
namely the strings of the node, and the number of the last placeholder grows by how many they are.
A comma stands between two columns or two items next to one another, and nowhere else. -/
theorem Node.write_behind (node : Node) (statement : Statement)
    (hroom : statement.index + node.strings.length < UInt64.size) :
    ∃ alone behind : Statement,
      node.write .empty = some ((), alone) ∧ alone = .ofFragments node.fragments ∧
        node.write statement = some ((), behind) ∧ behind = statement.append node.fragments ∧
        behind.text.toList =
          statement.text.toList ++ relocate statement.index .plain alone.text.toList ∧
        alone.parameters = node.strings ∧
        behind.parameters = statement.parameters ++ alone.parameters ∧
        behind.index = statement.index + alone.parameters.length ∧
        (∀ listed, node = .projection (.columns listed) →
          behind.text.toList = statement.text.toList ++
            ", ".toList.intercalate (textsFrom statement.index (listed.map columnFragments))) ∧
        ∀ operand items, node = .expression (.among operand items) →
          behind.text.toList = statement.text.toList ++
            ("(".toList ++ spelled statement.index operand.fragments ++ " IN (".toList ++
              ", ".toList.intercalate (textsFrom (statement.index + operand.strings.length)
                (items.map Expression.fragments)) ++ "))".toList) := by
  have halone : (Statement.ofFragments node.fragments).parameters = node.strings := by
    rw [Statement.parameters_ofFragments, node.flatMap_bound]
  have hempty : Statement.empty.index + (node.fragments.flatMap bound).length < UInt64.size := by
    rw [node.flatMap_bound]
    exact Nat.lt_of_le_of_lt (Nat.add_le_add_right (Nat.zero_le _) _) hroom
  have hbehind := node.writes statement (by rwa [node.flatMap_bound])
  refine ⟨.ofFragments node.fragments, statement.append node.fragments,
    node.writes .empty hempty, rfl, hbehind, rfl, ?text, halone, ?parameters, ?index, ?columns,
    ?items⟩
  case text =>
    have hmoved := node.composed.relocate_spelled statement.index 0
    rw [Statement.text_append, Statement.text_ofFragments, hmoved, Nat.add_zero]
  case parameters =>
    rw [Statement.parameters_append, Statement.parameters_ofFragments]
  case index =>
    rw [Statement.index_append, Statement.parameters_ofFragments]
  case columns =>
    rintro listed rfl
    rw [Statement.text_append, fragments, Projection.spelled_columns]
  case items =>
    rintro operand items rfl
    rw [Statement.text_append, fragments, Expression.spelled_among]

/-- The placeholders of two items behind nine others, and a name that looks like one. -/
theorem Node.write_behind_nine :
    ∃ behind : Statement,
      Node.write (.condition (.among (.column (.aliased "a\"$1") "b")
        [.literal (.string "x"), .literal (.int 7), .literal (.string "y")])) ⟨"$9", ["z"], 9⟩ =
          some ((), behind) ∧
        behind.text.toList = "$9 WHERE (\"a\"\"$1\".\"b\" IN ($10, 7, $11))".toList ∧
        behind.parameters = ["z", "x", "y"] := by
  obtain ⟨alone, behind, -, halone, hbehind, -, htext, -, hparameters, -⟩ :=
    Node.write_behind (.condition (.among (.column (.aliased "a\"$1") "b")
      [.literal (.string "x"), .literal (.int 7), .literal (.string "y")])) ⟨"$9", ["z"], 9⟩
      (by decide)
  have hwritten : alone.text.toList = " WHERE (\"a\"\"$1\".\"b\" IN ($1, 7, $2))".toList := by
    rw [halone]
    rfl
  refine ⟨behind, hbehind, ?_, ?_⟩
  · rw [htext, hwritten]
    rfl
  · rw [hparameters, halone]
    rfl

end RequestFilter.Sql
