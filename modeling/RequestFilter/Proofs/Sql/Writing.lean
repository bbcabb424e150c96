import Mathlib.Data.List.Forall2
import RequestFilter.Proofs.Sql.Rendering

/-!
# Writing into a statement

Rendering as a program that writes into a given statement, piece by piece, and
stops where a number leaves its machine word: the number of a placeholder at its
upper end, the length of a list less one at zero. Into every statement that has
room for the numbers of its placeholders a writer appends the fragments that its
node is rendered to.
-/

namespace RequestFilter.Sql

open Fragment

/-- A program that writes into a statement, or stops. -/
abbrev Writing : Type → Type := StateT Statement Option

namespace Writing

def increment (n : Nat) : Writing Nat :=
  if n + 1 < UInt64.size then pure (n + 1) else failure

def decrement (n : Nat) : Writing Nat :=
  if n = 0 then failure else pure (n - 1)

def putText (text : String) : Writing Unit :=
  modify fun statement => { statement with text := statement.text ++ text }

def putName (name : String) : Writing Unit :=
  modify fun statement => { statement with text := statement.text ++ quoteIdentifier name }

def putParameter (value : String) : Writing Unit := do
  let number ← increment (← get).index
  modify fun statement => {
    text := statement.text ++ ("$" ++ toString number)
    parameters := statement.parameters ++ [value]
    index := number }

/-- Write what is left of the `count` parts of a list from the one at `position` on, each but the
last one with a comma behind it. -/
def putParts (count : Nat) : Nat → List (Writing Unit) → Writing Unit
  | _, [] => pure ()
  | position, part :: rest => do
      part
      let last ← decrement count
      if position < last then putText ", "
      putParts count (position + 1) rest

/-- Write the parts of a list with a comma between two of them. -/
def putList (parts : List (Writing Unit)) : Writing Unit :=
  putParts parts.length 0 parts

end Writing

open Writing

def writeScalar : Scalar → Writing Unit
  | .string value => putParameter value
  | value => putText value.text

def TableRef.write : TableRef → Writing Unit
  | .named none table => putName table
  | .named (some schema) table => do
      putName schema
      putText "."
      putName table
  | .aliased knownAs => putName knownAs

mutual

def Expression.write : Expression → Writing Unit
  | .column table name => do
      table.write
      putText "."
      putName name
  | .literal value => writeScalar value
  | .and left right => do
      putText "("
      left.write
      putText " AND "
      right.write
      putText ")"
  | .or left right => do
      putText "("
      left.write
      putText " OR "
      right.write
      putText ")"
  | .not operand => do
      putText "NOT "
      operand.write
  | .compare left comparison right => do
      putText "("
      left.write
      putText (comparisonSign comparison)
      right.write
      putText ")"
  | .among operand items => do
      putText "("
      operand.write
      putText " IN "
      putText "("
      putList (Expression.itemWriters items)
      putText ")"
      putText ")"
  | .isNull operand => do
      putText "("
      operand.write
      putText " IS NULL"
      putText ")"

def Expression.itemWriters : List Expression → List (Writing Unit)
  | [] => []
  | item :: rest => item.write :: Expression.itemWriters rest

end

def writeColumn (column : String × Expression) : Writing Unit := do
  column.2.write
  putText " AS "
  putName column.1

def Projection.write : Projection → Writing Unit
  | .all => putText "*"
  | .columns listed => putList (listed.map writeColumn)

def Join.write (join : Join) : Writing Unit := do
  putText " LEFT OUTER JOIN "
  join.table.write
  putText " AS "
  putName join.knownAs
  putText " ON "
  join.condition.write

def writeCondition (condition : Expression) : Writing Unit :=
  if condition.isBool true then pure () else do
    putText " WHERE "
    condition.write

mutual

def Select.write : Select → Writing Unit
  | ⟨projection, source, joins, condition⟩ => do
      putText "SELECT "
      projection.write
      (match source with
        | none => pure ()
        | some source => do
            putText " "
            source.write)
      joins.forM Join.write
      writeCondition condition

def Source.write : Source → Writing Unit
  | .table table knownAs => do
      putText "FROM "
      table.write
      putText " AS "
      putName knownAs
  | .subquery select knownAs => do
      putText "FROM "
      putText "("
      select.write
      putText ")"
      putText " AS "
      putName knownAs

end

/-- A writer appends fragments to every statement that has room for their placeholders. -/
def Writes (writer : Writing Unit) (fragments : List Fragment) : Prop :=
  ∀ statement : Statement,
    statement.index + (fragments.flatMap bound).length < UInt64.size →
      writer statement = some ((), statement.append fragments)

namespace Writes

variable {writer first second : Writing Unit} {fragments firsts seconds : List Fragment}

theorem nothing : Writes (pure ()) [] := fun _ _ => rfl

/-- Plain text needs no room for a number. -/
theorem text (text : String) : Writes (putText text) [.plain text] := by
  intro statement _
  have hpush : statement.append [.plain text] =
      { statement with text := statement.text ++ text } := by
    simp [Statement.append, Statement.push, Fragment.text]
  rw [hpush]
  rfl

/-- Neither does a name, which is written in quotes. -/
theorem name (name : String) : Writes (putName name) [.identifier name] := by
  intro statement _
  have hpush : statement.append [.identifier name] =
      { statement with text := statement.text ++ quoteIdentifier name } := by
    simp [Statement.append, Statement.push, Fragment.text, bound]
  rw [hpush]
  rfl

/-- A parameter takes the next number, for which there is room. -/
theorem parameter (value : String) : Writes (putParameter value) [.parameter value] := by
  intro statement hroom
  have hnext : increment statement.index = pure (statement.index + 1) := if_pos hroom
  calc putParameter value statement
      = (increment statement.index >>= fun number => modify fun statement => {
          text := statement.text ++ ("$" ++ toString number)
          parameters := statement.parameters ++ [value]
          index := number }) statement := rfl
    _ = some ((), statement.append [.parameter value]) := by
        rw [hnext]
        rfl

/-- A writer that is followed by another one. -/
theorem andThen (hfirst : Writes first firsts) (hsecond : Writes second seconds) :
    Writes (do first; second) (firsts ++ seconds) := by
  intro statement hroom
  rw [List.flatMap_append, List.length_append] at hroom
  have hleft := hfirst statement (by omega)
  have hright := hsecond (statement.append firsts) (by rw [Statement.index_append]; omega)
  calc (do first; second) statement
      = (first statement).bind fun result => second result.2 := rfl
    _ = second (statement.append firsts) := by rw [hleft]; rfl
    _ = some ((), (statement.append firsts).append seconds) := hright
    _ = some ((), statement.append (firsts ++ seconds)) := by
        rw [Statement.append, Statement.append, Statement.append, List.foldl_append]

theorem of_eq (h : Writes writer firsts) (heq : firsts = seconds) : Writes writer seconds :=
  heq ▸ h

/-- Behind the last part of a list there is no comma. The length less one is formed behind a part
only, where it is no less than the position of that part. -/
theorem parts {count position : Nat} {writers : List (Writing Unit)}
    {parts : List (List Fragment)} (h : List.Forall₂ Writes writers parts)
    (hcount : position + writers.length = count) :
    Writes (putParts count position writers) (commaSeparated parts) := by
  induction h generalizing position with
  | nil => exact nothing
  | @cons part fragments rest others hpart hrest ih =>
      rw [List.length_cons] at hcount
      have hlast : decrement count = pure (count - 1) := if_neg (by omega)
      have htail : Writes (putParts count (position + 1) rest) (commaSeparated others) :=
        ih (by omega)
      rw [putParts, hlast, pure_bind]
      cases hrest with
      | nil =>
          have hposition : ¬ position < count - 1 := by
            rw [List.length_nil] at hcount
            omega
          rw [if_neg hposition]
          exact (hpart.andThen htail).of_eq (by simp)
      | cons =>
          have hposition : position < count - 1 := by
            rw [List.length_cons] at hcount
            omega
          rw [if_pos hposition]
          exact (hpart.andThen ((text ", ").andThen htail)).of_eq (by simp)

/-- Writers with commas between write their parts with commas between. -/
theorem list {writers : List (Writing Unit)} {parts : List (List Fragment)}
    (h : List.Forall₂ Writes writers parts) : Writes (putList writers) (commaSeparated parts) :=
  Writes.parts h (Nat.zero_add _)

/-- A string is bound to a placeholder; any other value is written as plain text. -/
theorem scalar (value : Scalar) : Writes (writeScalar value) [literalFragment value] := by
  cases value with
  | string value => exact parameter value
  | bool _ | int _ | float _ => exact text _

/-- Text in front of what is written. -/
theorem textThen (before : String) (h : Writes writer fragments) :
    Writes (do putText before; writer) (.plain before :: fragments) :=
  (text before).andThen h

theorem closing : Writes (putText ")") [.plain ")"] :=
  text ")"

/-- Two operands in parentheses with marks between them. -/
theorem group (marks : String) (hfirst : Writes first firsts) (hsecond : Writes second seconds) :
    Writes (do putText "("; first; putText marks; second; putText ")")
      (.plain "(" :: firsts ++ .plain marks :: seconds ++ [.plain ")"]) :=
  (textThen "(" (hfirst.andThen (textThen marks (hsecond.andThen closing)))).of_eq (by simp)

end Writes

theorem itemWriters_eq_map (items : List Expression) :
    Expression.itemWriters items = items.map Expression.write := by
  induction items with
  | nil => rfl
  | cons item rest ih => rw [Expression.itemWriters, ih, List.map_cons]

/-- The writer of a table writes its path. -/
theorem TableRef.writes (table : TableRef) : Writes table.write table.fragments := by
  cases table with
  | named schema table =>
      cases schema with
      | none => exact .name table
      | some schema => exact (Writes.name schema).andThen (.textThen "." (.name table))
  | aliased knownAs => exact .name knownAs

/-- Each node writes its own signs around what its operands write. -/
theorem Expression.writes (expression : Expression) :
    Writes expression.write expression.fragments := by
  induction expression with
  | column table name => exact table.writes.andThen (.textThen "." (.name name))
  | literal value => exact .scalar value
  | and left right ihleft ihright => exact ihleft.group " AND " ihright
  | or left right ihleft ihright => exact ihleft.group " OR " ihright
  | not operand ih => exact .textThen "NOT " ih
  | compare left comparison right ihleft ihright =>
      exact ihleft.group (comparisonSign comparison) ihright
  | among operand items ih ihitems =>
      have hitems : List.Forall₂ Writes (itemWriters items) (itemFragments items) := by
        rw [itemWriters_eq_map, itemFragments_eq_map, List.forall₂_map_left_iff,
          List.forall₂_map_right_iff, List.forall₂_same]
        exact ihitems
      have hlist : Writes (do putList (itemWriters items); putText ")"; putText ")")
          (commaSeparated (itemFragments items) ++ [.plain ")", .plain ")"]) :=
        (Writes.list hitems).andThen (.textThen ")" .closing)
      have hwhole := Writes.textThen "(" (ih.andThen (.textThen " IN " (.textThen "(" hlist)))
      exact hwhole.of_eq (by simp [fragments])
  | isNull operand ih =>
      exact (Writes.textThen "(" (ih.andThen (.textThen " IS NULL" .closing))).of_eq
        (by simp [fragments])

/-- A projection is a star, or its columns with commas between. -/
theorem Projection.writes (projection : Projection) :
    Writes projection.write projection.fragments := by
  cases projection with
  | all => exact .text "*"
  | columns listed =>
      refine Writes.list ?_
      rw [List.forall₂_map_left_iff, List.forall₂_map_right_iff, List.forall₂_same]
      exact fun column _ => column.2.writes.andThen (.textThen " AS " (.name column.1))

/-- A join writes its table, its name and its condition. -/
theorem Join.writes (join : Join) : Writes join.write join.fragments := by
  have hon : Writes (do putName join.knownAs; putText " ON "; join.condition.write)
      (.identifier join.knownAs :: .plain " ON " :: join.condition.fragments) :=
    (Writes.name join.knownAs).andThen (.textThen " ON " join.condition.writes)
  have hwhole := Writes.textThen " LEFT OUTER JOIN "
    (join.table.writes.andThen (.textThen " AS " hon))
  exact hwhole.of_eq (by simp [fragments])

/-- The literal truth is written as no condition. -/
theorem writes_condition (condition : Expression) :
    Writes (writeCondition condition) (conditionFragments condition) := by
  unfold writeCondition conditionFragments
  split
  · exact .nothing
  · exact .textThen " WHERE " condition.writes

theorem writes_joins (joins : List Join) :
    Writes (joins.forM Join.write) (joins.flatMap Join.fragments) := by
  induction joins with
  | nil => exact .nothing
  | cons join rest ih => exact join.writes.andThen ih

theorem Source.table_writes (table : TableRef) (knownAs : String) :
    Writes (Source.table table knownAs).write (Source.table table knownAs).fragments :=
  .textThen "FROM " (table.writes.andThen (.textThen " AS " (.name knownAs)))

/-- A subquery writes its select in parentheses. -/
theorem Source.subquery_writes {select : Select} (h : Writes select.write select.fragments)
    (knownAs : String) :
    Writes (Source.subquery select knownAs).write (Source.subquery select knownAs).fragments := by
  have hwhole := Writes.textThen "FROM " (.textThen "("
    (h.andThen (.textThen ")" (.textThen " AS " (.name knownAs)))))
  exact hwhole.of_eq (by simp [Source.fragments])

/-- A select is written as its fragments when its source is. -/
theorem Select.writes_of_source {source : Option Source}
    (h : ∀ given ∈ source, Writes given.write given.fragments) (projection : Projection)
    (joins : List Join) (condition : Expression) :
    Writes (Select.write ⟨projection, source, joins, condition⟩)
      (Select.fragments ⟨projection, source, joins, condition⟩) := by
  have htail := (writes_joins joins).andThen (writes_condition condition)
  cases source with
  | none =>
      have hwhole := Writes.textThen "SELECT "
        (projection.writes.andThen (Writes.nothing.andThen htail))
      exact hwhole.of_eq (by simp [fragments])
  | some given =>
      have hwhole := Writes.textThen "SELECT "
        (projection.writes.andThen ((Writes.textThen " " (h given rfl)).andThen htail))
      exact hwhole.of_eq (by simp [fragments])

/-- A select writes its clauses one behind the other, and so do the selects within it. -/
theorem Select.writes (select : Select) : Writes select.write select.fragments := by
  induction select with
  | bare projection joins condition => exact writes_of_source (by simp) _ _ _
  | table projection table knownAs joins condition =>
      refine writes_of_source ?_ _ _ _
      rintro given ⟨⟩
      exact Source.table_writes table knownAs
  | subquery projection inner knownAs joins condition ih =>
      refine writes_of_source ?_ _ _ _
      rintro given ⟨⟩
      exact Source.subquery_writes ih knownAs

theorem Source.writes (source : Source) : Writes source.write source.fragments := by
  cases source with
  | table table knownAs => exact table_writes table knownAs
  | subquery select knownAs => exact subquery_writes select.writes knownAs

end RequestFilter.Sql
