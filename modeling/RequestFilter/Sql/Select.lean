import RequestFilter.Sql.Expression

/-!
# Select statements

What a statement selects, from where, with which joins and under which
condition.
-/

namespace RequestFilter.Sql

/-- The selected columns: all of them, or expressions with their aliases. -/
inductive Projection where
  | all
  | columns (columns : List (String × Expression))

structure Join where
  table : TableRef
  knownAs : String
  condition : Expression

mutual

structure Select where
  projection : Projection
  source : Option Source
  joins : List Join
  condition : Expression

/-- Where rows come from, with the alias under which they are known. -/
inductive Source where
  | table (table : TableRef) (knownAs : String)
  | subquery (select : Select) (knownAs : String)

end

namespace Source

def knownAs : Source → String
  | .table _ knownAs => knownAs
  | .subquery _ knownAs => knownAs

end Source

namespace Projection

def equals : Projection → Projection → Bool
  | .all, .all => true
  | .columns listed, .columns listed' =>
      listed.map Prod.fst == listed'.map Prod.fst &&
        Expression.equalItems (listed.map Prod.snd) (listed'.map Prod.snd)
  | _, _ => false

end Projection

namespace Join

def equals (join join' : Join) : Bool :=
  join.table == join'.table && join.knownAs == join'.knownAs &&
    join.condition.equals join'.condition

end Join

mutual

/-- Equality of trees, with the doubles in them compared as numbers. -/
def Select.equals : Select → Select → Bool
  | ⟨projection, source, joins, condition⟩, ⟨projection', source', joins', condition'⟩ =>
      projection.equals projection' &&
        (match source, source' with
          | none, none => true
          | some source, some source' => source.equals source'
          | _, _ => false) &&
        (joins.length == joins'.length &&
          (joins.zip joins').all fun pair => pair.1.equals pair.2) &&
        condition.equals condition'

def Source.equals : Source → Source → Bool
  | .table table knownAs, .table table' knownAs' => table == table' && knownAs == knownAs'
  | .subquery select knownAs, .subquery select' knownAs' =>
      select.equals select' && knownAs == knownAs'
  | _, _ => false

end

namespace Select

/-- All columns of a source, without joins or a condition. -/
def star (source : Source) : Select :=
  ⟨.all, some source, [], .always⟩

def restrict (select : Select) (predicate : Expression) : Select :=
  { select with condition := select.condition.conj predicate }

end Select

end RequestFilter.Sql
