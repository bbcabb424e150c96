import RequestFilter.Proofs.Definition.Program
import RequestFilter.Proofs.Definition.Refusal
import RequestFilter.Proofs.Sql.Application

/-!
# Selects and records

A definition does the same to a select as to a builder that only writes down
its predicates: it reports the same or fails in the same way, and the select is
narrowed by the predicates that were written down, in their order, and by
nothing else.
-/

namespace RequestFilter

open Sql

/-- The condition that a predicate puts on a row. Membership in no value holds of no row. -/
def Predicate.condition : Predicate → Expression
  | among _ [] => .literal (.bool false)
  | among field (first :: rest) =>
      .among (.column (.aliased field.table) field.field)
        (.literal first :: rest.map .literal)
  | compares field comparison value =>
      .compare (.column (.aliased field.table) field.field) comparison (.literal value)

namespace Sql.Select

/-- A select refuses no predicate, and a predicate narrows its condition. -/
theorem runOn_add (predicate : Predicate) (select : Select) :
    (predicate.add : Building Select TargetError Unit).runOn select =
      (.ok (), select.restrict predicate.condition) := by
  cases predicate with
  | among field values => cases values <;> rfl
  | compares field comparison value => rfl

/-- The select is the given one, narrowed by what was taken down. -/
def IsNarrowedBy (original : Select) (narrowed : Select) (journal : Journal TargetError) : Prop :=
  (∀ number, journal.refusal number = none) ∧
    narrowed = { original with
      condition := (journal.taken.map Predicate.condition).foldl .conj original.condition }

/-- A predicate narrows the select and is taken down. -/
theorem parallel_add (original : Select) (predicate : Predicate) :
    Building.Parallel (IsNarrowedBy original) predicate.add predicate.add := by
  rintro narrowed journal ⟨hrefusal, rfl⟩
  rw [runOn_add, Journal.runOn_add, hrefusal]
  refine ⟨rfl, hrefusal, ?_⟩
  simp only [restrict, List.map_append, List.map_cons, List.map_nil, List.foldl_append,
    List.foldl_cons, List.foldl_nil]

end Sql.Select

namespace PortableDefinition

/-- A definition whose rules have nothing but their target comes to the same on a select as on a
builder that takes down every predicate under the alias of the select's source. Nothing but the
condition of the select changes: what was taken down is added to it in order. -/
theorem apply_select_eq_recorded (definition : PortableDefinition Unit TargetError) (bag : Bag)
    (projection : Projection) (source : Source) (joins : List Join) (condition : Expression) :
    let recorded := ((definition.on (RuleProgram.run .nothing)).apply bag).runOn
      (Journal.new source.knownAs fun _ => none)
    ((definition.on (RuleProgram.run .nothing)).apply bag).runOn
        (⟨projection, some source, joins, condition⟩ : Select) =
      (recorded.1, ⟨projection, some source, joins,
        (recorded.2.taken.map Predicate.condition).foldl .conj condition⟩) := by
  intro recorded
  let original : Select := ⟨projection, some source, joins, condition⟩
  let journal : Journal TargetError := .new source.knownAs fun _ => none
  have hstart : original.IsNarrowedBy original journal := ⟨fun _ => rfl, rfl⟩
  have hprograms := definition.parallel_on (RuleProgram.parallel_run original.parallel_add
    .nothing .nothing fun _ _ h => ⟨rfl, fun _ => h⟩)
  have hentries := hprograms.resolveEntries original.parallel_add ⟨source.knownAs⟩ .empty
    (definition.sanitizer.sanitize bag).bag.entries original journal hstart
  have hrecorded : recorded = _ := Building.runOn_bind_of_ok (Journal.runOn_resolve journal)
  rw [Definition.apply, Building.runOn_bind_of_ok (Select.runOn_resolve rfl), hrecorded]
  exact Prod.ext hentries.1 hentries.2.2

end PortableDefinition

end RequestFilter
