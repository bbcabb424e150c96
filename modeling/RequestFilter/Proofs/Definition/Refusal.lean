import RequestFilter.Proofs.Definition.Script
import RequestFilter.Proofs.OrderedMap

/-!
# Builders that refuse

When a builder refuses a predicate, an application ends there: what was added
before stays, nothing is asked of the builder afterwards, and its error is the
answer. A builder that refuses no predicate of the application makes no
difference.
-/

namespace RequestFilter

/-- A builder that writes down the predicates it takes, and counts all that it is asked for. Which
of them it refuses, and with what error, is settled beforehand by their number. -/
structure Journal (ε : Type) where
  table : String
  refusal : Nat → Option ε
  taken : List Predicate
  asked : Nat

namespace Journal

variable {ε α : Type}

def new (table : String) (refusal : Nat → Option ε) : Journal ε :=
  ⟨table, refusal, [], 0⟩

/-- Take a predicate or refuse it, as was settled for its number. -/
def enter (predicate : Predicate) : Building (Journal ε) ε Unit := do
  let journal ← get
  match journal.refusal journal.asked with
  | none => set { journal with taken := journal.taken ++ [predicate], asked := journal.asked + 1 }
  | some error => do
      set { journal with asked := journal.asked + 1 }
      throw error

instance : QueryBuilder (Journal ε) ε where
  tableName := do
    let journal ← get
    return journal.table
  whereIn field values := enter (.among field values)
  whereCompares field comparison value := enter (.compares field comparison value)

theorem runOn_add (predicate : Predicate) (journal : Journal ε) :
    (predicate.add : Building (Journal ε) ε Unit).runOn journal =
      match journal.refusal journal.asked with
      | none => (.ok (), { journal with
          taken := journal.taken ++ [predicate], asked := journal.asked + 1 })
      | some error => (.error error, { journal with asked := journal.asked + 1 }) := by
  have henter : (predicate.add : Building (Journal ε) ε Unit) = enter predicate := by
    cases predicate <;> rfl
  rw [henter, enter, Building.runOn_bind, Building.runOn_get]
  cases hrefusal : journal.refusal journal.asked with
  | none => simp [hrefusal]
  | some error => simp [hrefusal, Building.runOn_bind]

/-- Predicates that are all taken are written down in order, and the ending follows. -/
theorem addThen_of_forall_none (predicates : List Predicate) (ending : Except ε α)
    (journal : Journal ε)
    (h : ∀ number, journal.asked ≤ number → number < journal.asked + predicates.length →
      journal.refusal number = none) :
    Predicate.addThen predicates ending journal =
      (ending, { journal with
        taken := journal.taken ++ predicates
        asked := journal.asked + predicates.length }) := by
  induction predicates generalizing journal with
  | nil => simp
  | cons predicate rest ih =>
      have hfirst : journal.refusal journal.asked = none :=
        h _ (Nat.le_refl _) (by simp)
      rw [Predicate.addThen_cons, runOn_add, hfirst]
      simp only
      rw [ih]
      · simp [Nat.add_assoc, Nat.add_comm 1]
      · intro number hfrom hbelow
        simp only at hfrom hbelow
        exact h number (by omega) (by simp; omega)

/-- Of predicates among which one is refused, those before it are written down, and those behind
it are not asked for. -/
theorem addThen_of_some {predicates : List Predicate} {position : Nat}
    (hposition : position < predicates.length) (ending : Except ε α) (journal : Journal ε)
    {error : ε} (hrefused : journal.refusal (journal.asked + position) = some error)
    (htaken : ∀ number, journal.asked ≤ number → number < journal.asked + position →
      journal.refusal number = none) :
    Predicate.addThen predicates ending journal =
      (.error error, { journal with
        taken := journal.taken ++ predicates.take position
        asked := journal.asked + position + 1 }) := by
  induction predicates generalizing position journal with
  | nil => simp at hposition
  | cons predicate rest ih =>
      rw [Predicate.addThen_cons, runOn_add]
      cases position with
      | zero =>
          rw [Nat.add_zero] at hrefused
          simp [hrefused]
      | succ position =>
          have hfirst : journal.refusal journal.asked = none :=
            htaken _ (Nat.le_refl _) (by omega)
          rw [hfirst]
          simp only
          rw [ih (Nat.lt_of_succ_lt_succ hposition)]
          · simp [Nat.add_assoc, Nat.add_comm 1]
          · simpa only [Nat.add_assoc, Nat.add_comm 1] using hrefused
          · intro number hfrom hbelow
            simp only at hfrom hbelow
            exact htaken number (by omega) (by omega)

theorem runOn_resolve (journal : Journal ε) :
    (Target.resolve : Building (Journal ε) ε Target).runOn journal =
      (.ok ⟨journal.table⟩, journal) := rfl

end Journal

namespace Definition

variable {ε : Type}

/-- An application ends at the first predicate that its builder refuses: it is answered with the
builder's error, the predicates taken are those before it, as on a builder that takes everything,
and nothing further is asked for. When all its predicates come before a refusal, it is as on a
builder that takes everything. -/
theorem apply_ends_at_refusal (definition : Definition (Journal ε) ε)
    (hscripted : definition.IsScripted) (bag : Bag) (table : String)
    (refusal : Nat → Option ε) (k : Nat) (error : ε)
    (htaken : ∀ number < k, refusal number = none) (hrefused : refusal k = some error) :
    let accepting := (definition.apply bag).runOn (.new table fun _ => none)
    let refusing := (definition.apply bag).runOn (.new table refusal)
    accepting.2.asked = accepting.2.taken.length ∧
      (accepting.2.taken.length ≤ k →
        refusing = (accepting.1, { accepting.2 with refusal := refusal })) ∧
      (k < accepting.2.taken.length →
        refusing = (.error error, ⟨table, refusal, accepting.2.taken.take k, k + 1⟩)) := by
  obtain ⟨predicates, ending, hrun⟩ := hscripted.onlyAdds_resolveEntries ⟨table⟩ .empty
    (definition.sanitizer.sanitize bag).bag.entries
  have happly : ∀ refusal : Nat → Option ε,
      (definition.apply bag).runOn (.new table refusal) =
        Predicate.addThen predicates ending (Journal.new table refusal) := by
    intro refusal
    rw [apply, Building.runOn_bind_of_ok (Journal.runOn_resolve _)]
    exact hrun _
  intro accepting refusing
  have haccepting : accepting =
      (ending, ⟨table, fun _ => none, predicates, predicates.length⟩) := by
    refine (happly _).trans ?_
    rw [Journal.addThen_of_forall_none _ _ _ fun _ _ _ => rfl]
    simp [Journal.new]
  rw [haccepting]
  refine ⟨rfl, fun hlength => ?_, fun hlength => ?_⟩
  · refine (happly refusal).trans ?_
    rw [Journal.addThen_of_forall_none]
    · simp [Journal.new]
    · intro number _ hbelow
      exact htaken number (by simp [Journal.new] at hbelow hlength; omega)
  · refine (happly refusal).trans ?_
    rw [Journal.addThen_of_some hlength ending _ (by simpa [Journal.new] using hrefused)]
    · simp [Journal.new]
    · intro number _ hbelow
      exact htaken number (by simpa [Journal.new] using hbelow)

/-- A rule for ages that adds two predicates and then gives up. -/
def unsureSearch : Definition (Journal String) String :=
  ⟨⟨.ofList [("status", .exactOrIn), ("name", .like)]⟩,
    (RuleSet.empty defaultRulePrefix).insertForField "age" fun target value =>
      PredicateStep.performAll target [.generic .exactOrIn "age" value,
        .whereCompares "age" .greater (.int 17), .fail "no age"],
    .default⟩

/-- Of three predicates the second is refused: the third one and the error of the rule do not
come to pass, although the builder would take predicates again. -/
theorem apply_ends_at_refusal_unsureSearch :
    let bag : Bag := .ofList [("status", .sequence [.int 1, .int 3]), ("age", .scalar (.int 20))]
    let refusal (number : Nat) := if number = 1 then some "full" else none
    unsureSearch.IsScripted ∧ (∀ number < 1, refusal number = none) ∧ refusal 1 = some "full" ∧
      ((unsureSearch.apply bag).runOn (.new "users" fun _ => none)).1 = .error "no age" ∧
      (unsureSearch.apply bag).runOn (.new "users" refusal) =
        (.error "full", ⟨"users", refusal, [.among ⟨"users", "status"⟩ [.int 1, .int 3]], 2⟩) := by
  intro bag refusal
  have hscripted : unsureSearch.IsScripted := by
    intro name handler hhandler
    -- the rules have one entry
    cases List.mem_singleton.mp (mem_of_findEntry_eq_some hhandler)
    exact ⟨fun _ value => [.generic .exactOrIn "age" value, _, _], rfl⟩
  have htaken : ∀ number < 1, refusal number = none := by decide
  refine ⟨hscripted, htaken, rfl, rfl, ?_⟩
  exact (apply_ends_at_refusal unsureSearch hscripted bag "users" refusal 1 "full" htaken rfl).2.2
    (by decide +kernel)

end Definition

end RequestFilter
