import RequestFilter.Proofs.Pattern.Matching
import RequestFilter.Proofs.Sql.Induction

/-!
# What conditions mean

Conditions are read over a row in three-valued logic: a comparison with NULL is
neither true nor false, and a row is selected only where its condition is true.
A database decides how values compare; how the truth of parts gives the truth of
a whole is decided here.
-/

namespace RequestFilter.Sql

/-- The truth of a condition, which NULL leaves unknown. -/
inductive Truth where
  | no
  | unknown
  | yes
deriving DecidableEq

namespace Truth

def ofBool : Bool → Truth
  | true => yes
  | false => no

def not : Truth → Truth
  | yes => no
  | unknown => unknown
  | no => yes

/-- Both hold; one that does not decides. -/
def and : Truth → Truth → Truth
  | yes, other => other
  | no, _ => no
  | unknown, no => no
  | unknown, _ => unknown

/-- One of them holds; one that does decides. -/
def or : Truth → Truth → Truth
  | no, other => other
  | yes, _ => yes
  | unknown, yes => yes
  | unknown, _ => unknown

@[simp]
theorem ofBool_eq_yes_iff (b : Bool) : ofBool b = yes ↔ b = true := by
  cases b <;> simp [ofBool]

@[simp]
theorem and_eq_yes_iff (a b : Truth) : a.and b = yes ↔ a = yes ∧ b = yes := by
  cases a <;> cases b <;> simp [and]

@[simp]
theorem or_eq_yes_iff (a b : Truth) : a.or b = yes ↔ a = yes ∨ b = yes := by
  cases a <;> cases b <;> simp [or]

@[simp]
theorem and_yes (a : Truth) : a.and yes = a := by
  cases a <;> rfl

end Truth

/-- How a database takes what a statement leaves to it. A string that a pattern is
compared with is its own text, and a literal truth value holds as it says. -/
structure Interpretation (V : Type) where
  /-- The value that a literal denotes. -/
  literal : Scalar → V
  text : V → String
  /-- Comparisons of two present values; the two with patterns are not asked for. -/
  compare : Comparison → V → V → Truth
  /-- The truth of a present value that stands as a condition. -/
  condition : V → Truth
  folding : Folding
  text_string : ∀ s, text (literal (.string s)) = s
  condition_bool : ∀ b, condition (literal (.bool b)) = .ofBool b

/-- A row: every column has a value or is NULL. -/
abbrev Row (V : Type) := TableRef → String → Option V

namespace Interpretation

variable {V : Type} (database : Interpretation V)

/-- A truth as a value: what is unknown is NULL. -/
def ofTruth : Truth → Option V
  | .yes => some (database.literal (.bool true))
  | .no => some (database.literal (.bool false))
  | .unknown => none

/-- The truth of a value that stands as a condition. -/
def holds : Option V → Truth
  | some value => database.condition value
  | none => .unknown

/-- A comparison of two values, unknown when one is NULL. -/
def compared (comparison : Comparison) : Option V → Option V → Truth
  | some left, some right =>
      let text := (database.text left).toList
      let pattern := (database.text right).toList
      match comparison with
      | .like => .ofBool (matchesPattern pattern text)
      | .likeIgnoringCase =>
          .ofBool (matchesPattern (pattern.map database.folding.fold)
            (text.map database.folding.fold))
      | _ => database.compare comparison left right
  | _, _ => .unknown

/-- Membership in a list: equality with one of the values. -/
def amongTruth (value : Option V) : List (Option V) → Truth
  | [] => .no
  | item :: rest => (database.compared .equal value item).or (amongTruth value rest)

@[simp]
theorem holds_ofTruth (truth : Truth) : database.holds (database.ofTruth truth) = truth := by
  cases truth with
  | no => exact database.condition_bool false
  | unknown => rfl
  | yes => exact database.condition_bool true

theorem amongTruth_eq_yes_iff (value : Option V) (items : List (Option V)) :
    database.amongTruth value items = .yes ↔
      ∃ item ∈ items, database.compared .equal value item = .yes := by
  induction items with
  | nil => simp [amongTruth]
  | cons item rest ih => simp [amongTruth, ih]

/-- A value matches a containment pattern, ignoring case, when its folded text contains the
folded text of the pattern. -/
theorem compared_containsPattern (value : V) (wanted : String) :
    database.compared .likeIgnoringCase (some value)
        (some (database.literal (.string (containsPattern wanted)))) = .yes ↔
      wanted.toList.map database.folding.fold <:+:
        (database.text value).toList.map database.folding.fold := by
  simp only [compared, database.text_string, containsPattern, String.toList_ofList,
    Folding.map_containsChars, Truth.ofBool_eq_yes_iff, matchesPattern_containsChars]

end Interpretation

namespace Expression

section Given

variable (atoms : Expression → Truth)

/-- The truth of a condition, once that of its atoms is given: of comparisons, memberships and
whatever else is neither a connective nor a literal truth. -/
def truthGiven : Expression → Truth
  | .and left right => left.truthGiven.and right.truthGiven
  | .or left right => left.truthGiven.or right.truthGiven
  | .not operand => operand.truthGiven.not
  | .literal (.bool value) => .ofBool value
  | atom => atoms atom

theorem truthGiven_of_isBool {condition : Expression} {b : Bool}
    (h : condition.isBool b = true) : condition.truthGiven atoms = .ofBool b := by
  rw [(isBool_iff b condition).mp h]
  rfl

/-- Leaving out a literal truth does not change what a conjunction means. -/
theorem truthGiven_conj (left right : Expression) :
    (left.conj right).truthGiven atoms =
      (left.truthGiven atoms).and (right.truthGiven atoms) := by
  unfold conj
  split
  next hleft =>
    rw [truthGiven_of_isBool atoms hleft]
    rfl
  next =>
    split
    next hright =>
      rw [truthGiven_of_isBool atoms hright]
      exact (Truth.and_yes _).symm
    next => rfl

/-- A conjunction of many holds where all of them do. -/
theorem truthGiven_foldl_conj_eq_yes_iff (condition : Expression) (predicates : List Expression) :
    (predicates.foldl conj condition).truthGiven atoms = .yes ↔
      condition.truthGiven atoms = .yes ∧
        ∀ predicate ∈ predicates, predicate.truthGiven atoms = .yes := by
  induction predicates generalizing condition with
  | nil => simp
  | cons predicate rest ih =>
      rw [List.foldl_cons, ih, truthGiven_conj, Truth.and_eq_yes_iff, List.forall_mem_cons,
        and_assoc]

end Given

variable {V : Type} (database : Interpretation V) (row : Row V)

mutual

/-- The value of an expression on a row, `none` for NULL. -/
def value : Expression → Option V
  | .column table name => row table name
  | .literal scalar => some (database.literal scalar)
  | .and left right =>
      database.ofTruth ((database.holds left.value).and (database.holds right.value))
  | .or left right =>
      database.ofTruth ((database.holds left.value).or (database.holds right.value))
  | .not operand => database.ofTruth (database.holds operand.value).not
  | .compare left comparison right =>
      database.ofTruth (database.compared comparison left.value right.value)
  | .among operand items => database.ofTruth (database.amongTruth operand.value (values items))
  | .isNull operand => database.ofTruth (.ofBool operand.value.isNone)

def values : List Expression → List (Option V)
  | [] => []
  | item :: rest => item.value :: values rest

end

/-- The truth of a condition on a row. -/
def truth (condition : Expression) : Truth :=
  database.holds (condition.value database row)

theorem values_eq_map (items : List Expression) :
    values database row items = items.map (value database row) := by
  induction items with
  | nil => rfl
  | cons item rest ih => rw [values, ih, List.map_cons]

/-- A database and a row settle the truth of the atoms, and with it that of every condition. -/
theorem truth_eq_truthGiven (condition : Expression) :
    condition.truth database row =
      condition.truthGiven fun atom => atom.truth database row := by
  induction condition with
  | column _ _ | compare _ _ _ _ _ | among _ _ _ _ | isNull _ _ => rfl
  | literal scalar =>
      cases scalar with
      | bool b => exact database.condition_bool b
      | int _ | float _ | string _ => rfl
  | and left right hleft hright =>
      rw [truthGiven, ← hleft, ← hright]
      exact database.holds_ofTruth _
  | or left right hleft hright =>
      rw [truthGiven, ← hleft, ← hright]
      exact database.holds_ofTruth _
  | not operand hoperand =>
      rw [truthGiven, ← hoperand]
      exact database.holds_ofTruth _

theorem truth_never : never.truth database row = .no :=
  database.condition_bool false

/-- A conjunction of many holds where all of them do. -/
theorem truth_foldl_conj_eq_yes_iff (condition : Expression) (predicates : List Expression) :
    (predicates.foldl conj condition).truth database row = .yes ↔
      condition.truth database row = .yes ∧
        ∀ predicate ∈ predicates, predicate.truth database row = .yes := by
  rw [truth_eq_truthGiven, truthGiven_foldl_conj_eq_yes_iff]
  simp only [← truth_eq_truthGiven]

end Expression

end RequestFilter.Sql
