import RequestFilter.Proofs.Sql.Application
import RequestFilter.Proofs.Sql.Spelling

/-!
# Conditions in a row

A connective leaves out a literal operand that cannot change its result: a truth
in a conjunction, a falsehood in a disjunction. In whichever order a list of
conditions is folded, the result has the truth of all of them together, no such
literal becomes an operand in it, and it is that literal itself only where every
condition is. So a select goes without a WHERE clause exactly where its
conditions are all the literal truth.
-/

namespace RequestFilter.Sql

namespace Truth

/-- The truth of a conjunction: one that does not hold decides, and else one that is unknown. -/
def all (truths : List Truth) : Truth :=
  if no ∈ truths then no else if unknown ∈ truths then unknown else yes

/-- The truth of a disjunction: one that holds decides, and else one that is unknown. -/
def any (truths : List Truth) : Truth :=
  if yes ∈ truths then yes else if unknown ∈ truths then unknown else no

/-- All of two lists hold if all of the one and all of the other do. -/
theorem all_append (first second : List Truth) :
    all (first ++ second) = (all first).and (all second) := by
  unfold all
  simp only [List.mem_append]
  split_ifs <;> simp_all [and]

/-- Any of two lists holds if any of the one or any of the other does. -/
theorem any_append (first second : List Truth) :
    any (first ++ second) = (any first).or (any second) := by
  unfold any
  simp only [List.mem_append]
  split_ifs <;> simp_all [or]

end Truth

namespace Expression

mutual

/-- An expression and every expression that it is made of. -/
def parts : Expression → List Expression
  | .column table name => [.column table name]
  | .literal value => [.literal value]
  | .and left right => .and left right :: (left.parts ++ right.parts)
  | .or left right => .or left right :: (left.parts ++ right.parts)
  | .not operand => .not operand :: operand.parts
  | .compare left comparison right =>
      .compare left comparison right :: (left.parts ++ right.parts)
  | .among operand items => .among operand items :: (operand.parts ++ itemParts items)
  | .isNull operand => .isNull operand :: operand.parts

def itemParts : List Expression → List Expression
  | [] => []
  | item :: rest => item.parts ++ itemParts rest

end

end Expression

/-- The folds of a list: from the left and from the right, and from each side with the operands of
every step in one order and in the other. -/
def folds {α : Type} (step : α → α → α) (neutral : α) (list : List α) : List α :=
  [list.foldl step neutral, list.foldl (flip step) neutral,
    list.foldr step neutral, list.foldr (flip step) neutral]

/-- The connectives that leave out an operand without effect. -/
inductive Junction where
  | conjunction
  | disjunction

namespace Junction

/-- The truth value that has no effect as an operand. -/
def idle : Junction → Bool
  | conjunction => true
  | disjunction => false

def node : Junction → Expression → Expression → Expression
  | conjunction => .and
  | disjunction => .or

def connect : Junction → Expression → Expression → Expression
  | conjunction => .conj
  | disjunction => .disj

/-- The truth of two conditions together. -/
def truth : Junction → Truth → Truth → Truth
  | conjunction => .and
  | disjunction => .or

/-- The truth of many conditions together. -/
def together : Junction → List Truth → Truth
  | conjunction => .all
  | disjunction => .any

variable (junction : Junction)

def neutral : Expression := .literal (.bool junction.idle)

/-- A step connects its operands in one order or the other. -/
def IsStep (step : Expression → Expression → Expression) : Prop :=
  ∀ left right, step left right = junction.connect left right ∨
    step left right = junction.connect right left

/-- In no part does this connective have its neutral literal as an operand. -/
def Spare (condition : Expression) : Prop :=
  ∀ left right, junction.node left right ∈ condition.parts →
    left ≠ junction.neutral ∧ right ≠ junction.neutral

/-- Of two conditions one is left out because it is neutral, or both are kept. -/
theorem connect_cases (left right : Expression) :
    (left = junction.neutral ∧ junction.connect left right = right) ∨
      (right = junction.neutral ∧ junction.connect left right = left) ∨
      (left ≠ junction.neutral ∧ right ≠ junction.neutral ∧
        junction.connect left right = junction.node left right) := by
  -- the two connectives differ only in their literal and in the node that they make
  have heq : junction.connect left right =
      if left.isBool junction.idle then right
      else if right.isBool junction.idle then left
      else junction.node left right := by
    cases junction <;> rfl
  have hneutral (operand : Expression) :
      operand.isBool junction.idle = true ↔ operand = junction.neutral :=
    Expression.isBool_iff junction.idle operand
  rw [heq]
  split
  next hleft => exact .inl ⟨(hneutral left).mp hleft, rfl⟩
  next hleft =>
    split
    next hright => exact .inr (.inl ⟨(hneutral right).mp hright, rfl⟩)
    next hright =>
      exact .inr (.inr ⟨mt (hneutral left).mpr hleft, mt (hneutral right).mpr hright, rfl⟩)

/-- Nothing but neutral operands connects to the neutral literal. -/
theorem connect_eq_neutral_iff (left right : Expression) :
    junction.connect left right = junction.neutral ↔
      left = junction.neutral ∧ right = junction.neutral := by
  have hnode : junction.node left right ≠ junction.neutral := by
    cases junction <;> simp [node, neutral]
  rcases junction.connect_cases left right with ⟨hleft, heq⟩ | ⟨hright, heq⟩ | ⟨hleft, -, heq⟩
  · rw [heq]
    exact ⟨fun h => ⟨hleft, h⟩, And.right⟩
  · rw [heq]
    exact ⟨fun h => ⟨h, hright⟩, And.left⟩
  · rw [heq]
    exact ⟨fun h => absurd h hnode, fun h => absurd h.1 hleft⟩

/-- The neutral literal has no operands. -/
theorem spare_neutral : junction.Spare junction.neutral := by
  intro left right hpart
  cases junction <;> simp [node, neutral, Expression.parts] at hpart

/-- To connect spare conditions leaves no neutral literal behind as an operand. -/
theorem spare_connect {left right : Expression} (hleft : junction.Spare left)
    (hright : junction.Spare right) : junction.Spare (junction.connect left right) := by
  rcases junction.connect_cases left right with ⟨-, heq⟩ | ⟨-, heq⟩ | ⟨hleft', hright', heq⟩
  · rwa [heq]
  · rwa [heq]
  · rw [heq]
    intro first second hpart
    have hparts : (junction.node left right).parts =
        junction.node left right :: (left.parts ++ right.parts) := by
      cases junction <;> rfl
    rw [hparts, List.mem_cons, List.mem_append] at hpart
    rcases hpart with hnode | hpart | hpart
    · have hoperands : first = left ∧ second = right := by
        cases junction <;> simpa [node] using hnode
      rw [hoperands.1, hoperands.2]
      exact ⟨hleft', hright'⟩
    · exact hleft first second hpart
    · exact hright first second hpart

/-- The connective of a list is the connective of its parts. -/
theorem together_append (first second : List Truth) :
    junction.together (first ++ second) =
      junction.truth (junction.together first) (junction.together second) := by
  cases junction with
  | conjunction => exact Truth.all_append first second
  | disjunction => exact Truth.any_append first second

/-- In which order conditions are taken together does not matter. -/
theorem together_eq_of_perm {first second : List Truth} (h : first.Perm second) :
    junction.together first = junction.together second := by
  cases junction <;> simp only [together, Truth.all, Truth.any, h.mem_iff]

/-- A neutral operand can be left out without a change of the truth value. -/
theorem truthGiven_connect (atoms : Expression → Truth) (left right : Expression) :
    (junction.connect left right).truthGiven atoms =
      junction.truth (left.truthGiven atoms) (right.truthGiven atoms) := by
  rcases junction.connect_cases left right with ⟨rfl, heq⟩ | ⟨rfl, heq⟩ | ⟨-, -, heq⟩
  · rw [heq]
    cases junction <;> rfl
  · rw [heq]
    cases junction <;> cases left.truthGiven atoms <;> rfl
  · rw [heq]
    cases junction <;> rfl

/-- Conditions are folded in some order: none of them to the neutral literal, one to itself, and
several by connecting what two groups of them are folded to. -/
inductive Gathered : List Expression → Expression → Prop
  | none : Gathered [] junction.neutral
  | one (condition : Expression) : Gathered [condition] condition
  | both {first second conditions : List Expression} {left right : Expression}
      (hleft : Gathered first left) (hright : Gathered second right)
      (hconditions : conditions.Perm (first ++ second)) :
      Gathered conditions (junction.connect left right)

namespace Gathered

variable {junction} {conditions : List Expression} {folded : Expression}

/-- Whatever the shape of the tree, its truth value is that of all its conditions together. -/
theorem truthGiven_eq (h : junction.Gathered conditions folded) (atoms : Expression → Truth) :
    folded.truthGiven atoms =
      junction.together (conditions.map (Expression.truthGiven atoms)) := by
  induction h with
  | none => cases junction <;> rfl
  | one condition =>
      change _ = junction.together [condition.truthGiven atoms]
      cases junction <;> cases condition.truthGiven atoms <;> rfl
  | both hleft hright hconditions ihleft ihright =>
      rw [truthGiven_connect, ihleft, ihright, ← together_append, ← List.map_append]
      exact junction.together_eq_of_perm (hconditions.symm.map _)

/-- So it is in every database and for every row. -/
theorem truth_eq {V : Type} (h : junction.Gathered conditions folded)
    (database : Interpretation V) (row : Row V) :
    folded.truth database row =
      junction.together (conditions.map (Expression.truth database row)) := by
  have hgiven := h.truthGiven_eq fun atom => atom.truth database row
  rwa [← Expression.truth_eq_truthGiven,
    List.map_congr_left fun condition _ =>
      (Expression.truth_eq_truthGiven database row condition).symm] at hgiven

/-- What is gathered of spare conditions is spare. -/
theorem spare (h : junction.Gathered conditions folded)
    (hconditions : ∀ condition ∈ conditions, junction.Spare condition) :
    junction.Spare folded := by
  induction h with
  | none => exact junction.spare_neutral
  | one condition => exact hconditions condition List.mem_cons_self
  | both hleft hright horder ihleft ihright =>
      refine junction.spare_connect (ihleft fun condition hcondition => ?_)
        (ihright fun condition hcondition => ?_)
      · exact hconditions condition (horder.mem_iff.mpr (List.mem_append_left _ hcondition))
      · exact hconditions condition (horder.mem_iff.mpr (List.mem_append_right _ hcondition))

/-- What is gathered is the neutral literal only if every condition is. -/
theorem eq_neutral_iff (h : junction.Gathered conditions folded) :
    folded = junction.neutral ↔ ∀ condition ∈ conditions, condition = junction.neutral := by
  induction h with
  | none => simp
  | one condition => simp
  | both hleft hright horder ihleft ihright =>
      rw [connect_eq_neutral_iff, ihleft, ihright, ← List.forall_mem_append]
      simp only [horder.mem_iff]

/-- A fold from the left gathers the conditions that it goes through. -/
theorem foldl {step : Expression → Expression → Expression} (hstep : junction.IsStep step)
    (h : junction.Gathered conditions folded) (further : List Expression) :
    junction.Gathered (conditions ++ further) (further.foldl step folded) := by
  induction further generalizing conditions folded with
  | nil => rwa [List.append_nil]
  | cons next rest ih =>
      rw [List.foldl_cons, List.append_cons]
      refine ih ?_
      rcases hstep folded next with heq | heq
      · rw [heq]
        exact .both h (.one next) (.refl _)
      · rw [heq]
        exact .both (.one next) h List.perm_append_comm

/-- A fold from the right does too. -/
theorem foldr {step : Expression → Expression → Expression} (hstep : junction.IsStep step)
    (conditions : List Expression) :
    junction.Gathered conditions (conditions.foldr step junction.neutral) := by
  induction conditions with
  | nil => exact .none
  | cons next rest ih =>
      rw [List.foldr_cons]
      rcases hstep next (rest.foldr step junction.neutral) with heq | heq
      · rw [heq]
        exact .both (.one next) ih (.refl _)
      · rw [heq]
        exact .both ih (.one next) (List.perm_append_singleton next rest).symm

/-- Each of the folds gathers its conditions. -/
theorem of_mem_folds (h : folded ∈ folds junction.connect junction.neutral conditions) :
    junction.Gathered conditions folded := by
  have hbehind : junction.IsStep junction.connect := fun _ _ => .inl rfl
  have hbefore : junction.IsStep (flip junction.connect) := fun _ _ => .inr rfl
  simp only [folds, List.mem_cons, List.not_mem_nil, or_false] at h
  rcases h with rfl | rfl | rfl | rfl
  · exact foldl hbehind .none conditions
  · exact foldl hbefore .none conditions
  · exact foldr hbehind conditions
  · exact foldr hbefore conditions

end Gathered

end Junction

namespace Select

/-- The clauses in front of the condition. -/
def clauses (select : Select) : List Fragment :=
  .plain "SELECT " :: select.projection.fragments ++
    (match select.source with
      | none => []
      | some source => .plain " " :: source.fragments) ++
    select.joins.flatMap Join.fragments

/-- The condition is the last clause of a select. -/
theorem fragments_eq_append (select : Select) :
    select.fragments = select.clauses ++ conditionFragments select.condition := by
  obtain ⟨projection, source, joins, condition⟩ := select
  cases source <;> rfl

/-- The text ends with the clauses in front of the condition where this is the literal truth. -/
theorem text_statement_eq_clauses_iff (select : Select) :
    select.statement.text = (Statement.ofFragments select.clauses).text ↔
      select.condition = .always := by
  have htext : select.statement.text.toList =
      (Statement.ofFragments select.clauses).text.toList ++
        Fragment.spelled (select.clauses.flatMap Fragment.bound).length
          (conditionFragments select.condition) := by
    rw [statement, fragments_eq_append, Statement.text_ofFragments, Statement.text_ofFragments,
      Fragment.spelled_append, Nat.zero_add]
  rw [← String.toList_inj, htext, List.append_right_eq_self, conditionFragments]
  split
  next htrue => exact iff_of_true rfl ((Expression.isBool_iff true _).mp htrue)
  next hfalse =>
    refine iff_of_false ?_ (mt (Expression.isBool_iff true _).mpr hfalse)
    simp

end Select

/-- Conditions that are folded into a conjunction or a disjunction, from either side, mean all of
them together: whatever truth their atoms have, and so on every row. If no condition has a literal
truth as an operand of a conjunction, their conjunction has none either, and likewise for literal
falsehoods and disjunctions. The conjunction is the literal truth, and a select under it has no
WHERE clause, exactly when every condition is the literal truth. It is the condition of a select
that is restricted by all of them in turn. -/
theorem Expression.folds_mean_all_or_any (conditions : List Expression) :
    (∀ folded ∈ folds conj always conditions,
      (∀ atoms, folded.truthGiven atoms = .all (conditions.map (truthGiven atoms))) ∧
        (∀ (V : Type) (database : Interpretation V) (row : Row V),
          folded.truth database row = .all (conditions.map (truth database row))) ∧
        ((∀ condition ∈ conditions, Junction.conjunction.Spare condition) →
          Junction.conjunction.Spare folded) ∧
        (folded = always ↔ ∀ condition ∈ conditions, condition = always) ∧
        ∀ select : Select, select.condition = folded →
          (select.statement.text = (Statement.ofFragments select.clauses).text ↔
            ∀ condition ∈ conditions, condition = always)) ∧
      (∀ folded ∈ folds disj never conditions,
        (∀ atoms, folded.truthGiven atoms = .any (conditions.map (truthGiven atoms))) ∧
          (∀ (V : Type) (database : Interpretation V) (row : Row V),
            folded.truth database row = .any (conditions.map (truth database row))) ∧
          ((∀ condition ∈ conditions, Junction.disjunction.Spare condition) →
            Junction.disjunction.Spare folded) ∧
          (folded = never ↔ ∀ condition ∈ conditions, condition = never)) ∧
      ∀ projection source joins,
        conditions.foldl Select.restrict ⟨projection, source, joins, always⟩ =
          ⟨projection, source, joins, conditions.foldl conj always⟩ := by
  refine ⟨fun folded hfolded => ?conjunction, fun folded hfolded => ?disjunction,
    fun projection source joins => Select.foldl_restrict _ conditions⟩
  case conjunction =>
    have hgathered : Junction.conjunction.Gathered conditions folded := .of_mem_folds hfolded
    refine ⟨hgathered.truthGiven_eq, fun V => hgathered.truth_eq, hgathered.spare,
      hgathered.eq_neutral_iff, fun select hselect => ?_⟩
    rw [select.text_statement_eq_clauses_iff, hselect]
    exact hgathered.eq_neutral_iff
  case disjunction =>
    have hgathered : Junction.disjunction.Gathered conditions folded := .of_mem_folds hfolded
    exact ⟨hgathered.truthGiven_eq, fun V => hgathered.truth_eq, hgathered.spare,
      hgathered.eq_neutral_iff⟩

/-- Two literal truths are left out of the conjunction, which is unknown where the flag is. In the
disjunction they stay and decide. -/
theorem Expression.folds_mean_all_or_any_flags :
    let flag : Expression := .column (.aliased "t") "a"
    let negation : Expression := .not (.and (.column (.aliased "t") "b") (.isNull flag))
    let conditions : List Expression := [always, flag, negation, always]
    let both : Expression := .and flag negation
    let either : Expression := .or always (.or flag (.or negation always))
    both ∈ folds conj always conditions ∧ either ∈ folds disj never conditions ∧
      (∀ condition ∈ conditions,
        Junction.conjunction.Spare condition ∧ Junction.disjunction.Spare condition) ∧
      Junction.conjunction.Spare both ∧ Junction.disjunction.Spare either ∧
      (∀ atoms, atoms flag = .unknown → atoms (.isNull flag) = .no →
        both.truthGiven atoms = .unknown ∧ either.truthGiven atoms = .yes) ∧
      ∀ select : Select, select.condition = both →
        select.statement.text ≠ (Statement.ofFragments select.clauses).text := by
  intro flag negation conditions both either
  obtain ⟨hall, hany, -⟩ := folds_mean_all_or_any conditions
  have hboth : both ∈ folds conj always conditions := List.mem_cons_self
  have heither : either ∈ folds disj never conditions := by
    simp [folds, conditions, either, disj, isBool, always, never, flag, negation]
  have hspare : ∀ condition ∈ conditions,
      Junction.conjunction.Spare condition ∧ Junction.disjunction.Spare condition := by
    simp [conditions, Junction.Spare, Junction.node, Junction.neutral, parts, always, flag,
      negation]
  obtain ⟨hbothTruth, -, hbothSpare, -, hbothClauses⟩ := hall both hboth
  obtain ⟨heitherTruth, -, heitherSpare, -⟩ := hany either heither
  refine ⟨hboth, heither, hspare, hbothSpare fun condition h => (hspare condition h).1,
    heitherSpare fun condition h => (hspare condition h).2, fun atoms hflag hnull => ?_,
    fun select hselect htext => ?_⟩
  · have htruths : conditions.map (truthGiven atoms) = [.yes, .unknown, .yes, .yes] := by
      change [Truth.yes, atoms flag, (Truth.and _ (atoms (.isNull flag))).not, .yes] = _
      rw [hflag, hnull]
      cases truthGiven atoms (.column (.aliased "t") "b") <;> rfl
    rw [hbothTruth, heitherTruth, htruths]
    exact ⟨rfl, rfl⟩
  · have halways := (hbothClauses select hselect).mp htext flag (by simp [conditions])
    simp [flag, always] at halways

end RequestFilter.Sql
