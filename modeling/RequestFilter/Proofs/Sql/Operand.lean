import RequestFilter.Proofs.Bag.Decoded
import RequestFilter.Proofs.Sql.Application
import RequestFilter.Proofs.Sql.Rendering

/-!
# Operands of lists

What stands in the lists behind `IN`. The parentheses of a rendered statement are
all closed, so the lists of a narrowed select are its own ones and one more for
every usable value of an exact field. Their items are truth values, numerals and
placeholders, unless a double is infinite or no number: that one is written as a
bare word.
-/

namespace RequestFilter

namespace Sql

/-- The tokens before the parenthesis that closes behind `depth` open ones. -/
def upToClosing (depth : Nat) : List Token → List Token
  | [] => []
  | token :: rest =>
      if token = .mark .closing then
        match depth with
        | 0 => []
        | outer + 1 => token :: upToClosing outer rest
      else token :: upToClosing (if token = .mark .opening then depth + 1 else depth) rest

/-- What stands between the parentheses of each list behind `IN`. -/
def memberLists : List Token → List (List Token)
  | [] => []
  | [_] => []
  | first :: second :: rest =>
      if first = .mark .among ∧ second = .mark .opening then
        upToClosing 0 rest :: memberLists (second :: rest)
      else memberLists (second :: rest)

/-- Tokens whose parentheses are all closed, with a list behind every `IN`. -/
inductive Bracketed : List Token → Prop
  | nil : Bracketed []
  | single {token : Token} (h : token ∉ [.mark .opening, .mark .closing, .mark .among]) :
      Bracketed [token]
  | group {inner : List Token} (h : Bracketed inner) :
      Bracketed (.mark .opening :: inner ++ [.mark .closing])
  | members {inner : List Token} (h : Bracketed inner) :
      Bracketed (.mark .among :: .mark .opening :: inner ++ [.mark .closing])
  | append {first second : List Token} (hfirst : Bracketed first) (hsecond : Bracketed second) :
      Bracketed (first ++ second)

section Lists

@[simp]
theorem memberLists_nil : memberLists [] = [] := rfl

theorem memberLists_cons_of_ne_among {token : Token} (h : token ≠ .mark .among)
    (rest : List Token) : memberLists (token :: rest) = memberLists rest := by
  cases rest with
  | nil => rfl
  | cons next rest => rw [memberLists, if_neg fun hlist => h hlist.1]

theorem memberLists_members (rest : List Token) :
    memberLists (.mark .among :: .mark .opening :: rest) =
      upToClosing 0 rest :: memberLists rest := by
  rw [memberLists, if_pos ⟨rfl, rfl⟩, memberLists_cons_of_ne_among (by decide)]

namespace Bracketed

variable {tokens : List Token}

theorem cons {token : Token} (htoken : token ∉ [.mark .opening, .mark .closing, .mark .among])
    (h : Bracketed tokens) : Bracketed (token :: tokens) :=
  .append (.single htoken) h

/-- No parenthesis that is open before the tokens is closed by them. -/
theorem upToClosing_append (h : Bracketed tokens) (depth : Nat) (rest : List Token) :
    upToClosing depth (tokens ++ rest) = tokens ++ upToClosing depth rest := by
  induction h generalizing depth rest with
  | nil => rfl
  | single htoken =>
      simp only [List.mem_cons, List.not_mem_nil, or_false, not_or] at htoken
      simp [upToClosing, htoken]
  -- a group goes one level deeper and comes back with its last parenthesis
  | group _ ih => simp [upToClosing, ih]
  | members _ ih => simp [upToClosing, ih]
  | append _ _ ihfirst ihsecond => simp [ihfirst, ihsecond]

/-- The lists of the tokens end before whatever follows. -/
theorem memberLists_append (h : Bracketed tokens) (rest : List Token) :
    memberLists (tokens ++ rest) = memberLists tokens ++ memberLists rest := by
  induction h generalizing rest with
  | nil => rfl
  | single htoken =>
      have hne := List.ne_of_not_mem_cons (List.not_mem_of_not_mem_cons
        (List.not_mem_of_not_mem_cons htoken))
      exact memberLists_cons_of_ne_among hne rest
  | group _ ih => simp [memberLists_cons_of_ne_among, ih]
  | members hinner ih =>
      -- the list ends at its own parenthesis, and what it holds is searched as well
      simp [memberLists_members, hinner.upToClosing_append, upToClosing,
        memberLists_cons_of_ne_among, ih]
  | append _ _ ihfirst ihsecond => simp [ihfirst, ihsecond]

theorem flatMap {α : Type} {parts : List α} {written : α → List Token}
    (h : ∀ part ∈ parts, Bracketed (written part)) : Bracketed (parts.flatMap written) := by
  induction parts with
  | nil => exact .nil
  | cons part rest ih =>
      obtain ⟨hpart, hrest⟩ := List.forall_mem_cons.mp h
      exact .append hpart (ih hrest)

theorem commaTokens {parts : List (List Token)} (h : ∀ part ∈ parts, Bracketed part) :
    Bracketed (commaTokens parts) := by
  cases parts with
  | nil => exact .nil
  | cons part rest =>
      obtain ⟨hpart, hrest⟩ := List.forall_mem_cons.mp h
      exact .append hpart (.flatMap fun next hnext => .cons (by decide) (hrest next hnext))

theorem pathTokens (names : List String) : Bracketed (pathTokens names) := by
  have hname : ∀ name : String,
      Token.name name ∉ [.mark .opening, .mark .closing, .mark .among] := by simp
  cases names with
  | nil => exact .nil
  | cons name rest =>
      exact .cons (hname name) (.flatMap fun next _ => .cons (by decide) (.single (hname next)))

end Bracketed

theorem Expression.bracketed (expression : Expression) : Bracketed expression.tokens := by
  induction expression with
  | column table name =>
      rw [tokens_column]
      exact .pathTokens _
  | literal value =>
      rw [tokens_literal]
      cases value <;> exact .single (by simp [literalToken])
  | and left right ihleft ihright =>
      simpa [tokens_and] using (ihleft.append (.cons (by decide) ihright)).group
  | or left right ihleft ihright =>
      simpa [tokens_or] using (ihleft.append (.cons (by decide) ihright)).group
  | not operand ih => exact .cons (by decide) ih
  | compare left comparison right ihleft ihright =>
      have hsign : Token.mark (.sign comparison) ∉
          [.mark .opening, .mark .closing, .mark .among] := by simp
      simpa [tokens_compare] using (ihleft.append (.cons hsign ihright)).group
  | among operand items ih ihitems =>
      have hitems : Bracketed (commaTokens (items.map tokens)) :=
        .commaTokens (by simpa using ihitems)
      simpa [tokens_among] using (ih.append hitems.members).group
  | isNull operand ih =>
      have htest : Bracketed [.mark .is, .mark .null] := .cons (by decide) (.single (by decide))
      simpa [tokens_isNull] using (ih.append htest).group

theorem bracketed_conditionTokens (condition : Expression) :
    Bracketed (conditionTokens condition) := by
  unfold conditionTokens
  split
  · exact .nil
  · exact .cons (by decide) condition.bracketed

theorem Projection.bracketed (projection : Projection) : Bracketed projection.tokens := by
  cases projection with
  | all => exact .single (by decide)
  | columns listed =>
      refine .commaTokens fun part hpart => ?_
      obtain ⟨column, -, rfl⟩ := List.mem_map.mp hpart
      exact column.2.bracketed.append (.cons (by decide) (.single (by simp)))

theorem Join.bracketed (join : Join) : Bracketed (.mark .left :: join.furtherTokens) := by
  have hcondition : Bracketed (.mark .on :: join.condition.tokens) :=
    .cons (by decide) join.condition.bracketed
  have halias : Bracketed (.mark .alias :: .name join.knownAs :: .mark .on ::
      join.condition.tokens) := .cons (by decide) (.cons (by simp) hcondition)
  exact .cons (by decide) (.cons (by decide) (.cons (by decide)
    (.append (.pathTokens join.table.path) halias)))

/-- A select is bracketed when the one that it reads from is. -/
theorem Select.bracketed_of_source {source : Option Source} (h : Bracketed (sourceTokens source))
    (projection : Projection) (joins : List Join) (condition : Expression) :
    Bracketed (Select.tokens ⟨projection, source, joins, condition⟩) := by
  have hjoins : Bracketed (joins.flatMap fun join => .mark .left :: join.furtherTokens) :=
    .flatMap fun join _ => join.bracketed
  rw [tokens_eq]
  exact .cons (by decide) (projection.bracketed.append (h.append
    (hjoins.append (bracketed_conditionTokens condition))))

theorem Select.bracketed (select : Select) : Bracketed select.tokens := by
  have halias : ∀ knownAs : String, Bracketed [.mark .alias, .name knownAs] :=
    fun knownAs => .cons (by decide) (.single (by simp))
  induction select with
  | bare projection joins condition =>
      have hnone : Bracketed (sourceTokens none) := .nil
      exact bracketed_of_source hnone _ _ _
  | table projection table knownAs joins condition =>
      refine bracketed_of_source ?_ _ _ _
      exact .cons (by decide) (.append (.pathTokens table.path) (halias knownAs))
  | subquery projection inner knownAs joins condition ih =>
      have hsource : Bracketed [.mark .source] := .single (by decide)
      refine bracketed_of_source ?_ _ _ _
      simpa [sourceTokens] using hsource.append (ih.group.append (halias knownAs))

end Lists

/-- A truth value, a numeral, or a placeholder with a parameter. -/
def Token.IsOperand : Token → Prop
  | .literal text => text = "true" ∨ text = "false" ∨ IsNumeral text.toList
  | .bound _ => True
  | .mark _ | .name _ | .placeholder _ => False

/-- The lists behind `IN` are operands with commas between them. -/
def ListsOperands (tokens : List Token) : Prop :=
  ∀ list ∈ memberLists tokens, ∀ token ∈ list, token = .mark .comma ∨ token.IsOperand

section Membership

/-- A scalar is written as an operand unless it is an infinity or no number. -/
theorem isOperand_literalToken_iff (value : Scalar) :
    (literalToken value).IsOperand ↔ value.IsFinite := by
  constructor
  · intro h
    cases value with
    | bool _ | int _ | string _ => trivial
    | float x =>
        -- the words of the other doubles have a letter in them
        cases x with
        | finite _ => trivial
        | infinite negative =>
            rcases h with htrue | hfalse | hnumeral
            · cases negative <;> exact absurd htrue (by decide)
            · cases negative <;> exact absurd hfalse (by decide)
            · have hletter := hnumeral.isDigit_or_sign 'n' (by cases negative <;> decide)
              exact absurd hletter (by decide)
        | nan =>
            rcases h with htrue | hfalse | hnumeral
            · exact absurd htrue (by decide)
            · exact absurd hfalse (by decide)
            · exact absurd (hnumeral.isDigit_or_sign 'N' (by decide)) (by decide)
  · intro h
    by_cases hkind : value.kind = .string
    · cases value with
      | string _ => trivial
      | bool _ | int _ | float _ => contradiction
    · rw [literalToken_eq_literal hkind]
      exact h.text_of_kind_ne_string hkind

/-- Scalars with commas between them, as they stand in a list. -/
def operandTokens (operands : List Scalar) : List Token :=
  commaTokens (operands.map fun operand => [literalToken operand])

theorem forall_mem_commaTokens_iff {motive : Token → Prop} (hcomma : motive (.mark .comma))
    (parts : List (List Token)) :
    (∀ token ∈ commaTokens parts, motive token) ↔
      ∀ part ∈ parts, ∀ token ∈ part, motive token := by
  cases parts with
  | nil => simp [commaTokens]
  | cons first rest =>
      rw [commaTokens, List.forall_mem_append, List.forall_mem_cons]
      refine and_congr_right fun _ => ⟨fun h part hpart token htoken => ?_, ?_⟩
      · exact h token (List.mem_flatMap.mpr ⟨part, hpart, List.mem_cons_of_mem _ htoken⟩)
      · intro h token htoken
        obtain ⟨part, hpart, hmem⟩ := List.mem_flatMap.mp htoken
        rcases List.mem_cons.mp hmem with rfl | hmem
        · exact hcomma
        · exact h part hpart token hmem

theorem forall_mem_operandTokens_iff {motive : Token → Prop} (hcomma : motive (.mark .comma))
    (operands : List Scalar) :
    (∀ token ∈ operandTokens operands, motive token) ↔
      ∀ operand ∈ operands, motive (literalToken operand) := by
  rw [operandTokens, forall_mem_commaTokens_iff hcomma]
  simp

theorem bracketed_operandTokens (operands : List Scalar) : Bracketed (operandTokens operands) := by
  refine .commaTokens fun part hpart => ?_
  obtain ⟨operand, -, rfl⟩ := List.mem_map.mp hpart
  exact Expression.tokens_literal operand ▸ Expression.bracketed (.literal operand)

theorem memberLists_eq_nil {tokens : List Token} (h : ∀ token ∈ tokens, token ≠ .mark .among) :
    memberLists tokens = [] := by
  induction tokens with
  | nil => rfl
  | cons token rest ih =>
      obtain ⟨htoken, hrest⟩ := List.forall_mem_cons.mp h
      rw [memberLists_cons_of_ne_among htoken, ih hrest]

theorem conditionTokens_eq_cons {condition : Expression} (h : condition.isBool true = false) :
    conditionTokens condition = .mark .condition :: condition.tokens := by
  simp [conditionTokens, h]

/-- A membership is written as its column and the list of its values. -/
theorem tokens_membership (field : QualifiedField) {values : List Scalar} (h : values ≠ []) :
    (membership field values).tokens =
      .mark .opening :: ((fieldColumn field).tokens ++
        .mark .among :: .mark .opening :: (operandTokens values ++
          [.mark .closing, .mark .closing])) := by
  have hitems : commaTokens ((values.map Expression.literal).map Expression.tokens) =
      operandTokens values := by
    rw [operandTokens, List.map_map]
    exact congrArg commaTokens (List.map_congr_left fun value _ => Expression.tokens_literal value)
  rw [membership_eq_among field h, Expression.tokens_among, hitems]
  simp

/-- A membership has one list, which is that of its values. -/
theorem memberLists_membership (field : QualifiedField) {values : List Scalar}
    (h : values ≠ []) :
    memberLists (conditionTokens (membership field values)) = [operandTokens values] := by
  have hinner : memberLists (operandTokens values) = [] :=
    memberLists_eq_nil ((forall_mem_operandTokens_iff (by decide) values).mpr
      fun value _ => literalToken_ne_mark value .among)
  have hcolumn : memberLists (fieldColumn field).tokens = [] := rfl
  have hbool : (membership field values).isBool true = false := by
    rw [membership_eq_among field h]
    rfl
  have hlast : upToClosing 0 (operandTokens values ++ [.mark .closing, .mark .closing]) =
      operandTokens values := by
    rw [(bracketed_operandTokens values).upToClosing_append]
    exact List.append_nil _
  rw [conditionTokens_eq_cons hbool, tokens_membership field h,
    memberLists_cons_of_ne_among (by decide), memberLists_cons_of_ne_among (by decide),
    (fieldColumn field).bracketed.memberLists_append, hcolumn, memberLists_members, hlast,
    (bracketed_operandTokens values).memberLists_append, hinner]
  rfl

/-- The predicates of a usable value have a list where its operator is the exact one. -/
theorem memberLists_predicatesOf (target : Target) (field : String) {value : Value}
    (husable : value.isUsable = true) (operator : Operator) :
    ((predicatesOf target field value operator).flatMap fun predicate =>
        memberLists (conditionTokens predicate)) =
      if operator = .exactOrIn then [operandTokens value.scalars] else [] := by
  have hscalars : value.scalars ≠ [] := (Value.isUsable_iff value).mp husable
  cases operator with
  | exactOrIn =>
      rw [predicatesOf_exactOrIn target field hscalars, List.flatMap_singleton,
        memberLists_membership _ hscalars, if_pos rfl]
  | like =>
      rw [predicatesOf_like, if_neg (by decide), List.flatMap_eq_nil_iff]
      intro predicate hpredicate
      obtain ⟨operand, -, rfl⟩ := List.mem_map.mp hpredicate
      rfl
  | customOnly => rfl

/-- Joined conditions have the lists of both. -/
theorem memberLists_conj (left right : Expression) :
    memberLists (conditionTokens (left.conj right)) =
      memberLists (conditionTokens left) ++ memberLists (conditionTokens right) := by
  cases hleft : left.isBool true with
  | true => simp [Expression.conj, conditionTokens, hleft]
  | false =>
  cases hright : right.isBool true with
  | true => simp [Expression.conj, conditionTokens, hleft, hright]
  | false =>
    have hboth : conditionTokens (left.conj right) =
        .mark .condition :: .mark .opening ::
          (left.tokens ++ .mark .and :: (right.tokens ++ [.mark .closing])) := by
      have hconj : left.conj right = .and left right := by simp [Expression.conj, hleft, hright]
      rw [hconj, conditionTokens_eq_cons rfl, Expression.tokens_and]
      simp
    rw [hboth, conditionTokens_eq_cons hleft, conditionTokens_eq_cons hright]
    simp [memberLists_cons_of_ne_among, left.bracketed.memberLists_append,
      right.bracketed.memberLists_append]

theorem memberLists_foldl_conj (condition : Expression) (predicates : List Expression) :
    memberLists (conditionTokens (predicates.foldl .conj condition)) =
      memberLists (conditionTokens condition) ++
        predicates.flatMap fun predicate => memberLists (conditionTokens predicate) := by
  induction predicates generalizing condition with
  | nil => simp
  | cons predicate rest ih =>
      rw [List.foldl_cons, ih, memberLists_conj, List.flatMap_cons, List.append_assoc]

/-- The condition is written behind everything else. -/
theorem Select.tokens_eq_append (projection : Projection) (source : Option Source)
    (joins : List Join) (condition : Expression) :
    Select.tokens ⟨projection, source, joins, condition⟩ =
      Select.tokens ⟨projection, source, joins, .always⟩ ++ conditionTokens condition := by
  have halways : conditionTokens .always = [] := rfl
  simp [tokens_eq, halways]

/-- What narrows the condition of a select adds its lists at the end of the statement. -/
theorem Select.memberLists_narrowed (select : Select) (predicates : List Expression) :
    memberLists { select with
        condition := predicates.foldl .conj select.condition }.statement.tokens =
      memberLists select.statement.tokens ++
        predicates.flatMap fun predicate => memberLists (conditionTokens predicate) := by
  obtain ⟨projection, source, joins, condition⟩ := select
  have hlists : ∀ condition : Expression,
      memberLists (Select.statement ⟨projection, source, joins, condition⟩).tokens =
        memberLists (Select.tokens ⟨projection, source, joins, .always⟩) ++
          memberLists (conditionTokens condition) := by
    intro condition
    rw [statement, Statement.tokens_ofFragments (Select.separable _), ← tokens, tokens_eq_append,
      (Select.bracketed _).memberLists_append]
  rw [hlists, hlists, memberLists_foldl_conj, List.append_assoc]

end Membership

end Sql

namespace Definition

open Sql

variable {definition : Definition Select TargetError}

/-- The operands of each usable value whose field has the exact operator. -/
def exactOperands (definition : Definition Select TargetError) (bag : Bag) : List (List Scalar) :=
  ((definition.sanitizer.sanitize bag).bag.entries.filter fun entry =>
    definition.spec.operator? entry.1 = some .exactOrIn).map fun entry => entry.2.scalars

theorem memberLists_entryPredicates (target : Target) {entry : String × Value}
    (husable : entry.2.isUsable = true) :
    ((definition.entryPredicates target entry).flatMap fun predicate =>
        memberLists (conditionTokens predicate)) =
      if definition.spec.operator? entry.1 = some .exactOrIn then
        [operandTokens entry.2.scalars] else [] := by
  unfold entryPredicates
  cases definition.spec.operator? entry.1 with
  | none => rfl
  | some operator => simp [memberLists_predicatesOf target entry.1 husable]

theorem memberLists_flatMap_entryPredicates (target : Target) {entries : List (String × Value)}
    (husable : ∀ entry ∈ entries, entry.2.isUsable = true) :
    ((entries.flatMap (definition.entryPredicates target)).flatMap fun predicate =>
        memberLists (conditionTokens predicate)) =
      ((entries.filter fun entry => definition.spec.operator? entry.1 = some .exactOrIn).map
        fun entry => entry.2.scalars).map operandTokens := by
  induction entries with
  | nil => rfl
  | cons entry rest ih =>
      obtain ⟨hentry, hrest⟩ := List.forall_mem_cons.mp husable
      rw [List.flatMap_cons, List.flatMap_append, memberLists_entryPredicates target hentry,
        ih hrest]
      by_cases hexact : definition.spec.operator? entry.1 = some .exactOrIn <;> simp [hexact]

/-- Without rules, a narrowed statement has one list more for each usable value of an exact field.
All lists have operands in them exactly when those of the select had and no value holds an
infinity or what is no number. -/
theorem apply_listsOperands_iff (definition : Definition Select TargetError)
    (hrules : definition.rules.size = 0) (bag : Bag) (select : Select) (source : Source)
    (hsource : select.source = some source) :
    ∃ report narrowed, (definition.apply bag).runOn select = (.ok report, narrowed) ∧
      memberLists narrowed.statement.tokens =
        memberLists select.statement.tokens ++
          (definition.exactOperands bag).map operandTokens ∧
      (ListsOperands narrowed.statement.tokens ↔
        ListsOperands select.statement.tokens ∧
          ∀ operands ∈ definition.exactOperands bag, ∀ operand ∈ operands, operand.IsFinite) := by
  have hentries : definition.rules.handlers.entries = [] := List.length_eq_zero_iff.mp hrules
  obtain ⟨report, hrun⟩ := runOn_apply hentries bag hsource
  have hlists := Select.memberLists_narrowed select
    ((definition.sanitizer.sanitize bag).bag.entries.flatMap
      (definition.entryPredicates ⟨source.knownAs⟩))
  rw [memberLists_flatMap_entryPredicates _ (definition.sanitizer.sanitize bag).usable] at hlists
  refine ⟨report, _, hrun, hlists, ?_⟩
  rw [ListsOperands, hlists, List.forall_mem_append, List.forall_mem_map]
  refine and_congr_right fun _ => forall₂_congr fun operands _ => ?_
  rw [forall_mem_operandTokens_iff (Or.inl rfl)]
  refine forall₂_congr fun operand _ => ?_
  rw [or_iff_right (literalToken_ne_mark operand .comma), isOperand_literalToken_iff]

def scoreSearch : Definition Select TargetError :=
  ⟨⟨.ofList [("score", .exactOrIn), ("name", .like)]⟩, .empty defaultRulePrefix, .default⟩

def scoredUsers : Select :=
  .star (.table (.named none "users") "u")

/-- Operands of every kind in one list. -/
theorem apply_listsOperands_iff_scores :
    scoreSearch.rules.size = 0 ∧ scoredUsers.source = some (.table (.named none "users") "u") ∧
      ∃ report narrowed,
        (scoreSearch.apply (.ofList [("score", .sequence [.bool true, .int (-5),
            .float (.finite ⟨false, leadingBit64, -53, by decide⟩), .string "inf"]),
            ("name", .scalar (.float .nan))])).runOn scoredUsers = (.ok report, narrowed) ∧
        memberLists narrowed.statement.tokens =
          [[.literal "true", .mark .comma, .literal "-5", .mark .comma, .literal "0.5",
            .mark .comma, .bound "inf"]] ∧
        ListsOperands narrowed.statement.tokens := by
  refine ⟨rfl, rfl, ?_⟩
  obtain ⟨report, narrowed, hrun, hlists, hoperands⟩ := apply_listsOperands_iff scoreSearch rfl
    (.ofList [("score", .sequence [.bool true, .int (-5),
      .float (.finite ⟨false, leadingBit64, -53, by decide⟩), .string "inf"]),
      ("name", .scalar (.float .nan))]) scoredUsers _ rfl
  have hselect : memberLists scoredUsers.statement.tokens = [] := by decide
  refine ⟨report, narrowed, hrun, hlists.trans (by decide), hoperands.mpr ⟨?_, ?_⟩⟩
  · rw [ListsOperands, hselect]
    exact List.forall_mem_nil _
  · intro operands hmem operand hoperand
    obtain rfl := List.mem_singleton.mp hmem
    revert operand
    simp [Value.scalars, Scalar.IsFinite]

/-- An infinite double that is inserted in code is written as a bare word. -/
theorem infinite_not_isOperand :
    ∃ report narrowed,
      (scoreSearch.apply (.ofList [("score", .scalar (.float (.infinite false)))])).runOn
        scoredUsers = (.ok report, narrowed) ∧
      narrowed.statement.text =
        "SELECT * FROM \"users\" AS \"u\" WHERE (\"u\".\"score\" IN (inf))" ∧
      memberLists narrowed.statement.tokens = [[.literal "inf"]] ∧
      ¬ ListsOperands narrowed.statement.tokens := by
  have hword : ¬ (Token.literal "inf").IsOperand :=
    (isOperand_literalToken_iff (.float (.infinite false))).not.mpr id
  refine ⟨_, _, rfl, rfl, by decide, fun h => ?_⟩
  exact (h [.literal "inf"] (by decide) _ List.mem_cons_self).elim (by simp) hword

end Definition

end RequestFilter
