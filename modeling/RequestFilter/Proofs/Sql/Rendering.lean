import Mathlib.Data.List.Basic
import RequestFilter.Proofs.Sql.Spelling

/-!
# Tokens of rendered statements

Every rendered expression, clause and select is taken apart into the tokens of
its fragments. The tokens of an expression therefore follow its tree, and a bound
value is a token whatever number its placeholder has.
-/

namespace RequestFilter.Sql

open Fragment

theorem itemFragments_eq_map (items : List Expression) :
    Expression.itemFragments items = items.map Expression.fragments := by
  induction items with
  | nil => rfl
  | cons item rest ih => rw [Expression.itemFragments, ih, List.map_cons]

/-- The signs of comparisons leave no word open. -/
theorem closed_comparisonSign (comparison : Comparison) :
    Closed (comparisonSign comparison) :=
  ⟨[.sign comparison], fun _ => by cases comparison <;> rfl⟩

theorem TableRef.separable (table : TableRef) : Separable table.fragments := by
  rw [table.fragments_eq_path]
  exact .path _

/-- Every expression can be taken apart: what follows an operand in a node always ends it. -/
theorem Expression.separable (expression : Expression) : Separable expression.fragments := by
  induction expression with
  | column table name =>
      rw [fragments, table.column_fragments_eq_path]
      exact .path _
  | literal value => exact .literal value
  | and left right ihleft ihright => exact ihleft.group ihright ⟨[.and], fun _ => rfl⟩ rfl
  | or left right ihleft ihright => exact ihleft.group ihright ⟨[.or], fun _ => rfl⟩ rfl
  | not operand ih => exact .cons ⟨[.not], fun _ => rfl⟩ ih
  | compare left comparison right ihleft ihright =>
      refine ihleft.group ihright (closed_comparisonSign comparison) ?_
      cases comparison <;> rfl
  | among operand items ih ihitems =>
      have hitems : Separable (commaSeparated (items.map fragments)) :=
        .commaSeparated (by simpa using ihitems)
      have hclosings : Separable [.plain ")", .plain ")"] :=
        .cons closed_closing .closing
      have hrest : Separable (.plain " IN " :: .plain "(" ::
          (commaSeparated (items.map fragments) ++ [.plain ")", .plain ")"])) :=
        .cons ⟨[.among], fun _ => rfl⟩ (.cons closed_opening (hitems.before rfl hclosings))
      have hall := Separable.cons closed_opening (ih.before rfl hrest)
      simpa [fragments, itemFragments_eq_map] using hall
  | isNull operand ih =>
      -- the last word of the test is open until something that ends an operand follows it
      have htest : Separable [.plain " IS NULL"] := by
        refine .singleton [.is, .null] fun rest hrest => ?_
        calc tokensOf (" IS NULL".toList ++ rest)
            = .mark .is :: tokensOf ("NULL".toList ++ rest) := rfl
          _ = .mark .is :: .mark .null :: tokensOf rest := by
            rw [tokensOf_word _ (by simp) (List.all_eq_true.mp rfl)
              (isWordChar_eq_false_of_delimits hrest)]
            rfl
      have hrest := htest.before rfl .closing
      simpa [fragments] using Separable.cons closed_opening (ih.before rfl hrest)

theorem Projection.separable (projection : Projection) : Separable projection.fragments := by
  cases projection with
  | all =>
      refine .singleton [.star] fun rest hrest => ?_
      exact tokensOf_word ['*'] (by simp) (List.all_eq_true.mp rfl)
        (isWordChar_eq_false_of_delimits hrest)
  | columns listed =>
      refine .commaSeparated ?_
      intro part hpart
      obtain ⟨column, _, rfl⟩ := List.mem_map.mp hpart
      exact column.2.separable.before rfl (.aliased column.1)

theorem Join.separable (join : Join) : Separable join.fragments := by
  have hon : Separable (.plain " ON " :: join.condition.fragments) :=
    .cons ⟨[.on], fun _ => rfl⟩ join.condition.separable
  have halias : Separable ([.plain " AS ", .identifier join.knownAs] ++
      .plain " ON " :: join.condition.fragments) := (Separable.aliased join.knownAs).before rfl hon
  have hjoin : Closed " LEFT OUTER JOIN " := ⟨[.left, .outer, .join], fun _ => rfl⟩
  simpa [fragments] using Separable.cons hjoin (join.table.separable.before rfl halias)

/-- The clause of the condition can be taken apart, and it may follow an operand. -/
theorem conditionFragments_separable (condition : Expression) :
    Separable (conditionFragments condition) ∧ Leads (conditionFragments condition) := by
  unfold conditionFragments
  split
  · exact ⟨.nil, leads_nil⟩
  · exact ⟨.cons ⟨[.condition], fun _ => rfl⟩ condition.separable, leads_plain rfl _⟩

/-- So can the joins, each of which begins with a blank. -/
theorem joinFragments_separable (joins : List Join) :
    Separable (joins.flatMap Join.fragments) ∧ Leads (joins.flatMap Join.fragments) := by
  induction joins with
  | nil => exact ⟨.nil, leads_nil⟩
  | cons join rest ih =>
      rw [List.flatMap_cons]
      refine ⟨join.separable.append ih.1 ih.2, ?_⟩
      exact Leads.append (leads_plain rfl _) ih.2

theorem Source.table_separable (table : TableRef) (knownAs : String) :
    Separable (Source.table table knownAs).fragments :=
  .cons ⟨[.source], fun _ => rfl⟩ (table.separable.before rfl (.aliased knownAs))

/-- A subquery stands in parentheses, so its own select is as separable as it is alone. -/
theorem Source.subquery_separable {select : Select} (h : Separable select.fragments)
    (knownAs : String) : Separable (Source.subquery select knownAs).fragments := by
  have hclosing : Separable (.plain ")" :: [.plain " AS ", .identifier knownAs]) :=
    .cons closed_closing (.aliased knownAs)
  have hall : Separable (.plain "FROM " :: .plain "(" ::
      (select.fragments ++ .plain ")" :: [.plain " AS ", .identifier knownAs])) :=
    .cons ⟨[.source], fun _ => rfl⟩ (.cons closed_opening (h.before rfl hclosing))
  simpa [Source.fragments] using hall

/-- A select is separable when its source is. -/
theorem Select.separable_of_source {source : Option Source}
    (h : ∀ given ∈ source, Separable given.fragments) (projection : Projection)
    (joins : List Join) (condition : Expression) :
    Separable (Select.fragments ⟨projection, source, joins, condition⟩) := by
  obtain ⟨hjoins, hjoinsLead⟩ := joinFragments_separable joins
  obtain ⟨hcondition, hconditionLeads⟩ := conditionFragments_separable condition
  have htail := hjoins.append hcondition hconditionLeads
  have htailLeads := hjoinsLead.append hconditionLeads
  have hselect : Closed "SELECT " := ⟨[.select], fun _ => rfl⟩
  cases source with
  | none =>
      have hall := Separable.cons hselect (projection.separable.append htail htailLeads)
      simpa [Select.fragments] using hall
  | some given =>
      have hspace : Separable (.plain " " :: given.fragments) :=
        .cons ⟨[], fun _ => rfl⟩ (h given rfl)
      have hclauses := hspace.append htail htailLeads
      have hall := Separable.cons hselect (projection.separable.before rfl hclauses)
      simpa [Select.fragments] using hall

theorem Select.separable (select : Select) : Separable select.fragments := by
  induction select with
  | bare projection joins condition => exact separable_of_source (by simp) _ _ _
  | table projection table knownAs joins condition =>
      refine separable_of_source ?_ _ _ _
      rintro given ⟨⟩
      exact Source.table_separable table knownAs
  | subquery projection inner knownAs joins condition ih =>
      refine separable_of_source ?_ _ _ _
      rintro given ⟨⟩
      exact Source.subquery_separable ih knownAs

/-- Only placeholders stand for something else than themselves. -/
theorem Token.resolve_of_not_placeholder (parameters : List String) {token : Token}
    (h : ∀ digits, token ≠ .placeholder digits) : token.resolve parameters = token := by
  cases token with
  | placeholder digits => exact absurd rfl (h digits)
  | mark _ | name _ | literal _ | bound _ => rfl

/-- The placeholder of the next number stands for the parameter behind the ones before. -/
theorem Token.resolve_placeholder {parameters before after : List String} {value : String}
    (h : parameters = before ++ value :: after) :
    (Token.placeholder (Nat.toDigits 10 (before.length + 1))).resolve parameters =
      .bound value := by
  have hnumber : Nat.ofDigitChars 10 (Nat.toDigits 10 (before.length + 1)) 0 =
      before.length + 1 := Nat.ofDigitChars_ten_toDigits
  have hvalue : parameters[before.length]? = some value := by simp [h]
  simp only [resolve, hnumber, hvalue]

/-- Numbered placeholders are the values that the fragments bind. -/
theorem map_resolve_numbered {parameters : List String} {fragments : List Fragment}
    (before : List String)
    (hplain : ∀ text, .plain text ∈ fragments → ∀ digits,
      .placeholder digits ∉ tokensOf text.toList)
    (hparameters : parameters = before ++ fragments.flatMap bound) :
    (numbered before.length fragments).map (Token.resolve parameters) =
      fragments.flatMap Fragment.tokens := by
  induction fragments generalizing before with
  | nil => rfl
  | cons fragment rest ih =>
      have hrest : ∀ text, .plain text ∈ rest → ∀ digits,
          .placeholder digits ∉ tokensOf text.toList :=
        fun text htext => hplain text (List.mem_cons_of_mem _ htext)
      cases fragment with
      | plain text =>
          have hkept : (tokensOf text.toList).map (Token.resolve parameters) =
              tokensOf text.toList := by
            refine (List.map_congr_left fun token htoken => ?_).trans (List.map_id _)
            refine Token.resolve_of_not_placeholder parameters ?_
            rintro digits rfl
            exact hplain text List.mem_cons_self digits htoken
          rw [numbered_plain, List.map_append, hkept, ih before hrest hparameters]
          rfl
      | identifier name =>
          rw [numbered_identifier, List.map_cons, ih before hrest hparameters]
          rfl
      | parameter value =>
          -- the value joins those before, so that their number stays the index
          have hnext : parameters = (before ++ [value]) ++ rest.flatMap bound := by
            simpa [bound] using hparameters
          have htail := ih (before ++ [value]) hrest hnext
          rw [List.length_append] at htail
          rw [numbered_parameter, List.map_cons, Token.resolve_placeholder hparameters]
          exact congrArg _ htail

/-- The text of separable fragments is read as their tokens, with the placeholders numbered from the
front. -/
theorem tokensOf_text_ofFragments {fragments : List Fragment} (h : Separable fragments) :
    tokensOf (Statement.ofFragments fragments).text.toList = numbered 0 fragments := by
  have hall := h.tokensOf_spelled 0 [] (by simp [Delimits])
  rw [List.append_nil, tokensOf_nil, List.append_nil] at hall
  rw [Statement.text_ofFragments, hall]

/-- The parameters are the bound values, from the front to the back. -/
theorem Statement.parameters_ofFragments (fragments : List Fragment) :
    (ofFragments fragments).parameters = fragments.flatMap bound :=
  parameters_append empty fragments

/-- A statement of separable fragments is read as their tokens. -/
theorem Statement.tokens_ofFragments {fragments : List Fragment} (h : Separable fragments) :
    (ofFragments fragments).tokens = fragments.flatMap Fragment.tokens := by
  rw [tokens, tokensOf_text_ofFragments h, parameters_ofFragments]
  exact map_resolve_numbered [] h.not_placeholder rfl

def literalToken : Scalar → Token
  | .string value => .bound value
  | value => .literal value.text

/-- What is no string is written into the statement as its plain text. -/
theorem literalToken_eq_literal {value : Scalar} (h : value.kind ≠ .string) :
    literalToken value = .literal value.text := by
  cases value <;> first | rfl | contradiction

/-- A value is never mistaken for a part of the syntax. -/
@[simp]
theorem literalToken_ne_mark (value : Scalar) (mark : Mark) : literalToken value ≠ .mark mark := by
  cases value <;> simp [literalToken]

/-- The tokens of names with periods between them. -/
def pathTokens : List String → List Token
  | [] => []
  | name :: rest => .name name :: rest.flatMap fun next => [.mark .period, .name next]

/-- Written parts with commas between them. -/
def commaTokens : List (List Token) → List Token
  | [] => []
  | part :: rest => part ++ rest.flatMap fun next => .mark .comma :: next

theorem flatMap_tokens_pathFragments (names : List String) :
    (pathFragments names).flatMap Fragment.tokens = pathTokens names := by
  induction names with
  | nil => rfl
  | cons name rest ih =>
      cases rest with
      | nil => rfl
      | cons next others =>
          rw [pathFragments, List.flatMap_cons, List.flatMap_cons, ih]
          rfl

/-- What is listed with commas between has the tokens of its parts with commas between. -/
theorem flatMap_tokens_commaSeparated (parts : List (List Fragment)) :
    (commaSeparated parts).flatMap Fragment.tokens =
      commaTokens (parts.map fun part => part.flatMap Fragment.tokens) := by
  induction parts with
  | nil => rfl
  | cons part rest ih =>
      cases rest with
      | nil => simp [commaTokens]
      | cons next others =>
          rw [commaSeparated_cons_cons, List.flatMap_append, List.flatMap_cons, ih]
          rfl

namespace Expression

def tokens (expression : Expression) : List Token :=
  expression.fragments.flatMap Fragment.tokens

/-- A column is the path of its table, followed by its name. -/
theorem tokens_column (table : TableRef) (name : String) :
    (column table name).tokens = pathTokens (table.path ++ [name]) := by
  rw [tokens, fragments, table.column_fragments_eq_path, flatMap_tokens_pathFragments]

theorem tokens_literal (value : Scalar) : (literal value).tokens = [literalToken value] := by
  by_cases h : value.kind = .string
  · cases value with
    | string _ => rfl
    | bool _ | int _ | float _ => contradiction
  · rw [literalToken_eq_literal h, ← tokensOf_scalar h, tokens, fragments,
      literalFragment_eq_plain h]
    exact List.append_nil _

theorem tokens_and (left right : Expression) :
    (left.and right).tokens =
      .mark .opening :: left.tokens ++ .mark .and :: right.tokens ++ [.mark .closing] := by
  simp only [tokens, fragments, List.flatMap_append, List.flatMap_cons]
  rfl

theorem tokens_or (left right : Expression) :
    (left.or right).tokens =
      .mark .opening :: left.tokens ++ .mark .or :: right.tokens ++ [.mark .closing] := by
  simp only [tokens, fragments, List.flatMap_append, List.flatMap_cons]
  rfl

theorem tokens_not (operand : Expression) :
    operand.not.tokens = .mark .not :: operand.tokens := rfl

theorem tokens_compare (left : Expression) (comparison : Comparison) (right : Expression) :
    (left.compare comparison right).tokens =
      .mark .opening :: left.tokens ++ .mark (.sign comparison) :: right.tokens ++
        [.mark .closing] := by
  simp only [tokens, fragments, List.flatMap_append, List.flatMap_cons]
  cases comparison <;> rfl

theorem tokens_among (operand : Expression) (items : List Expression) :
    (operand.among items).tokens =
      .mark .opening :: operand.tokens ++ .mark .among :: .mark .opening ::
        commaTokens (items.map tokens) ++ [.mark .closing, .mark .closing] := by
  simp only [tokens, fragments, itemFragments_eq_map, List.flatMap_append, List.flatMap_cons,
    flatMap_tokens_commaSeparated, List.map_map]
  rfl

theorem tokens_isNull (operand : Expression) :
    operand.isNull.tokens =
      .mark .opening :: operand.tokens ++ [.mark .is, .mark .null, .mark .closing] := by
  simp only [tokens, fragments, List.flatMap_append, List.flatMap_cons]
  rfl

/-- The first operand of an expression in parentheses, the mark behind it, and the tokens
after that mark. -/
def parts? : Expression → Option (Expression × Mark × List Token)
  | .and left right => some (left, .and, right.tokens ++ [.mark .closing])
  | .or left right => some (left, .or, right.tokens ++ [.mark .closing])
  | .compare left comparison right =>
      some (left, .sign comparison, right.tokens ++ [.mark .closing])
  | .among operand items =>
      some (operand, .among,
        .mark .opening :: commaTokens (items.map tokens) ++ [.mark .closing, .mark .closing])
  | .isNull operand => some (operand, .is, [.mark .null, .mark .closing])
  | .column _ _ | .literal _ | .not _ => none

/-- An expression in parentheses begins with its first operand and the mark behind it. -/
theorem tokens_of_parts? {expression operand : Expression} {mark : Mark} {after : List Token}
    (h : expression.parts? = some (operand, mark, after)) :
    expression.tokens = .mark .opening :: (operand.tokens ++ .mark mark :: after) := by
  cases expression with
  | column _ _ | literal _ | not _ => cases h
  | and left right => cases h; simp [tokens_and]
  | or left right => cases h; simp [tokens_or]
  | compare left comparison right => cases h; simp [tokens_compare]
  | among operand items => cases h; simp [tokens_among]
  | isNull operand => cases h; simp [tokens_isNull]

end Expression

theorem TableRef.flatMap_tokens (table : TableRef) :
    table.fragments.flatMap Fragment.tokens = pathTokens table.path := by
  rw [table.fragments_eq_path, flatMap_tokens_pathFragments]

/-- The tokens of a selected column with its alias. -/
def columnTokens (column : String × Expression) : List Token :=
  column.2.tokens ++ [.mark .alias, .name column.1]

def Projection.tokens : Projection → List Token
  | .all => [.mark .star]
  | .columns listed => commaTokens (listed.map columnTokens)

/-- The tokens of a join after its first one. -/
def Join.furtherTokens (join : Join) : List Token :=
  .mark .outer :: .mark .join :: pathTokens join.table.path ++
    .mark .alias :: .name join.knownAs :: .mark .on :: join.condition.tokens

def conditionTokens (condition : Expression) : List Token :=
  if condition.isBool true then [] else .mark .condition :: condition.tokens

def Select.tokens (select : Select) : List Token :=
  select.fragments.flatMap Fragment.tokens

def sourceTokens (source : Option Source) : List Token :=
  match source with
  | none => []
  | some (.table table knownAs) =>
      .mark .source :: pathTokens table.path ++ [.mark .alias, .name knownAs]
  | some (.subquery select knownAs) =>
      .mark .source :: .mark .opening :: select.tokens ++
        [.mark .closing, .mark .alias, .name knownAs]

/-- The tokens of a projection are those of its fragments. -/
theorem Projection.flatMap_tokens (projection : Projection) :
    projection.fragments.flatMap Fragment.tokens = projection.tokens := by
  cases projection with
  | all => rfl
  | columns listed =>
      rw [fragments, flatMap_tokens_commaSeparated, tokens, List.map_map]
      refine congrArg commaTokens (List.map_congr_left fun column _ => ?_)
      exact List.flatMap_append

theorem Join.flatMap_tokens (join : Join) :
    join.fragments.flatMap Fragment.tokens = .mark .left :: join.furtherTokens := by
  simp only [fragments, List.flatMap_append, List.flatMap_cons, join.table.flatMap_tokens]
  simp only [furtherTokens, List.append_assoc]
  rfl

theorem flatMap_tokens_conditionFragments (condition : Expression) :
    (conditionFragments condition).flatMap Fragment.tokens = conditionTokens condition := by
  unfold conditionFragments conditionTokens
  split <;> rfl

theorem Source.flatMap_tokens (source : Source) :
    source.fragments.flatMap Fragment.tokens = sourceTokens source := by
  cases source with
  | table table knownAs =>
      simp only [fragments, List.flatMap_append, List.flatMap_cons, table.flatMap_tokens]
      rfl
  | subquery select knownAs =>
      simp only [fragments, List.flatMap_append, List.flatMap_cons]
      rfl

/-- The clauses of a select follow each other. -/
theorem Select.tokens_eq (projection : Projection) (source : Option Source) (joins : List Join)
    (condition : Expression) :
    Select.tokens ⟨projection, source, joins, condition⟩ =
      .mark .select :: (projection.tokens ++ (sourceTokens source ++
        ((joins.flatMap fun join => .mark .left :: join.furtherTokens) ++
          conditionTokens condition))) := by
  have hjoins : (joins.flatMap Join.fragments).flatMap Fragment.tokens =
      joins.flatMap fun join => .mark .left :: join.furtherTokens := by
    rw [List.flatMap_assoc]
    exact List.flatMap_congr fun join _ => join.flatMap_tokens
  cases source with
  | none =>
      simp only [tokens, fragments, List.flatMap_append, List.flatMap_cons,
        projection.flatMap_tokens, hjoins, flatMap_tokens_conditionFragments, List.append_assoc]
      rfl
  | some source =>
      simp only [tokens, fragments, List.flatMap_append, List.flatMap_cons,
        projection.flatMap_tokens, source.flatMap_tokens, hjoins,
        flatMap_tokens_conditionFragments, List.append_assoc]
      rfl

end RequestFilter.Sql
