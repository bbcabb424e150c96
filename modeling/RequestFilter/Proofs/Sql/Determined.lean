import RequestFilter.Proofs.Sql.Alike

/-!
# Expressions told by their tokens

The tokens of a part of a statement tell the part and where it ends, provided
that what follows cannot belong to it. This holds of paths, of lists with commas
in them, and of every expression.
-/

namespace RequestFilter.Sql

/-- What is written of `a` tells `a` and where it ends, wherever something follows that cannot
belong to it. -/
def Determines {α : Type} (follow : List Token → Prop) (write : α → List Token)
    (related : α → α → Prop) (a : α) : Prop :=
  ∀ b rest rest', follow rest → follow rest' → write a ++ rest = write b ++ rest' →
    related a b ∧ rest = rest'

/-- Tokens that do not go on with a path. -/
def Outside (rest : List Token) : Prop :=
  rest.head? ≠ some (.mark .period)

/-- Tokens that are at their end or begin with one of some marks. -/
def Followed (marks : List Mark) (rest : List Token) : Prop :=
  ∀ token ∈ rest.head?, ∃ mark ∈ marks, token = .mark mark

theorem outside_mark {mark : Mark} (h : mark ≠ .period) (rest : List Token) :
    Outside (.mark mark :: rest) := by
  simpa [Outside] using h

theorem followed_mark {mark : Mark} {marks : List Mark} (h : mark ∈ marks) (rest : List Token) :
    Followed marks (.mark mark :: rest) := by
  intro token htoken
  cases htoken
  exact ⟨mark, h, rfl⟩

namespace Followed

variable {marks : List Mark} {rest : List Token}

theorem head?_ne (h : Followed marks rest) {token : Token}
    (htoken : ∀ mark ∈ marks, token ≠ .mark mark) : rest.head? ≠ some token := by
  intro heq
  obtain ⟨mark, hmark, rfl⟩ := h token heq
  exact htoken mark hmark rfl

theorem outside (h : Followed marks rest) (hperiod : .period ∉ marks) : Outside rest := by
  refine h.head?_ne fun mark hmark heq => ?_
  cases heq
  exact hperiod hmark

theorem mono {larger : List Mark} (h : Followed marks rest) (hsubset : marks ⊆ larger) :
    Followed larger rest := by
  intro token htoken
  obtain ⟨mark, hmark, rfl⟩ := h token htoken
  exact ⟨mark, hsubset hmark, rfl⟩

theorem nil (marks : List Mark) : Followed marks [] := by
  intro token htoken
  cases htoken

/-- Tokens that are missing or begin with a further mark may stand in between. -/
theorem append {first : List Token} {mark : Mark}
    (hfirst : first = [] ∨ ∃ tail, first = .mark mark :: tail) (h : Followed marks rest) :
    Followed (mark :: marks) (first ++ rest) := by
  rcases hfirst with rfl | ⟨tail, rfl⟩
  · exact h.mono (List.subset_cons_self mark marks)
  · exact followed_mark List.mem_cons_self _

end Followed

section Lists

variable {α : Type} {follow : List Token → Prop} {write : α → List Token}
  {related : α → α → Prop} {rest rest' : List Token}

/-- Parts that the same mark begins tell each of themselves. -/
theorem forall₂_of_flatMap_append_eq {mark : Mark} {listed listed' : List α}
    (hlisted : ∀ a ∈ listed, Determines follow write related a)
    (hmark : ∀ tail, follow (.mark mark :: tail))
    (hrest : follow rest) (hrest' : follow rest')
    (hhead : rest.head? ≠ some (.mark mark)) (hhead' : rest'.head? ≠ some (.mark mark))
    (heq : (listed.flatMap fun a => .mark mark :: write a) ++ rest =
      (listed'.flatMap fun a => .mark mark :: write a) ++ rest') :
    List.Forall₂ related listed listed' ∧ rest = rest' := by
  -- behind a part stands the mark of the next part or what follows them all
  have hfollow : ∀ (others : List α) {rest : List Token}, follow rest →
      follow ((others.flatMap fun a => .mark mark :: write a) ++ rest) := by
    intro others rest hrest
    cases others with
    | nil => exact hrest
    | cons _ _ => exact hmark _
  induction listed generalizing listed' with
  | nil =>
      cases listed' with
      | nil => exact ⟨.nil, heq⟩
      | cons b others => exact absurd (congrArg List.head? heq) hhead
  | cons a others ih =>
      cases listed' with
      | nil => exact absurd (congrArg List.head? heq).symm hhead'
      | cons b others' =>
          obtain ⟨ha, hothers⟩ := List.forall_mem_cons.mp hlisted
          simp only [List.flatMap_cons, List.cons_append, List.append_assoc,
            List.cons.injEq, true_and] at heq
          obtain ⟨hab, htail⟩ := ha b _ _ (hfollow others hrest) (hfollow others' hrest') heq
          obtain ⟨hall, hend⟩ := ih hothers htail
          exact ⟨.cons hab hall, hend⟩

/-- What follows parts with commas between them does not begin like another part. -/
def Ends (write : α → List Token) (rest : List Token) : Prop :=
  rest.head? ≠ some (.mark .comma) ∧
    ∀ a, ∃ first tail, write a = first :: tail ∧ rest.head? ≠ some first

/-- Parts with commas between them tell each of themselves. -/
theorem forall₂_of_commaTokens_append_eq {listed listed' : List α}
    (hlisted : ∀ a ∈ listed, Determines follow write related a)
    (hcomma : ∀ tail, follow (.mark .comma :: tail))
    (hrest : follow rest) (hrest' : follow rest')
    (hends : Ends write rest) (hends' : Ends write rest')
    (heq : commaTokens (listed.map write) ++ rest = commaTokens (listed'.map write) ++ rest') :
    List.Forall₂ related listed listed' ∧ rest = rest' := by
  cases listed with
  | nil =>
      cases listed' with
      | nil => exact ⟨.nil, heq⟩
      | cons b others =>
          obtain ⟨first, tail, hfirst, hne⟩ := hends.2 b
          simp only [List.map_cons, commaTokens, hfirst] at heq
          exact absurd (congrArg List.head? heq) hne
  | cons a others =>
      cases listed' with
      | nil =>
          obtain ⟨first, tail, hfirst, hne⟩ := hends'.2 a
          simp only [List.map_cons, commaTokens, hfirst] at heq
          exact absurd (congrArg List.head? heq).symm hne
      | cons b others' =>
          -- the first part as one more that a comma begins
          refine forall₂_of_flatMap_append_eq hlisted hcomma hrest hrest' hends.1 hends'.1 ?_
          simpa [commaTokens, List.flatMap_map] using heq

end Lists

/-- Names with periods between them end where no other period follows. -/
theorem eq_of_pathTokens_append_eq {names names' : List String} {rest rest' : List Token}
    (hne : names ≠ []) (hne' : names' ≠ []) (hrest : Outside rest) (hrest' : Outside rest')
    (heq : pathTokens names ++ rest = pathTokens names' ++ rest') :
    names = names' ∧ rest = rest' := by
  cases names with
  | nil => contradiction
  | cons name others =>
      cases names' with
      | nil => contradiction
      | cons name' others' =>
          obtain ⟨hname, hothers⟩ := List.cons.inj heq
          have hsingle : ∀ next ∈ others,
              Determines (fun _ => True) (fun next => [Token.name next]) Eq next := by
            intro next _ next' rest rest' _ _ heq
            obtain ⟨hnext, hrest⟩ := List.cons.inj heq
            exact ⟨Token.name.inj hnext, hrest⟩
          obtain ⟨hall, hend⟩ := forall₂_of_flatMap_append_eq hsingle (fun _ => trivial)
            trivial trivial hrest hrest' hothers
          rw [List.forall₂_eq_eq_eq] at hall
          rw [Token.name.inj hname, hall]
          exact ⟨rfl, hend⟩

theorem TableRef.path_ne_nil (table : TableRef) : table.path ≠ [] := by
  cases table with
  | named schema table => cases schema <;> simp [path]
  | aliased knownAs => simp [path]

theorem TableRef.pathTokens_append_ne (table : TableRef) (further rest : List Token)
    {mark : Mark} : pathTokens table.path ++ further ≠ .mark mark :: rest := by
  cases hpath : table.path with
  | nil => exact absurd hpath table.path_ne_nil
  | cons first others => simp [pathTokens]

/-- Two paths that no further period continues are the same, and so is what follows them. -/
theorem TableRef.alike_of_pathTokens_append_eq {table table' : TableRef}
    {rest rest' : List Token} (hrest : Outside rest) (hrest' : Outside rest')
    (heq : pathTokens table.path ++ rest = pathTokens table'.path ++ rest') :
    table.Alike table' ∧ rest = rest' := by
  obtain ⟨hpath, hend⟩ := eq_of_pathTokens_append_eq table.path_ne_nil table'.path_ne_nil
    hrest hrest' heq
  exact ⟨(table.alike_iff_path_eq table').mpr hpath, hend⟩

@[simp]
theorem literalToken_ne_name (value : Scalar) (name : String) :
    literalToken value ≠ .name name := by
  cases value <;> simp [literalToken]

/-- Values that are the same token are alike. -/
theorem Scalar.alike_of_literalToken_eq {value value' : Scalar}
    (h : literalToken value = literalToken value') : value.Alike value' := by
  by_cases hkind : value.kind = .string
  · cases value with
    | string s => cases value' <;> simp_all [literalToken, Scalar.Alike]
    | bool _ | int _ | float _ => contradiction
  · by_cases hkind' : value'.kind = .string
    · cases value' with
      | string s =>
          rw [literalToken_eq_literal hkind] at h
          cases h
      | bool _ | int _ | float _ => contradiction
    · rw [literalToken_eq_literal hkind, literalToken_eq_literal hkind'] at h
      exact Or.inr ⟨hkind, hkind', Token.literal.inj h⟩

namespace Expression

def firstToken : Expression → Token
  | .column table _ => .name (table.path.headD "")
  | .literal value => literalToken value
  | .not _ => .mark .not
  | .and _ _ | .or _ _ | .compare _ _ _ | .among _ _ | .isNull _ => .mark .opening

theorem tokens_eq_cons (expression : Expression) :
    ∃ tail, expression.tokens = expression.firstToken :: tail := by
  cases expression with
  | column table name =>
      cases hpath : table.path with
      | nil => exact absurd hpath table.path_ne_nil
      | cons first others =>
          rw [tokens_column, firstToken, hpath]
          exact ⟨_, rfl⟩
  | literal value => exact ⟨[], tokens_literal value⟩
  | not operand => exact ⟨operand.tokens, tokens_not operand⟩
  | and left right => exact ⟨_, tokens_of_parts? rfl⟩
  | or left right => exact ⟨_, tokens_of_parts? rfl⟩
  | compare left comparison right => exact ⟨_, tokens_of_parts? rfl⟩
  | among operand items => exact ⟨_, tokens_of_parts? rfl⟩
  | isNull operand => exact ⟨_, tokens_of_parts? rfl⟩

/-- Expressions that begin the same text have the same first token. -/
theorem firstToken_eq_of_append_eq {expression expression' : Expression}
    {rest rest' : List Token} (heq : expression.tokens ++ rest = expression'.tokens ++ rest') :
    expression.firstToken = expression'.firstToken := by
  obtain ⟨tail, htail⟩ := expression.tokens_eq_cons
  obtain ⟨tail', htail'⟩ := expression'.tokens_eq_cons
  rw [htail, htail'] at heq
  exact (List.cons.inj heq).1

/-- The first operand of an expression in parentheses and the mark behind it. -/
theorem parts_eq_of_append_eq {expression expression' operand operand' : Expression}
    {mark mark' : Mark} {after after' rest rest' : List Token}
    (hparts : expression.parts? = some (operand, mark, after))
    (hparts' : expression'.parts? = some (operand', mark', after'))
    (hmark : mark ≠ .period) (hmark' : mark' ≠ .period)
    (hoperand : Determines Outside tokens Alike operand)
    (heq : expression.tokens ++ rest = expression'.tokens ++ rest') :
    operand.Alike operand' ∧ mark = mark' ∧ after ++ rest = after' ++ rest' := by
  rw [tokens_of_parts? hparts, tokens_of_parts? hparts'] at heq
  simp only [List.cons_append, List.append_assoc, List.cons.injEq, true_and] at heq
  obtain ⟨hsame, htail⟩ := hoperand operand' _ _ (outside_mark hmark _) (outside_mark hmark' _) heq
  obtain ⟨hmarks, hafter⟩ := List.cons.inj htail
  exact ⟨hsame, Token.mark.inj hmarks, hafter⟩

theorem alike_of_closing {operand operand' : Expression} {rest rest' : List Token}
    (hoperand : Determines Outside tokens Alike operand)
    (heq : operand.tokens ++ [.mark .closing] ++ rest =
      operand'.tokens ++ [.mark .closing] ++ rest') :
    operand.Alike operand' ∧ rest = rest' := by
  rw [List.append_assoc, List.append_assoc] at heq
  obtain ⟨hsame, hend⟩ := hoperand operand' _ _ (outside_mark (by simp) _)
    (outside_mark (by simp) _) heq
  exact ⟨hsame, (List.cons.inj hend).2⟩

theorem firstToken_ne_mark (expression : Expression) {mark : Mark} (hnot : mark ≠ .not)
    (hopening : mark ≠ .opening) : expression.firstToken ≠ .mark mark := by
  cases expression with
  | column _ _ => simp [firstToken]
  | literal value => exact literalToken_ne_mark value mark
  | not _ =>
      rintro ⟨⟩
      exact hnot rfl
  | and _ _ | or _ _ | compare _ _ _ | among _ _ | isNull _ =>
      rintro ⟨⟩
      exact hopening rfl

/-- No expression begins like what may follow a list of them. -/
theorem ends_tokens {marks : List Mark} {rest : List Token} (h : Followed marks rest)
    (hnot : .not ∉ marks) (hopening : .opening ∉ marks) (hcomma : .comma ∉ marks) :
    Ends tokens rest := by
  refine ⟨h.head?_ne fun mark hmark heq => ?_, fun expression => ?_⟩
  · cases heq
    exact hcomma hmark
  · obtain ⟨tail, htail⟩ := expression.tokens_eq_cons
    exact ⟨_, tail, htail, h.head?_ne fun mark hmark => expression.firstToken_ne_mark
      (ne_of_mem_of_not_mem hmark hnot) (ne_of_mem_of_not_mem hmark hopening)⟩

/-- Lists in parentheses that begin the same text are alike item by item. -/
theorem forall₂_of_closing {items items' : List Expression} {rest rest' : List Token}
    (hitems : ∀ item ∈ items, Determines Outside tokens Alike item)
    (heq : .mark .opening :: commaTokens (items.map tokens) ++ [.mark .closing, .mark .closing] ++
        rest =
      .mark .opening :: commaTokens (items'.map tokens) ++ [.mark .closing, .mark .closing] ++
        rest') :
    List.Forall₂ Alike items items' ∧ rest = rest' := by
  have hends : ∀ rest, Ends tokens (.mark .closing :: .mark .closing :: rest) := fun rest =>
    ends_tokens (followed_mark (List.mem_singleton_self _) _) (by simp) (by simp) (by simp)
  simp only [List.cons_append, List.append_assoc, List.cons.injEq, true_and] at heq
  obtain ⟨hall, hend⟩ := forall₂_of_commaTokens_append_eq hitems (outside_mark (by simp))
    (outside_mark (by simp) _) (outside_mark (by simp) _) (hends rest) (hends rest') heq
  exact ⟨hall, (List.cons.inj (List.cons.inj hend).2).2⟩

/-- An expression is told by its tokens wherever no path goes on behind it. -/
theorem determines (expression : Expression) :
    Determines Outside tokens Alike expression := by
  intro expression' rest rest' hrest hrest' heq
  induction expression generalizing expression' rest rest' with
  | column table name =>
      cases expression' with
      | column table' name' =>
          rw [tokens_column, tokens_column] at heq
          obtain ⟨hnames, hend⟩ := eq_of_pathTokens_append_eq (by simp) (by simp) hrest hrest' heq
          obtain ⟨hpath, hname⟩ := List.append_inj' hnames rfl
          exact ⟨⟨(table.alike_iff_path_eq table').mpr hpath, (List.cons.inj hname).1⟩, hend⟩
      | _ => exact absurd (firstToken_eq_of_append_eq heq) (by simp [firstToken, eq_comm])
  | literal value =>
      cases expression' with
      | literal value' =>
          rw [tokens_literal, tokens_literal] at heq
          obtain ⟨htoken, hend⟩ := List.cons.inj heq
          exact ⟨Scalar.alike_of_literalToken_eq htoken, hend⟩
      | _ => exact absurd (firstToken_eq_of_append_eq heq) (by simp [firstToken])
  | not operand ih =>
      cases expression' with
      | not operand' => exact ih _ _ _ hrest hrest' (List.cons.inj heq).2
      | _ => exact absurd (firstToken_eq_of_append_eq heq) (by simp [firstToken, eq_comm])
  | and left right ihleft ihright =>
      cases expression' with
      | column _ _ | literal _ | not _ =>
          exact absurd (firstToken_eq_of_append_eq heq) (by simp [firstToken, eq_comm])
      | and left' right' =>
          obtain ⟨hleft, _, hafter⟩ := parts_eq_of_append_eq rfl rfl (by simp) (by simp) ihleft heq
          obtain ⟨hright, hend⟩ := alike_of_closing ihright hafter
          exact ⟨⟨hleft, hright⟩, hend⟩
      | or _ _ | compare _ _ _ | among _ _ | isNull _ =>
          -- the mark behind the first operand is another one
          cases (parts_eq_of_append_eq rfl rfl (by simp) (by simp) ihleft heq).2.1
  | or left right ihleft ihright =>
      cases expression' with
      | column _ _ | literal _ | not _ =>
          exact absurd (firstToken_eq_of_append_eq heq) (by simp [firstToken, eq_comm])
      | or left' right' =>
          obtain ⟨hleft, _, hafter⟩ := parts_eq_of_append_eq rfl rfl (by simp) (by simp) ihleft heq
          obtain ⟨hright, hend⟩ := alike_of_closing ihright hafter
          exact ⟨⟨hleft, hright⟩, hend⟩
      | and _ _ | compare _ _ _ | among _ _ | isNull _ =>
          cases (parts_eq_of_append_eq rfl rfl (by simp) (by simp) ihleft heq).2.1
  | compare left comparison right ihleft ihright =>
      cases expression' with
      | column _ _ | literal _ | not _ =>
          exact absurd (firstToken_eq_of_append_eq heq) (by simp [firstToken, eq_comm])
      | compare left' comparison' right' =>
          obtain ⟨hleft, hsign, hafter⟩ :=
            parts_eq_of_append_eq rfl rfl (by simp) (by simp) ihleft heq
          obtain ⟨hright, hend⟩ := alike_of_closing ihright hafter
          exact ⟨⟨hleft, Mark.sign.inj hsign, hright⟩, hend⟩
      | and _ _ | or _ _ | among _ _ | isNull _ =>
          cases (parts_eq_of_append_eq rfl rfl (by simp) (by simp) ihleft heq).2.1
  | among operand items ih ihitems =>
      cases expression' with
      | column _ _ | literal _ | not _ =>
          exact absurd (firstToken_eq_of_append_eq heq) (by simp [firstToken, eq_comm])
      | among operand' items' =>
          obtain ⟨hoperand, _, hafter⟩ := parts_eq_of_append_eq rfl rfl (by simp) (by simp) ih heq
          obtain ⟨hitems, hend⟩ := forall₂_of_closing ihitems hafter
          exact ⟨⟨hoperand, (alikeItems_iff items items').mpr hitems⟩, hend⟩
      | and _ _ | or _ _ | compare _ _ _ | isNull _ =>
          cases (parts_eq_of_append_eq rfl rfl (by simp) (by simp) ih heq).2.1
  | isNull operand ih =>
      cases expression' with
      | column _ _ | literal _ | not _ =>
          exact absurd (firstToken_eq_of_append_eq heq) (by simp [firstToken, eq_comm])
      | isNull operand' =>
          obtain ⟨hoperand, _, hafter⟩ := parts_eq_of_append_eq rfl rfl (by simp) (by simp) ih heq
          exact ⟨hoperand, (List.cons.inj (List.cons.inj hafter).2).2⟩
      | and _ _ | or _ _ | compare _ _ _ | among _ _ =>
          cases (parts_eq_of_append_eq rfl rfl (by simp) (by simp) ih heq).2.1

end Expression

end RequestFilter.Sql
