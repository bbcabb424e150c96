import RequestFilter.Proofs.Numeral
import RequestFilter.Proofs.Sql.Induction
import RequestFilter.Proofs.Sql.Token
import RequestFilter.Sql.Render

/-!
# The text of rendered statements

What the fragments of a statement are spelled, and that no token of one fragment
runs into the next: the tokens of the text are those of its fragments in order.
-/

namespace RequestFilter.Sql

@[simp]
theorem commaSeparated_nil : commaSeparated [] = [] := rfl

@[simp]
theorem commaSeparated_singleton (part : List Fragment) : commaSeparated [part] = part :=
  List.intercalate_singleton

@[simp]
theorem commaSeparated_cons_cons (part next : List Fragment) (others : List (List Fragment)) :
    commaSeparated (part :: next :: others) =
      part ++ .plain ", " :: commaSeparated (next :: others) := by
  simp [commaSeparated, List.intercalate_cons_cons]

/-- The characters that mark the end of an operand. -/
def Delimits (rest : List Char) : Prop :=
  ∀ c ∈ rest.head?, c = ' ' ∨ c = ')' ∨ c = ','

namespace Fragment

/-- Write fragments in order; each is told the number of placeholders before it. -/
def writeFrom {α : Type} (write : Nat → Fragment → List α) : Nat → List Fragment → List α
  | _, [] => []
  | index, fragment :: rest =>
      write index fragment ++ writeFrom write (index + fragment.bound.length) rest

/-- The tokens of a fragment after `index` placeholders. -/
def numberedTokens (index : Nat) : Fragment → List Token
  | plain text => tokensOf text.toList
  | identifier name => [.name name]
  | parameter _ => [.placeholder (Nat.toDigits 10 (index + 1))]

/-- The text of fragments after `index` placeholders. -/
def spelled (index : Nat) (fragments : List Fragment) : List Char :=
  writeFrom (fun index fragment => (fragment.text index).toList) index fragments

def numbered (index : Nat) (fragments : List Fragment) : List Token :=
  writeFrom numberedTokens index fragments

/-- The tokens of a fragment, a bound value being one by itself. -/
def tokens : Fragment → List Token
  | plain text => tokensOf text.toList
  | identifier name => [.name name]
  | parameter value => [.bound value]

/-- What follows is told the number of placeholders in the part before it. -/
theorem writeFrom_append {α : Type} (write : Nat → Fragment → List α) (index : Nat)
    (first second : List Fragment) :
    writeFrom write index (first ++ second) =
      writeFrom write index first ++
        writeFrom write (index + (first.flatMap bound).length) second := by
  induction first generalizing index with
  | nil => simp [writeFrom]
  | cons fragment rest ih => simp [writeFrom, ih, Nat.add_assoc]

theorem spelled_append (index : Nat) (first second : List Fragment) :
    spelled index (first ++ second) =
      spelled index first ++ spelled (index + (first.flatMap bound).length) second :=
  writeFrom_append _ index first second

theorem numbered_append (index : Nat) (first second : List Fragment) :
    numbered index (first ++ second) =
      numbered index first ++ numbered (index + (first.flatMap bound).length) second :=
  writeFrom_append _ index first second

@[simp]
theorem spelled_nil (index : Nat) : spelled index [] = [] := rfl

@[simp]
theorem spelled_plain (index : Nat) (text : String) (rest : List Fragment) :
    spelled index (.plain text :: rest) = text.toList ++ spelled index rest := rfl

@[simp]
theorem spelled_identifier (index : Nat) (name : String) (rest : List Fragment) :
    spelled index (.identifier name :: rest) =
      (quoteIdentifier name).toList ++ spelled index rest := rfl

@[simp]
theorem spelled_parameter (index : Nat) (value : String) (rest : List Fragment) :
    spelled index (.parameter value :: rest) =
      ("$" ++ toString (index + 1)).toList ++ spelled (index + 1) rest := rfl

@[simp]
theorem numbered_nil (index : Nat) : numbered index [] = [] := rfl

@[simp]
theorem numbered_plain (index : Nat) (text : String) (rest : List Fragment) :
    numbered index (.plain text :: rest) = tokensOf text.toList ++ numbered index rest := rfl

@[simp]
theorem numbered_identifier (index : Nat) (name : String) (rest : List Fragment) :
    numbered index (.identifier name :: rest) = .name name :: numbered index rest := rfl

@[simp]
theorem numbered_parameter (index : Nat) (value : String) (rest : List Fragment) :
    numbered index (.parameter value :: rest) =
      .placeholder (Nat.toDigits 10 (index + 1)) :: numbered (index + 1) rest := rfl

end Fragment

open Fragment

/-- The text of a statement grows by the spelling of the fragments, numbered from its index on. -/
theorem Statement.text_append (statement : Statement) (fragments : List Fragment) :
    (statement.append fragments).text.toList =
      statement.text.toList ++ spelled statement.index fragments := by
  unfold append spelled
  induction fragments generalizing statement with
  | nil => simp [writeFrom]
  | cons fragment rest ih => simp [ih, push, writeFrom]

theorem Statement.text_ofFragments (fragments : List Fragment) :
    (ofFragments fragments).text.toList = spelled 0 fragments := by
  rw [ofFragments, text_append]
  rfl

/-- A text that consists of marks and leaves none of them open. -/
def Closed (text : String) : Prop :=
  ∃ marks : List Mark, ∀ rest, tokensOf (text.toList ++ rest) = marks.map .mark ++ tokensOf rest

/-- Fragments whose text is taken apart into their tokens, whatever stands behind them and ends
an operand. Placeholders are not written by plain text. -/
structure Separable (fragments : List Fragment) : Prop where
  tokensOf_spelled : ∀ index rest, Delimits rest →
    tokensOf (spelled index fragments ++ rest) =
      numbered index fragments ++ tokensOf rest
  not_placeholder : ∀ text, .plain text ∈ fragments → ∀ digits,
    .placeholder digits ∉ tokensOf text.toList

theorem closed_opening : Closed "(" := ⟨[.opening], fun _ => rfl⟩

theorem closed_closing : Closed ")" := ⟨[.closing], fun _ => rfl⟩

/-- Fragments that may follow an operand. -/
def Leads (fragments : List Fragment) : Prop :=
  ∀ index rest, Delimits rest → Delimits (spelled index fragments ++ rest)

theorem leads_nil : Leads [] := fun _ _ h => h

/-- Whether a text ends the operand that it stands behind. -/
def endsOperand (text : String) : Bool :=
  text.toList.head?.any fun c => c = ' ' || c = ')' || c = ','

/-- A plain text that ends an operand may follow one, whatever comes behind it. -/
theorem leads_plain {text : String} (h : endsOperand text = true) (fragments : List Fragment) :
    Leads (.plain text :: fragments) := by
  intro index rest _ c hc
  cases hchars : text.toList with
  | nil => simp [endsOperand, hchars] at h
  | cons first others =>
      rw [spelled_plain, hchars] at hc
      obtain rfl : first = c := Option.some.inj hc
      simpa [endsOperand, hchars, or_assoc] using h

/-- What may follow an operand may also follow another such part. -/
theorem Leads.append {first second : List Fragment} (hfirst : Leads first)
    (hsecond : Leads second) : Leads (first ++ second) := by
  intro index rest hrest
  rw [spelled_append, List.append_assoc]
  exact hfirst _ _ (hsecond _ _ hrest)

namespace Separable

theorem nil : Separable [] := ⟨fun _ _ _ => rfl, by simp⟩

/-- Fragments followed by others that end the operand before them. -/
theorem append {first second : List Fragment} (hfirst : Separable first)
    (hsecond : Separable second) (hleads : Leads second) : Separable (first ++ second) where
  tokensOf_spelled index rest hrest := by
    have htail := hleads (index + (first.flatMap bound).length) rest hrest
    rw [spelled_append, numbered_append, List.append_assoc, List.append_assoc,
      hfirst.tokensOf_spelled index _ htail, hsecond.tokensOf_spelled _ rest hrest]
  not_placeholder text htext :=
    (List.mem_append.mp htext).elim (hfirst.not_placeholder text) (hsecond.not_placeholder text)

/-- Fragments followed by a text that ends the operand before it. -/
theorem before {first rest : List Fragment} {text : String} (hfirst : Separable first)
    (htext : endsOperand text = true) (hrest : Separable (.plain text :: rest)) :
    Separable (first ++ .plain text :: rest) :=
  hfirst.append hrest (leads_plain htext rest)

/-- Text that is read as marks writes no placeholder. -/
theorem not_placeholder_of_marks {text : String} (marks : List Mark)
    (h : tokensOf text.toList = marks.map .mark) (digits : List Char) :
    .placeholder digits ∉ tokensOf text.toList := by
  simp [h]

/-- Marks that leave none open may stand before anything. -/
theorem cons {text : String} {fragments : List Fragment} (htext : Closed text)
    (hfragments : Separable fragments) : Separable (.plain text :: fragments) := by
  obtain ⟨marks, hmarks⟩ := htext
  have halone : tokensOf text.toList = marks.map .mark := by simpa using hmarks []
  constructor
  · intro index rest hrest
    rw [spelled_plain, numbered_plain, List.append_assoc, List.append_assoc, hmarks, halone,
      hfragments.tokensOf_spelled index rest hrest]
  · intro other hother
    rcases List.mem_cons.mp hother with heq | hmem
    · cases heq
      exact not_placeholder_of_marks marks halone
    · exact hfragments.not_placeholder other hmem

/-- Marks of which the last one is closed by what follows. -/
theorem singleton {text : String} (marks : List Mark)
    (h : ∀ rest, Delimits rest →
      tokensOf (text.toList ++ rest) = marks.map .mark ++ tokensOf rest) :
    Separable [.plain text] := by
  have halone : tokensOf text.toList = marks.map .mark := by
    simpa using h [] (fun _ h => by cases h)
  constructor
  · intro index rest hrest
    simpa [halone] using h rest hrest
  · intro other hother
    obtain rfl : other = text := by simpa using hother
    exact not_placeholder_of_marks marks halone

end Separable

/-- What ends an operand is in no word. -/
theorem isWordChar_eq_false_of_delimits {rest : List Char} (h : Delimits rest) :
    ∀ c ∈ rest.head?, isWordChar c = false := by
  intro c hc
  rcases h c hc with rfl | rfl | rfl <;> rfl

theorem isDigit_eq_false_of_delimits {rest : List Char} (h : Delimits rest) :
    ∀ c ∈ rest.head?, c.isDigit = false := by
  intro c hc
  rcases h c hc with rfl | rfl | rfl <;> rfl

theorem isWordChar_of_isDigit {c : Char} (h : c.isDigit = true) : isWordChar c = true := by
  have hbounds : 48 ≤ c.val ∧ c.val ≤ 57 := by simpa [Char.isDigit] using h
  -- the characters between words have other code points than digits
  have hne : ∀ d : Char, ¬ (48 ≤ d.val ∧ d.val ≤ 57) → c ≠ d := by
    rintro d hd rfl
    exact hd hbounds
  simp [isWordChar, Char.isWhitespace, hne ' ' (by decide), hne '\t' (by decide),
    hne '\r' (by decide), hne '\n' (by decide), hne '(' (by decide), hne ')' (by decide),
    hne ',' (by decide), hne '"' (by decide), hne '$' (by decide)]

/-- A numeral is a word. -/
theorem isWordChar_of_isNumeral {cs : List Char} (h : IsNumeral cs) :
    cs ≠ [] ∧ ∀ c ∈ cs, isWordChar c = true := by
  refine ⟨?_, fun c hc => ?_⟩
  · rintro rfl
    obtain ⟨c, hc, _⟩ := h.exists_head
    cases hc
  · rcases h.isDigit_or_sign c hc with hdigit | rfl | rfl
    · exact isWordChar_of_isDigit hdigit
    · rfl
    · rfl

/-- No mark begins like a numeral. -/
theorem Token.ofWord_of_isNumeral {cs : List Char} (h : IsNumeral cs) :
    Token.ofWord cs = .literal (String.ofList cs) := by
  -- the first character tells a numeral from every mark
  have hmarks : ∀ entry ∈ markWords,
      (entry.1.toList.head?.all fun c => !(c.isDigit || c = '-')) = true :=
    List.all_eq_true.mp (by decide)
  obtain ⟨c, hc, hkind⟩ := h.exists_head
  have hnone : markWords.find? (fun entry => entry.1.toList = cs) = none := by
    refine List.find?_eq_none.mpr fun entry hentry heq => ?_
    have hmark := hmarks entry hentry
    rw [of_decide_eq_true heq, hc] at hmark
    rcases hkind with hdigit | rfl
    · simp [hdigit] at hmark
    · simp at hmark
  rw [ofWord, hnone]

/-- Only strings are bound; every other value is written as it is. -/
theorem literalFragment_eq_plain {value : Scalar} (h : value.kind ≠ .string) :
    literalFragment value = .plain value.text := by
  cases value <;> first | rfl | contradiction

/-- The text of a value that is written as it is consists of word characters. -/
theorem isWordChar_of_mem_scalar {value : Scalar} (h : value.kind ≠ .string) {c : Char}
    (hc : c ∈ value.text.toList) : isWordChar c = true := by
  rcases Scalar.isNumeral_or_mem_scalarWords h with hnumeral | hmem
  · exact (isWordChar_of_isNumeral hnumeral).2 c hc
  · have hwords : ∀ word ∈ scalarWords, word.toList.all isWordChar = true := by decide
    exact List.all_eq_true.mp (hwords _ hmem) c hc

/-- The text of a scalar that is no string is one inline literal. -/
theorem tokensOf_scalar_append {value : Scalar} (h : value.kind ≠ .string) {rest : List Char}
    (hrest : ∀ c ∈ rest.head?, isWordChar c = false) :
    tokensOf (value.text.toList ++ rest) = .literal value.text :: tokensOf rest := by
  rcases Scalar.isNumeral_or_mem_scalarWords h with hnumeral | hword
  · obtain ⟨hne, hchars⟩ := isWordChar_of_isNumeral hnumeral
    rw [tokensOf_word _ hne hchars hrest, Token.ofWord_of_isNumeral hnumeral, String.ofList_toList]
  · have hwords : ∀ word ∈ scalarWords, word.toList ≠ [] ∧
        word.toList.all isWordChar = true ∧ Token.ofWord word.toList = .literal word := by
      decide
    obtain ⟨hne, hchars, htoken⟩ := hwords _ hword
    rw [tokensOf_word _ hne (List.all_eq_true.mp hchars) hrest, htoken]

/-- Such a text is read as one token, which is the value. -/
theorem tokensOf_scalar {value : Scalar} (h : value.kind ≠ .string) :
    tokensOf value.text.toList = [.literal value.text] := by
  have hend : ∀ c ∈ ([] : List Char).head?, isWordChar c = false := by simp
  simpa using tokensOf_scalar_append h hend

def pathFragments : List String → List Fragment
  | [] => []
  | [name] => [.identifier name]
  | name :: next :: rest => .identifier name :: .plain "." :: pathFragments (next :: rest)

/-- The names by which a table is referred to. -/
def TableRef.path : TableRef → List String
  | .named none table => [table]
  | .named (some schema) table => [schema, table]
  | .aliased knownAs => [knownAs]

/-- A table is written as the path of its names. -/
theorem TableRef.fragments_eq_path (table : TableRef) :
    table.fragments = pathFragments table.path := by
  cases table with
  | named schema table => cases schema <;> rfl
  | aliased knownAs => rfl

/-- A column extends the path of its table by its name. -/
theorem TableRef.column_fragments_eq_path (table : TableRef) (name : String) :
    table.fragments ++ [.plain ".", .identifier name] = pathFragments (table.path ++ [name]) := by
  cases table with
  | named schema table => cases schema <;> rfl
  | aliased knownAs => rfl

/-- A period before a name is a mark. -/
theorem tokensOf_period {rest : List Char} (h : rest.head? = some '"') :
    tokensOf ('.' :: rest) = .mark .period :: tokensOf rest := by
  refine tokensOf_word ['.'] (by simp) (List.all_eq_true.mp rfl) ?_
  intro c hc
  obtain rfl : '"' = c := Option.some.inj (h.symm.trans hc)
  rfl

namespace Separable

/-- A quoted name ends with its quote, as no other one follows an operand. -/
theorem identifier (name : String) : Separable [.identifier name] where
  tokensOf_spelled index rest hrest := by
    have hquote : rest.head? ≠ some '"' := by
      intro h
      rcases hrest '"' h with h | h | h <;> cases h
    simpa using tokensOf_quoteIdentifier name hquote
  not_placeholder := by simp

/-- A placeholder ends where no digit follows. -/
theorem parameter (value : String) : Separable [.parameter value] where
  tokensOf_spelled index rest hrest := by
    simpa using tokensOf_placeholder (index + 1) (isDigit_eq_false_of_delimits hrest)
  not_placeholder := by simp

/-- A value is a placeholder, or a word that ends with the operand. -/
theorem literal (value : Scalar) : Separable [literalFragment value] := by
  by_cases h : value.kind = .string
  · cases value with
    | string s => exact parameter s
    | bool _ | int _ | float _ => contradiction
  · rw [literalFragment_eq_plain h]
    constructor
    · intro index rest hrest
      simpa [tokensOf_scalar h] using
        tokensOf_scalar_append h (isWordChar_eq_false_of_delimits hrest)
    · intro text htext
      obtain rfl : text = value.text := by simpa using htext
      simp [tokensOf_scalar h]

/-- Names with points between are separable. -/
theorem path (names : List String) : Separable (pathFragments names) := by
  induction names with
  | nil => exact nil
  | cons name rest ih =>
      cases rest with
      | nil => exact identifier name
      | cons next others =>
          -- the quote of the next name ends the period before it
          have hhead : ∀ index rest,
              (spelled index (pathFragments (next :: others)) ++ rest).head? = some '"' := by
            intro index rest
            cases others <;> simp [pathFragments, quoteIdentifier]
          constructor
          · intro index rest hrest
            have hperiod := tokensOf_period (hhead index rest)
            rw [ih.tokensOf_spelled index rest hrest] at hperiod
            rw [pathFragments, spelled_identifier, spelled_plain, numbered_identifier,
              numbered_plain, List.append_assoc, tokensOf_quoteIdentifier name (by simp)]
            exact congrArg _ hperiod
          · intro text htext
            simp only [pathFragments, List.mem_cons, reduceCtorEq, false_or] at htext
            rcases htext with heq | hmem
            · cases heq
              exact not_placeholder_of_marks [.period] rfl
            · exact ih.not_placeholder text hmem

theorem closing : Separable [.plain ")"] :=
  cons closed_closing nil

/-- An alias behind what it names. -/
theorem aliased (knownAs : String) : Separable [.plain " AS ", .identifier knownAs] :=
  cons ⟨[.alias], fun _ => rfl⟩ (identifier knownAs)

/-- Two operands in parentheses with marks between them. -/
theorem group {left right : List Fragment} {marks : String} (hleft : Separable left)
    (hright : Separable right) (hclosed : Closed marks) (hends : endsOperand marks = true) :
    Separable (.plain "(" :: left ++ .plain marks :: right ++ [.plain ")"]) := by
  have hrest : Separable (.plain marks :: (right ++ [.plain ")"])) :=
    cons hclosed (hright.before rfl closing)
  simpa using cons closed_opening (hleft.before hends hrest)

/-- Separable parts with commas between are separable. -/
theorem commaSeparated {parts : List (List Fragment)} (h : ∀ part ∈ parts, Separable part) :
    Separable (commaSeparated parts) := by
  induction parts with
  | nil => exact nil
  | cons part rest ih =>
      obtain ⟨hpart, hrest⟩ := List.forall_mem_cons.mp h
      cases rest with
      | nil => simpa using hpart
      | cons next others =>
          have htail : Separable (.plain ", " :: Sql.commaSeparated (next :: others)) :=
            cons ⟨[.comma], fun _ => rfl⟩ (ih hrest)
          simpa using hpart.before rfl htail

end Separable

end RequestFilter.Sql
