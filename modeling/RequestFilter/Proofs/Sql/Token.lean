import RequestFilter.Sql.Statement
import RequestFilter.QueryBuilder

/-!
# Tokens

The text of a statement as a database takes it apart: quoted names, whose
doubled quotes are one, placeholders with all the digits behind the dollar sign,
and words between blanks, commas, parentheses and these. A word is a mark of the
language or an inline literal. One character after the other extends an
unfinished token or begins another one.
-/

namespace RequestFilter.Sql

/-- Keywords, signs and punctuation. -/
inductive Mark where
  | opening
  | closing
  | comma
  | period
  | star
  | select
  | alias
  | source
  | left
  | outer
  | join
  | on
  | condition
  | not
  | and
  | or
  | among
  | is
  | null
  | sign (comparison : Comparison)
deriving DecidableEq

def markWords : List (String × Mark) := [
  (".", .period), ("*", .star), ("SELECT", .select), ("AS", .alias), ("FROM", .source),
  ("LEFT", .left), ("OUTER", .outer), ("JOIN", .join), ("ON", .on), ("WHERE", .condition),
  ("NOT", .not), ("AND", .and), ("OR", .or), ("IN", .among), ("IS", .is), ("NULL", .null),
  ("=", .sign .equal), ("<>", .sign .notEqual), (">", .sign .greater),
  (">=", .sign .greaterOrEqual), ("<", .sign .less), ("<=", .sign .lessOrEqual),
  ("LIKE", .sign .like), ("ILIKE", .sign .likeIgnoringCase)]

inductive Token where
  | mark (mark : Mark)
  | name (name : String)
  | literal (text : String)
  | placeholder (digits : List Char)
  /-- The value that a placeholder stands for. -/
  | bound (value : String)
deriving DecidableEq

namespace Token

def ofWord (word : List Char) : Token :=
  match markWords.find? fun entry => entry.1.toList = word with
  | some entry => .mark entry.2
  | none => .literal (String.ofList word)

def digits? : Token → Option (List Char)
  | .placeholder digits => some digits
  | _ => none

/-- A placeholder is the parameter of its number. -/
def resolve (parameters : List String) : Token → Token
  | .placeholder digits =>
      -- placeholders are numbered from one
      match Nat.ofDigitChars 10 digits 0 with
      | 0 => .placeholder digits
      | number + 1 =>
          match parameters[number]? with
          | some value => .bound value
          | none => .placeholder digits
  | token => token

end Token

def isWordChar (c : Char) : Bool :=
  !(c.isWhitespace || c = '(' || c = ')' || c = ',' || c = '"' || c = '$')

/-- The unfinished token at some place of a text. -/
inductive Unfinished where
  | nothing
  | word (read : List Char)
  | name (read : List Char)
  /-- A name that ends here, unless another quote follows. -/
  | quote (read : List Char)
  | placeholder (read : List Char)

namespace Unfinished

/-- The token when nothing is added to it; a name without its last quote is none. -/
def finish : Unfinished → List Token
  | nothing | name _ => []
  | word read => [.ofWord read]
  | quote read => [.name (String.ofList read)]
  | placeholder read => [.placeholder read]

/-- The token with a character added to it, if the character belongs to it. -/
def extend? : Unfinished → Char → Option Unfinished
  | nothing, _ => none
  | word read, c => if isWordChar c then some (word (read ++ [c])) else none
  | name read, c => some (if c = '"' then quote read else name (read ++ [c]))
  | quote read, c => if c = '"' then some (name (read ++ [c])) else none
  | placeholder read, c => if c.isDigit then some (placeholder (read ++ [c])) else none

/-- What a character is where it begins a token: a token by itself, or an unfinished one. -/
def start (c : Char) : List Token × Unfinished :=
  if c = '(' then ([.mark .opening], nothing)
  else if c = ')' then ([.mark .closing], nothing)
  else if c = ',' then ([.mark .comma], nothing)
  else if c = '"' then ([], name [])
  else if c = '$' then ([], placeholder [])
  else if isWordChar c then ([], word [c])
  -- what is left are blanks
  else ([], nothing)

end Unfinished

/-- The tokens of a text that is read on after an unfinished token. -/
def scan : Unfinished → List Char → List Token
  | unfinished, [] => unfinished.finish
  | unfinished, c :: rest =>
      match unfinished.extend? c with
      | some extended => scan extended rest
      | none =>
          unfinished.finish ++ (Unfinished.start c).1 ++ scan (Unfinished.start c).2 rest

def tokensOf (text : List Char) : List Token :=
  scan .nothing text

/-- The tokens of a statement, with the parameters in place of their placeholders. -/
def Statement.tokens (statement : Statement) : List Token :=
  (tokensOf statement.text.toList).map (Token.resolve statement.parameters)

@[simp]
theorem tokensOf_nil : tokensOf [] = [] := rfl

/-- A text that does not go on with the unfinished token is read for itself. -/
theorem scan_of_breaks {unfinished : Unfinished} {rest : List Char}
    (h : ∀ c ∈ rest.head?, unfinished.extend? c = none) :
    scan unfinished rest = unfinished.finish ++ tokensOf rest := by
  cases rest with
  | nil => simp [scan]
  | cons c rest =>
      have hc : unfinished.extend? c = none := h c rfl
      rw [scan, hc]
      exact List.append_assoc _ _ _

theorem scan_word (read cs rest : List Char) (h : ∀ c ∈ cs, isWordChar c = true) :
    scan (.word read) (cs ++ rest) = scan (.word (read ++ cs)) rest := by
  induction cs generalizing read with
  | nil => simp
  | cons c cs ih =>
      obtain ⟨hc, hcs⟩ := List.forall_mem_cons.mp h
      rw [List.cons_append, scan, Unfinished.extend?, if_pos hc]
      simpa using ih (read ++ [c]) hcs

theorem scan_placeholder (read cs rest : List Char) (h : ∀ c ∈ cs, c.isDigit = true) :
    scan (.placeholder read) (cs ++ rest) = scan (.placeholder (read ++ cs)) rest := by
  induction cs generalizing read with
  | nil => simp
  | cons c cs ih =>
      obtain ⟨hc, hcs⟩ := List.forall_mem_cons.mp h
      rw [List.cons_append, scan, Unfinished.extend?, if_pos hc]
      simpa using ih (read ++ [c]) hcs

/-- A name takes up its characters and ends at the first quote that is not doubled. -/
theorem scan_name (read cs rest : List Char) :
    scan (.name read) (doubleQuotes cs ++ '"' :: rest) = scan (.quote (read ++ cs)) rest := by
  induction cs generalizing read with
  | nil => simp [doubleQuotes, scan, Unfinished.extend?]
  | cons c cs ih =>
      -- a quote in the name is written twice, and the second one takes the name up again
      by_cases hc : c = '"'
      · subst hc
        simpa [doubleQuotes, scan, Unfinished.extend?] using ih (read ++ ['"'])
      · simpa [doubleQuotes, hc, scan, Unfinished.extend?] using ih (read ++ [c])

/-- A quoted name is one token, when no quote follows. -/
theorem tokensOf_quoteIdentifier (name : String) {rest : List Char}
    (h : rest.head? ≠ some '"') :
    tokensOf ((quoteIdentifier name).toList ++ rest) = .name name :: tokensOf rest := by
  have hbreaks : ∀ c ∈ rest.head?, (Unfinished.quote name.toList).extend? c = none := by
    intro c hc
    have hne : c ≠ '"' := fun heq => h (heq ▸ hc)
    rw [Unfinished.extend?, if_neg hne]
  calc tokensOf ((quoteIdentifier name).toList ++ rest)
      = scan (.name []) (doubleQuotes name.toList ++ '"' :: rest) := by
        simp [tokensOf, quoteIdentifier, scan, Unfinished.extend?, Unfinished.start,
          Unfinished.finish]
    _ = scan (.quote name.toList) rest := scan_name [] name.toList rest
    _ = .name name :: tokensOf rest := by
        rw [scan_of_breaks hbreaks, Unfinished.finish, String.ofList_toList]
        rfl

/-- A placeholder is one token, when no digit follows. -/
theorem tokensOf_placeholder (number : Nat) {rest : List Char}
    (h : ∀ c ∈ rest.head?, c.isDigit = false) :
    tokensOf (("$" ++ toString number).toList ++ rest) =
      .placeholder (Nat.toDigits 10 number) :: tokensOf rest := by
  have hdigits : ∀ c ∈ Nat.toDigits 10 number, c.isDigit = true :=
    fun c hc => Nat.isDigit_of_mem_toDigits (by omega) (by omega) hc
  have hbreaks : ∀ c ∈ rest.head?,
      (Unfinished.placeholder (Nat.toDigits 10 number)).extend? c = none := by
    intro c hc
    rw [Unfinished.extend?, h c hc]
    rfl
  calc tokensOf (("$" ++ toString number).toList ++ rest)
      = scan (.placeholder []) (Nat.toDigits 10 number ++ rest) := by
        rw [String.toList_append, show (toString number).toList = Nat.toDigits 10 number from
          Nat.toList_repr]
        rfl
    _ = scan (.placeholder (Nat.toDigits 10 number)) rest :=
        scan_placeholder [] _ rest hdigits
    _ = .placeholder (Nat.toDigits 10 number) :: tokensOf rest := scan_of_breaks hbreaks

/-- A word is one token, when no character of a word follows. -/
theorem tokensOf_word (word : List Char) (hne : word ≠ [])
    (hword : ∀ c ∈ word, isWordChar c = true) {rest : List Char}
    (h : ∀ c ∈ rest.head?, isWordChar c = false) :
    tokensOf (word ++ rest) = .ofWord word :: tokensOf rest := by
  cases word with
  | nil => contradiction
  | cons c cs =>
      obtain ⟨hc, hcs⟩ := List.forall_mem_cons.mp hword
      -- a character of words is none of the signs that are tokens by themselves
      have hstart : Unfinished.start c = ([], .word [c]) := by
        have hsigns : c ≠ '(' ∧ c ≠ ')' ∧ c ≠ ',' ∧ c ≠ '"' ∧ c ≠ '$' := by
          refine ⟨?_, ?_, ?_, ?_, ?_⟩ <;> (rintro rfl; contradiction)
        simp [Unfinished.start, hsigns, hc]
      have hbreaks : ∀ d ∈ rest.head?, (Unfinished.word (c :: cs)).extend? d = none := by
        intro d hd
        rw [Unfinished.extend?, h d hd]
        rfl
      calc tokensOf (c :: cs ++ rest) = scan (.word [c]) (cs ++ rest) := by
            simp [tokensOf, scan, Unfinished.extend?, Unfinished.finish, hstart]
        _ = scan (.word (c :: cs)) rest := scan_word [c] cs rest hcs
        _ = .ofWord (c :: cs) :: tokensOf rest := scan_of_breaks hbreaks

end RequestFilter.Sql
