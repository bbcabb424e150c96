import RequestFilter.Sql.Keyword
import RequestFilter.Text.Blank
import RequestFilter.Text.WordTable

/-!
# Lexemes

The text of a statement as the pieces that a reader of the language tells apart:
blanks, comments, quoted text, parentheses, words and signs. A piece is found at
the front of the text that is left, so that all pieces together are the text. A
quotation that never ends is none: its quote is a sign like any other.
-/

namespace RequestFilter.Sql

/-- What a lexeme means for the lines of a statement. -/
inductive LexemeKind where
  | blank
  /-- A comment up to the end of its line. -/
  | lineComment
  | blockComment
  | opening
  | closing
  /-- The word or words that open a clause. -/
  | clause
  /-- What stands between statements. -/
  | separator
  /-- The word or words that begin a line within a clause. -/
  | connective
  /-- A reserved word or words that stay on their line. -/
  | keyword
  | comma
  | colon
  | period
  | semicolon
  /-- Any other sign. -/
  | sign
  | placeholder
  /-- Quoted text, a number or any other word. -/
  | plain
deriving DecidableEq

/-- Whether a lexeme is a word, reserved or not, or what stands for one. -/
def LexemeKind.isWordlike : LexemeKind → Bool
  | .clause | .separator | .connective | .keyword | .plain => true
  | _ => false

structure Lexeme where
  kind : LexemeKind
  text : List Char

namespace Lexeme

def isAlphanumeric (c : Char) : Bool :=
  if c.toNat < 128 then c.isAlphanum else inRanges alphanumericRanges c.toNat

def isWordCharacter (c : Char) : Bool :=
  isAlphanumeric c || c = '_' || inRanges attachingRanges c.toNat

/-!
Each of the following finds one sort of lexeme at the front of a text and tells
how many characters it has.
-/

/-- As many of the first characters as belong to a class, unless there are none. -/
def runLength (belongs : Char → Bool) (cs : List Char) : Option Nat :=
  match (cs.takeWhile belongs).length with
  | 0 => none
  | n => some n

def fixedLength (text : List Char) (cs : List Char) : Option Nat :=
  if text.isPrefixOf cs then some text.length else none

/-- A word in any letter case, with how many characters it has. -/
def wordLength (word : List Char) (cs : List Char) : Option Nat :=
  if word.isPrefixOf ((cs.take word.length).map Char.toUpper) then some word.length else none

/-- Words in any letter case with blanks between them, after which no word goes on. -/
def phraseLength : List (List Char) → List Char → Option Nat
  | [], _ => none
  | word :: more, cs => do
      let width ← wordLength word cs
      let rest := cs.drop width
      if more.isEmpty then
        if rest.head?.any isWordCharacter then none else some width
      else
        let gap ← runLength isBlank rest
        return width + gap + (← phraseLength more (rest.drop gap))

/-- The first phrase of a list that stands at the front. -/
def anyPhraseLength (phrases : List String) (cs : List Char) : Option Nat :=
  phrases.findSome? fun phrase =>
    phraseLength ((phrase.splitOn " ").map String.toList) cs

/-- The characters up to the end of the line, which a carriage return alone does not end. -/
def lineLength (cs : List Char) : Option Nat :=
  let width := (cs.takeWhile fun c => c ≠ '\n' && c ≠ '\r').length
  match cs.drop width with
  | '\r' :: '\n' :: _ => some width
  | '\r' :: _ => none
  | _ => some width

def lineCommentLength (cs : List Char) : Option Nat :=
  if ['#'].isPrefixOf cs || ['-', '-'].isPrefixOf cs then lineLength cs else none

/-- The characters up to the end of a comment over lines, or all of them. -/
def commentRest : List Char → Nat
  | '*' :: '/' :: _ => 2
  | _ :: rest => commentRest rest + 1
  | [] => 0

def blockCommentLength (cs : List Char) : Option Nat :=
  (fixedLength ['/', '*'] cs).map fun width => width + commentRest (cs.drop width)

/-- A way to quote: what opens the quotation, what closes it, and which characters keep a
closing one behind them from doing so. -/
structure Quotation where
  opening : List Char
  closing : Char
  escapes : List Char

/-- The characters up to the end of a quotation that is open. -/
def quotationRest (quotation : Quotation) : List Char → Option Nat
  | [] => none
  | c :: rest =>
      match rest with
      | d :: after =>
          if quotation.escapes.contains c && d = quotation.closing then
            (quotationRest quotation after).map (· + 2)
          else if c = quotation.closing then some 1
          else (quotationRest quotation (d :: after)).map (· + 1)
      | [] => if c = quotation.closing then some 1 else none

/-- Names between backquotes, brackets or double quotes, and texts between single quotes,
behind a letter or not. -/
def quotations : List Quotation := [
  ⟨['\x60'], '\x60', ['\x60']⟩, ⟨['['], ']', [']']⟩, ⟨['"'], '"', ['"', '\\']⟩,
  ⟨['\''], '\'', ['\'', '\\']⟩, ⟨['N', '\''], '\'', ['\'', '\\']⟩,
  ⟨['E', '\''], '\'', ['\'', '\\']⟩]

/-- The quotations of a placeholder's name: there a doubled quote is no escape. -/
def nameQuotations : List Quotation := [
  ⟨['\x60'], '\x60', ['\x60']⟩, ⟨['['], ']', [']']⟩, ⟨['"'], '"', ['\\']⟩,
  ⟨['\''], '\'', ['\\']⟩]

def quotedLength (ways : List Quotation) (cs : List Char) : Option Nat :=
  ways.findSome? fun quotation => do
    let width ← fixedLength quotation.opening cs
    return width + (← quotationRest quotation (cs.drop width))

/-- A placeholder: a number or nothing behind its sign, a name, or a quoted name. -/
def placeholderLength : List Char → Option Nat
  | [] => none
  | sign :: rest =>
      let number :=
        if sign = '?' || sign = '$' then runLength Char.isDigit rest else none
      let nothing := if sign = '?' then some 0 else none
      let name :=
        if sign = '@' || sign = ':' || sign = '$' then
          runLength (fun c => isAlphanumeric c || c = '.' || c = '_' || c = '$') rest
        else none
      let quotedName :=
        if sign = '@' || sign = ':' then quotedLength nameQuotations rest else none
      (number <|> nothing <|> name <|> quotedName).map (· + 1)

/-- The exponent of a number, which counts nothing where there is none. -/
def exponentLength (cs : List Char) : Nat :=
  match cs with
  | 'e' :: rest =>
      let signed := rest.head? = some '-' || rest.head? = some '+'
      let sign := if signed then 1 else 0
      match runLength Char.isDigit (rest.drop sign) with
      | some digits => 1 + sign + digits
      | none => 0
  | _ => 0

/-- A decimal number, with a minus sign or not. -/
def numberLength (cs : List Char) : Option Nat := do
  let sign := if cs.head? = some '-' then 1 else 0
  let whole ← runLength Char.isDigit (cs.drop sign)
  let rest := cs.drop (sign + whole)
  let fraction :=
    match rest with
    | '.' :: digits => 1 + (digits.takeWhile Char.isDigit).length
    | _ => 0
  return sign + whole + fraction + exponentLength (rest.drop fraction)

/-- Signs of several characters, a longer one before the shorter one that begins it. -/
def longSigns : List String := [
  "!=", "<>", "==", "<=", ">=", "!<", "!>", "||", "::", "->>", "->", "~~*", "~~", "!~~*", "!~~",
  "~*", "!~*", "!~", ":="]

def longSignLength (cs : List Char) : Option Nat :=
  longSigns.findSome? fun sign => fixedLength sign.toList cs

/-- What a single character is where nothing longer stands. -/
def signKind (c : Char) : LexemeKind :=
  if c = ',' then .comma
  else if c = ':' then .colon
  else if c = '.' then .period
  else if c = ';' then .semicolon
  else .sign

/-- What the lexemes before say about the next one. -/
structure Context where
  previous : Option LexemeKind
  /-- The last keyword opens a range, whose two ends belong together. -/
  inRange : Bool
  /-- The last clause is a list of columns, from which some may be excepted. -/
  inColumns : Bool

namespace Context

def start : Context := ⟨none, false, false⟩

def advance (context : Context) (kind : LexemeKind) (text : List Char) : Context where
  previous := some kind
  inRange := if kind = .keyword then text = "BETWEEN".toList else context.inRange
  inColumns := if kind = .clause then text = "SELECT".toList else context.inColumns

def clauseKind (context : Context) (text : List Char) : LexemeKind :=
  if context.inColumns && text = "EXCEPT".toList then .keyword else .clause

def connectiveKind (context : Context) (text : List Char) : LexemeKind :=
  if context.inRange && text = "AND".toList then .keyword else .connective

end Context

/-- Reserved words; behind a period a word is only a name. -/
def reserved? (context : Context) (cs : List Char) : Option (LexemeKind × Nat) :=
  if context.previous = some .period then none
  else
    (anyPhraseLength clausePhrases cs).map (fun n => (context.clauseKind (cs.take n), n)) <|>
      (anyPhraseLength connectivePhrases cs).map
        (fun n => (context.connectiveKind (cs.take n), n)) <|>
      (anyPhraseLength separatorWords cs).map (.separator, ·) <|>
      (anyPhraseLength keywords cs).map (.keyword, ·)

/-- Any lexeme but a single sign. -/
def long? (context : Context) (cs : List Char) : Option (LexemeKind × Nat) :=
  (runLength isBlank cs).map (.blank, ·) <|>
    (lineCommentLength cs).map (.lineComment, ·) <|>
    (blockCommentLength cs).map (.blockComment, ·) <|>
    (quotedLength quotations cs).map (.plain, ·) <|>
    (fixedLength ['('] cs <|> anyPhraseLength ["CASE"] cs).map (.opening, ·) <|>
    (fixedLength [')'] cs <|> anyPhraseLength ["END"] cs).map (.closing, ·) <|>
    reserved? context cs <|>
    (placeholderLength cs).map (.placeholder, ·) <|>
    (numberLength cs).map (.plain, ·) <|>
    (runLength isWordCharacter cs).map (.plain, ·) <|>
    (longSignLength cs).map (.sign, ·)

/-- The kind of the lexeme that begins with a character, and how many characters follow it. -/
def front (context : Context) (c : Char) (rest : List Char) : LexemeKind × Nat :=
  match long? context (c :: rest) with
  | some (kind, width) => (kind, width - 1)
  | none => (signKind c, 0)

end Lexeme

/-- The lexemes of a text behind other lexemes. -/
def lexemesFrom (context : Lexeme.Context) : List Char → List Lexeme
  | [] => []
  | c :: rest =>
      let found := Lexeme.front context c rest
      let text := c :: rest.take found.2
      ⟨found.1, text⟩ :: lexemesFrom (context.advance found.1 text) (rest.drop found.2)
termination_by cs => cs.length
decreasing_by
  simp only [List.length_drop, List.length_cons]
  omega

def lexemes (cs : List Char) : List Lexeme :=
  lexemesFrom .start cs

theorem flatMap_text_lexemesFrom (context : Lexeme.Context) (cs : List Char) :
    (lexemesFrom context cs).flatMap Lexeme.text = cs := by
  fun_induction lexemesFrom context cs with
  | case1 => rfl
  | case2 context c rest found text ih => simp [text, ih]

/-- Nothing is lost when a text is cut into lexemes. -/
theorem flatMap_text_lexemes (cs : List Char) : (lexemes cs).flatMap Lexeme.text = cs :=
  flatMap_text_lexemesFrom .start cs

namespace Lexeme

theorem Context.clauseKind_ne_blank (context : Context) (text : List Char) :
    context.clauseKind text ≠ .blank := by
  unfold clauseKind
  split <;> simp

theorem Context.connectiveKind_ne_blank (context : Context) (text : List Char) :
    context.connectiveKind text ≠ .blank := by
  unfold connectiveKind
  split <;> simp

/-- Only blanks make a lexeme of that kind. -/
theorem runLength_of_long? {context : Context} {cs : List Char} {width : Nat}
    (h : long? context cs = some (.blank, width)) : runLength isBlank cs = some width := by
  cases hblank : runLength isBlank cs with
  | some n => simpa [long?, hblank] using h
  | none =>
      exfalso
      simp only [long?, reserved?, hblank] at h
      split at h <;>
        simp [Option.or_eq_some_iff, Context.clauseKind_ne_blank,
          Context.connectiveKind_ne_blank] at h

/-- A run is as long as the first characters that belong to its class, and never empty. -/
theorem take_of_runLength {belongs : Char → Bool} {cs : List Char} {n : Nat}
    (h : runLength belongs cs = some n) : n ≠ 0 ∧ cs.take n = cs.takeWhile belongs := by
  have hprefix : cs.takeWhile belongs <+: cs := List.takeWhile_prefix belongs
  unfold runLength at h
  split at h
  · contradiction
  · next length hzero =>
      obtain rfl : (cs.takeWhile belongs).length = n := Option.some.inj h
      exact ⟨hzero, (List.prefix_iff_eq_take.mp hprefix).symm⟩

theorem signKind_ne_blank (c : Char) : signKind c ≠ .blank := by
  unfold signKind
  repeat' split
  all_goals simp

/-- The lexeme in front consists of blanks where its kind says so. -/
theorem isBlank_of_front (context : Context) (c : Char) (rest : List Char)
    (h : (front context c rest).1 = .blank) :
    ∀ d ∈ c :: rest.take (front context c rest).2, isBlank d = true := by
  unfold front at h ⊢
  cases hlong : long? context (c :: rest) with
  | none =>
      simp only [hlong] at h
      exact absurd h (signKind_ne_blank c)
  | some found =>
      obtain ⟨kind, width⟩ := found
      simp only [hlong] at h
      subst h
      obtain ⟨hzero, htake⟩ := take_of_runLength (runLength_of_long? hlong)
      obtain ⟨more, rfl⟩ := Nat.exists_eq_succ_of_ne_zero hzero
      rw [List.take_succ_cons] at htake
      change ∀ d ∈ c :: rest.take more, isBlank d = true
      rw [htake]
      exact List.all_eq_true.mp List.all_takeWhile

end Lexeme

theorem isBlank_of_mem_lexemesFrom (context : Lexeme.Context) (cs : List Char)
    {lexeme : Lexeme} (hlexeme : lexeme ∈ lexemesFrom context cs)
    (hkind : lexeme.kind = .blank) : ∀ c ∈ lexeme.text, isBlank c = true := by
  fun_induction lexemesFrom context cs with
  | case1 => simp at hlexeme
  | case2 context c rest found text ih =>
      rcases List.mem_cons.mp hlexeme with rfl | hrest
      · exact Lexeme.isBlank_of_front context c rest hkind
      · exact ih hrest

theorem isBlank_of_mem_lexemes (cs : List Char) {lexeme : Lexeme}
    (hlexeme : lexeme ∈ lexemes cs) (hkind : lexeme.kind = .blank) :
    ∀ c ∈ lexeme.text, isBlank c = true :=
  isBlank_of_mem_lexemesFrom .start cs hlexeme hkind

end RequestFilter.Sql
