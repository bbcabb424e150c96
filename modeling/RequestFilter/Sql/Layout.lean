import RequestFilter.Sql.Lexeme
import RequestFilter.Sql.Statement

/-!
# Statements over lines

The text of a statement is laid out by changing the blanks between its lexemes.
Every clause has a line for its word and is indented below it. A group in
parentheses stays on one line when it is short and holds nothing that needs a
line of its own; otherwise its content stands one level deeper, on lines that end
at commas and begin with connectives. Main statement: the blanks apart, a text
laid out is the text.
-/

namespace RequestFilter.Sql

/-- The characters that leave a mark. -/
def ink (cs : List Char) : List Char :=
  cs.filter fun c => !isBlank c

@[simp]
theorem ink_append (left right : List Char) : ink (left ++ right) = ink left ++ ink right :=
  List.filter_append ..

/-- Blanks in front leave no mark. -/
theorem ink_dropWhile {belongs : Char → Bool} (h : ∀ c, belongs c = true → isBlank c = true)
    (cs : List Char) : ink (cs.dropWhile belongs) = ink cs := by
  induction cs with
  | nil => rfl
  | cons c rest ih =>
      cases hc : belongs c with
      | false => simp [hc]
      | true => simpa [hc, ink, h c hc] using ih

/-- The characters with one space in the place of each run of blanks. -/
def singleSpaced : List Char → List Char
  | [] => []
  | c :: rest =>
      let tail := singleSpaced rest
      if isBlank c then
        if tail.head? = some ' ' then tail else ' ' :: tail
      else c :: tail

/-- To write a run of blanks as a single one leaves the ink as it is. -/
theorem ink_singleSpaced (cs : List Char) : ink (singleSpaced cs) = ink cs := by
  have hspace : isBlank ' ' = true := by decide
  induction cs with
  | nil => rfl
  | cons c rest ih =>
      unfold ink at ih ⊢
      cases hc : isBlank c with
      | false => simp [singleSpaced, hc, ih]
      | true =>
          simp only [singleSpaced, hc, if_true]
          split <;> simp [hc, hspace, ih]

/-- Where in the text of a comment a character stands. -/
inductive CommentPlace where
  | lineStart
  /-- Among the spaces that begin a line. -/
  | margin
  | inside

/-- A comment whose lines, where spaces begin them, begin with an indentation and a space. -/
def alignLines (indentation : List Char) (place : CommentPlace) : List Char → List Char
  | [] => []
  | c :: rest =>
      if c = '\n' then c :: alignLines indentation .lineStart rest
      else if c = ' ' || c = '\t' then
        match place with
        | .lineStart => indentation ++ ' ' :: alignLines indentation .margin rest
        | .margin => alignLines indentation .margin rest
        | .inside => c :: alignLines indentation .inside rest
      else c :: alignLines indentation .inside rest

/-- To move the lines of a comment to another indentation leaves the ink as it is. -/
theorem ink_alignLines {indentation : List Char} (h : ink indentation = [])
    (place : CommentPlace) (cs : List Char) :
    ink (alignLines indentation place cs) = ink cs := by
  have hcons : ∀ (c : Char) (text : List Char),
      ink (c :: text) = if isBlank c then ink text else c :: ink text := by
    intro c text
    cases hc : isBlank c <;> simp [ink, hc]
  have hspace : isBlank ' ' = true := by decide
  have htab : isBlank '\t' = true := by decide
  induction cs generalizing place with
  | nil => rfl
  | cons c rest ih =>
      unfold alignLines
      split
      · simp [hcons, ih]
      · split
        · next hmargin =>
            have hc : isBlank c = true := by
              rcases Bool.or_eq_true_iff.mp hmargin with hc | hc <;>
                rw [of_decide_eq_true hc] <;> decide
            cases place <;> simp [hcons, ih, hc, hspace, h]
        · simp [hcons, ih]

/-- A lexeme of blanks has no ink. -/
theorem ink_text_of_blank (cs : List Char) {lexeme : Lexeme} (hlexeme : lexeme ∈ lexemes cs)
    (hkind : lexeme.kind = .blank) : ink lexeme.text = [] := by
  simpa [ink] using isBlank_of_mem_lexemes cs hlexeme hkind

namespace Layout

/-- The greatest number of bytes, parentheses included, of a group on one line. -/
def maxGroupBytes : Nat := 50

/-- What a level of indentation belongs to. -/
inductive Level where
  | clause
  | group
deriving DecidableEq

structure Page where
  /-- The characters, the last one first. -/
  written : List Char
  /-- The levels of indentation, the deepest first. -/
  levels : List Level
  /-- The number of open groups that stay on one line. -/
  onLine : Nat
  /-- The last reserved word sets a limit, whose numbers stay together. -/
  inLimit : Bool

namespace Page

def empty : Page := ⟨[], [], 0, false⟩

def write (page : Page) (text : List Char) : Page :=
  { page with written := text.reverse ++ page.written }

/-- Take back the spaces at the end. -/
def trim (page : Page) : Page :=
  { page with written := page.written.dropWhile fun c => c = ' ' || c = '\t' }

/-- Take back all blanks at the end. -/
def trimAll (page : Page) : Page :=
  { page with written := page.written.dropWhile isBlank }

def indentation (page : Page) : List Char :=
  List.replicate (2 * page.levels.length) ' '

/-- Begin a line, unless one has just begun, at the present indentation. -/
def breakLine (page : Page) : Page :=
  let page := page.trim
  let page := if page.written.head? = some '\n' then page else page.write ['\n']
  page.write page.indentation

def note (page : Page) (word : List Char) : Page :=
  { page with inLimit := word.map Char.toUpper = "LIMIT".toList }

def enter (page : Page) (level : Level) : Page :=
  { page with levels := level :: page.levels }

def leaveClause (page : Page) : Page :=
  match page.levels with
  | .clause :: outer => { page with levels := outer }
  | _ => page

/-- Leave a group and the clauses in it. -/
def leaveGroup (page : Page) : Page :=
  { page with levels := (page.levels.dropWhile (· = .clause)).drop 1 }

/-- What is left on the page, blanks apart. -/
def marks (page : Page) : List Char :=
  ink page.written.reverse

/-- What is written on a page adds its ink behind the marks that are there. -/
@[simp]
theorem marks_write (page : Page) (text : List Char) :
    (page.write text).marks = page.marks ++ ink text := by
  simp [marks, write]

/-- To cut blanks off the end of a page changes no mark. -/
@[simp]
theorem marks_trim (page : Page) : page.trim.marks = page.marks := by
  have hblank : ∀ c : Char, (c = ' ' || c = '\t') = true → isBlank c = true := by
    intro c hc
    rcases Bool.or_eq_true_iff.mp hc with h | h <;> rw [of_decide_eq_true h] <;> decide
  simpa [marks, trim, ink, List.filter_reverse] using ink_dropWhile hblank page.written

@[simp]
theorem marks_trimAll (page : Page) : page.trimAll.marks = page.marks := by
  simpa [marks, trimAll, ink, List.filter_reverse] using
    ink_dropWhile (fun _ h => h) page.written

@[simp]
theorem ink_indentation (page : Page) : ink page.indentation = [] := by
  simp [indentation, ink, show isBlank ' ' = true by decide]

/-- A new line and its indentation are blanks. -/
@[simp]
theorem marks_breakLine (page : Page) : page.breakLine.marks = page.marks := by
  have hline : ink ['\n'] = [] := by decide
  unfold breakLine
  dsimp only
  split <;> simp [hline]

@[simp]
theorem marks_note (page : Page) (word : List Char) : (page.note word).marks = page.marks := rfl

@[simp]
theorem marks_enter (page : Page) (level : Level) : (page.enter level).marks = page.marks := rfl

@[simp]
theorem marks_leaveClause (page : Page) : page.leaveClause.marks = page.marks := by
  unfold leaveClause
  split <;> rfl

@[simp]
theorem marks_leaveGroup (page : Page) : page.leaveGroup.marks = page.marks := rfl

end Page

/-- Whether a lexeme of this kind needs lines of its own. -/
def needsLine : LexemeKind → Bool
  | .clause | .connective | .lineComment | .blockComment | .semicolon => true
  | _ => false

/--
Whether the group that is open `level` deep closes within so many bytes, with
nothing in it that needs lines of its own.
-/
def closesWithin (level budget : Nat) : List Lexeme → Bool
  | [] => false
  | lexeme :: rest =>
      let width := (String.ofList lexeme.text).utf8ByteSize
      if budget < width || needsLine lexeme.kind then false
      else
        match lexeme.kind with
        | .opening => closesWithin (level + 1) (budget - width) rest
        | .closing => level = 1 || closesWithin (level - 1) (budget - width) rest
        | _ => closesWithin level (budget - width) rest

/-- Whether the group that begins in front stays on one line. -/
def staysOnLine (lexemes : List Lexeme) : Bool :=
  closesWithin 0 maxGroupBytes lexemes

/-- Whether an opening parenthesis keeps its distance from what is before it. -/
def keepsDistance : Option LexemeKind → Bool
  | some .blank | some .opening | some .lineComment => true
  | _ => false

def openGroup (page : Page) (previous : Option LexemeKind) (lexeme : Lexeme)
    (following : List Lexeme) : Page :=
  let page := (if keepsDistance previous then page else page.trim).write lexeme.text
  if 0 < page.onLine || staysOnLine (lexeme :: following) then
    { page with onLine := page.onLine + 1 }
  else
    (page.enter .group).breakLine

def closeGroup (page : Page) (lexeme : Lexeme) : Page :=
  if 0 < page.onLine then
    ({ page with onLine := page.onLine - 1 }).trim.write (lexeme.text ++ [' '])
  else
    page.leaveGroup.breakLine.write (lexeme.text ++ [' '])

/-- Write a comma, after which a line ends unless it is in a group on one line or in a limit. -/
def writeComma (page : Page) (lexeme : Lexeme) : Page :=
  let page := page.trim.write (lexeme.text ++ [' '])
  if 0 < page.onLine || page.inLimit then page else page.breakLine

/-- Whether blanks and then a word follow. -/
def goesOn : List Lexeme → Bool
  | blank :: next :: _ => blank.kind = .blank && next.kind.isWordlike
  | _ => false

/--
Where a line comment is written: on a line of its own where it had one before a
word, and else at the end of the line, two spaces behind a comma.
-/
def beforeComment (page : Page) (behind following : List Lexeme) : Page :=
  if (behind.head?.any fun lexeme => lexeme.text.contains '\n') && goesOn following then
    page.breakLine
  else if (behind.drop 1).head?.any fun lexeme => lexeme.kind = .comma then
    page.trimAll.write [' ', ' ']
  else page

/-- Write a lexeme, before others and behind others, of which the nearest comes first. -/
def place (page : Page) (behind : List Lexeme) (lexeme : Lexeme) (following : List Lexeme) :
    Page :=
  match lexeme.kind with
  | .blank => page
  | .lineComment => ((beforeComment page behind following).write lexeme.text).breakLine
  | .blockComment =>
      (page.breakLine.write (alignLines page.indentation .inside lexeme.text)).breakLine
  | .clause =>
      (((page.note lexeme.text).leaveClause.breakLine.enter .clause).write
        (singleSpaced lexeme.text)).breakLine
  | .separator =>
      ((page.note lexeme.text).leaveClause.breakLine.write (singleSpaced lexeme.text)).breakLine
  | .connective =>
      (page.note lexeme.text).breakLine.write (singleSpaced lexeme.text ++ [' '])
  | .keyword => (page.note lexeme.text).write (singleSpaced lexeme.text ++ [' '])
  | .opening => openGroup page (behind.head?.map Lexeme.kind) lexeme following
  | .closing => closeGroup page lexeme
  | .comma => writeComma page lexeme
  | .colon => page.trim.write (lexeme.text ++ [' '])
  | .period => page.trim.write lexeme.text
  | .semicolon => ({ page with levels := [] }).trim.write (lexeme.text ++ ['\n'])
  | .sign | .placeholder | .plain => page.write (lexeme.text ++ [' '])

/-- An opening parenthesis adds its own ink, whatever group it opens. -/
theorem marks_openGroup (page : Page) (previous : Option LexemeKind) (lexeme : Lexeme)
    (following : List Lexeme) :
    (openGroup page previous lexeme following).marks = page.marks ++ ink lexeme.text := by
  have hwritten : ((if keepsDistance previous then page else page.trim).write lexeme.text).marks =
      page.marks ++ ink lexeme.text := by
    split <;> simp
  unfold openGroup
  generalize (if keepsDistance previous then page else page.trim).write lexeme.text = written at *
  dsimp only
  split
  · exact hwritten
  · rw [Page.marks_breakLine, Page.marks_enter, hwritten]

/-- So does a closing one. -/
theorem marks_closeGroup (page : Page) (lexeme : Lexeme) :
    (closeGroup page lexeme).marks = page.marks ++ ink lexeme.text := by
  have hspace : ink [' '] = [] := by decide
  unfold closeGroup
  split
  · rw [Page.marks_write, Page.marks_trim, ink_append, hspace, List.append_nil]
    rfl
  · simp [hspace]

theorem marks_writeComma (page : Page) (lexeme : Lexeme) :
    (writeComma page lexeme).marks = page.marks ++ ink lexeme.text := by
  have hspace : ink [' '] = [] := by decide
  unfold writeComma
  dsimp only
  split <;> simp [hspace]

theorem marks_beforeComment (page : Page) (behind following : List Lexeme) :
    (beforeComment page behind following).marks = page.marks := by
  have hspaces : ink [' ', ' '] = [] := by decide
  unfold beforeComment
  split
  · simp
  · split <;> simp [hspaces]

/-- Whatever is done to the blanks, the marks of a lexeme are added to the page. -/
theorem marks_place (page : Page) (behind : List Lexeme) (lexeme : Lexeme)
    (following : List Lexeme) (h : lexeme.kind = .blank → ink lexeme.text = []) :
    (place page behind lexeme following).marks = page.marks ++ ink lexeme.text := by
  have hspace : ink [' '] = [] := by decide
  have hline : ink ['\n'] = [] := by decide
  unfold place
  cases hkind : lexeme.kind with
  | blank => simp [h hkind]
  | opening => exact marks_openGroup page _ lexeme following
  | closing => exact marks_closeGroup page lexeme
  | comma => exact marks_writeComma page lexeme
  | lineComment => simp [marks_beforeComment]
  | blockComment => simp [ink_alignLines page.ink_indentation]
  | semicolon =>
      dsimp only
      rw [Page.marks_write, Page.marks_trim, ink_append, hline, List.append_nil]
      rfl
  | clause | separator | connective | keyword | colon | period | sign | placeholder | plain =>
      simp [hspace, ink_singleSpaced]

def placeAll (page : Page) (behind : List Lexeme) : List Lexeme → Page
  | [] => page
  | lexeme :: rest => placeAll (place page behind lexeme rest) (lexeme :: behind) rest

/-- All lexemes together add their ink, from the first to the last. -/
theorem marks_placeAll (page : Page) (behind lexemes : List Lexeme)
    (h : ∀ lexeme ∈ lexemes, lexeme.kind = .blank → ink lexeme.text = []) :
    (placeAll page behind lexemes).marks =
      page.marks ++ ink (lexemes.flatMap Lexeme.text) := by
  induction lexemes generalizing page behind with
  | nil => simp [placeAll, ink]
  | cons lexeme rest ih =>
      have hrest : ∀ other ∈ rest, other.kind = .blank → ink other.text = [] :=
        fun other hother => h other (List.mem_cons_of_mem lexeme hother)
      simp [placeAll, ih _ _ hrest, marks_place page behind lexeme rest (h lexeme (by simp))]

end Layout

def layout (cs : List Char) : List Char :=
  trimBlanks (Layout.placeAll .empty [] (lexemes cs)).written.reverse

theorem ink_trimBlanks (cs : List Char) : ink (trimBlanks cs) = ink cs := by
  have hreverse : ∀ text : List Char, ink text.reverse = (ink text).reverse := by
    intro text
    simp [ink, List.filter_reverse]
  rw [trimBlanks, hreverse, ink_dropWhile (fun _ h => h), hreverse, List.reverse_reverse,
    ink_dropWhile (fun _ h => h)]

/-- Layout changes blanks only. -/
theorem ink_layout (cs : List Char) : ink (layout cs) = ink cs := by
  have hplaced := Layout.marks_placeAll .empty [] (lexemes cs)
    (fun lexeme hlexeme hkind => ink_text_of_blank cs hlexeme hkind)
  rw [flatMap_text_lexemes] at hplaced
  rw [layout, ink_trimBlanks]
  exact hplaced

/-- The statement with its text over lines; it binds the same values. -/
def Statement.layout (statement : Statement) : Statement :=
  { statement with text := String.ofList (Sql.layout statement.text.toList) }

end RequestFilter.Sql
