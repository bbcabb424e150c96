import RequestFilter.Json.Fault

/-!
# Reading a text

A reader moves a cursor over the characters that are left and knows the place
it has reached. It gives a result or the first fault.
-/

namespace RequestFilter

namespace Json

structure Cursor where
  rest : List Char
  place : Place
deriving DecidableEq

def isDocumentBlank (c : Char) : Bool :=
  c = ' ' || c = '\n' || c = '\t' || c = '\r'

namespace Cursor

def start (cs : List Char) : Cursor := ⟨cs, .start⟩

def next (cursor : Cursor) : Cursor :=
  match cursor.rest with
  | [] => cursor
  | c :: rest => ⟨rest, cursor.place.after c⟩

/-- The place after the next byte, if there is one. -/
def nextPlace (cursor : Cursor) : Place :=
  match cursor.rest with
  | [] => cursor.place
  | c :: _ => cursor.place.afterByte c

/-- Move over the characters at the front that satisfy a test. -/
def skipWhile (test : Char → Bool) : List Char → Place → Cursor
  | [], place => ⟨[], place⟩
  | c :: rest, place =>
      if test c then skipWhile test rest (place.after c) else ⟨c :: rest, place⟩

def skipBlanks (cursor : Cursor) : Cursor :=
  skipWhile isDocumentBlank cursor.rest cursor.place

end Cursor

abbrev Reader (α : Type) := StateT Cursor (Except Error) α

namespace Reader

/-- Fail at the place reached so far. -/
def failHere {α : Type} (fault : Fault) : Reader α := fun cursor =>
  .error ⟨fault, cursor.place⟩

/-- Fail at the next byte, or at the end of the text. -/
def failNext {α : Type} (fault : Fault) : Reader α := fun cursor =>
  .error ⟨fault, cursor.nextPlace⟩

def peek : Reader (Option Char) := fun cursor =>
  .ok (cursor.rest.head?, cursor)

def skip : Reader Unit := fun cursor =>
  .ok ((), cursor.next)

/-- Move over blanks and look at the character after them. -/
def peekToken : Reader (Option Char) := fun cursor =>
  let cursor := cursor.skipBlanks
  .ok (cursor.rest.head?, cursor)

def digits : Reader (List Char) := fun cursor =>
  .ok (cursor.rest.takeWhile Char.isDigit, Cursor.skipWhile Char.isDigit cursor.rest cursor.place)

/-- Move over exactly these characters, the end of a literal name. -/
def word : List Char → Reader Unit
  | [] => pure ()
  | expected :: more => do
      match ← peek with
      | none => failHere .endInValue
      | some c =>
          if c = expected then
            skip
            word more
          else failNext .expectedIdentifier

/-- The end of the text, with nothing but blanks before it. -/
def atEnd : Reader Unit := do
  match ← peekToken with
  | none => pure ()
  | some _ => failNext .trailingCharacters

def run {α : Type} (reader : Reader α) (text : String) : Except Error α := do
  let (value, cursor) ← reader (Cursor.start text.toList)
  let _ ← atEnd cursor
  pure value

end Reader

end Json

end RequestFilter
