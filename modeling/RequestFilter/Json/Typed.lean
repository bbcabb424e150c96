import RequestFilter.Json.Read
import RequestFilter.Text.Quoted

/-!
# Reading values of known types

A typed reader knows what it expects and refuses the first value of another
type. Some refusals arise inside a list or an object without a place of their
own; they are placed where the reader stands once it has tried to read the end
of that list or object.
-/

namespace RequestFilter

namespace Json

/-- A value as a refusal names it. -/
def described : Json → String
  | .null => "null"
  | .bool true => "boolean `true`"
  | .bool false => "boolean `false`"
  | .number (.integer value _) => "integer `" ++ toString value ++ "`"
  | .number (.real value) => "floating point `" ++ value.documentText ++ "`"
  | .string s => "string " ++ quoted s
  | .array _ => "sequence"
  | .object _ => "map"

namespace Reader

/-- Refuse the value in front for its type: behind a scalar, but in front of a bracket. -/
def refuseType {α : Type} (expected : String) : Reader α := do
  match ← peekToken with
  | none => failHere .endInValue
  | some c =>
      if c = '[' then failHere (.wrongType "sequence" expected)
      else if c = '\x7b' then failHere (.wrongType "map" expected)
      else
        let found ← valueWithin 1 0
        failHere (.wrongType found.described expected)

def string : Reader String := do
  match ← peekToken with
  | none => failHere .endInValue
  | some c =>
      if c = '"' then do
        skip
        text
      else refuseType "a string"

def nullableString : Reader (Option String) := do
  match ← peekToken with
  | some 'n' => do
      skip
      word ['u', 'l', 'l']
      pure none
  | _ => some <$> string

/-- The members of an object as they stand in the text, or a refusal of any other value. -/
def members (levels : Nat) (expected : String) : Reader (List (String × Json)) := do
  match ← peekToken with
  | none => failHere .endInValue
  | some c =>
      if c = '\x7b' then
        match levels with
        | 0 => failNext .nestedTooDeep
        | levels + 1 => do
            skip
            membersWithin (← fuelLeft) levels
      else refuseType expected

end Reader

/-- A refusal: an error, or a fault that still has to be placed and how far reading had come. -/
inductive Refusal where
  | placed (error : Error)
  | unplaced (fault : Fault) (cursor : Cursor)

/-- A reader inside a list or an object of known shape. -/
abbrev TypedReader (α : Type) := StateT Cursor (Except Refusal) α

namespace Cursor

/-- How far an attempt to read the end of a list comes. -/
def afterListEnd (cursor : Cursor) : Cursor :=
  let cursor := cursor.skipBlanks
  match cursor.rest with
  | ']' :: _ => cursor.next
  | ',' :: _ => cursor.next.skipBlanks
  | _ => cursor

/-- How far an attempt to read the end of an object comes. -/
def afterObjectEnd (cursor : Cursor) : Cursor :=
  let cursor := cursor.skipBlanks
  match cursor.rest with
  | '\x7d' :: _ => cursor.next
  | _ => cursor

end Cursor

namespace TypedReader

/-- A reader whose errors have their places. -/
def ofReader {α : Type} (reader : Reader α) : TypedReader α := fun cursor =>
  match reader cursor with
  | .ok result => .ok result
  | .error error => .error (.placed error)

def refuse {α : Type} (fault : Fault) : TypedReader α := fun cursor =>
  .error (.unplaced fault cursor)

/-- Read to the end of a list or object and place what is refused inside it. -/
def close {α : Type} (attempt : Cursor → Cursor) (ending : Reader Unit)
    (body : TypedReader α) : Reader α := fun cursor =>
  match body cursor with
  | .ok (value, cursor) => do
      let ((), cursor) ← ending cursor
      pure (value, cursor)
  | .error (.placed error) => .error error
  | .error (.unplaced fault cursor) => .error ⟨fault, (attempt cursor).place⟩

/-- The end of a list of which no more items are wanted. -/
def listEnd : Reader Unit := do
  match ← Reader.peekToken with
  | none => Reader.failHere .endInList
  | some c =>
      if c = ']' then Reader.skip
      else if c = ',' then do
        Reader.skip
        match ← Reader.peekToken with
        | some ']' => Reader.failNext .trailingComma
        | _ => Reader.failNext .trailingCharacters
      else Reader.failNext .trailingCharacters

/-- The end of an object of which no more members are wanted. -/
def objectEnd : Reader Unit := do
  match ← Reader.peekToken with
  | none => Reader.failHere .endInObject
  | some c =>
      if c = '\x7d' then Reader.skip
      else if c = ',' then Reader.failNext .trailingComma
      else Reader.failNext .trailingCharacters

/-- Read the items of a list after its bracket. -/
def list {α : Type} (items : TypedReader α) : Reader α :=
  close Cursor.afterListEnd listEnd items

/-- Read the members of an object after its brace. -/
def object {α : Type} (members : TypedReader α) : Reader α :=
  close Cursor.afterObjectEnd objectEnd members

/-- Whether another item stands in front; a comma before it is read. -/
def hasItem (first : Bool) : Reader Bool := do
  match ← Reader.peekToken with
  | none => Reader.failHere .endInList
  | some c =>
      if c = ']' then pure false
      else if first then pure true
      else if c = ',' then do
        Reader.skip
        match ← Reader.peekToken with
        | none => Reader.failHere .endInValue
        | some d => if d = ']' then Reader.failNext .trailingComma else pure true
      else Reader.failNext .expectedCommaOrBracket

/-- The name of the next member, if there is one; its value is still to be read. -/
def nextName (first : Bool) : Reader (Option String) := do
  match ← Reader.peekToken with
  | none => Reader.failHere .endInObject
  | some c =>
      if c = '\x7d' then pure none
      else if first then
        if c = '"' then do
          Reader.skip
          some <$> Reader.text
        else Reader.failNext .keyNotString
      else if c = ',' then do
        Reader.skip
        match ← Reader.peekToken with
        | none => Reader.failHere .endInValue
        | some d =>
            if d = '"' then do
              Reader.skip
              some <$> Reader.text
            else if d = '\x7d' then Reader.failNext .trailingComma
            else Reader.failNext .keyNotString
      else Reader.failNext .expectedCommaOrBrace

def colon : Reader Unit := do
  match ← Reader.peekToken with
  | none => Reader.failHere .endInObject
  | some c => if c = ':' then Reader.skip else Reader.failNext .expectedColon

def items {α : Type} (item : TypedReader α) : Nat → Bool → TypedReader (List α)
  | 0, _ => refuse .endInList
  | fuel + 1, first => do
      if ← ofReader (hasItem first) then do
        let value ← item
        let others ← items item fuel false
        pure (value :: others)
      else pure []

/--
Read all members of an object into a record: a known member sets its part of
the record, and any other is passed over.
-/
def membersInto {σ : Type} (known : String → Option (σ → TypedReader σ)) :
    Nat → Bool → σ → TypedReader σ
  | 0, _, _ => refuse .endInObject
  | fuel + 1, first, record => do
      match ← ofReader (nextName first) with
      | none => pure record
      | some name =>
          match known name with
          | some read => do
              let record ← read record
              membersInto known fuel false record
          | none => do
              ofReader colon
              ofReader Reader.passValue
              membersInto known fuel false record

/-- The value of a member that may occur once. -/
def once {α : Type} (name : String) (present : Option α) (value : Reader α) :
    TypedReader α := do
  if present.isSome then refuse (.duplicateMember name)
  else do
    ofReader colon
    ofReader value

end TypedReader

end Json

end RequestFilter
