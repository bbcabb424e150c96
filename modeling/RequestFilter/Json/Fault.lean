/-!
# What can be wrong with a document

Every fault has one wording, and a place: the line, counted from one, and the
number of bytes of that line up to and including the offending one.
-/

namespace RequestFilter

namespace Json

inductive Fault where
  | endInValue
  | endInObject
  | endInList
  | endInString
  | expectedValue
  | expectedCommaOrBrace
  | expectedCommaOrBracket
  | expectedColon
  | keyNotString
  | trailingComma
  | trailingCharacters
  | expectedIdentifier
  | invalidNumber
  | numberOutOfRange
  | invalidEscape
  | controlCharacter
  | endOfHexEscape
  | loneSurrogate
  | nestedTooDeep
  | duplicateMember (name : String)
  | missingMember (name : String)
  | wrongType (found : String) (expected : String)
  | wrongLength (found : Nat) (expected : String)
  | noMatch (choice : String)
deriving DecidableEq

namespace Fault

def message : Fault → String
  | endInValue => "EOF while parsing a value"
  | endInObject => "EOF while parsing an object"
  | endInList => "EOF while parsing a list"
  | endInString => "EOF while parsing a string"
  | expectedValue => "expected value"
  | expectedCommaOrBrace => "expected `,` or `\x7d`"
  | expectedCommaOrBracket => "expected `,` or `]`"
  | expectedColon => "expected `:`"
  | keyNotString => "key must be a string"
  | trailingComma => "trailing comma"
  | trailingCharacters => "trailing characters"
  | expectedIdentifier => "expected ident"
  | invalidNumber => "invalid number"
  | numberOutOfRange => "number out of range"
  | invalidEscape => "invalid escape"
  | controlCharacter => "control character (\\u0000-\\u001F) found while parsing a string"
  | endOfHexEscape => "unexpected end of hex escape"
  | loneSurrogate => "lone leading surrogate in hex escape"
  | nestedTooDeep => "recursion limit exceeded"
  | duplicateMember name => "duplicate field `" ++ name ++ "`"
  | missingMember name => "missing field `" ++ name ++ "`"
  | wrongType found expected => "invalid type: " ++ found ++ ", expected " ++ expected
  | wrongLength found expected =>
      "invalid length " ++ toString found ++ ", expected " ++ expected
  | noMatch choice => "data did not match any variant of untagged enum " ++ choice

end Fault

structure Place where
  line : Nat
  column : Nat
deriving DecidableEq

namespace Place

def start : Place := ⟨1, 0⟩

def after (place : Place) (c : Char) : Place :=
  if c = '\n' then ⟨place.line + 1, 0⟩
  else ⟨place.line, place.column + c.utf8Size⟩

/-- The place after the first byte of a character. -/
def afterByte (place : Place) (c : Char) : Place :=
  if c = '\n' then ⟨place.line + 1, 0⟩
  else ⟨place.line, place.column + 1⟩

/-- The place after a number of bytes, which may end inside a character. -/
def afterBytes (place : Place) : Nat → List Char → Place
  | _, [] => place
  | count, c :: rest =>
      if count = 0 then place
      else if count < c.utf8Size then ⟨place.line, place.column + count⟩
      else (place.after c).afterBytes (count - c.utf8Size) rest

end Place

structure Error where
  fault : Fault
  place : Place
deriving DecidableEq

namespace Error

def message (e : Error) : String :=
  e.fault.message ++ " at line " ++ toString e.place.line ++ " column " ++
    toString e.place.column

end Error

end Json

end RequestFilter
