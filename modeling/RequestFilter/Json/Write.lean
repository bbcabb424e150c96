import RequestFilter.Json.Basic
import RequestFilter.Text.Quoted

/-!
# Writing documents

The compact form has no blanks; the indented form puts every item on a line of
its own, two spaces deeper than its list. Quotes, backslashes and controls are
escaped inside strings and nothing else is.
-/

namespace RequestFilter

namespace Json

def escapeChar (c : Char) : List Char :=
  if c = '"' then ['\\', '"']
  else if c = '\\' then ['\\', '\\']
  else if c = '\x08' then ['\\', 'b']
  else if c = '\x0c' then ['\\', 'f']
  else if c = '\n' then ['\\', 'n']
  else if c = '\r' then ['\\', 'r']
  else if c = '\t' then ['\\', 't']
  else if c.toNat < 16 then ['\\', 'u', '0', '0', '0'] ++ hexDigits c.toNat
  else if c.toNat < 32 then ['\\', 'u', '0', '0'] ++ hexDigits c.toNat
  else [c]

def stringChars (s : String) : List Char :=
  '"' :: s.toList.flatMap escapeChar ++ ['"']

mutual

def compactChars : Json → List Char
  | .null => ['n', 'u', 'l', 'l']
  | .bool true => ['t', 'r', 'u', 'e']
  | .bool false => ['f', 'a', 'l', 's', 'e']
  | .number n => n.text.toList
  | .string s => stringChars s
  | .array items => '[' :: [','].intercalate (compactItems items) ++ [']']
  | .object members => '\x7b' :: [','].intercalate (compactMembers members) ++ ['\x7d']

def compactItems : List Json → List (List Char)
  | [] => []
  | item :: rest => compactChars item :: compactItems rest

def compactMembers : List (String × Json) → List (List Char)
  | [] => []
  | (name, value) :: rest =>
      (stringChars name ++ ':' :: compactChars value) :: compactMembers rest

end

def lineBreak (depth : Nat) : List Char :=
  '\n' :: List.replicate (2 * depth) ' '

/-- Written parts on lines of their own between brackets; none are written as two brackets. -/
def bracketed (opening closing : Char) (depth : Nat) (parts : List (List Char)) : List Char :=
  if parts.isEmpty then [opening, closing]
  else
    opening :: lineBreak (depth + 1) ++
      (',' :: lineBreak (depth + 1)).intercalate parts ++
      lineBreak depth ++ [closing]

mutual

def indentedChars (depth : Nat) : Json → List Char
  | .array items => bracketed '[' ']' depth (indentedItems (depth + 1) items)
  | .object members => bracketed '\x7b' '\x7d' depth (indentedMembers (depth + 1) members)
  | .null => ['n', 'u', 'l', 'l']
  | .bool true => ['t', 'r', 'u', 'e']
  | .bool false => ['f', 'a', 'l', 's', 'e']
  | .number n => n.text.toList
  | .string s => stringChars s

def indentedItems (depth : Nat) : List Json → List (List Char)
  | [] => []
  | item :: rest => indentedChars depth item :: indentedItems depth rest

def indentedMembers (depth : Nat) : List (String × Json) → List (List Char)
  | [] => []
  | (name, value) :: rest =>
      (stringChars name ++ ':' :: ' ' :: indentedChars depth value) ::
        indentedMembers depth rest

end

def compact (document : Json) : String :=
  String.ofList document.compactChars

/-- A document over lines, without a line break at its end. -/
def indented (document : Json) : String :=
  String.ofList (document.indentedChars 0)

end Json

end RequestFilter
