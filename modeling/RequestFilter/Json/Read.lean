import RequestFilter.Json.Numeral
import RequestFilter.Json.Text

/-!
# Reading documents

Strict reading builds the tree of a document and refuses brackets nested deeper
than a given number of levels. Passing over a value checks its form only, at any
depth. Every nested value and every further item starts at least one character
later, so the length of the text bounds the work.
-/

namespace RequestFilter

namespace Json

/-- How many brackets may be open at once. -/
def maxLevels : Nat := 127

namespace Reader

mutual

/-- A value, with room for so many levels of brackets. -/
def valueWithin : Nat → Nat → Reader Json
  | 0, _ => failHere .endInValue
  | fuel + 1, levels => do
      match ← peekToken with
      | none => failHere .endInValue
      | some c =>
          if c = 'n' then do
            skip
            word ['u', 'l', 'l']
            pure .null
          else if c = 't' then do
            skip
            word ['r', 'u', 'e']
            pure (.bool true)
          else if c = 'f' then do
            skip
            word ['a', 'l', 's', 'e']
            pure (.bool false)
          else if c = '-' then do
            skip
            return .number (← number true)
          else if c.isDigit then do
            return .number (← number false)
          else if c = '"' then do
            skip
            return .string (← text)
          else if c = '[' then
            match levels with
            | 0 => failNext .nestedTooDeep
            | levels + 1 => do
                skip
                return .array (← itemsWithin fuel levels)
          else if c = '\x7b' then
            match levels with
            | 0 => failNext .nestedTooDeep
            | levels + 1 => do
                skip
                return .object (distinctMembers (← membersWithin fuel levels))
          else failNext .expectedValue

/-- The items of a list after its bracket. -/
def itemsWithin : Nat → Nat → Reader (List Json)
  | 0, _ => failHere .endInList
  | fuel + 1, levels => do
      match ← peekToken with
      | none => failHere .endInList
      | some c =>
          if c = ']' then do
            skip
            pure []
          else do
            let item ← valueWithin fuel levels
            let others ← moreItemsWithin fuel levels
            pure (item :: others)

/-- The items of a list after one of them. -/
def moreItemsWithin : Nat → Nat → Reader (List Json)
  | 0, _ => failHere .endInList
  | fuel + 1, levels => do
      match ← peekToken with
      | none => failHere .endInList
      | some c =>
          if c = ']' then do
            skip
            pure []
          else if c = ',' then do
            skip
            match ← peekToken with
            | none => failHere .endInValue
            | some d =>
                if d = ']' then failNext .trailingComma
                else do
                  let item ← valueWithin fuel levels
                  let others ← moreItemsWithin fuel levels
                  pure (item :: others)
          else failNext .expectedCommaOrBracket

/-- The members of an object after its brace, as they stand in the text. -/
def membersWithin : Nat → Nat → Reader (List (String × Json))
  | 0, _ => failHere .endInObject
  | fuel + 1, levels => do
      match ← peekToken with
      | none => failHere .endInObject
      | some c =>
          if c = '\x7d' then do
            skip
            pure []
          else if c = '"' then do
            skip
            memberWithin fuel levels
          else failNext .keyNotString

/-- The members of an object from inside the quotes of a name on. -/
def memberWithin : Nat → Nat → Reader (List (String × Json))
  | 0, _ => failHere .endInObject
  | fuel + 1, levels => do
      let name ← text
      match ← peekToken with
      | none => failHere .endInObject
      | some c =>
          if c = ':' then do
            skip
            let value ← valueWithin fuel levels
            let others ← moreMembersWithin fuel levels
            pure ((name, value) :: others)
          else failNext .expectedColon

/-- The members of an object after one of them. -/
def moreMembersWithin : Nat → Nat → Reader (List (String × Json))
  | 0, _ => failHere .endInObject
  | fuel + 1, levels => do
      match ← peekToken with
      | none => failHere .endInObject
      | some c =>
          if c = '\x7d' then do
            skip
            pure []
          else if c = ',' then do
            skip
            match ← peekToken with
            | none => failHere .endInValue
            | some d =>
                if d = '"' then do
                  skip
                  memberWithin fuel levels
                else if d = '\x7d' then failNext .trailingComma
                else failNext .keyNotString
          else failNext .expectedCommaOrBrace

end

mutual

/-- Pass over a value. -/
def passValueWithin : Nat → Reader Unit
  | 0 => failHere .endInValue
  | fuel + 1 => do
      match ← peekToken with
      | none => failHere .endInValue
      | some c =>
          if c = 'n' then do
            skip
            word ['u', 'l', 'l']
          else if c = 't' then do
            skip
            word ['r', 'u', 'e']
          else if c = 'f' then do
            skip
            word ['a', 'l', 's', 'e']
          else if c = '-' then do
            skip
            skipNumber
          else if c.isDigit then skipNumber
          else if c = '"' then do
            skip
            passText
          else if c = '[' then do
            skip
            match ← peekToken with
            | none => failHere .endInList
            | some d => if d = ']' then skip else passItemsWithin fuel
          else if c = '\x7b' then do
            skip
            match ← peekToken with
            | none => failHere .endInObject
            | some d => if d = '\x7d' then skip else passMembersWithin fuel
          else failNext .expectedValue

/-- Pass over an item of a list, those after it and the bracket. -/
def passItemsWithin : Nat → Reader Unit
  | 0 => failHere .endInList
  | fuel + 1 => do
      passValueWithin fuel
      match ← peekToken with
      | none => failHere .endInList
      | some c =>
          if c = ']' then skip
          else if c = ',' then do
            skip
            passItemsWithin fuel
          else failNext .expectedCommaOrBracket

/-- Pass over a member of an object, those after it and the brace. -/
def passMembersWithin : Nat → Reader Unit
  | 0 => failHere .endInObject
  | fuel + 1 => do
      match ← peekToken with
      | none => failHere .endInObject
      | some c =>
          if c = '"' then do
            skip
            passText
            match ← peekToken with
            | none => failHere .endInObject
            | some d =>
                if d = ':' then do
                  skip
                  passValueWithin fuel
                  match ← peekToken with
                  | none => failHere .endInObject
                  | some e =>
                      if e = '\x7d' then skip
                      else if e = ',' then do
                        skip
                        passMembersWithin fuel
                      else failNext .expectedCommaOrBrace
                else failNext .expectedColon
          else failNext .keyNotString

end

/-- Enough fuel for everything that is left of the text. -/
def fuelLeft : Reader Nat := fun cursor =>
  .ok (2 * cursor.rest.length + 2, cursor)

/-- A value with room for so many levels of brackets. -/
def value (levels : Nat) : Reader Json := do
  valueWithin (← fuelLeft) levels

/-- Pass over a value of any depth. -/
def passValue : Reader Unit := do
  passValueWithin (← fuelLeft)

end Reader

def parse (text : String) : Except Error Json :=
  Reader.run (Reader.value maxLevels) text

end Json

end RequestFilter
