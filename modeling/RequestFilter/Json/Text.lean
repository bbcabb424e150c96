import RequestFilter.Json.Cursor

/-!
# Strings of a document

A string is read up to its closing quote. Escapes by code unit come in pairs
where two units make one character. Strings that are only passed over need not
hold whole characters.
-/

namespace RequestFilter

namespace Json

def hexValue? (c : Char) : Option Nat :=
  if '0' ≤ c ∧ c ≤ '9' then some (c.toNat - '0'.toNat)
  else if 'a' ≤ c ∧ c ≤ 'f' then some (c.toNat - 'a'.toNat + 10)
  else if 'A' ≤ c ∧ c ≤ 'F' then some (c.toNat - 'A'.toNat + 10)
  else none

def hexUnit? (a b c d : Char) : Option Nat := do
  let a ← hexValue? a
  let b ← hexValue? b
  let c ← hexValue? c
  let d ← hexValue? d
  pure (((a * 16 + b) * 16 + c) * 16 + d)

def escapeLetter? (c : Char) : Option Char :=
  if c = '"' then some '"'
  else if c = '\\' then some '\\'
  else if c = '/' then some '/'
  else if c = 'b' then some '\x08'
  else if c = 'f' then some '\x0c'
  else if c = 'n' then some '\n'
  else if c = 'r' then some '\r'
  else if c = 't' then some '\t'
  else none

/-- Controls must be escaped inside strings. -/
def isControl (c : Char) : Bool :=
  c.toNat < 32

/-- The fault of characters that should have been four hexadecimal digits. -/
def hexFault (cs : List Char) (place : Place) : Error :=
  if cs.foldl (fun bytes c => bytes + c.utf8Size) 0 < 4 then ⟨.endInString, place.afterBytes 4 cs⟩
  else ⟨.invalidEscape, place.afterBytes 4 cs⟩

/-- A fault at the next byte, or at the end of the text. -/
def faultAtNext (fault : Fault) (cs : List Char) (place : Place) : Error :=
  match cs with
  | [] => ⟨.endInString, place⟩
  | c :: _ => ⟨fault, place.afterByte c⟩

def isLeadingSurrogate (unit : Nat) : Bool :=
  0xD800 ≤ unit && unit ≤ 0xDBFF

def isTrailingSurrogate (unit : Nat) : Bool :=
  0xDC00 ≤ unit && unit ≤ 0xDFFF

def pairedChar (leading trailing : Nat) : Char :=
  Char.ofNat ((leading - 0xD800) * 0x400 + (trailing - 0xDC00) + 0x10000)

/-- The characters of a string and the cursor behind its closing quote. -/
def readText : List Char → Place → Except Error (List Char × Cursor)
  | [], place => .error ⟨.endInString, place⟩
  | c :: rest, place =>
      if c = '"' then .ok ([], ⟨rest, place.after c⟩)
      else if c = '\\' then
        let place := place.after c
        match rest with
        | [] => .error ⟨.endInString, place⟩
        | letter :: rest =>
            if letter = 'u' then
              let place := place.after letter
              match rest with
              | h₁ :: h₂ :: h₃ :: h₄ :: rest =>
                  match hexUnit? h₁ h₂ h₃ h₄ with
                  | none => .error (hexFault (h₁ :: h₂ :: h₃ :: h₄ :: rest) place)
                  | some unit =>
                      let place : Place := ⟨place.line, place.column + 4⟩
                      if isTrailingSurrogate unit then .error ⟨.loneSurrogate, place⟩
                      else if isLeadingSurrogate unit then
                        match rest with
                        | '\\' :: 'u' :: g₁ :: g₂ :: g₃ :: g₄ :: rest =>
                            let place : Place := ⟨place.line, place.column + 2⟩
                            match hexUnit? g₁ g₂ g₃ g₄ with
                            | none => .error (hexFault (g₁ :: g₂ :: g₃ :: g₄ :: rest) place)
                            | some partner =>
                                let place : Place := ⟨place.line, place.column + 4⟩
                                if isTrailingSurrogate partner then do
                                  let (cs, cursor) ← readText rest place
                                  pure (pairedChar unit partner :: cs, cursor)
                                else .error ⟨.loneSurrogate, place⟩
                        | '\\' :: 'u' :: short =>
                            .error (hexFault short ⟨place.line, place.column + 2⟩)
                        | '\\' :: rest =>
                            .error (faultAtNext .endOfHexEscape rest (place.after '\\'))
                        | rest => .error (faultAtNext .endOfHexEscape rest place)
                      else do
                        let (cs, cursor) ← readText rest place
                        pure (Char.ofNat unit :: cs, cursor)
              | short => .error (hexFault short place)
            else
              match escapeLetter? letter with
              | some shown => do
                  let (cs, cursor) ← readText rest (place.after letter)
                  pure (shown :: cs, cursor)
              | none => .error ⟨.invalidEscape, place.afterByte letter⟩
      else if isControl c then .error ⟨.controlCharacter, place.after c⟩
      else do
        let (cs, cursor) ← readText rest (place.after c)
        pure (c :: cs, cursor)

/-- The cursor behind the closing quote of a string that is passed over. -/
def skipText : List Char → Place → Except Error Cursor
  | [], place => .error ⟨.endInString, place⟩
  | c :: rest, place =>
      if c = '"' then .ok ⟨rest, place.after c⟩
      else if c = '\\' then
        let place := place.after c
        match rest with
        | [] => .error ⟨.endInString, place⟩
        | letter :: rest =>
            if letter = 'u' then
              let place := place.after letter
              match rest with
              | h₁ :: h₂ :: h₃ :: h₄ :: rest =>
                  match hexUnit? h₁ h₂ h₃ h₄ with
                  | none => .error (hexFault (h₁ :: h₂ :: h₃ :: h₄ :: rest) place)
                  | some _ => skipText rest ⟨place.line, place.column + 4⟩
              | short => .error (hexFault short place)
            else
              match escapeLetter? letter with
              | some _ => skipText rest (place.after letter)
              | none => .error ⟨.invalidEscape, place.afterByte letter⟩
      else if isControl c then .error ⟨.controlCharacter, place⟩
      else skipText rest (place.after c)

namespace Reader

/-- A string after its opening quote. -/
def text : Reader String := fun cursor => do
  let (cs, cursor) ← readText cursor.rest cursor.place
  pure (String.ofList cs, cursor)

/-- A string after its opening quote, of which only the form matters. -/
def passText : Reader Unit := fun cursor => do
  let cursor ← skipText cursor.rest cursor.place
  pure ((), cursor)

end Reader

end Json

end RequestFilter
