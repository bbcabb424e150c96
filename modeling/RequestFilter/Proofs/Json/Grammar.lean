import RequestFilter.Proofs.Json.Reading

/-!
# The grammar of documents

A document as it is written, with the text of its numerals and with every member
that it gives to an object, and the texts that spell it. What such a document
stands for is told from it alone: a tree, unless a numeral is beyond all doubles
or the brackets are nested too deep.
-/

namespace RequestFilter

namespace Json

def AreDigits (cs : List Char) : Prop :=
  ∀ c ∈ cs, c.isDigit = true

instance (cs : List Char) : Decidable (AreDigits cs) :=
  List.decidableBAll _ cs

/-- The exponent of a numeral: a letter, a sign if there is one, and digits. -/
structure Exponent where
  letter : Char
  sign : List Char
  digits : List Char
  isLetter : letter = 'e' ∨ letter = 'E'
  isSign : sign = [] ∨ sign = ['+'] ∨ sign = ['-']
  areDigits : AreDigits digits
  ne_nil : digits ≠ []

namespace Exponent

def text (exponent : Exponent) : List Char :=
  exponent.letter :: (exponent.sign ++ exponent.digits)

def isNegative (exponent : Exponent) : Bool :=
  exponent.sign = ['-']

/-- The power of ten that an exponent of 31 bits at most stands for. -/
def power (exponent : Exponent) : Int :=
  if exponent.isNegative then -(digitsValue 0 exponent.digits : Int)
  else digitsValue 0 exponent.digits

end Exponent

/-- A numeral in its parts: no zero stands before other digits, and a point has digits behind it. -/
structure Numeral where
  negative : Bool
  whole : List Char
  fraction : List Char
  exponent : Option Exponent
  areWhole : AreDigits whole
  isPlain : whole = ['0'] ∨ ∃ first rest, whole = first :: rest ∧ first ≠ '0'
  areFraction : AreDigits fraction

namespace Numeral

def fractionText (numeral : Numeral) : List Char :=
  if numeral.fraction = [] then [] else '.' :: numeral.fraction

def exponentText (numeral : Numeral) : List Char :=
  match numeral.exponent with
  | none => []
  | some exponent => exponent.text

/-- The numeral behind its sign. -/
def magnitudeText (numeral : Numeral) : List Char :=
  numeral.whole ++ (numeral.fractionText ++ numeral.exponentText)

def text (numeral : Numeral) : List Char :=
  signed numeral.negative numeral.magnitudeText

/-- All digits before the exponent, as one number. -/
def significand (numeral : Numeral) : Nat :=
  digitsValue 0 (numeral.whole ++ numeral.fraction)

/-- The number that a numeral stands for. A whole one is an integer where that fits; all others
are the nearest doubles, if there are any. An exponent of more than 31 bits is not looked at
further: it stands for zero, unless the numeral grows by it. -/
def number? (numeral : Numeral) : Option Number :=
  match numeral.exponent with
  | none =>
      if numeral.fraction = [] then
        Number.ofWhole? numeral.negative (digitsValue 0 numeral.whole)
      else
        Number.ofBinary64? (Binary64.ofDecimal numeral.negative numeral.significand
          (-(numeral.fraction.length : Int)))
  | some exponent =>
      if digitsValue 0 exponent.digits < 2147483648 then
        Number.ofBinary64? (Binary64.ofDecimal numeral.negative numeral.significand
          (-(numeral.fraction.length : Int) + exponent.power))
      else if numeral.significand ≠ 0 ∧ exponent.isNegative = false then none
      else Number.ofBinary64? (Binary64.zero numeral.negative)

/-- No fraction and no exponent. -/
def IsInteger (numeral : Numeral) : Prop :=
  numeral.fraction = [] ∧ numeral.exponent = none

end Numeral

/-- A document as it is written: numerals keep their parts, and names may be given again. -/
inductive Written where
  | null
  | bool (value : Bool)
  | numeral (numeral : Numeral)
  | string (value : String)
  | array (items : List Written)
  | object (members : List (String × Written))

/-- A number, or the fault of a numeral that stands for none. -/
def numberOrFault : Option Number → Except Fault Number
  | some found => .ok found
  | none => .error .numberOutOfRange

namespace Written

mutual

/-- The tree of a document with room for so many levels of brackets, or its first fault. -/
def read : Nat → Written → Except Fault Json
  | _, .null => .ok .null
  | _, .bool value => .ok (.bool value)
  | _, .numeral digits => do return .number (← numberOrFault digits.number?)
  | _, .string value => .ok (.string value)
  | 0, .array _ | 0, .object _ => .error .nestedTooDeep
  | levels + 1, .array items => do return .array (← readItems levels items)
  | levels + 1, .object members => do
      return .object (distinctMembers (← readMembers levels members))

def readItems : Nat → List Written → Except Fault (List Json)
  | _, [] => .ok []
  | levels, item :: rest => do
      let first ← read levels item
      let others ← readItems levels rest
      return first :: others

def readMembers : Nat → List (String × Written) → Except Fault (List (String × Json))
  | _, [] => .ok []
  | levels, (name, value) :: rest => do
      let first ← read levels value
      let others ← readMembers levels rest
      return (name, first) :: others

end

end Written

theorem exists_of_bind_eq_ok {ε α β : Type} {result : Except ε α} {next : α → Except ε β} {b : β}
    (h : (result >>= next) = .ok b) : ∃ a, result = .ok a ∧ next a = .ok b := by
  cases result with
  | ok a => exact ⟨a, rfl, h⟩
  | error fault => cases h

namespace Written

/-- A tree is that of a document in one of these ways. -/
inductive IsTree : Nat → Written → Json → Prop
  | null {levels : Nat} : IsTree levels .null .null
  | bool {levels : Nat} (value : Bool) : IsTree levels (.bool value) (.bool value)
  | numeral {levels : Nat} {n : Numeral} {found : Number} (h : n.number? = some found) :
      IsTree levels (.numeral n) (.number found)
  | string {levels : Nat} (value : String) : IsTree levels (.string value) (.string value)
  | array {levels : Nat} {items : List Written} {read : List Json}
      (h : readItems levels items = .ok read) : IsTree (levels + 1) (.array items) (.array read)
  | object {levels : Nat} {members : List (String × Written)} {read : List (String × Json)}
      (h : readMembers levels members = .ok read) :
      IsTree (levels + 1) (.object members) (.object (distinctMembers read))

/-- What a written value is read as is a tree of it. -/
theorem isTree_of_read {levels : Nat} {written : Written} {document : Json}
    (h : written.read levels = .ok document) : IsTree levels written document := by
  cases written with
  | null =>
      cases h
      exact .null
  | bool value =>
      cases h
      exact .bool value
  | string value =>
      cases h
      exact .string value
  | numeral n =>
      rw [read] at h
      obtain ⟨found, hfound, hdocument⟩ := exists_of_bind_eq_ok h
      cases hdocument
      cases hnumber : n.number? with
      | none =>
          rw [hnumber] at hfound
          cases hfound
      | some other =>
          rw [hnumber] at hfound
          cases hfound
          exact .numeral hnumber
  | array items =>
      cases levels with
      | zero => cases h
      | succ levels =>
          rw [read] at h
          obtain ⟨trees, htrees, hdocument⟩ := exists_of_bind_eq_ok h
          cases hdocument
          exact .array htrees
  | object members =>
      cases levels with
      | zero => cases h
      | succ levels =>
          rw [read] at h
          obtain ⟨trees, htrees, hdocument⟩ := exists_of_bind_eq_ok h
          cases hdocument
          exact .object htrees

end Written

/-- The ways of writing one character of a string: by itself, or as two units that belong
together. -/
inductive CharSpelling (c : Char) : List Char → Prop
  | escape {written : List Char} (h : Escape c written) : CharSpelling c written
  | pair {h₁ h₂ h₃ h₄ g₁ g₂ g₃ g₄ : Char} {leading trailing : Nat}
      (hfirst : hexUnit? h₁ h₂ h₃ h₄ = some leading) (hleading : isLeadingSurrogate leading = true)
      (hsecond : hexUnit? g₁ g₂ g₃ g₄ = some trailing)
      (htrailing : isTrailingSurrogate trailing = true)
      (hchar : c = pairedChar leading trailing) :
      CharSpelling c ['\\', 'u', h₁, h₂, h₃, h₄, '\\', 'u', g₁, g₂, g₃, g₄]

/-- What stands between the quotes of a string. -/
inductive TextSpelling : List Char → List Char → Prop
  | nil : TextSpelling [] []
  | cons {c : Char} {written cs rest : List Char} (h : CharSpelling c written)
      (hrest : TextSpelling cs rest) : TextSpelling (c :: cs) (written ++ rest)

/-- Every string has a spelling: that in which it is written. -/
theorem textSpelling_escaped (cs : List Char) : TextSpelling cs (cs.flatMap escapeChar) := by
  induction cs with
  | nil => exact .nil
  | cons c rest ih => exact .cons (.escape (escape_escapeChar c)) ih

mutual

/-- The texts of a document, without blanks around it. -/
inductive Spelling : Written → List Char → Prop
  | null : Spelling .null ['n', 'u', 'l', 'l']
  | truth : Spelling (.bool true) ['t', 'r', 'u', 'e']
  | falsity : Spelling (.bool false) ['f', 'a', 'l', 's', 'e']
  | numeral (numeral : Numeral) : Spelling (.numeral numeral) numeral.text
  | string {value : String} {inside : List Char} (h : TextSpelling value.toList inside) :
      Spelling (.string value) ('"' :: (inside ++ ['"']))
  | emptyArray {blanks : List Char} (hblanks : AreBlank blanks) :
      Spelling (.array []) ('[' :: (blanks ++ [']']))
  | array {item : Written} {items : List Written} {blanks cs tail : List Char}
      (hblanks : AreBlank blanks) (hitem : Spelling item cs) (hitems : ItemsBehind items tail) :
      Spelling (.array (item :: items)) ('[' :: (blanks ++ (cs ++ tail)))
  | emptyObject {blanks : List Char} (hblanks : AreBlank blanks) :
      Spelling (.object []) ('\x7b' :: (blanks ++ ['\x7d']))
  | object {members : List (String × Written)} {blanks cs : List Char}
      (hblanks : AreBlank blanks) (hmembers : MembersFrom members cs) :
      Spelling (.object members) ('\x7b' :: (blanks ++ cs))

/-- What stands behind an item of a list: the other items and the bracket. -/
inductive ItemsBehind : List Written → List Char → Prop
  | close {blanks : List Char} (hblanks : AreBlank blanks) : ItemsBehind [] (blanks ++ [']'])
  | more {item : Written} {items : List Written} {before behind cs tail : List Char}
      (hbefore : AreBlank before) (hbehind : AreBlank behind) (hitem : Spelling item cs)
      (hitems : ItemsBehind items tail) :
      ItemsBehind (item :: items) (before ++ ',' :: (behind ++ (cs ++ tail)))

/-- A member of an object from its name on, with those behind it and the brace. -/
inductive MembersFrom : List (String × Written) → List Char → Prop
  | member {name : String} {value : Written} {members : List (String × Written)}
      {inside before behind cs tail : List Char} (hname : TextSpelling name.toList inside)
      (hbefore : AreBlank before) (hbehind : AreBlank behind) (hvalue : Spelling value cs)
      (hmembers : MembersBehind members tail) :
      MembersFrom ((name, value) :: members)
        ('"' :: (inside ++ '"' :: (before ++ ':' :: (behind ++ (cs ++ tail)))))

/-- What stands behind a member of an object. -/
inductive MembersBehind : List (String × Written) → List Char → Prop
  | close {blanks : List Char} (hblanks : AreBlank blanks) : MembersBehind [] (blanks ++ ['\x7d'])
  | more {members : List (String × Written)} {before behind cs : List Char}
      (hbefore : AreBlank before) (hbehind : AreBlank behind) (hmembers : MembersFrom members cs) :
      MembersBehind members (before ++ ',' :: (behind ++ cs))

end

namespace Written

mutual

/-- One text of a document, without blanks. -/
def chars : Written → List Char
  | .null => ['n', 'u', 'l', 'l']
  | .bool true => ['t', 'r', 'u', 'e']
  | .bool false => ['f', 'a', 'l', 's', 'e']
  | .numeral n => n.text
  | .string value => '"' :: (value.toList.flatMap escapeChar ++ ['"'])
  | .array [] => ['[', ']']
  | .array (item :: items) => '[' :: (item.chars ++ itemsChars items)
  | .object [] => ['\x7b', '\x7d']
  | .object ((name, value) :: members) =>
      '\x7b' :: '"' :: (name.toList.flatMap escapeChar ++
        '"' :: ':' :: (value.chars ++ membersChars members))

/-- The other items of a list and its bracket. -/
def itemsChars : List Written → List Char
  | [] => [']']
  | item :: items => ',' :: (item.chars ++ itemsChars items)

/-- The other members of an object and its brace. -/
def membersChars : List (String × Written) → List Char
  | [] => ['\x7d']
  | (name, value) :: members =>
      ',' :: '"' :: (name.toList.flatMap escapeChar ++
        '"' :: ':' :: (value.chars ++ membersChars members))

end

end Written

mutual

/-- Every written value has a spelling without blanks. -/
theorem spelling_chars : ∀ written : Written, Spelling written written.chars
  | .null => .null
  | .bool true => .truth
  | .bool false => .falsity
  | .numeral n => .numeral n
  | .string value => .string (textSpelling_escaped value.toList)
  | .array [] => .emptyArray areBlank_nil
  | .array (item :: items) =>
      .array areBlank_nil (spelling_chars item) (itemsBehind_chars items)
  | .object [] => .emptyObject areBlank_nil
  | .object ((name, value) :: members) =>
      .object areBlank_nil (.member (textSpelling_escaped name.toList) areBlank_nil areBlank_nil
        (spelling_chars value) (membersBehind_chars members))

theorem itemsBehind_chars : ∀ items : List Written, ItemsBehind items (Written.itemsChars items)
  | [] => .close areBlank_nil
  | item :: items =>
      .more areBlank_nil areBlank_nil (spelling_chars item) (itemsBehind_chars items)

theorem membersBehind_chars : ∀ members : List (String × Written),
    MembersBehind members (Written.membersChars members)
  | [] => .close areBlank_nil
  | (name, value) :: members =>
      .more areBlank_nil areBlank_nil (.member (textSpelling_escaped name.toList) areBlank_nil
        areBlank_nil (spelling_chars value) (membersBehind_chars members))

end

/-- The text of a document, with blanks around it and nothing else. -/
def IsTextOf (written : Written) (text : String) : Prop :=
  ∃ front cs back, AreBlank front ∧ Spelling written cs ∧ AreBlank back ∧
    text.toList = front ++ (cs ++ back)

/-- Every document has a text. -/
theorem isTextOf_chars (written : Written) : IsTextOf written (String.ofList written.chars) :=
  ⟨[], written.chars, [], areBlank_nil, spelling_chars written, areBlank_nil, by simp⟩

end Json

end RequestFilter
