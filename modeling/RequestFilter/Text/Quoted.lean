import RequestFilter.Text.PrintableTable
import RequestFilter.Text.CharRange

/-!
# Quoted text

A text between double quotes on one line. Quotes, backslashes and the usual
controls have short escapes; any other character without a visible shape of its
own is written as its code point, so that the quoted form ends at its closing
quote and holds no line break.
-/

namespace RequestFilter

def hexDigits (n : Nat) : List Char :=
  Nat.toDigits 16 n

/-- The halfwidth voicing signs of katakana: they extend a character, yet are letters. -/
def isVoicingSign (c : Char) : Bool :=
  c = '\uFF9E' || c = '\uFF9F'

def isShown (c : Char) : Bool :=
  isVoicingSign c || (!inRanges extendingRanges c.toNat && !inRanges unprintableRanges c.toNat)

namespace Quoted

/-- The written form of one character. -/
def escapeChar (c : Char) : List Char :=
  if c = '"' then ['\\', '"']
  else if c = '\\' then ['\\', '\\']
  else if c = '\n' then ['\\', 'n']
  else if c = '\r' then ['\\', 'r']
  else if c = '\t' then ['\\', 't']
  else if c = '\x00' then ['\\', '0']
  else if isShown c then [c]
  else ['\\', 'u', '\x7b'] ++ hexDigits c.toNat ++ ['\x7d']

def encode (cs : List Char) : List Char :=
  '"' :: cs.flatMap escapeChar ++ ['"']

end Quoted

def quoted (s : String) : String :=
  String.ofList (Quoted.encode s.toList)

end RequestFilter
