import RequestFilter.Bag
import RequestFilter.Text.Pieces
import RequestFilter.Text.Utf8

/-!
# Query strings

A query string is a list of pairs in form encoding. A key that ends in `[]`
adds to the sequence of its field; a plain key gives its field a string, and the
last one wins.
-/

namespace RequestFilter

namespace QueryString

def hexByte? (b : UInt8) : Option UInt8 :=
  if 0x30 ≤ b ∧ b ≤ 0x39 then some (b - 0x30)
  else if 0x61 ≤ b ∧ b ≤ 0x66 then some (b - 0x61 + 10)
  else if 0x41 ≤ b ∧ b ≤ 0x46 then some (b - 0x41 + 10)
  else none

/-- A plus sign is a space, and a percent sign with two digits is a byte; others stand. -/
def unescape : List UInt8 → List UInt8
  | [] => []
  | 0x2B :: rest => 0x20 :: unescape rest
  | 0x25 :: high :: low :: rest =>
      match hexByte? high, hexByte? low with
      | some h, some l => (h * 16 + l) :: unescape rest
      | _, _ => 0x25 :: unescape (high :: low :: rest)
  | b :: rest => b :: unescape rest

/-- A piece cut at its first equals sign; without one the value is empty. -/
def splitPair (piece : List UInt8) : List UInt8 × List UInt8 :=
  (piece.takeWhile (· != 0x3D), (piece.dropWhile (· != 0x3D)).drop 1)

def decodePair (piece : List UInt8) : List Char × List Char :=
  let (key, value) := splitPair piece
  (Utf8.decode (unescape key), Utf8.decode (unescape value))

def dropQuestionMark : List Char → List Char
  | '?' :: rest => rest
  | cs => cs

/-- The decoded pairs, in order; empty pieces are none. -/
def pairs (cs : List Char) : List (List Char × List Char) :=
  ((pieces 0x26 (Utf8.encode (dropQuestionMark cs))).filter fun piece => !piece.isEmpty).map
    decodePair

def bracketedField? (key : List Char) : Option (List Char) :=
  match key.reverse with
  | ']' :: '[' :: field => some field.reverse
  | _ => none

/-- Add a pair: to the sequence of a bracketed field, or as the string of a plain one. -/
def addPair (bag : Bag) (pair : List Char × List Char) : Bag :=
  let value := Scalar.string (String.ofList pair.2)
  match bracketedField? pair.1 with
  | some field =>
      let name := String.ofList field
      match bag.find? name with
      | some (.sequence values) => bag.insert name (.sequence (values ++ [value]))
      | _ => bag.insert name (.sequence [value])
  | none => bag.insert (String.ofList pair.1) (.scalar value)

end QueryString

/-- The bag of a query string, with or without its leading question mark. -/
def Bag.ofQueryString (query : String) : Bag :=
  (QueryString.pairs query.toList).foldl QueryString.addPair ∅

end RequestFilter
