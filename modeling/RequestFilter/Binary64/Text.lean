import RequestFilter.Binary64.Shortest

/-!
# Numerals of double-precision numbers

Two written forms of the shortest digits. The plain numeral never has an
exponent and gives whole numbers no fraction: `1`, `-0`, `0.0000001`. The
document numeral always shows that the number is not an integer, by a fraction
or by an exponent: `1.0`, `-0.0`, `1e+21`.
-/

namespace RequestFilter

def decimalDigits (n : Nat) : List Char :=
  Nat.toDigits 10 n

namespace Decimal

/-- Digits with a point after the first `whole` of them, padded with zeros on either side. -/
def positional (d : Decimal) : List Char × List Char :=
  let digits := decimalDigits d.digits
  let whole : Int := digits.length + d.power
  if 0 ≤ d.power then (digits ++ List.replicate d.power.toNat '0', [])
  else if 0 < whole then (digits.take whole.toNat, digits.drop whole.toNat)
  else (['0'], List.replicate (-whole).toNat '0' ++ digits)

/-- The power of ten of the first digit. -/
def magnitude (d : Decimal) : Int :=
  ((decimalDigits d.digits).length : Int) - 1 + d.power

/-- A numeral without an exponent, and without a fraction when it is whole. -/
def plain (d : Decimal) : List Char :=
  match d.positional with
  | (whole, []) => whole
  | (whole, fraction) => whole ++ '.' :: fraction

/-- An exponent: its sign always, and its digits without superfluous zeros. -/
def exponentPart (e : Int) : List Char :=
  'e' :: (if e < 0 then '-' else '+') :: decimalDigits e.natAbs

/-- A numeral with a fraction or an exponent; positional from `1e-5` up to below `1e16`. -/
def document (d : Decimal) : List Char :=
  let e := d.magnitude
  if -5 ≤ e ∧ e ≤ 15 then
    match d.positional with
    | (whole, []) => whole ++ ['.', '0']
    | (whole, fraction) => whole ++ '.' :: fraction
  else
    match decimalDigits d.digits with
    | [] => []
    | [digit] => digit :: exponentPart e
    | digit :: rest => digit :: '.' :: rest ++ exponentPart e

end Decimal

def signed (negative : Bool) (digits : List Char) : List Char :=
  if negative then '-' :: digits else digits

def Finite64.documentText (x : Finite64) : String :=
  String.ofList (signed x.negative (x.shortest .even).document)

/-- The plain numeral of a finite value. -/
def Finite64.plainChars (x : Finite64) : List Char :=
  signed x.negative (x.shortest .away).plain

namespace Binary64

/-- The plain numeral; infinities and NaN are `inf`, `-inf` and `NaN`. -/
def chars : Binary64 → List Char
  | .finite x => x.plainChars
  | .infinite negative => signed negative ['i', 'n', 'f']
  | .nan => ['N', 'a', 'N']

def text (x : Binary64) : String :=
  String.ofList x.chars

end Binary64

end RequestFilter
