import RequestFilter.Json.Basic
import RequestFilter.Json.Cursor

/-!
# Numerals of a document

A numeral is a whole part without superfluous zeros, an optional fraction and
an optional exponent. Whole numerals that fit are integers; all others are the
nearest double, and those beyond all doubles are refused.
-/

namespace RequestFilter

namespace Json

/-- The number written by decimal digits, after the digits of `value`. -/
def digitsValue (value : Nat) (digits : List Char) : Nat :=
  digits.foldl (fun n d => 10 * n + (d.toNat - '0'.toNat)) value

/--
How many digits of an exponent are read until its value no longer fits in
31 bits; `none` when all of them fit.
-/
def exponentOverflow? (value count : Nat) : List Char → Option Nat
  | [] => none
  | d :: rest =>
      let value := 10 * value + (d.toNat - '0'.toNat)
      if 2147483648 ≤ value then some (count + 1) else exponentOverflow? value (count + 1) rest

namespace Number

def ofBinary64? : Binary64 → Option Number
  | .finite value => some (.real value)
  | _ => none

/-- A whole numeral: an integer when it fits, else a double. Minus zero is a double. -/
def ofWhole? (negative : Bool) (magnitude : Nat) : Option Number :=
  let value : Int := if negative then -(magnitude : Int) else magnitude
  if h : IsDocumentInteger value ∧ ¬(negative ∧ magnitude = 0) then
    some (.integer value h.1)
  else ofBinary64? (Binary64.ofDecimal negative magnitude 0)

end Number

namespace Reader

/-- A number, or the fault of one beyond all doubles. -/
def inRange : Option Number → Reader Number
  | some n => pure n
  | none => failHere .numberOutOfRange

/-- The digits of an exponent and its sign, after the letter. -/
def exponent : Reader (Bool × List Char) := do
  let negative ← match ← peek with
    | some '+' => do skip; pure false
    | some '-' => do skip; pure true
    | _ => pure false
  match ← peek with
  | none => failHere .endInValue
  | some c =>
      if c.isDigit then pure (negative, ← digits)
      else failNext .invalidNumber

/--
The number `± significand * 10 ^ power` times the power of ten of an exponent
still to be read. An exponent beyond 31 bits decides the number by itself, as
soon as it is seen to be one.
-/
def scaled (negative : Bool) (significand : Nat) (power : Int) : Reader Number := do
  let before ← get
  let (down, ds) ← exponent
  match exponentOverflow? 0 0 ds with
  | none =>
      let e : Int := digitsValue 0 ds
      inRange (Number.ofBinary64?
        (Binary64.ofDecimal negative significand (if down then power - e else power + e)))
  | some count =>
      if significand ≠ 0 ∧ down = false then
        let sign := match before.rest with
          | '+' :: _ => 1
          | _ => 0
        throw ⟨.numberOutOfRange, ⟨before.place.line, before.place.column + sign + count⟩⟩
      else inRange (Number.ofBinary64? (Binary64.zero negative))

/-- What follows the whole part of a number. -/
def numberTail (negative : Bool) (whole : List Char) : Reader Number := do
  match ← peek with
  | some '.' =>
      skip
      let fraction ← digits
      if fraction.isEmpty then
        match ← peek with
        | none => failHere .endInValue
        | some _ => failNext .invalidNumber
      else
        let significand := digitsValue 0 (whole ++ fraction)
        let power : Int := -(fraction.length : Int)
        match ← peek with
        | some 'e' | some 'E' => skip; scaled negative significand power
        | _ =>
            inRange (Number.ofBinary64? (Binary64.ofDecimal negative significand power))
  | some 'e' | some 'E' => skip; scaled negative (digitsValue 0 whole) 0
  | _ => inRange (Number.ofWhole? negative (digitsValue 0 whole))

def number (negative : Bool) : Reader Number := do
  match ← peek with
  | none => failHere .endInValue
  | some c =>
      if c = '0' then
        skip
        match ← peek with
        | some d =>
            if d.isDigit then failNext .invalidNumber
            else numberTail negative [c]
        | none => numberTail negative [c]
      else if c.isDigit then
        let whole ← digits
        numberTail negative whole
      else failNext .invalidNumber

/-- A numeral after its sign, of which only the form matters. -/
def skipNumber : Reader Unit := do
  match ← peek with
  | some c =>
      if c = '0' then
        skip
        match ← peek with
        | some d => if d.isDigit then failNext .invalidNumber else skipFraction
        | none => pure ()
      else if c.isDigit then
        let _ ← digits
        skipFraction
      else failNext .invalidNumber
  | none => failHere .invalidNumber
where
  skipFraction : Reader Unit := do
    match ← peek with
    | some '.' =>
        skip
        let fraction ← digits
        if fraction.isEmpty then failNext .invalidNumber
        else
          match ← peek with
          | some 'e' | some 'E' => skipExponent
          | _ => pure ()
    | some 'e' | some 'E' => skipExponent
    | _ => pure ()
  skipExponent : Reader Unit := do
    skip
    match ← peek with
    | some '+' | some '-' => skip
    | _ => pure ()
    let power ← digits
    if power.isEmpty then failNext .invalidNumber else pure ()

end Reader

end Json

end RequestFilter
