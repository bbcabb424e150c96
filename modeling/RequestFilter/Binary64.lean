/-!
# Double-precision numbers

Values of the IEEE 754 binary64 format: a finite value is a sign, a significand
below `2 ^ 53` and a power of two, kept in the one form in which the
significand has its leading bit unless the value is too small for it. The
nearest value of a decimal numeral is found in exact arithmetic on naturals.
-/

namespace RequestFilter

/-- The leading bit of a full significand, `2 ^ 52`. -/
abbrev leadingBit64 : Nat := 4503599627370496

/-- What every significand is below, `2 ^ 53`. -/
abbrev significandLimit64 : Nat := 9007199254740992

/-- The significand has 53 bits, or fewer at the smallest exponent only. -/
def IsCanonical64 (significand : Nat) (exponent : Int) : Prop :=
  significand < significandLimit64 ∧ -1074 ≤ exponent ∧ exponent ≤ 971 ∧
    (leadingBit64 ≤ significand ∨ exponent = -1074)

instance (significand : Nat) (exponent : Int) :
    Decidable (IsCanonical64 significand exponent) := by
  unfold IsCanonical64; infer_instance

/-- The finite value `± significand * 2 ^ exponent`. -/
structure Finite64 where
  negative : Bool
  significand : Nat
  exponent : Int
  canonical : IsCanonical64 significand exponent
deriving DecidableEq

inductive Binary64 where
  | finite (value : Finite64)
  | infinite (negative : Bool)
  | nan
deriving DecidableEq

namespace Finite64

def isZero (x : Finite64) : Bool :=
  x.significand == 0

end Finite64

namespace Binary64

/-- The value with these parts; an exponent above the format's range is an infinity. -/
def ofParts (negative : Bool) (significand : Nat) (exponent : Int) : Binary64 :=
  if h : IsCanonical64 significand exponent then
    .finite ⟨negative, significand, exponent, h⟩
  else .infinite negative

def zero (negative : Bool) : Binary64 :=
  ofParts negative 0 (-1074)

/-- Numeric equality: NaN equals nothing, and the two zeros are equal. -/
def equals : Binary64 → Binary64 → Bool
  | .finite x, .finite y => (x.isZero && y.isZero) || x == y
  | .infinite s, .infinite t => s == t
  | _, _ => false

/-- The natural nearest to `num / den`; a half goes to the even neighbour. -/
def roundHalfEven (num den : Nat) : Nat :=
  let quotient := num / den
  let twice := 2 * (num % den)
  if twice < den then quotient
  else if den < twice then quotient + 1
  else quotient + quotient % 2

/-- `num / den` over a power of two, as a fraction again. -/
def scaleDown (num den : Nat) (exponent : Int) : Nat × Nat :=
  if 0 ≤ exponent then (num, den * Nat.pow 2 exponent.toNat)
  else (num * Nat.pow 2 (-exponent).toNat, den)

/-- The exponent at which `num / den` has a significand of 53 bits, or the smallest one. -/
def exponentFor (num den : Nat) : Int :=
  let guess : Int := (num.log2 : Int) - (den.log2 : Int) - 52
  let (n, d) := scaleDown num den guess
  max (if n / d < leadingBit64 then guess - 1 else guess) (-1074)

/-- The value nearest to the positive fraction `num / den`, ties to even. -/
def nearest (negative : Bool) (num den : Nat) : Binary64 :=
  let exponent := exponentFor num den
  let (n, d) := scaleDown num den exponent
  let significand := roundHalfEven n d
  if significand = significandLimit64 then ofParts negative leadingBit64 (exponent + 1)
  else ofParts negative significand exponent

/--
The value nearest to `± digits * 10 ^ power`. Powers far outside the format's
range are decided from the number of digits, without computing them.
-/
def ofDecimal (negative : Bool) (digits : Nat) (power : Int) : Binary64 :=
  let size : Int := (Nat.toDigits 10 digits).length
  if digits = 0 then zero negative
  else if size + power < -330 then zero negative
  else if 330 < size + power then .infinite negative
  else if 0 ≤ power then nearest negative (digits * Nat.pow 10 power.toNat) 1
  else nearest negative digits (Nat.pow 10 (-power).toNat)

def ofInt (n : Int) : Binary64 :=
  ofDecimal (n < 0) n.natAbs 0

end Binary64

end RequestFilter
