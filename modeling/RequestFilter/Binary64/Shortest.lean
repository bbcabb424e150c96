import RequestFilter.Binary64

/-!
# Shortest decimal digits

Every finite value is the nearest one to a whole interval of reals. The
shortest digits of a value are the fewest decimal digits that name a point of
that interval; of two such points with equally many digits the nearer one is
taken, and an exact tie is settled by a given rule.
-/

namespace RequestFilter

/-- Which of two equally near decimal points is taken. -/
inductive TieRule where
  | away
  | even
deriving DecidableEq

/-- The decimal `digits * 10 ^ power`. -/
structure Decimal where
  digits : Nat
  power : Int
deriving DecidableEq

namespace Decimal

/-- Drop the zeros at the end of the digits, at most `fuel` of them. -/
def trim : Nat → Decimal → Decimal
  | 0, d => d
  | fuel + 1, d =>
      if d.digits % 10 = 0 ∧ d.digits ≠ 0 then trim fuel ⟨d.digits / 10, d.power + 1⟩
      else d

end Decimal

namespace Finite64

/-- The reals that round to a value, times a common positive factor. -/
structure Interval where
  low : Nat
  value : Nat
  high : Nat
  /-- The factor, so that a point `p` of the interval stands for `p / unit`. -/
  unit : Nat
  closed : Bool

/--
The interval of a value without its sign. The neighbours are half a unit of
the last place away; below a power of two the spacing is half as wide.
-/
def interval (x : Finite64) : Interval :=
  let m := x.significand
  let below := if m = leadingBit64 ∧ -1074 < x.exponent then 1 else 2
  let e := x.exponent - 2
  let up := Nat.pow 2 e.toNat
  { low := (4 * m - below) * up
    value := 4 * m * up
    high := (4 * m + 2) * up
    unit := Nat.pow 2 (-e).toNat
    closed := m % 2 = 0 }

def Interval.holds (i : Interval) (num den : Nat) : Bool :=
  if i.closed then i.low * den ≤ num * i.unit && num * i.unit ≤ i.high * den
  else i.low * den < num * i.unit && num * i.unit < i.high * den

/--
The point of the grid of multiples of `10 ^ power` that lies in the interval
and is nearest to its value, if the grid has one.
-/
def Interval.onGrid? (i : Interval) (tie : TieRule) (power : Int) : Option Nat :=
  let up := Nat.pow 10 power.toNat
  let down := Nat.pow 10 (-power).toNat
  let n := i.value * down
  let d := i.unit * up
  let floor := n / d
  let twice := 2 * (n % d)
  let lowFits := i.holds (floor * up) down
  let highFits := i.holds ((floor + 1) * up) down
  if lowFits && highFits then
    if twice < d then some floor
    else if d < twice then some (floor + 1)
    else match tie with
      | .away => some (floor + 1)
      | .even => some (floor + floor % 2)
  else if lowFits then some floor
  else if highFits then some (floor + 1)
  else none

/-- The first grid with a point in the interval, from `power` downward. -/
def Interval.firstGrid (i : Interval) (tie : TieRule) : Nat → Int → Decimal
  | 0, power => ⟨i.value * Nat.pow 10 (-power).toNat / (i.unit * Nat.pow 10 power.toNat), power⟩
  | fuel + 1, power =>
      match i.onGrid? tie power with
      | some digits => ⟨digits, power⟩
      | none => i.firstGrid tie fuel (power - 1)

/-- A power of ten above `num / den`, at most a factor of a hundred too high. -/
def powerAbove (num den : Nat) : Int :=
  ((Nat.toDigits 10 num).length : Int) - ((Nat.toDigits 10 den).length : Int) + 1

/-- The shortest digits of a value without its sign; zero is `0 * 10 ^ 0`. -/
def shortest (x : Finite64) (tie : TieRule) : Decimal :=
  if x.isZero then ⟨0, 0⟩
  else
    let i := x.interval
    (i.firstGrid tie 24 (powerAbove i.value i.unit)).trim 24

end Finite64

end RequestFilter
