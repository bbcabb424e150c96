/-!
# Ranges of characters

Properties of characters are kept as ascending lists of closed ranges of code
points.
-/

namespace RequestFilter

/-- Whether `n` lies in one of the ranges; they are in ascending order. -/
def inRanges : List (Nat × Nat) → Nat → Bool
  | [], _ => false
  | (first, last) :: rest, n =>
      if n < first then false
      else if n ≤ last then true
      else inRanges rest n

/-- ASCII characters below the given bound are decided without a table. -/
def isAscii (c : Char) : Bool :=
  c.toNat < 128

end RequestFilter
