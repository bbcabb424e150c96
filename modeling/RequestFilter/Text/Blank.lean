import RequestFilter.Text.CharRange

/-!
# Blanks

The white space of Unicode, and the removal of blanks at both ends of a text.
-/

namespace RequestFilter

/-- The characters with the property `White_Space`. -/
def blankRanges : List (Nat × Nat) := [
  (0x9, 0xD), (0x20, 0x20), (0x85, 0x85), (0xA0, 0xA0), (0x1680, 0x1680), (0x2000, 0x200A),
  (0x2028, 0x2029), (0x202F, 0x202F), (0x205F, 0x205F), (0x3000, 0x3000)]

def isBlank (c : Char) : Bool :=
  inRanges blankRanges c.toNat

/-- The characters without the blanks at either end. -/
def trimBlanks (cs : List Char) : List Char :=
  ((cs.dropWhile isBlank).reverse.dropWhile isBlank).reverse

/-- Whether a name consists of blanks only. -/
def isBlankName (name : String) : Bool :=
  name.toList.all isBlank

end RequestFilter
