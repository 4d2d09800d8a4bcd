/-!
# Ranges of code points

A character property is kept as closed ranges of code points, in ascending order and apart from
each other, so that a look-up ends at the first range that reaches the code point.
-/

namespace Exemplar.Unicode

abbrev Ranges := List (Nat × Nat)

/-- Whether one of the ranges holds the code point. -/
def Ranges.contains : Ranges → Nat → Bool
  | [], _ => false
  | (first, last) :: ranges, n => if n ≤ last then first ≤ n else Ranges.contains ranges n

/-- The Unicode white space. -/
def whiteSpaceRanges : Ranges := [
  (0x09, 0x0D), (0x20, 0x20), (0x85, 0x85), (0xA0, 0xA0), (0x1680, 0x1680), (0x2000, 0x200A),
  (0x2028, 0x2029), (0x202F, 0x202F), (0x205F, 0x205F), (0x3000, 0x3000)]

def isWhiteSpace (c : Char) : Bool :=
  whiteSpaceRanges.contains c.toNat

end Exemplar.Unicode
