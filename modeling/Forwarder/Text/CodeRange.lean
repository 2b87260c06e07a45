/-!
# Ranges of code points

A set of characters is given as a sorted list of inclusive ranges of code points, and membership
is one walk along that list which stops at the first range beyond the point.
-/

namespace Forwarder.Text

/-- The first and the last code point of a range. -/
abbrev CodeRange := Nat × Nat

/-- Whether a point lies in one of the ranges, which are in ascending order. -/
def inRanges : List CodeRange → Nat → Bool
  | [], _ => false
  | (first, last) :: rest, point =>
    if point < first then false
    else if point ≤ last then true
    else inRanges rest point

end Forwarder.Text
