/-!
# Sets of characters as lists of ranges

A property of characters is given as a list of inclusive ranges of code points.
-/

namespace NodeTelemetry.Text

/-- Whether a code point lies in one of the ranges. -/
def inRanges (ranges : List (Nat × Nat)) (n : Nat) : Bool :=
  ranges.any fun r => r.1 ≤ n && n ≤ r.2

end NodeTelemetry.Text
