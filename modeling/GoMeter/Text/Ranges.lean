/-!
# Classes of characters as ranges

A class of characters is a table of ranges of code points, both ends included.
-/

namespace GoMeter

/-- Ranges of code points, both ends included. -/
abbrev CodeRanges := Array (Nat × Nat)

/-- Whether a character lies in one of the ranges. -/
def CodeRanges.has (ranges : CodeRanges) (c : Char) : Bool :=
  ranges.any fun (low, high) => low ≤ c.toNat && c.toNat ≤ high

end GoMeter
