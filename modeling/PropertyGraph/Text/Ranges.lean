/-!
# Ranges of characters

## Main definitions

- `inRanges` — membership of a code point in a list of closed ranges
-/

namespace PropertyGraph

/-- Whether a code point lies in one of the closed ranges. -/
def inRanges (ranges : List (Nat × Nat)) (n : Nat) : Bool := ranges.any fun r => r.1 ≤ n && n ≤ r.2

end PropertyGraph
