/-!
# Words of 64 bits

## Main definitions

- `int64Bound` — the bound of the integers with a sign
-/

namespace PropertyGraph

/-- The natural numbers below this one are integers of 64 bits with a sign. -/
abbrev int64Bound : Nat := 0x8000000000000000

end PropertyGraph
