import PropertyGraph.Text.Category

/-!
# Numeric characters

The numbers of all scripts, in Unicode 16.

## Main definitions

- `CharSet.digit`, `isDecimalDigit` — the decimal digits
- `isNumeric` — these and all other numbers
-/

namespace PropertyGraph

/-- The decimal digits. -/
def CharSet.digit : CharSet := ⟨decimalNumberRanges⟩

/-- Whether a character is a decimal digit of some script. -/
def isDecimalDigit (c : Char) : Bool := CharSet.digit.has c.toNat

/-- Whether a character is a number of some script. -/
def isNumeric (c : Char) : Bool :=
  isDecimalDigit c || inRanges letterNumberRanges c.toNat || inRanges otherNumberRanges c.toNat

end PropertyGraph
