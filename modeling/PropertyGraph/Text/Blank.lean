import PropertyGraph.Text.CharSet

/-!
# White space

The 25 characters with the property White_Space of Unicode.

## Main definitions

- `CharSet.blank`, `isBlank` — the characters, and membership of one
- `trimBlanks` — a text without blanks at its ends
-/

namespace PropertyGraph

/-- The white space characters. -/
def blankRanges : List (Nat × Nat) :=
  [(0x09, 0x0D), (0x20, 0x20), (0x85, 0x85), (0xA0, 0xA0), (0x1680, 0x1680), (0x2000, 0x200A),
   (0x2028, 0x2029), (0x202F, 0x202F), (0x205F, 0x205F), (0x3000, 0x3000)]

/-- White space as a set. -/
def CharSet.blank : CharSet := ⟨blankRanges⟩

/-- Whether a character is white space. -/
def isBlank (c : Char) : Bool := inRanges blankRanges c.toNat

/-- A text without the white space at its ends. -/
def trimBlanks (cs : List Char) : List Char :=
  ((cs.dropWhile isBlank).reverse.dropWhile isBlank).reverse

end PropertyGraph
