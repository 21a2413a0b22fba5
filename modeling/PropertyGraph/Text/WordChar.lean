import PropertyGraph.Text.Alphabetic
import PropertyGraph.Text.Number

/-!
# Word characters

The characters that make up words, in Unicode 16: the alphabetic ones, marks, decimal digits,
connecting punctuation and the two joiners. Letters and numbers are alphanumeric.

## Main definitions

- `CharSet.word`, `isWordChar` — the characters of words
- `isAlphanumeric` — whether a character is a letter or a number
-/

namespace PropertyGraph

/-- The two characters that join or keep apart what is around them. -/
def CharSet.joiners : CharSet := range 0x200C 0x200D

/-- The characters of words. -/
def CharSet.word : CharSet :=
  (((CharSet.alphabetic.union (.ofCategories Category.marks)).union CharSet.digit).union
    ⟨connectorPunctuationRanges⟩).union CharSet.joiners

/-- Whether a character can be part of a word. -/
def isWordChar (c : Char) : Bool := CharSet.word.has c.toNat

/-- Whether a character is a letter or a number. -/
def isAlphanumeric (c : Char) : Bool := isAlphabetic c || isNumeric c

end PropertyGraph
