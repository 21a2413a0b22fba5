import PropertyGraph.Text.Category.Control
import PropertyGraph.Text.Category.Letter
import PropertyGraph.Text.Category.Mark
import PropertyGraph.Text.Category.Number
import PropertyGraph.Text.Category.Punctuation
import PropertyGraph.Text.Category.Symbol
import PropertyGraph.Text.CharSet

/-!
# General categories

Each character has one general category. The categories are those of Unicode 16.

## Main definitions

- `Category` — the categories
- `Category.ranges`, `CharSet.ofCategories` — the characters of one, and of several
- `Category.letters`, `Category.marks`, `Category.numbers`, … — groups of categories
-/

namespace PropertyGraph

/-- The general category of a character. -/
inductive Category where
  | uppercaseLetter | lowercaseLetter | titlecaseLetter | modifierLetter | otherLetter
  | nonspacingMark | spacingMark | enclosingMark | decimalNumber | letterNumber | otherNumber
  | connectorPunctuation | dashPunctuation | openPunctuation | closePunctuation
  | initialPunctuation | finalPunctuation | otherPunctuation | mathSymbol | currencySymbol
  | modifierSymbol | otherSymbol | spaceSeparator | lineSeparator | paragraphSeparator | control
  | format | privateUse | unassigned
deriving Repr, DecidableEq

namespace Category

/-- The single characters of a run, or the run itself if it leaves none out. -/
def expandRun (run : Nat × Nat × Nat) : List (Nat × Nat) :=
  let (first, last, step) := run
  if step = 1 then [(first, last)]
  else (List.range ((last - first) / step + 1)).map fun i => (first + i * step, first + i * step)

/-- The characters of a category; those of the unassigned ones are what is left. -/
def ranges : Category → List (Nat × Nat)
  | .uppercaseLetter => uppercaseLetterRuns.flatMap expandRun
  | .lowercaseLetter => lowercaseLetterRuns.flatMap expandRun
  | .titlecaseLetter => titlecaseLetterRanges
  | .modifierLetter => modifierLetterRanges
  | .otherLetter => otherLetterRanges
  | .nonspacingMark => nonspacingMarkRanges
  | .spacingMark => spacingMarkRanges
  | .enclosingMark => enclosingMarkRanges
  | .decimalNumber => decimalNumberRanges
  | .letterNumber => letterNumberRanges
  | .otherNumber => otherNumberRanges
  | .connectorPunctuation => connectorPunctuationRanges
  | .dashPunctuation => dashPunctuationRanges
  | .openPunctuation => openPunctuationRanges
  | .closePunctuation => closePunctuationRanges
  | .initialPunctuation => initialPunctuationRanges
  | .finalPunctuation => finalPunctuationRanges
  | .otherPunctuation => otherPunctuationRanges
  | .mathSymbol => mathSymbolRanges
  | .currencySymbol => currencySymbolRanges
  | .modifierSymbol => modifierSymbolRanges
  | .otherSymbol => otherSymbolRanges
  | .spaceSeparator => spaceSeparatorRanges
  | .lineSeparator => lineSeparatorRanges
  | .paragraphSeparator => paragraphSeparatorRanges
  | .control => controlRanges
  | .format => formatRanges
  | .privateUse => privateUseRanges
  | .unassigned => []

/-- All categories but the unassigned one. -/
def assigned : List Category :=
  [.uppercaseLetter, .lowercaseLetter, .titlecaseLetter, .modifierLetter, .otherLetter,
   .nonspacingMark, .spacingMark, .enclosingMark, .decimalNumber, .letterNumber, .otherNumber,
   .connectorPunctuation, .dashPunctuation, .openPunctuation, .closePunctuation,
   .initialPunctuation, .finalPunctuation, .otherPunctuation, .mathSymbol, .currencySymbol,
   .modifierSymbol, .otherSymbol, .spaceSeparator, .lineSeparator, .paragraphSeparator, .control,
   .format, .privateUse]

/-- Letters with case. -/
def casedLetters : List Category :=
  [.uppercaseLetter, .lowercaseLetter, .titlecaseLetter]

/-- Letters. -/
def letters : List Category :=
  [.uppercaseLetter, .lowercaseLetter, .titlecaseLetter, .modifierLetter, .otherLetter]

/-- Marks. -/
def marks : List Category :=
  [.nonspacingMark, .spacingMark, .enclosingMark]

/-- Numbers. -/
def numbers : List Category :=
  [.decimalNumber, .letterNumber, .otherNumber]

/-- Punctuation. -/
def punctuation : List Category :=
  [.connectorPunctuation, .dashPunctuation, .openPunctuation, .closePunctuation,
   .initialPunctuation, .finalPunctuation, .otherPunctuation]

/-- Symbols. -/
def symbols : List Category :=
  [.mathSymbol, .currencySymbol, .modifierSymbol, .otherSymbol]

/-- Separators. -/
def separators : List Category :=
  [.spaceSeparator, .lineSeparator, .paragraphSeparator]

/-- What is none of these. -/
def others : List Category :=
  [.control, .format, .privateUse, .unassigned]

end Category

/-- The characters of some categories that are assigned. -/
def CharSet.ofAssigned (categories : List Category) : CharSet := .ofRanges (categories.flatMap Category.ranges)

/-- The characters of some categories. -/
def CharSet.ofCategories (categories : List Category) : CharSet :=
  if categories.contains .unassigned then
    (CharSet.ofAssigned categories).union (CharSet.ofAssigned Category.assigned).complement
  else .ofAssigned categories

end PropertyGraph
