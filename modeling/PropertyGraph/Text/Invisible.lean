import PropertyGraph.Text.Blank
import PropertyGraph.Text.Category

/-!
# Invisible characters

Characters of Unicode 16 that are passed over, select, or control what is around them.

## Main definitions

- `CharSet.ignorable` — what is passed over where it is not supported
- `CharSet.variationSelector`, `CharSet.prependedMark`, `CharSet.directionControl` — selectors and controls
- `CharSet.noncharacter`, `CharSet.obsolete` — what is not to be used
-/

namespace PropertyGraph

/-- Selectors of a variant of the character before them. -/
def CharSet.variationSelector : CharSet :=
  ⟨[(0x180B, 0x180D), (0x180F, 0x180F), (0xFE00, 0xFE0F), (0xE0100, 0xE01EF)]⟩

/-- Marks that stand before what they join. -/
def CharSet.prependedMark : CharSet :=
  ⟨[(0x600, 0x605), (0x6DD, 0x6DD), (0x70F, 0x70F), (0x890, 0x891), (0x8E2, 0x8E2),
   (0x110BD, 0x110BD), (0x110CD, 0x110CD)]⟩

/-- Further characters that are passed over. -/
def CharSet.otherIgnorable : CharSet :=
  ⟨[(0x34F, 0x34F), (0x115F, 0x1160), (0x17B4, 0x17B5), (0x2065, 0x2065), (0x3164, 0x3164),
   (0xFFA0, 0xFFA0), (0xFFF0, 0xFFF8), (0xE0000, 0xE0000), (0xE0002, 0xE001F), (0xE0080, 0xE00FF),
   (0xE01F0, 0xE0FFF)]⟩

/-- What is passed over where it is not supported. -/
def CharSet.ignorable : CharSet :=
  ((((CharSet.otherIgnorable.union ⟨formatRanges⟩).union CharSet.variationSelector).diff
    (.ofRanges (blankRanges ++ [(0xFFF9, 0xFFFB), (0x13430, 0x1343F)]))).diff CharSet.prependedMark)

/-- Controls of the direction of writing. -/
def CharSet.directionControl : CharSet :=
  ⟨[(0x61C, 0x61C), (0x200E, 0x200F), (0x202A, 0x202E), (0x2066, 0x2069)]⟩

/-- Code points that are never assigned. -/
def CharSet.noncharacter : CharSet :=
  ⟨[(0xFDD0, 0xFDEF), (0xFFFE, 0xFFFF), (0x1FFFE, 0x1FFFF), (0x2FFFE, 0x2FFFF), (0x3FFFE, 0x3FFFF),
   (0x4FFFE, 0x4FFFF), (0x5FFFE, 0x5FFFF), (0x6FFFE, 0x6FFFF), (0x7FFFE, 0x7FFFF),
   (0x8FFFE, 0x8FFFF), (0x9FFFE, 0x9FFFF), (0xAFFFE, 0xAFFFF), (0xBFFFE, 0xBFFFF),
   (0xCFFFE, 0xCFFFF), (0xDFFFE, 0xDFFFF), (0xEFFFE, 0xEFFFF), (0xFFFFE, 0xFFFFF),
   (0x10FFFE, 0x10FFFF)]⟩

/-- Characters that are not to be used any more. -/
def CharSet.obsolete : CharSet :=
  ⟨[(0x149, 0x149), (0x673, 0x673), (0xF77, 0xF77), (0xF79, 0xF79), (0x17A3, 0x17A4),
   (0x206A, 0x206F), (0x2329, 0x232A), (0xE0001, 0xE0001)]⟩

end PropertyGraph
