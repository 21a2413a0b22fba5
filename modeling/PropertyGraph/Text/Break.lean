import PropertyGraph.Text.Property
import PropertyGraph.Text.Script

/-!
# Breaks in a text

Each character has a class for each kind of unit that a text is divided into: clusters of characters that
are seen as one, words, and sentences. The classes are those of Unicode 16.

## Main definitions

- `GraphemeBreak`, `WordBreak`, `SentenceBreak` — the classes
- `GraphemeBreak.set`, `WordBreak.set`, `SentenceBreak.set` — the characters of a class
-/

namespace PropertyGraph

/-! ## Parts of several classes -/

/-- Syllables of Hangul without a final consonant. -/
def CharSet.openSyllable : CharSet := ⟨(List.range 399).map fun i => (0xAC00 + 28 * i, 0xAC00 + 28 * i)⟩

/-- Signs that a cluster goes on after, besides the marks of that kind. -/
def CharSet.precedingSign : CharSet :=
  ⟨[(0xD4E, 0xD4E), (0x111C2, 0x111C3), (0x113D1, 0x113D1), (0x1193F, 0x1193F), (0x11941, 0x11941),
   (0x11A3A, 0x11A3A), (0x11A84, 0x11A89), (0x11D46, 0x11D46), (0x11F02, 0x11F02)]⟩

/-- Marks that take a place and begin a cluster. -/
def CharSet.detachedMark : CharSet :=
  ⟨[(0x102B, 0x102C), (0x1038, 0x1038), (0x1062, 0x1064), (0x1067, 0x106D), (0x1083, 0x1083),
   (0x1087, 0x108C), (0x108F, 0x108F), (0x109A, 0x109C), (0x1A61, 0x1A61), (0x1A63, 0x1A64),
   (0xAA7B, 0xAA7B), (0xAA7D, 0xAA7D), (0x11720, 0x11721)]⟩

/-- The characters of scripts that write no spaces between words. -/
def CharSet.withoutSpaces : CharSet :=
  let names : List String :=
    ["Ahom", "Hiragana", "Khmer", "Lao", "Myanmar", "New_Tai_Lue", "Tai_Le", "Tai_Tham", "Tai_Viet", "Thai"]
  .ofRanges ((scripts.filter fun s => s.names.any names.contains).flatMap (·.own))

/-- The characters of a script. -/
def CharSet.ofScriptNamed (name : String) : CharSet :=
  .ofRanges ((scripts.filter (·.names.contains name)).flatMap (·.own))

/-- Katakana, with the signs that are used with it. -/
def CharSet.katakanaLike : CharSet :=
  (CharSet.ofScriptNamed "Katakana").union
    (.ofRanges [(0x3031, 0x3035), (0x309B, 0x309C), (0x30A0, 0x30A0), (0x30FC, 0x30FC), (0xFF70, 0xFF70)])

/-- The letters of Hebrew. -/
def CharSet.hebrewLetter : CharSet := (CharSet.ofScriptNamed "Hebrew").inter ⟨otherLetterRanges⟩

/-- What a word goes on with. -/
def CharSet.wordExtend : CharSet :=
  ((CharSet.graphemeExtend.union (.ofCategories [.spacingMark])).union .emojiModifier).diff (.range 0x200D 0x200D)

/-- The numbers of words. -/
def CharSet.wordNumeric : CharSet :=
  ((CharSet.digit.union .prependedMark).diff (.range 0x70F 0x70F)).union
    (.ofRanges [(0x66B, 0x66B), (0x19DA, 0x19DA)])

/-- Signs that are letters of words only. -/
def CharSet.letterLike : CharSet :=
  ⟨[(0x2C2, 0x2C5), (0x2D2, 0x2D7), (0x2DE, 0x2DF), (0x2E5, 0x2EB), (0x2ED, 0x2ED), (0x2EF, 0x2FF),
   (0x55A, 0x55C), (0x55E, 0x55E), (0x58A, 0x58A), (0x5F3, 0x5F3), (0x70F, 0x70F), (0xA708, 0xA716),
   (0xA720, 0xA721), (0xA789, 0xA78A), (0xAB5B, 0xAB5B)]⟩

/-- Full stops. -/
def CharSet.fullStop : CharSet :=
  ⟨[(0x2E, 0x2E), (0x2024, 0x2024), (0xFE52, 0xFE52), (0xFF0E, 0xFF0E)]⟩

/-- Signs that close a sentence, besides brackets and quotes. -/
def CharSet.ornament : CharSet :=
  ⟨[(0x275B, 0x2760), (0x2E00, 0x2E01), (0x2E06, 0x2E08), (0x2E0B, 0x2E0B), (0x1F676, 0x1F678)]⟩

/-- The small letters of sentences, to which those of Georgian do not belong. -/
def CharSet.sentenceLower : CharSet :=
  (CharSet.lowercase.diff .graphemeExtend).diff (.ofRanges [(0x10D0, 0x10FA), (0x10FD, 0x10FF)])

/-- The capital letters of sentences, to which those of Georgian do not belong. -/
def CharSet.sentenceUpper : CharSet :=
  (CharSet.uppercase.union ⟨titlecaseLetterRanges⟩).diff (.ofRanges [(0x1C90, 0x1CBA), (0x1CBD, 0x1CBF)])

/-! ## Clusters -/

/-- The class of a character in clusters. -/
inductive GraphemeBreak where
  | control | carriageReturn | extend | leadingJamo | lineFeed | syllable | closedSyllable
  | preceding | regionalIndicator | spacingMark | trailingJamo | vowelJamo | joiner
deriving Repr, DecidableEq

namespace GraphemeBreak

/-- All classes. -/
def all : List GraphemeBreak :=
  [.control, .carriageReturn, .extend, .leadingJamo, .lineFeed, .syllable, .closedSyllable,
   .preceding, .regionalIndicator, .spacingMark, .trailingJamo, .vowelJamo, .joiner]

/-- The names of a class. -/
def names : GraphemeBreak → List String
  | .control => ["Control", "cn"]
  | .carriageReturn => ["CR"]
  | .extend => ["Extend", "ex"]
  | .leadingJamo => ["L"]
  | .lineFeed => ["LF"]
  | .syllable => ["LV"]
  | .closedSyllable => ["LVT"]
  | .preceding => ["Prepend", "pp"]
  | .regionalIndicator => ["Regional_Indicator", "ri"]
  | .spacingMark => ["SpacingMark", "sm"]
  | .trailingJamo => ["T"]
  | .vowelJamo => ["V"]
  | .joiner => ["ZWJ"]

/-- The characters of a class. -/
def set : GraphemeBreak → CharSet
  | .control =>
    (((CharSet.ofAssigned [.lineSeparator, .paragraphSeparator, .control, .format]).union
      (CharSet.ignorable.inter (.ofCategories [.unassigned]))).diff
      (.ofRanges [(0x0A, 0x0A), (0x0D, 0x0D), (0xE0020, 0xE007F)])).diff
      ((CharSet.joiners.union .prependedMark).union .variationSelector)
  | .carriageReturn => .single '\r'
  | .extend => CharSet.graphemeExtend.union .emojiModifier
  | .leadingJamo => ⟨[(0x1100, 0x115F), (0xA960, 0xA97C)]⟩
  | .lineFeed => .single '\n'
  | .syllable => .openSyllable
  | .closedSyllable => (CharSet.range 0xAC00 0xD7A3).diff .openSyllable
  | .preceding => CharSet.prependedMark.union .precedingSign
  | .regionalIndicator => .regionalIndicator
  | .spacingMark =>
    ((CharSet.ofCategories [.spacingMark]).diff (CharSet.graphemeExtend.union .detachedMark)).union
      (.ofRanges [(0xE33, 0xE33), (0xEB3, 0xEB3)])
  | .trailingJamo => ⟨[(0x11A8, 0x11FF), (0xD7CB, 0xD7FB)]⟩
  | .vowelJamo =>
    ⟨[(0x1160, 0x11A7), (0xD7B0, 0xD7C6), (0x16D63, 0x16D63), (0x16D67, 0x16D6A)]⟩
  | .joiner => .range 0x200D 0x200D

end GraphemeBreak

/-! ## Words -/

/-- The class of a character in words. -/
inductive WordBreak where
  | letter | carriageReturn | doubleQuote | extend | connector | format | hebrewLetter | katakana
  | lineFeed | insideLetters | insideNumbers | insideBoth | newline | numeric | regionalIndicator
  | singleQuote | space | joiner
deriving Repr, DecidableEq

namespace WordBreak

/-- All classes. -/
def all : List WordBreak :=
  [.letter, .carriageReturn, .doubleQuote, .extend, .connector, .format, .hebrewLetter, .katakana,
   .lineFeed, .insideLetters, .insideNumbers, .insideBoth, .newline, .numeric, .regionalIndicator,
   .singleQuote, .space, .joiner]

/-- The names of a class. -/
def names : WordBreak → List String
  | .letter => ["ALetter", "le"]
  | .carriageReturn => ["CR"]
  | .doubleQuote => ["Double_Quote", "dq"]
  | .extend => ["Extend"]
  | .connector => ["ExtendNumLet", "ex"]
  | .format => ["Format", "fo"]
  | .hebrewLetter => ["Hebrew_Letter", "hl"]
  | .katakana => ["Katakana", "ka"]
  | .lineFeed => ["LF"]
  | .insideLetters => ["MidLetter", "ml"]
  | .insideNumbers => ["MidNum", "mn"]
  | .insideBoth => ["MidNumLet", "mb"]
  | .newline => ["Newline", "nl"]
  | .numeric => ["Numeric", "nu"]
  | .regionalIndicator => ["Regional_Indicator", "ri"]
  | .singleQuote => ["Single_Quote", "sq"]
  | .space => ["WSegSpace"]
  | .joiner => ["ZWJ"]

/-- The characters of a class. -/
def set : WordBreak → CharSet
  | .letter =>
    (((CharSet.alphabetic.diff (CharSet.ideographic.union .withoutSpaces)).diff .katakanaLike).diff
      (CharSet.wordExtend.union .hebrewLetter)).union .letterLike
  | .carriageReturn => .single '\r'
  | .doubleQuote => .single '"'
  | .extend => .wordExtend
  | .connector =>
    (CharSet.ofCategories [.connectorPunctuation]).union (.range 0x202F 0x202F)
  | .format =>
    (CharSet.ofCategories [.format]).diff
      (CharSet.prependedMark.union (.ofRanges [(0x200B, 0x200D), (0xE0020, 0xE007F)]))
  | .hebrewLetter => .hebrewLetter
  | .katakana => .katakanaLike
  | .lineFeed => .single '\n'
  | .insideLetters =>
    ⟨[(0x3A, 0x3A), (0xB7, 0xB7), (0x387, 0x387), (0x55F, 0x55F), (0x5F4, 0x5F4), (0x2027, 0x2027),
     (0xFE13, 0xFE13), (0xFE55, 0xFE55), (0xFF1A, 0xFF1A)]⟩
  | .insideNumbers =>
    ⟨[(0x2C, 0x2C), (0x3B, 0x3B), (0x37E, 0x37E), (0x589, 0x589), (0x60C, 0x60D), (0x66C, 0x66C),
     (0x7F8, 0x7F8), (0x2044, 0x2044), (0xFE50, 0xFE50), (0xFE54, 0xFE54), (0xFF0C, 0xFF0C),
     (0xFF1B, 0xFF1B)]⟩
  | .insideBoth =>
    ⟨[(0x2E, 0x2E), (0x2018, 0x2019), (0x2024, 0x2024), (0xFE52, 0xFE52), (0xFF07, 0xFF07),
     (0xFF0E, 0xFF0E)]⟩
  | .newline => ⟨[(0xB, 0xC), (0x85, 0x85), (0x2028, 0x2029)]⟩
  | .numeric => .wordNumeric
  | .regionalIndicator => .regionalIndicator
  | .singleQuote => .single '\''
  | .space =>
    ⟨[(0x20, 0x20), (0x1680, 0x1680), (0x2000, 0x2006), (0x2008, 0x200A), (0x205F, 0x205F),
     (0x3000, 0x3000)]⟩
  | .joiner => .range 0x200D 0x200D

end WordBreak

/-! ## Sentences -/

/-- The class of a character in sentences. -/
inductive SentenceBreak where
  | ambiguousTerminal | carriageReturn | closing | extend | format | lineFeed | lower | numeric
  | otherLetter | continuing | separator | space | terminal | upper
deriving Repr, DecidableEq

namespace SentenceBreak

/-- All classes. -/
def all : List SentenceBreak :=
  [.ambiguousTerminal, .carriageReturn, .closing, .extend, .format, .lineFeed, .lower, .numeric,
   .otherLetter, .continuing, .separator, .space, .terminal, .upper]

/-- The names of a class. -/
def names : SentenceBreak → List String
  | .ambiguousTerminal => ["ATerm", "at"]
  | .carriageReturn => ["CR"]
  | .closing => ["Close", "cl"]
  | .extend => ["Extend", "ex"]
  | .format => ["Format", "fo"]
  | .lineFeed => ["LF"]
  | .lower => ["Lower", "lo"]
  | .numeric => ["Numeric", "nu"]
  | .otherLetter => ["OLetter", "le"]
  | .continuing => ["SContinue", "sc"]
  | .separator => ["Sep", "se"]
  | .space => ["Sp"]
  | .terminal => ["STerm", "st"]
  | .upper => ["Upper", "up"]

/-- The characters of a class. -/
def set : SentenceBreak → CharSet
  | .ambiguousTerminal => .fullStop
  | .carriageReturn => .single '\r'
  | .closing =>
    ((CharSet.ofCategories [.openPunctuation, .closePunctuation, .initialPunctuation,
      .finalPunctuation]).union (CharSet.quotationMark.union .ornament)).diff
      (.ofRanges [(0xFF02, 0xFF02), (0xFF07, 0xFF07)])
  | .extend =>
    (CharSet.graphemeExtend.union (.ofCategories [.spacingMark])).union (.range 0x200D 0x200D)
  | .format =>
    ((CharSet.ofCategories [.format]).diff (CharSet.prependedMark.union
      (.ofRanges [(0x200C, 0x200D), (0xE0020, 0xE007F)]))).union (.range 0x70F 0x70F)
  | .lineFeed => .single '\n'
  | .lower => .sentenceLower
  | .numeric => CharSet.wordNumeric.union (.range 0x66C 0x66C)
  | .otherLetter =>
    (CharSet.alphabetic.diff ((CharSet.sentenceLower.union .sentenceUpper).union
      (CharSet.graphemeExtend.union (.ofCategories [.spacingMark])))).union (.range 0x5F3 0x5F3)
  | .continuing =>
    ⟨[(0x2C, 0x2D), (0x3A, 0x3B), (0x37E, 0x37E), (0x55D, 0x55D), (0x60C, 0x60D), (0x7F8, 0x7F8),
     (0x1802, 0x1802), (0x1808, 0x1808), (0x2013, 0x2014), (0x3001, 0x3001), (0xFE10, 0xFE11),
     (0xFE13, 0xFE14), (0xFE31, 0xFE32), (0xFE50, 0xFE51), (0xFE54, 0xFE55), (0xFE58, 0xFE58),
     (0xFE63, 0xFE63), (0xFF0C, 0xFF0D), (0xFF1A, 0xFF1B), (0xFF64, 0xFF64)]⟩
  | .separator => ⟨[(0x85, 0x85), (0x2028, 0x2029)]⟩
  | .space =>
    CharSet.blank.diff (.ofRanges [(0x0A, 0x0A), (0x0D, 0x0D), (0x85, 0x85), (0x2028, 0x2029)])
  | .terminal => CharSet.sentenceTerminal.diff .fullStop
  | .upper => .sentenceUpper

end SentenceBreak

end PropertyGraph
