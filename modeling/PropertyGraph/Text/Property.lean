import PropertyGraph.Text.CaseChange
import PropertyGraph.Text.Emoji
import PropertyGraph.Text.Graphic
import PropertyGraph.Text.Identifier
import PropertyGraph.Text.Ideograph
import PropertyGraph.Text.Invisible
import PropertyGraph.Text.Sign
import PropertyGraph.Text.WordChar

/-!
# Properties of characters

The properties that a character has or has not, in Unicode 16.

## Main definitions

- `BinaryProperty` — the properties
- `BinaryProperty.names` — what they are called
- `BinaryProperty.set` — the characters that have one
-/

namespace PropertyGraph

/-- A property that a character has or has not. -/
inductive BinaryProperty where
  | alphabetic | asciiHexDigit | bidiControl | bidiMirrored | caseIgnorable | cased
  | changesWhenCasefolded | changesWhenCasemapped | changesWhenLowercased | changesWhenTitlecased
  | changesWhenUppercased | dash | defaultIgnorableCodePoint | deprecated | diacritic | emoji
  | emojiComponent | emojiModifier | emojiModifierBase | emojiPresentation | extendedPictographic
  | extender | graphemeBase | graphemeExtend | graphemeLink | hexDigit | hyphen | idsBinaryOperator
  | idsTrinaryOperator | idsUnaryOperator | idCompatMathContinue | idCompatMathStart | idContinue
  | idStart | ideographic | joinControl | logicalOrderException | lowercase | math
  | modifierCombiningMark | noncharacterCodePoint | otherAlphabetic
  | otherDefaultIgnorableCodePoint | otherGraphemeExtend | otherIdContinue | otherIdStart
  | otherLowercase | otherMath | otherUppercase | patternSyntax | patternWhiteSpace
  | prependedConcatenationMark | quotationMark | radical | regionalIndicator | sentenceTerminal
  | softDotted | terminalPunctuation | unifiedIdeograph | uppercase | variationSelector
  | whiteSpace | xidContinue | xidStart
deriving Repr, DecidableEq

namespace BinaryProperty

/-- All properties. -/
def all : List BinaryProperty :=
  [.alphabetic, .asciiHexDigit, .bidiControl, .bidiMirrored, .caseIgnorable, .cased,
   .changesWhenCasefolded, .changesWhenCasemapped, .changesWhenLowercased, .changesWhenTitlecased,
   .changesWhenUppercased, .dash, .defaultIgnorableCodePoint, .deprecated, .diacritic, .emoji,
   .emojiComponent, .emojiModifier, .emojiModifierBase, .emojiPresentation, .extendedPictographic,
   .extender, .graphemeBase, .graphemeExtend, .graphemeLink, .hexDigit, .hyphen, .idsBinaryOperator,
   .idsTrinaryOperator, .idsUnaryOperator, .idCompatMathContinue, .idCompatMathStart, .idContinue,
   .idStart, .ideographic, .joinControl, .logicalOrderException, .lowercase, .math,
   .modifierCombiningMark, .noncharacterCodePoint, .otherAlphabetic,
   .otherDefaultIgnorableCodePoint, .otherGraphemeExtend, .otherIdContinue, .otherIdStart,
   .otherLowercase, .otherMath, .otherUppercase, .patternSyntax, .patternWhiteSpace,
   .prependedConcatenationMark, .quotationMark, .radical, .regionalIndicator, .sentenceTerminal,
   .softDotted, .terminalPunctuation, .unifiedIdeograph, .uppercase, .variationSelector,
   .whiteSpace, .xidContinue, .xidStart]

/-- The names of a property. -/
def names : BinaryProperty → List String
  | .alphabetic => ["Alphabetic", "alpha"]
  | .asciiHexDigit => ["ASCII_Hex_Digit", "ahex"]
  | .bidiControl => ["Bidi_Control", "bidic"]
  | .bidiMirrored => ["Bidi_Mirrored", "bidim"]
  | .caseIgnorable => ["Case_Ignorable", "ci"]
  | .cased => ["Cased"]
  | .changesWhenCasefolded => ["Changes_When_Casefolded", "cwcf"]
  | .changesWhenCasemapped => ["Changes_When_Casemapped", "cwcm"]
  | .changesWhenLowercased => ["Changes_When_Lowercased", "cwl"]
  | .changesWhenTitlecased => ["Changes_When_Titlecased", "cwt"]
  | .changesWhenUppercased => ["Changes_When_Uppercased", "cwu"]
  | .dash => ["Dash"]
  | .defaultIgnorableCodePoint => ["Default_Ignorable_Code_Point", "di"]
  | .deprecated => ["Deprecated", "dep"]
  | .diacritic => ["Diacritic", "dia"]
  | .emoji => ["Emoji"]
  | .emojiComponent => ["Emoji_Component", "ecomp"]
  | .emojiModifier => ["Emoji_Modifier", "emod"]
  | .emojiModifierBase => ["Emoji_Modifier_Base", "ebase"]
  | .emojiPresentation => ["Emoji_Presentation", "epres"]
  | .extendedPictographic => ["Extended_Pictographic", "extpict"]
  | .extender => ["Extender", "ext"]
  | .graphemeBase => ["Grapheme_Base", "grbase"]
  | .graphemeExtend => ["Grapheme_Extend", "grext"]
  | .graphemeLink => ["Grapheme_Link", "grlink"]
  | .hexDigit => ["Hex_Digit", "hex"]
  | .hyphen => ["Hyphen"]
  | .idsBinaryOperator => ["IDS_Binary_Operator", "idsb"]
  | .idsTrinaryOperator => ["IDS_Trinary_Operator", "idst"]
  | .idsUnaryOperator => ["IDS_Unary_Operator", "idsu"]
  | .idCompatMathContinue => ["ID_Compat_Math_Continue"]
  | .idCompatMathStart => ["ID_Compat_Math_Start"]
  | .idContinue => ["ID_Continue", "idc"]
  | .idStart => ["ID_Start", "ids"]
  | .ideographic => ["Ideographic", "ideo"]
  | .joinControl => ["Join_Control", "joinc"]
  | .logicalOrderException => ["Logical_Order_Exception", "loe"]
  | .lowercase => ["Lowercase", "lower"]
  | .math => ["Math"]
  | .modifierCombiningMark => ["Modifier_Combining_Mark", "mcm"]
  | .noncharacterCodePoint => ["Noncharacter_Code_Point", "nchar"]
  | .otherAlphabetic => ["Other_Alphabetic", "oalpha"]
  | .otherDefaultIgnorableCodePoint => ["Other_Default_Ignorable_Code_Point", "odi"]
  | .otherGraphemeExtend => ["Other_Grapheme_Extend", "ogrext"]
  | .otherIdContinue => ["Other_ID_Continue", "oidc"]
  | .otherIdStart => ["Other_ID_Start", "oids"]
  | .otherLowercase => ["Other_Lowercase", "olower"]
  | .otherMath => ["Other_Math", "omath"]
  | .otherUppercase => ["Other_Uppercase", "oupper"]
  | .patternSyntax => ["Pattern_Syntax", "patsyn"]
  | .patternWhiteSpace => ["Pattern_White_Space", "patws"]
  | .prependedConcatenationMark => ["Prepended_Concatenation_Mark", "pcm"]
  | .quotationMark => ["Quotation_Mark", "qmark"]
  | .radical => ["Radical"]
  | .regionalIndicator => ["Regional_Indicator", "ri"]
  | .sentenceTerminal => ["Sentence_Terminal", "sterm"]
  | .softDotted => ["Soft_Dotted", "sd"]
  | .terminalPunctuation => ["Terminal_Punctuation", "term"]
  | .unifiedIdeograph => ["Unified_Ideograph", "uideo"]
  | .uppercase => ["Uppercase", "upper"]
  | .variationSelector => ["Variation_Selector", "vs"]
  | .whiteSpace => ["White_Space", "space", "wspace"]
  | .xidContinue => ["XID_Continue", "xidc"]
  | .xidStart => ["XID_Start", "xids"]

/-- The characters that have a property. -/
def set : BinaryProperty → CharSet
  | .alphabetic => .alphabetic
  | .asciiHexDigit => .asciiHexDigit
  | .bidiControl => .directionControl
  | .bidiMirrored => .mirrored
  | .caseIgnorable => .caseIgnorable
  | .cased => .cased
  | .changesWhenCasefolded => .changedByFolding
  | .changesWhenCasemapped => .changedByCase
  | .changesWhenLowercased => .changedByLowering
  | .changesWhenTitlecased => .changedByTitling
  | .changesWhenUppercased => .changedByRaising
  | .dash => .dash
  | .defaultIgnorableCodePoint => .ignorable
  | .deprecated => .obsolete
  | .diacritic => .diacritic
  | .emoji => .emoji
  | .emojiComponent => .emojiComponent
  | .emojiModifier => .emojiModifier
  | .emojiModifierBase => .emojiModifierBase
  | .emojiPresentation => .emojiPresentation
  | .extendedPictographic => .pictographic
  | .extender => .extender
  | .graphemeBase => .graphemeBase
  | .graphemeExtend => .graphemeExtend
  | .graphemeLink => .linker
  | .hexDigit => .hexDigit
  | .hyphen => .hyphen
  | .idsBinaryOperator => .binaryDescription
  | .idsTrinaryOperator => .trinaryDescription
  | .idsUnaryOperator => .unaryDescription
  | .idCompatMathContinue => .mathPart
  | .idCompatMathStart => .mathStart
  | .idContinue => .identifierPart
  | .idStart => .identifierStart
  | .ideographic => .ideographic
  | .joinControl => .joiners
  | .logicalOrderException => .visualOrder
  | .lowercase => .lowercase
  | .math => .math
  | .modifierCombiningMark => .reorderedMark
  | .noncharacterCodePoint => .noncharacter
  | .otherAlphabetic => ⟨otherAlphabeticRanges⟩
  | .otherDefaultIgnorableCodePoint => .otherIgnorable
  | .otherGraphemeExtend => ⟨otherGraphemeExtendRanges⟩
  | .otherIdContinue => .otherPart
  | .otherIdStart => .otherStart
  | .otherLowercase => ⟨otherLowercaseRanges⟩
  | .otherMath => ⟨otherMathRanges⟩
  | .otherUppercase => ⟨otherUppercaseRanges⟩
  | .patternSyntax => .patternSyntax
  | .patternWhiteSpace => .patternBlank
  | .prependedConcatenationMark => .prependedMark
  | .quotationMark => .quotationMark
  | .radical => .radical
  | .regionalIndicator => .regionalIndicator
  | .sentenceTerminal => .sentenceTerminal
  | .softDotted => .softDotted
  | .terminalPunctuation => .terminalMark
  | .unifiedIdeograph => .unifiedIdeograph
  | .uppercase => .uppercase
  | .variationSelector => .variationSelector
  | .whiteSpace => .blank
  | .xidContinue => .stablePart
  | .xidStart => .stableStart

end BinaryProperty

end PropertyGraph
