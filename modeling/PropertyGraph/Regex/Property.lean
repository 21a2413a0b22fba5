import PropertyGraph.Regex.Mode
import PropertyGraph.Text.Age
import PropertyGraph.Text.Break

/-!
# Sets by property

A set of characters is named by a property that they have, or by the value of a property. Case, blanks,
hyphens and underscores do not count in names.

## Main definitions

- `Regex.plainName` — what counts in a name
- `Regex.propertySet?` — the characters that have a property
- `Regex.valueSet?` — the characters for which a property has a value
- `Regex.readProperty` — a property, as it is written
-/

namespace PropertyGraph

namespace Regex

/-! ## Names -/

/-- What counts in a name: letters without case, digits and signs, but no blanks, hyphens, underscores
and characters beyond ASCII, and no `is` at the start. -/
def plainName (name : List Char) : List Char :=
  let (marked, rest) : Bool × List Char :=
    match name with
    | a :: b :: rest => if a.toLower = 'i' ∧ b.toLower = 's' then (true, rest) else (false, name)
    | _ => (false, name)
  let kept := (rest.filter fun c => c.toNat < 0x80 && c != ' ' && c != '_' && c != '-').map Char.toLower
  if marked && kept == ['c'] then ['i', 's', 'c'] else kept

/-- Whether a name is one of several; only what counts in it is given. -/
def isOneOf (key : List Char) (names : List String) : Bool := names.any fun n => plainName n.toList == key

/-- The first value with a name. -/
def named? {α : Type} (key : List Char) (values : List α) (names : α → List String) : Option α :=
  values.find? fun v => isOneOf key (names v)

/-! ## Sets -/

/-- The names of the general categories and of groups of them. -/
def categoryNames : List (List String × List Category) :=
  [(["Lu", "Uppercase_Letter"], [.uppercaseLetter]),
   (["Ll", "Lowercase_Letter"], [.lowercaseLetter]),
   (["Lt", "Titlecase_Letter"], [.titlecaseLetter]), (["Lm", "Modifier_Letter"], [.modifierLetter]),
   (["Lo", "Other_Letter"], [.otherLetter]), (["Mn", "Nonspacing_Mark"], [.nonspacingMark]),
   (["Mc", "Spacing_Mark"], [.spacingMark]), (["Me", "Enclosing_Mark"], [.enclosingMark]),
   (["Nd", "Decimal_Number", "digit"], [.decimalNumber]),
   (["Nl", "Letter_Number"], [.letterNumber]), (["No", "Other_Number"], [.otherNumber]),
   (["Pc", "Connector_Punctuation"], [.connectorPunctuation]),
   (["Pd", "Dash_Punctuation"], [.dashPunctuation]),
   (["Ps", "Open_Punctuation"], [.openPunctuation]),
   (["Pe", "Close_Punctuation"], [.closePunctuation]),
   (["Pi", "Initial_Punctuation"], [.initialPunctuation]),
   (["Pf", "Final_Punctuation"], [.finalPunctuation]),
   (["Po", "Other_Punctuation"], [.otherPunctuation]), (["Sm", "Math_Symbol"], [.mathSymbol]),
   (["Sc", "Currency_Symbol"], [.currencySymbol]), (["Sk", "Modifier_Symbol"], [.modifierSymbol]),
   (["So", "Other_Symbol"], [.otherSymbol]), (["Zs", "Space_Separator"], [.spaceSeparator]),
   (["Zl", "Line_Separator"], [.lineSeparator]),
   (["Zp", "Paragraph_Separator"], [.paragraphSeparator]), (["Cc", "Control", "cntrl"], [.control]),
   (["Cf", "Format"], [.format]), (["Co", "Private_Use"], [.privateUse]),
   (["Cn", "Unassigned"], [.unassigned]), (["LC", "Cased_Letter"], Category.casedLetters),
   (["L", "Letter"], Category.letters), (["M", "Mark", "Combining_Mark"], Category.marks),
   (["N", "Number"], Category.numbers), (["P", "Punctuation", "punct"], Category.punctuation),
   (["S", "Symbol"], Category.symbols), (["Z", "Separator"], Category.separators),
   (["C", "Other"], Category.others)]

/-- The characters of a general category or a group of them. -/
def categorySet? (key : List Char) : Option CharSet :=
  if isOneOf key ["Any"] then some (CharSet.complement ∅)
  else if isOneOf key ["Assigned"] then some (.ofAssigned Category.assigned)
  else if isOneOf key ["ASCII"] then some (.range 0 0x7F)
  else (named? key categoryNames (·.1)).map fun e => .ofCategories e.2

/-- The characters that have a property: one of their own, a general category or a script. -/
def propertySet? (name : List Char) : Option CharSet :=
  let key := plainName name
  match named? key BinaryProperty.all (·.names) with
  | some p => some p.set
  | none => (categorySet? key).or ((named? key scripts (·.names)).map CharSet.ofScript)

/-- The characters for which a property has a value. -/
def valueSet? (property value : List Char) : Option CharSet :=
  let property := plainName property
  let key := plainName value
  if isOneOf property ["gc", "General_Category"] then categorySet? key
  else if isOneOf property ["sc", "Script"] then (named? key scripts (·.names)).map CharSet.ofScript
  else if isOneOf property ["scx", "Script_Extensions"] then (named? key scripts (·.names)).map CharSet.usedIn
  else if isOneOf property ["Age"] then CharSet.upTo? fun n => plainName n.toList == key
  else if isOneOf property ["GCB", "Grapheme_Cluster_Break"] then
    (named? key GraphemeBreak.all (·.names)).map (·.set)
  else if isOneOf property ["WB", "Word_Break"] then (named? key WordBreak.all (·.names)).map (·.set)
  else if isOneOf property ["SB", "Sentence_Break"] then (named? key SentenceBreak.all (·.names)).map (·.set)
  else none

/-! ## Reading -/

/-- The part of a text before the first place where some characters stand, and the part after them. -/
def splitAt? (mark : List Char) : List Char → Option (List Char × List Char)
  | [] => none
  | c :: cs =>
    if mark.isPrefixOf (c :: cs) then some ([], (c :: cs).drop mark.length)
    else (splitAt? mark cs).map fun parts => (c :: parts.1, parts.2)

/-- The characters that are named between braces: by a property, or by a property and its value. A mark
of inequality stands for equality. -/
def setBetweenBraces? (text : List Char) : Option CharSet :=
  match (splitAt? ['!', '='] text).or ((splitAt? [':'] text).or (splitAt? ['='] text)) with
  | some (property, value) => valueSet? property value
  | none => propertySet? text

/-- A property after its letter: between braces, or named by one character. -/
def readProperty (mode : RegexMode) (negated : Bool) : TextReader CharSet := do
  mode.space
  let named ← (do
    match ← TextReader.satisfying fun _ => true with
    | '\x7b' =>
      mode.space
      let text ← TextReader.many do
        let c ← TextReader.satisfying (· ≠ '\x7d')
        mode.space
        return c
      TextReader.character '\x7d'
      setBetweenBraces? text
    | '\\' => failure
    | c => propertySet? [c] : TextReader CharSet)
  if mode.unicode then mode.negate? negated (mode.fold named) else failure

end Regex

end PropertyGraph
