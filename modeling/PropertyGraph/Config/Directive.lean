import PropertyGraph.Error
import PropertyGraph.Regex.Reader

/-!
# Log directives

A directive is a level, or says for what a level holds: a target, a span with a name, fields that the
span has to have, each with a value it may be asked for, and then the mark `=` and the level.

## Main definitions

- `Directive.levelOf`, `Directive.hasKnownLevel` — what stands after the last mark
- `Directive.readSelector` — what stands before the level
- `Directive.isFilter` — whether a directive with a known level can be part of a filter
-/

namespace PropertyGraph

namespace Directive

open TextReader

/-! ## Levels -/

/-- Whether a word is a level, in any case of ASCII letters. -/
def isLevel (word : List Char) : Bool := logLevels.contains (String.ofList (word.map Char.toLower))

/-- The level of a directive: what stands after its last mark. -/
def levelOf (directive : List Char) : List Char :=
  ((directive.reverse).takeWhile (· ≠ '=')).reverse

/-- Whether the level of a directive is known. White space around the directive does not matter. -/
def hasKnownLevel (directive : List Char) : Bool := isLevel (levelOf (trimBlanks directive))

/-! ## Values of fields -/

/-- Digits, of which a point may stand among or before. -/
def readDecimal : TextReader Unit := do
  let isDigit (c : Char) : Bool := (digitValue? c).isSome
  let whole ← run isDigit
  let places ← (do character '.'; run isDigit) <|> pure []
  if whole.isEmpty && places.isEmpty then failure

/-- An exponent, if there is one. -/
def readExponent : TextReader Unit :=
  (do
    discard (satisfying fun c => c == 'e' || c == 'E')
    discard (satisfying fun c => c == '+' || c == '-') <|> pure ()
    if (← run fun c => (digitValue? c).isSome).isEmpty then failure) <|> pure ()

/-- Whether a text is a number without a sign, possibly infinite or none. -/
def isNumber (cs : List Char) : Bool :=
  ["inf", "infinity", "nan"].contains (String.ofList (cs.map Char.toLower)) ||
    ((do readDecimal; readExponent; ended : TextReader Unit) cs).isSome

/-- Whether a field can be asked for a value: a number with a sign, or else a regular expression. One
that asks whether a character of Unicode belongs to a word is not supported here. -/
def isFieldValue (cs : List Char) : Bool :=
  let supported (r : Regex) : Bool :=
    !r.looksFor fun a =>
      match a with
      | .word _ ascii => !ascii
      | _ => false
  match cs with
  | '+' :: rest => isNumber rest
  | cs => (Regex.read? (String.ofList cs)).any supported

/-- A field between braces: a name and perhaps a value, up to the next mark. -/
def readField : TextReader Unit := do
  character '\x7b'
  let field ← run (· ≠ '\x7d')
  if field.isEmpty then failure
  match (field.dropWhile (· ≠ '=')) with
  | [] => pure ()
  | _ :: value => if !isFieldValue (value.takeWhile (· ≠ '=')) then failure
  character '\x7d'

/-! ## Directives -/

/-- Whether a target may begin with a character. -/
def startsTarget (c : Char) : Bool := isAlphanumeric c || c == '-' || c == ':' || c == '_'

/-- A target, which ends before a span or a mark. -/
def readTarget : TextReader Unit := do
  discard (satisfying startsTarget)
  discard (run fun c => c ≠ '=' && c ≠ '[')

/-- A span between brackets: a name and perhaps a field. -/
def readSpan : TextReader Unit := do
  character '['
  discard (run fun c => c ≠ ']' && c ≠ '\x7b')
  readField <|> pure ()
  character ']'

/-- A target, a span, or a target and a span. -/
def readSelector : TextReader Unit :=
  (do
    readTarget
    readSpan <|> pure ()) <|> readSpan

/-- **Whether a directive whose level is known can be part of a filter.** White space around a directive
that selects something is taken as part of it. -/
def isFilter (directive : List Char) : Bool :=
  if !directive.contains '=' then true
  else
    match (do readSelector; character '=' : TextReader Unit) directive with
    | some (_, level) => isLevel level
    | none => false

end Directive

end PropertyGraph
