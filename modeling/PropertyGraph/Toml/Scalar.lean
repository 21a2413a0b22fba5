import PropertyGraph.Calendar
import PropertyGraph.Text.Digits
import PropertyGraph.Text.Reading
import PropertyGraph.Toml.Basic
import PropertyGraph.Word

/-!
# Strings, numbers and dates of a settings file

Strings are basic, with escapes, or literal; each kind may extend over lines between tripled
quotes. Integers fit 64 signed bits. Digits may be grouped by underscores, and a number has no
leading zeros.

## Main definitions

- `Toml.blanks`, `Toml.newline`, `Toml.comment` — what stands between the parts
- `Toml.basicString`, `Toml.literalString` — strings on one line
- `Toml.scalar` — all values without parts
-/

namespace PropertyGraph

namespace Toml

open TextReader

/-! ## Between the parts -/

/-- A blank or a tab. -/
def isGap (c : Char) : Bool := c == ' ' || c == '\t'

/-- A character that may stand in a comment: all but controls, and the tab. -/
def isShown (c : Char) : Bool := c == '\t' || (0x20 ≤ c.toNat && c.toNat ≠ 0x7f)

/-- Blanks and tabs. -/
def blanks : TextReader Unit := do let _ ← run isGap

/-- The end of a line. -/
def newline : TextReader Unit := word ['\n'] <|> word ['\r', '\n']

/-- A comment up to the end of its line. -/
def comment : TextReader Unit := do
  character '#'
  let _ ← run isShown

/-! ## Strings -/

/-- The character of a fixed number of hexadecimal digits. -/
def codePoint (width : Nat) : TextReader Char := do
  let digits ← upTo (seen hexValue?) width
  match charOf? (digits.foldl (fun n d => n * 16 + d) 0) with
  | some c => if digits.length = width then pure c else failure
  | none => failure

/-- What a letter after the backslash stands for. -/
def escapeLetter? : Char → Option Char
  | 'b' => some '\x08'
  | 't' => some '\t'
  | 'n' => some '\n'
  | 'f' => some '\x0c'
  | 'r' => some '\r'
  | '"' => some '"'
  | '\\' => some '\\'
  | _ => none

/-- An escape. -/
def escape : TextReader Char := do
  character '\\'
  seen escapeLetter?
    <|> (do character 'u'; codePoint 4)
    <|> (do character 'U'; codePoint 8)

/-- A character of a basic string. -/
def basicCharacter : TextReader Char :=
  satisfying (fun c => isShown c && c ≠ '"' && c ≠ '\\') <|> escape

/-- A basic string on one line. -/
def basicString : TextReader String := do
  character '"'
  let cs ← many basicCharacter
  character '"'
  return String.ofList cs

/-- A literal string on one line. -/
def literalString : TextReader String := do
  character '\''
  let cs ← run fun c => isShown c && c ≠ '\''
  character '\''
  return String.ofList cs

/-- One or two quotes that do not end a string between tripled quotes. -/
def innerQuotes (quote : Char) : TextReader (List Char) := do
  let quotes ← run (· = quote)
  if quotes.length = 1 ∨ quotes.length = 2 then return quotes else failure

/-- The closing quotes of a string over lines: three, after at most two that belong to the string. -/
def closingQuotes (quote : Char) : TextReader (List Char) := do
  word [quote, quote, quote]
  upTo (satisfying (· = quote)) 2

/-- The end of a line as part of a string. -/
def lineBreak : TextReader (List Char) := do
  newline
  return ['\n']

/-- A backslash at the end of a line, which leaves out all white space after it. -/
def continuedLine : TextReader (List Char) := do
  character '\\'
  blanks
  newline
  let _ ← many (newline <|> do let _ ← satisfying isGap)
  return []

/-- A string over lines between tripled quotes, made of pieces. A line break right after the opening
quotes is left out. -/
def linesBetween (quote : Char) (piece : TextReader (List Char)) : TextReader String := do
  word [quote, quote, quote]
  let _ ← optional newline
  let pieces ← many (piece <|> lineBreak <|> innerQuotes quote)
  let last ← closingQuotes quote
  return String.ofList (pieces.flatten ++ last)

/-- A basic string over lines. -/
def basicLines : TextReader String :=
  linesBetween '"' (continuedLine <|> do return [← basicCharacter])

/-- A literal string over lines. -/
def literalLines : TextReader String :=
  linesBetween '\'' do return [← satisfying fun c => isShown c && c ≠ '\'']

/-! ## Numbers -/

/-- Digits, grouped by underscores. -/
def groupedDigits (value? : Char → Option Nat) : TextReader (List Nat) := do
  let first ← seen value?
  let rest ← many (seen value? <|> do character '_'; seen value?)
  return first :: rest

/-- The number of digits to a base. -/
def ofDigitsTo (base : Nat) (ds : List Nat) : Nat := ds.foldl (fun n d => n * base + d) 0

/-- A sign; whether it is a minus. -/
def sign : TextReader Bool :=
  (do character '-'; return true) <|> (do character '+'; return false) <|> pure false

/-- Decimal digits without a leading zero. -/
def wholeDigits : TextReader (List Nat) :=
  (do character '0'; return [0]) <|> groupedDigits digitValue?

/-- An integer of 64 signed bits. -/
def integerOf (negative : Bool) (n : Nat) : TextReader Toml :=
  if negative then if n ≤ int64Bound then pure (.integer (Int64.ofInt (-n))) else failure
  else if n < int64Bound then pure (.integer (Int64.ofNat n)) else failure

/-- A decimal integer. -/
def decimalInteger : TextReader Toml := do
  let negative ← sign
  integerOf negative (ofDigitsTo 10 (← wholeDigits))

/-- The value of a digit to a base. -/
def digitTo? (base : Nat) (c : Char) : Option Nat := (hexValue? c).filter (· < base)

/-- An integer to another base, after the mark of the base. -/
def basedInteger (mark : Char) (base : Nat) : TextReader Toml := do
  word ['0', mark]
  integerOf false (ofDigitsTo base (← groupedDigits (digitTo? base)))

/-- The double nearest to `m * 10^e`. -/
def nearestDouble (m : Nat) (e : Int) : Float :=
  let size : Int := (Nat.toDigits 10 m).length + e
  if m = 0 ∨ size < -400 then 0.0
  else if 400 < size then 1.0 / 0.0
  else if 0 ≤ e then Float.ofScientific m false e.toNat
  else Float.ofScientific m true e.natAbs

/-- An exponent. -/
def exponent : TextReader Int := do
  character 'e' <|> character 'E'
  let negative ← sign
  let n := ofDigitsTo 10 (← groupedDigits digitValue?)
  return if negative then -n else n

/-- The digits after a point. -/
def fraction : TextReader (List Nat) := do
  character '.'
  groupedDigits digitValue?

/-- A number with a fraction, an exponent, or both; a positive one must not be too large for a
double. -/
def decimalFloat : TextReader Toml := do
  let negative ← sign
  let whole ← wholeDigits
  let (places, e) ←
    (do let e ← exponent; return ([], e))
      <|> (do let places ← fraction; return (places, (← optional exponent).getD 0))
  let x := nearestDouble (ofDigitsTo 10 (whole ++ places)) (e - places.length)
  if negative then return .float (-x) else if x.isInf then failure else return .float x

/-- The words for numbers that are not finite. -/
def specialFloat : TextReader Toml := do
  let negative ← sign
  let x ← (do word "inf".toList; return 1.0 / 0.0) <|> (do word "nan".toList; return 0.0 / 0.0)
  return .float (if negative then -x else x)

/-! ## Dates and times -/

/-- A field of two digits with a greatest value. -/
def twoDigits (greatest : Nat) : TextReader Nat := do
  let n ← readFixed 2 0
  if n ≤ greatest then return n else failure

/-- A date that exists. -/
def date : TextReader Unit := do
  let year ← readFixed 4 0
  character '-'
  let month ← readFixed 2 0
  character '-'
  let day ← readFixed 2 0
  if Date.Valid ⟨year, month, day⟩ then return () else failure

/-- A time of day. -/
def clock : TextReader Unit := do
  let _ ← twoDigits 23
  character ':'
  let _ ← twoDigits 59
  character ':'
  let _ ← twoDigits 60
  let _ ← optional do
    character '.'
    let _ ← seen digitValue?
    many (seen digitValue?)

/-- The offset of a time of day. -/
def offset : TextReader Unit :=
  character 'Z' <|> character 'z' <|> do
    character '+' <|> character '-'
    let _ ← twoDigits 23
    character ':'
    let _ ← twoDigits 59

/-- The time after a date. -/
def clockAfterDate : TextReader Unit := do
  let _ ← satisfying fun c => c = 'T' || c = 't' || c = ' '
  clock
  let _ ← optional offset

/-- A date, a time of day, or both. -/
def dateOrTime : TextReader Toml := fun cs => do
  let (_, rest) ← (((do date; let _ ← optional clockAfterDate) <|> clock) : TextReader Unit) cs
  return (.moment (String.ofList (cs.take (cs.length - rest.length))), rest)

/-! ## All of them -/

/-- A string of any kind. -/
def anyString : TextReader String := basicLines <|> basicString <|> literalLines <|> literalString

/-- A truth value. -/
def truth : TextReader Toml :=
  (do word "true".toList; return .boolean true) <|> (do word "false".toList; return .boolean false)

/-- A value without parts. -/
def scalar : TextReader Toml :=
  (do return .string (← anyString)) <|> truth <|> dateOrTime <|> decimalFloat <|> specialFloat
    <|> basedInteger 'x' 16 <|> basedInteger 'o' 8 <|> basedInteger 'b' 2 <|> decimalInteger

end Toml

end PropertyGraph
