/-!
# Writing strings of a settings file

A string is written in the plainest of four styles that can show it: in double quotes, in single
quotes, in tripled double quotes or in tripled single quotes, each without escapes if it can be. What
none of them can show is written with escapes.

## Main definitions

- `Toml.QuoteStyle` — the four styles
- `Toml.QuoteStyle.ofText` — the style of a text
- `Toml.quote` — a string in quotes
-/

namespace PropertyGraph

namespace Toml

/-- A kind of quotes. Tripled quotes stand around line breaks; between single ones there are no
escapes. -/
inductive QuoteStyle where
  | double | single | doubleTripled | singleTripled
deriving Repr, DecidableEq

/-- A control character that has to be escaped: all but the tab and the line break. -/
def needsEscape (c : Char) : Bool := (c.toNat < 0x20 && c ≠ '\t' && c ≠ '\n') || c.toNat == 0x7f

/-- Whether a character stands more than `n` times in a row, after a run of it of length `seen`. -/
def hasRunOver (n : Nat) (q : Char) (seen : Nat) : List Char → Bool
  | [] => n < seen
  | c :: cs => n < seen || hasRunOver n q (if c = q then seen + 1 else 0) cs

/-- The style in which a text is written. -/
def QuoteStyle.ofText (cs : List Char) : QuoteStyle :=
  let lines := cs.contains '\n'
  let asIs := !cs.any needsEscape
  let unescaped := asIs && !cs.contains '\\'
  if unescaped && !cs.contains '"' && !lines then .double
  else if asIs && !cs.contains '\'' && !lines then .single
  else if unescaped && !hasRunOver 2 '"' 0 cs then .doubleTripled
  else if asIs && !hasRunOver 2 '\'' 0 cs then .singleTripled
  else if lines then .doubleTripled
  else .double

/-- The upper-case hexadecimal digit of a value below sixteen. -/
def upperHexDigit (n : Nat) : Char := if n < 10 then Char.ofNat (48 + n) else Char.ofNat (55 + n)

/-- A character between double quotes, other than a quote. Between tripled ones a line break stands
for itself. -/
def escapeBasic (tripled : Bool) (c : Char) : List Char :=
  match c with
  | '\\' => ['\\', '\\']
  | '\x08' => ['\\', 'b']
  | '\t' => ['\\', 't']
  | '\n' => if tripled then ['\n'] else ['\\', 'n']
  | '\x0c' => ['\\', 'f']
  | '\r' => ['\\', 'r']
  | c =>
    if needsEscape c then ['\\', 'u', '0', '0', upperHexDigit (c.toNat / 16), upperHexDigit (c.toNat % 16)]
    else [c]

/-- A text between double quotes, of which `seen` stand at its start already. Between tripled ones a
quote is escaped only if it is the third in a row. -/
def escapeText (tripled : Bool) (seen : Nat) : List Char → List Char
  | [] => []
  | '"' :: cs =>
    if tripled && seen < 2 then '"' :: escapeText tripled (seen + 1) cs
    else '\\' :: '"' :: escapeText tripled 0 cs
  | c :: cs => escapeBasic tripled c ++ escapeText tripled 0 cs

/-- A text in quotes. -/
def enclose (quotes cs : List Char) : String := String.ofList (quotes ++ cs ++ quotes)

/-- **A string in quotes.** Tripled quotes are followed by a line break if there is one inside. -/
def quote (s : String) : String :=
  let cs := s.toList
  let opening : List Char := if cs.contains '\n' then ['\n'] else []
  match QuoteStyle.ofText cs with
  | .double => enclose ['"'] (escapeText false 0 cs)
  | .single => enclose ['\''] cs
  | .doubleTripled => enclose ['"', '"', '"'] (opening ++ escapeText true 0 cs)
  | .singleTripled => enclose ['\'', '\'', '\''] (opening ++ cs)

end Toml

end PropertyGraph
