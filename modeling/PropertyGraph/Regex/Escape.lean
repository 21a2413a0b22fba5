import PropertyGraph.Regex.Basic
import PropertyGraph.Regex.Property
import PropertyGraph.Text.Digits

/-!
# Escapes of regular expressions

What follows a backslash, under the flags in force. A letter that has no meaning there is refused, and
so is everything that could match a part of a character while the sets are those of ASCII.

## Main definitions

- `Regex.Escape`, `Regex.readEscape` — escapes
-/

namespace PropertyGraph

/-! ## Sets -/

namespace CharSet

/-- The digits of ASCII. -/
def asciiDigit : CharSet := range 48 57

/-- The white space of ASCII. -/
def asciiBlank : CharSet := ⟨[(9, 13), (32, 32)]⟩

/-- The word characters of ASCII. -/
def asciiWord : CharSet := ⟨[(48, 57), (65, 90), (95, 95), (97, 122)]⟩

end CharSet

namespace Regex

/-- What an escape stands for. -/
inductive Escape where
  | char (c : Char)
  | set (s : CharSet)
  | look (a : Assertion)

/-! ## Characters by number -/

/-- The character written by hexadecimal digits. -/
def hexChar? (digits : List Char) : Option Char := do
  if digits.isEmpty then none
  else charOf? (← digits.foldlM (fun n c => do return n * 16 + (← hexValue? c)) 0)

/-- A hexadecimal digit and what does not count after it. -/
def hexDigits (mode : RegexMode) : Nat → TextReader (List Char)
  | 0 => pure []
  | n + 1 => do
    let c ← TextReader.satisfying fun c => (hexValue? c).isSome
    mode.space
    return c :: (← hexDigits mode n)

/-- Hexadecimal digits up to a closing brace. -/
def hexInBraces (mode : RegexMode) : TextReader (List Char) := do
  let digits ← TextReader.many do
    let c ← TextReader.satisfying fun c => (hexValue? c).isSome
    mode.space
    return c
  TextReader.character '\x7d'
  return digits

/-- A hexadecimal escape after its letter: digits in braces, or as many as the letter asks for. Two
digits stand for a byte where the sets are those of ASCII. -/
def readHex (mode : RegexMode) (width : Nat) : TextReader Escape := do
  mode.space
  match ← get with
  | '\x7b' :: cs =>
    set (mode.skip cs)
    return .char (← hexChar? (← hexInBraces mode))
  | _ =>
    let c ← hexChar? (← hexDigits mode width)
    if width = 2 ∧ !mode.unicode ∧ 0x80 ≤ c.toNat then failure
    return .char c

/-! ## Assertions -/

/-- The assertion named in braces after `\b`. -/
def wordEdge? (name : List Char) : Option WordEdge :=
  if name = "start".toList then some .start
  else if name = "end".toList then some .finish
  else if name = "start-half".toList then some .startHalf
  else if name = "end-half".toList then some .finishHalf
  else none

/-- A character of the name of an assertion. -/
def isEdgeChar (c : Char) : Bool := ('a' ≤ c && c ≤ 'z') || ('A' ≤ c && c ≤ 'Z') || c == '-'

/-- What follows `\b`: a name in braces, unless the braces hold a repetition. -/
def readWordEdge (mode : RegexMode) : TextReader WordEdge := fun cs =>
  match cs with
  | '\x7b' :: rest =>
    match mode.skip rest with
    | [] => none
    | c :: rest =>
      if !isEdgeChar c then some (.boundary, cs)
      else
        (do
          let name ← TextReader.many do
            let c ← TextReader.satisfying isEdgeChar
            mode.space
            return c
          TextReader.character '\x7d'
          wordEdge? name : TextReader WordEdge) (c :: rest)
  | cs => some (.boundary, cs)

/-! ## Escapes -/

/-- An ASCII character that stands for itself after a backslash: no letter, digit or angle. -/
def isEscapable (c : Char) : Bool := c.toNat < 0x80 && !c.isAlphanum && c != '<' && c != '>'

/-- An escape after its backslash. -/
def readEscape (mode : RegexMode) : TextReader Escape := do
  let edge (e : WordEdge) : Escape := .look (.word e !mode.unicode)
  match ← TextReader.satisfying fun _ => true with
  | 'd' => return .set (mode.pick .digit .asciiDigit)
  | 'D' => return .set (← mode.negate? true (mode.pick .digit .asciiDigit))
  | 'w' => return .set (mode.pick .word .asciiWord)
  | 'W' => return .set (← mode.negate? true (mode.pick .word .asciiWord))
  | 's' => return .set (mode.pick .blank .asciiBlank)
  | 'S' => return .set (← mode.negate? true (mode.pick .blank .asciiBlank))
  | 'a' => return .char '\x07'
  | 'f' => return .char '\x0c'
  | 't' => return .char '\t'
  | 'n' => return .char '\n'
  | 'r' => return .char '\r'
  | 'v' => return .char '\x0b'
  | 'A' => return .look .textStart
  | 'z' => return .look .textEnd
  | 'B' => return edge .interior
  | '<' => return edge .start
  | '>' => return edge .finish
  | 'b' => return edge (← readWordEdge mode)
  | 'p' => return .set (← readProperty mode false)
  | 'P' => return .set (← readProperty mode true)
  | 'x' => readHex mode 2
  | 'u' => readHex mode 4
  | 'U' => readHex mode 8
  | c => if isEscapable c then return .char c else failure

end Regex

end PropertyGraph
