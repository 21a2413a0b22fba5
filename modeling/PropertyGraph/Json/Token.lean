import PropertyGraph.Json.Number
import PropertyGraph.Json.Written

/-!
# Tokens of JSON text

A character automaton cuts a text into brackets, separators, literals, numbers and strings. The grammar
is strict: no leading zeros, and no control characters inside strings. A surrogate that has no partner
is well formed, but its string stands for no text.

## Main definitions

- `Json.Token` — the tokens
- `Json.textOfPoints?` — the text of a string with escaped surrogates
- `Json.tokens?` — the tokens of a text
-/

namespace PropertyGraph

namespace Json

/-- A token of JSON text. -/
inductive Token where
  | openArray | closeArray | openObject | closeObject | comma | colon
  /-- A value that is neither an array nor an object. -/
  | scalar (w : Written)

/-- What the automaton is in the middle of; code points and letters are kept reversed. -/
inductive ScanState where
  | between
  | word (letters : List Char)
  | number (chars : List Char)
  | text (points : List Nat)
  | escape (points : List Nat)
  /-- In a hexadecimal escape: the digits still to come, and the value of those read. -/
  | hex (points : List Nat) (left value : Nat)

/-- The tokens so far, latest first, and what is being read. -/
structure Scan where
  tokens : List Token
  state : ScanState

/-! ## Strings -/

/-- The characters of code points given in reverse, in front of a text. Two surrogates are a character
outside the basic plane; none if one of them has no partner. -/
def textOfPoints? (text : List Char) : List Nat → Option (List Char)
  | [] => some text
  | [n] => (charOf? n).map (· :: text)
  | n :: m :: rest =>
    if 0xD800 ≤ m ∧ m ≤ 0xDBFF ∧ 0xDC00 ≤ n ∧ n ≤ 0xDFFF then
      textOfPoints? (Char.ofNat (0x10000 + (m - 0xD800) * 0x400 + (n - 0xDC00)) :: text) rest
    else do textOfPoints? ((← charOf? n) :: text) (m :: rest)

/-- The token of a string, whose code points are given in reverse. -/
def stringToken (points : List Nat) : Token :=
  .scalar (.string ((textOfPoints? [] points).map String.ofList))

/-- The character of a one-letter escape. -/
def escaped? : Char → Option Char
  | '"' => some '"'
  | '\\' => some '\\'
  | '/' => some '/'
  | 'b' => some '\x08'
  | 'f' => some '\x0c'
  | 'n' => some '\n'
  | 'r' => some '\r'
  | 't' => some '\t'
  | _ => none

/-! ## Literals and numbers -/

/-- The token of a literal. -/
def literal? (letters : List Char) : Option Token :=
  if letters = "true".toList then some (.scalar (.bool true))
  else if letters = "false".toList then some (.scalar (.bool false))
  else if letters = "null".toList then some (.scalar .null)
  else none

/-- A character that may stand in a number. -/
def isNumberChar (c : Char) : Bool :=
  ('0' ≤ c && c ≤ '9') || c == '-' || c == '+' || c == '.' || c == 'e' || c == 'E'

/-- The token of a number. -/
def numberToken? (chars : List Char) : Option Token :=
  (NumberText.ofChars? chars).map fun t => .scalar (.number t.value?)

/-! ## The automaton -/

/-- Begin a token with `c`. -/
def Scan.start (tokens : List Token) (c : Char) : Option Scan :=
  match c with
  | ' ' | '\n' | '\r' | '\t' => some ⟨tokens, .between⟩
  | '[' => some ⟨.openArray :: tokens, .between⟩
  | ']' => some ⟨.closeArray :: tokens, .between⟩
  | '{' => some ⟨.openObject :: tokens, .between⟩
  | '}' => some ⟨.closeObject :: tokens, .between⟩
  | ',' => some ⟨.comma :: tokens, .between⟩
  | ':' => some ⟨.colon :: tokens, .between⟩
  | '"' => some ⟨tokens, .text []⟩
  | c =>
    if 'a' ≤ c ∧ c ≤ 'z' then some ⟨tokens, .word [c]⟩
    else if ('0' ≤ c ∧ c ≤ '9') ∨ c = '-' then some ⟨tokens, .number [c]⟩
    else none

/-- Read one character. -/
def Scan.step (s : Scan) (c : Char) : Option Scan :=
  match s.state with
  | .between => Scan.start s.tokens c
  | .word letters =>
    if 'a' ≤ c ∧ c ≤ 'z' then some ⟨s.tokens, .word (c :: letters)⟩
    else do Scan.start ((← literal? letters.reverse) :: s.tokens) c
  | .number chars =>
    if isNumberChar c then some ⟨s.tokens, .number (c :: chars)⟩
    else do Scan.start ((← numberToken? chars.reverse) :: s.tokens) c
  | .text points =>
    if c = '"' then some ⟨stringToken points :: s.tokens, .between⟩
    else if c = '\\' then some ⟨s.tokens, .escape points⟩
    else if c.toNat < 0x20 then none
    else some ⟨s.tokens, .text (c.toNat :: points)⟩
  | .escape points =>
    if c = 'u' then some ⟨s.tokens, .hex points 4 0⟩
    else do some ⟨s.tokens, .text ((← escaped? c).toNat :: points)⟩
  | .hex points left value => do
    let value := value * 16 + (← hexValue? c)
    if left = 1 then some ⟨s.tokens, .text (value :: points)⟩
    else some ⟨s.tokens, .hex points (left - 1) value⟩

/-- The tokens at the end of a text, in order. -/
def Scan.finish (s : Scan) : Option (List Token) :=
  match s.state with
  | .between => some s.tokens.reverse
  | .word letters => do some ((← literal? letters.reverse) :: s.tokens).reverse
  | .number chars => do some ((← numberToken? chars.reverse) :: s.tokens).reverse
  | _ => none

/-- The tokens of a text; none if it has a malformed one. -/
def tokens? (cs : List Char) : Option (List Token) := do
  (← cs.foldlM Scan.step ⟨[], .between⟩).finish

end Json

end PropertyGraph
