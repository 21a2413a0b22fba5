import PropertyGraph.Decimal.Notation
import PropertyGraph.Json.Basic
import PropertyGraph.Text.Digits

/-!
# Writing JSON text

The compact form has no blanks; the indented form puts every item on a line of its own, two
blanks further in. Strings escape the quote, the backslash and the control characters. A
double has the fewest digits that read back, positionally for exponents from -5 to 15.

## Main definitions

- `quoteJson` — a string in quotes
- `JsonNumber.text` — a number
- `Json.compact`, `Json.indented` — the two forms
-/

namespace PropertyGraph

/-- A character inside a quoted string. -/
def escapeJson (c : Char) : List Char :=
  match c with
  | '"' => ['\\', '"']
  | '\\' => ['\\', '\\']
  | '\x08' => ['\\', 'b']
  | '\x0c' => ['\\', 'f']
  | '\n' => ['\\', 'n']
  | '\r' => ['\\', 'r']
  | '\t' => ['\\', 't']
  | c =>
    if c.toNat < 0x20 then ['\\', 'u', '0', '0', hexDigit (c.toNat / 16), hexDigit (c.toNat % 16)]
    else [c]

/-- A string in quotes. -/
def quoteJson (s : String) : String := String.ofList ('"' :: s.toList.flatMap escapeJson ++ ['"'])

/-- A finite double: positional for exponents of the first digit from -5 to 15, an integral
value with `.0`. -/
def jsonFloatText (x : Float) : String :=
  let d := shortestDecimal x .toEven
  let e := d.leadingExponent
  let magnitude := if -5 ≤ e ∧ e ≤ 15 then d.plain true else d.scientific
  String.ofList (if signBit x then '-' :: magnitude else magnitude)

/-- A number as JSON text. -/
def JsonNumber.text : JsonNumber → String
  | .integer n => toString n.toInt
  | .large n _ => toString n.toNat
  | .float x _ => jsonFloatText x

namespace Json

mutual

/-- The compact form. -/
def compact : Json → String
  | .null => "null"
  | .bool true => "true"
  | .bool false => "false"
  | .number n => n.text
  | .string s => quoteJson s
  | .array items => "[" ++ ",".intercalate (compactItems items) ++ "]"
  | .object members => "\x7b" ++ ",".intercalate (compactMembers members) ++ "\x7d"
termination_by structural j => j

/-- The compact forms of items. -/
def compactItems : List Json → List String
  | [] => []
  | j :: items => compact j :: compactItems items
termination_by structural items => items

/-- The compact forms of members. -/
def compactMembers : List (String × Json) → List String
  | [] => []
  | (k, j) :: members => (quoteJson k ++ ":" ++ compact j) :: compactMembers members
termination_by structural members => members

end

/-- A line break and the blanks of a nesting depth. -/
def lineAt (depth : Nat) : String := "\n" ++ String.ofList (List.replicate (2 * depth) ' ')

/-- Items between brackets, each on a line of its own. -/
def block (openMark closeMark : String) (depth : Nat) (items : List String) : String :=
  if items.isEmpty then openMark ++ closeMark
  else
    openMark ++ lineAt (depth + 1) ++ ("," ++ lineAt (depth + 1)).intercalate items
      ++ lineAt depth ++ closeMark

mutual

/-- The indented form of a value at a nesting depth. -/
def indentedAt (depth : Nat) : Json → String
  | .null => "null"
  | .bool true => "true"
  | .bool false => "false"
  | .number n => n.text
  | .string s => quoteJson s
  | .array items => block "[" "]" depth (indentedItems (depth + 1) items)
  | .object members => block "\x7b" "\x7d" depth (indentedMembers (depth + 1) members)
termination_by structural j => j

/-- The indented forms of items. -/
def indentedItems (depth : Nat) : List Json → List String
  | [] => []
  | j :: items => indentedAt depth j :: indentedItems depth items
termination_by structural items => items

/-- The indented forms of members. -/
def indentedMembers (depth : Nat) : List (String × Json) → List String
  | [] => []
  | (k, j) :: members => (quoteJson k ++ ": " ++ indentedAt depth j) :: indentedMembers depth members
termination_by structural members => members

end

/-- The indented form. -/
def indented (j : Json) : String := indentedAt 0 j

end Json

end PropertyGraph
