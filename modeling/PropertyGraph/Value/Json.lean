import PropertyGraph.Json.Writer
import PropertyGraph.Value.Basic

/-!
# Values as JSON and as text

JSON has no timestamps, no deletion markers and no infinite doubles: a timestamp becomes its
text, the other two become null.

## Main definitions

- `Value.toJson`, `Value.ofJson` — to and from JSON
- `Value.plainText` — the text that patterns are matched against
- `Value.displayText` — the text shown to people
-/

namespace PropertyGraph

namespace Value

/-- A double as JSON; null if it is not finite. -/
def floatJson (x : Float) : Json := if h : x.isFinite = true then .number (.float x h) else .null

mutual

/-- The value as JSON. -/
def toJson : Value → Json
  | .string s => .string s
  | .integer n => .number (.integer n)
  | .float x => floatJson x
  | .boolean b => .bool b
  | .timestamp t => .string t.text
  | .list items => .array (toJsonItems items)
  | .map entries => .object (SortedMap.ofList (toJsonEntries entries)).entries
  | .unset => .null
termination_by structural v => v

/-- Items as JSON. -/
def toJsonItems : List Value → List Json
  | [] => []
  | v :: items => toJson v :: toJsonItems items
termination_by structural items => items

/-- Entries as JSON. -/
def toJsonEntries : List (String × Value) → List (String × Json)
  | [] => []
  | (k, v) :: entries => (k, toJson v) :: toJsonEntries entries
termination_by structural entries => entries

end

/-- A JSON number: an integer where it fits, otherwise a double. -/
def ofJsonNumber : JsonNumber → Value
  | .integer n => .integer n
  | .large n _ => .float (Float.ofNat n.toNat)
  | .float x _ => .float x

mutual

/-- The value of a JSON value. -/
def ofJson : Json → Value
  | .null => .unset
  | .bool b => .boolean b
  | .number n => ofJsonNumber n
  | .string s => .string s
  | .array items => .list (ofJsonItems items)
  | .object members => .map (ofJsonMembers members)
termination_by structural j => j

/-- The values of items. -/
def ofJsonItems : List Json → List Value
  | [] => []
  | j :: items => ofJson j :: ofJsonItems items
termination_by structural items => items

/-- The values of members. -/
def ofJsonMembers : List (String × Json) → List (String × Value)
  | [] => []
  | (k, j) :: members => (k, ofJson j) :: ofJsonMembers members
termination_by structural members => members

end

/-- The text that patterns are matched against: a string as it is, all else as JSON. -/
def plainText : Value → String
  | .string s => s
  | .timestamp t => t.text
  | v => v.toJson.compact

/-- A double for people: the fewest digits, never an exponent. -/
def floatDisplay (x : Float) : String :=
  if x.isNaN then "NaN"
  else
    let magnitude := if x.isInf then "inf".toList else (shortestDecimal x .up).plain false
    String.ofList (if signBit x then '-' :: magnitude else magnitude)

/-- The text shown to people; of lists and maps only the size. -/
def displayText : Value → String
  | .string s => "\"" ++ s ++ "\""
  | .integer n => toString n.toInt
  | .float x => floatDisplay x
  | .boolean b => if b then "true" else "false"
  | .timestamp t => t.displayText
  | .list items => "[" ++ toString items.length ++ " items]"
  | .map entries => "\x7b" ++ toString entries.length ++ " entries\x7d"
  | .unset => "unset"

end Value

end PropertyGraph
