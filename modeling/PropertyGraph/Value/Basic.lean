import PropertyGraph.Instant

/-!
# Property values

The dynamic values that vertices and edges carry. `Value.unset` is a deletion marker: inside
a bag of properties it stands for "no value".

## Main definitions

- `Value` — the values; the entries of a map are listed in key order
- `Value.beq` — structural equality, with doubles compared as doubles
- `Value.asInstant?` and its kin — views as one kind
-/

namespace PropertyGraph

/-- A property value. The entries of a map are in key order, each key once. -/
inductive Value where
  | string (s : String)
  | integer (n : Int64)
  | float (x : Float)
  | boolean (b : Bool)
  | timestamp (t : Instant)
  | list (items : List Value)
  | map (entries : List (String × Value))
  | unset

namespace Value

instance : Inhabited Value := ⟨.unset⟩

mutual

/-- Structural equality. A double that is not a number differs from itself. -/
def beq : Value → Value → Bool
  | .string a, .string b => a == b
  | .integer a, .integer b => a == b
  | .float a, .float b => a == b
  | .boolean a, .boolean b => a == b
  | .timestamp a, .timestamp b => a == b
  | .list as, .list bs => beqItems as bs
  | .map as, .map bs => beqEntries as bs
  | .unset, .unset => true
  | _, _ => false
termination_by structural v => v

/-- Equality of lists, item by item. -/
def beqItems : List Value → List Value → Bool
  | [], [] => true
  | a :: as, b :: bs => beq a b && beqItems as bs
  | _, _ => false
termination_by structural items => items

/-- Equality of maps, entry by entry. -/
def beqEntries : List (String × Value) → List (String × Value) → Bool
  | [], [] => true
  | (k, a) :: as, (j, b) :: bs => k == j && beq a b && beqEntries as bs
  | _, _ => false
termination_by structural entries => entries

end

instance : BEq Value := ⟨beq⟩

/-- Whether this is the deletion marker. -/
def isUnset : Value → Bool
  | .unset => true
  | _ => false

/-- The text of a string. -/
def asString? : Value → Option String
  | .string s => some s
  | _ => none

/-- The number of an integer. -/
def asInteger? : Value → Option Int64
  | .integer n => some n
  | _ => none

/-- The double nearest to an integer. -/
def doubleOf (n : Int64) : Float := Float.ofInt n.toInt

/-- A number as a double. -/
def asFloat? : Value → Option Float
  | .float x => some x
  | .integer n => some (doubleOf n)
  | _ => none

/-- The truth value of a boolean. -/
def asBoolean? : Value → Option Bool
  | .boolean b => some b
  | _ => none

/-- The instant of a timestamp, or of a string that is written as one. -/
def asInstant? : Value → Option Instant
  | .timestamp t => some t
  | .string s => Instant.parse? s
  | _ => none

/-- An optional value; nothing is the deletion marker. -/
def ofOption : Option Value → Value
  | some v => v
  | none => .unset

end Value

end PropertyGraph
