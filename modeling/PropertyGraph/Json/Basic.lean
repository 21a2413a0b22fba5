import PropertyGraph.SortedMap
import PropertyGraph.Word

/-!
# JSON values

Numbers keep the distinction that their text makes: an integer that fits 64 signed bits, an
integer that fits 64 bits only without a sign, or a finite double. Members of an object are
a list; a canonical value has them in key order, each key once.

## Main definitions

- `JsonNumber`, `Json` — numbers and values
- `Json.canonical` — members in key order, the last of equal keys kept
- `Json.beq` — equality, with doubles compared as doubles
-/

namespace PropertyGraph

/-- A number of a JSON document. -/
inductive JsonNumber where
  | integer (n : Int64)
  | large (n : UInt64) (unsignedOnly : int64Bound ≤ n.toNat)
  | float (x : Float) (finite : x.isFinite = true)

/-- A JSON value. -/
inductive Json where
  | null
  | bool (b : Bool)
  | number (n : JsonNumber)
  | string (s : String)
  | array (items : List Json)
  | object (members : List (String × Json))

instance : Inhabited Json := ⟨.null⟩

/-- Numbers are equal within one kind; doubles as doubles are. -/
def JsonNumber.beq : JsonNumber → JsonNumber → Bool
  | .integer m, .integer n => m == n
  | .large m _, .large n _ => m == n
  | .float x _, .float y _ => x == y
  | _, _ => false

namespace Json

mutual

/-- Equality of values, member by member. -/
def beq : Json → Json → Bool
  | .null, .null => true
  | .bool a, .bool b => a == b
  | .number a, .number b => a.beq b
  | .string a, .string b => a == b
  | .array as, .array bs => beqItems as bs
  | .object as, .object bs => beqMembers as bs
  | _, _ => false
termination_by structural j => j

/-- Equality of lists of values. -/
def beqItems : List Json → List Json → Bool
  | [], [] => true
  | a :: as, b :: bs => beq a b && beqItems as bs
  | _, _ => false
termination_by structural items => items

/-- Equality of lists of members. -/
def beqMembers : List (String × Json) → List (String × Json) → Bool
  | [], [] => true
  | (k, a) :: as, (j, b) :: bs => k == j && beq a b && beqMembers as bs
  | _, _ => false
termination_by structural members => members

end

instance : BEq Json := ⟨beq⟩

mutual

/-- The value with the members of every object in key order; of equal keys the last counts. -/
def canonical : Json → Json
  | .array items => .array (canonicalItems items)
  | .object members => .object (SortedMap.ofList (canonicalMembers members)).entries
  | j => j
termination_by structural j => j

/-- Canonical items, in their order. -/
def canonicalItems : List Json → List Json
  | [] => []
  | j :: items => canonical j :: canonicalItems items
termination_by structural items => items

/-- Members with canonical values, in their order. -/
def canonicalMembers : List (String × Json) → List (String × Json)
  | [] => []
  | (k, j) :: members => (k, canonical j) :: canonicalMembers members
termination_by structural members => members

end

/-- The first member of a name. -/
def member? (name : String) (members : List (String × Json)) : Option Json :=
  SortedMap.lookupIn name members

end Json

end PropertyGraph
