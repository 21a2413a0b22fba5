import PropertyGraph.Json.Basic

/-!
# JSON values as they are written

A text can be well formed and have parts that stand for no value: a number beyond all doubles, a string
with half of a surrogate pair, arrays and objects nested too deep. They make a reading fail only where
it looks at them.

## Main definitions

- `Json.Written` — values as they are written
- `Json.Shape`, `Json.Written.restrict` — which members a reader looks at
- `Json.Written.value?` — the value that is written
-/

namespace PropertyGraph

namespace Json

/-- A value as it is written; numbers and strings may stand for nothing. -/
inductive Written where
  | null
  | bool (b : Bool)
  | number (n : Option JsonNumber)
  | string (s : Option String)
  | array (items : List Written)
  | object (members : List (Option String × Written))

/-- What a reader looks at. -/
inductive Shape where
  /-- All of a value. -/
  | whole
  /-- A list, with the same in every item. -/
  | list (item : Shape)
  /-- A record with named fields, in their order. -/
  | record (fields : List (List String × Shape))

/-- The shape of the field with a name. -/
def fieldShape? (fields : List (List String × Shape)) (name : String) : Option Shape :=
  (fields.find? (·.1.contains name)).map (·.2)

namespace Written

mutual

/-- A value without the members that a reader does not look at. -/
def restrict : Shape → Written → Written
  | .list item, .array items => .array (restrictItems item items)
  | .record fields, .array items => .array (restrictFields (fields.map (·.2)) items)
  | .record fields, .object members => .object (restrictMembers fields members)
  | _, w => w
termination_by structural _ w => w

/-- The items of a list. -/
def restrictItems (item : Shape) : List Written → List Written
  | [] => []
  | w :: items => restrict item w :: restrictItems item items
termination_by structural items => items

/-- The items of a record that is written as an array. -/
def restrictFields : List Shape → List Written → List Written
  | shape :: shapes, w :: items => restrict shape w :: restrictFields shapes items
  | _, items => items
termination_by structural _ items => items

/-- The members of a record. A key that stands for no text names no member to be left out. -/
def restrictMembers (fields : List (List String × Shape)) :
    List (Option String × Written) → List (Option String × Written)
  | [] => []
  | (key, w) :: members =>
    match key with
    | none => (key, w) :: restrictMembers fields members
    | some name =>
      match fieldShape? fields name with
      | some shape => (key, restrict shape w) :: restrictMembers fields members
      | none => restrictMembers fields members
termination_by structural members => members

end

mutual

/-- The value that is written, if all of it stands for something and it is not nested deeper than
given. -/
def value? (depth : Nat) : Written → Option Json
  | .null => some .null
  | .bool b => some (.bool b)
  | .number n => n.map .number
  | .string s => s.map .string
  | .array items =>
    match depth with
    | 0 => none
    | depth + 1 => (values? depth items).map .array
  | .object members =>
    match depth with
    | 0 => none
    | depth + 1 => (memberValues? depth members).map .object
termination_by structural w => w

/-- The values of a list. -/
def values? (depth : Nat) : List Written → Option (List Json)
  | [] => some []
  | w :: items => do return (← value? depth w) :: (← values? depth items)
termination_by structural items => items

/-- The members of an object. -/
def memberValues? (depth : Nat) : List (Option String × Written) → Option (List (String × Json))
  | [] => some []
  | (key, w) :: members => do
    return (← key, ← value? depth w) :: (← memberValues? depth members)
termination_by structural members => members

end

end Written

end Json

end PropertyGraph
