import PropertyGraph.Value.Basic

/-!
# Loose comparison of values

Values of different kinds can stand for the same thing: an integer and a double, a timestamp
and its text. Loose equality and loose order identify these; all else is compared within one
kind, and values without a common order are incomparable.

## Main definitions

- `compareFloat` — the partial order of doubles
- `Value.looseEq` — equality across representations
- `Value.looseCompare` — order across representations, where there is one
-/

namespace PropertyGraph

/-- The order of two doubles; none if one of them is not a number. -/
def compareFloat (x y : Float) : Option Ordering :=
  if x < y then some .lt else if x == y then some .eq else if y < x then some .gt else none

namespace Value

mutual

/-- Equality across representations of numbers and of timestamps, also inside lists. -/
def looseEq : Value → Value → Bool
  | .integer a, .float b => doubleOf a == b
  | .float a, .integer b => doubleOf b == a
  | .timestamp a, .string b => Instant.parse? b == some a
  | .string a, .timestamp b => Instant.parse? a == some b
  | .list as, .list bs => looseEqItems as bs
  | a, b => a == b
termination_by structural v => v

/-- Loose equality of lists, item by item. -/
def looseEqItems : List Value → List Value → Bool
  | [], [] => true
  | a :: as, b :: bs => looseEq a b && looseEqItems as bs
  | _, _ => false
termination_by structural items => items

end

mutual

/-- The order across representations. Lists are compared by their first difference, and then by
length; a pair of incomparable items before it makes them incomparable. -/
def looseCompare : Value → Value → Option Ordering
  | .string a, .string b => some (compare a b)
  | .integer a, .integer b => some (compare a.toInt b.toInt)
  | .integer a, .float b => compareFloat (doubleOf a) b
  | .float a, .integer b => compareFloat a (doubleOf b)
  | .float a, .float b => compareFloat a b
  | .boolean a, .boolean b => some (compare a b)
  | .timestamp a, .timestamp b => some (compare a b)
  | .timestamp a, .string b => (Instant.parse? b).map (compare a ·)
  | .string a, .timestamp b => (Instant.parse? a).map (compare · b)
  | .list as, .list bs => looseCompareItems as bs
  | _, _ => none
termination_by structural v => v

/-- The order of lists. -/
def looseCompareItems : List Value → List Value → Option Ordering
  | [], [] => some .eq
  | [], _ :: _ => some .lt
  | _ :: _, [] => some .gt
  | a :: as, b :: bs =>
    match looseCompare a b with
    | some .eq => looseCompareItems as bs
    | other => other
termination_by structural items => items

end

end Value

end PropertyGraph
