import PropertyGraph.Properties
import PropertyGraph.Value.Loose

/-!
# Predicates on property bags

## Main definitions

- `CompareOp` — the six comparison operators, with their symbols
- `Predicate` — comparisons joined by "and" and "or"
- `Predicate.holds` — evaluation on a bag
-/

namespace PropertyGraph

/-- A comparison operator. -/
inductive CompareOp where
  | lt | le | eq | ne | ge | gt
deriving Repr, DecidableEq

namespace CompareOp

/-- The symbol of an operator. -/
def symbol : CompareOp → String
  | .lt => "<"
  | .le => "<="
  | .eq => "=="
  | .ne => "!="
  | .ge => ">="
  | .gt => ">"

/-- The operator of a symbol. -/
def ofSymbol? (s : String) : Option CompareOp :=
  [lt, le, eq, ne, ge, gt].find? fun op => op.symbol == s

/-- Whether an order of actual value and literal satisfies the operator. -/
def admits : CompareOp → Ordering → Bool
  | .lt, o => o == .lt
  | .le, o => o != .gt
  | .eq, o => o == .eq
  | .ne, o => o != .eq
  | .ge, o => o != .lt
  | .gt, o => o == .gt

/-- Compare the value that a key reads as with a literal. A missing value differs from every
literal and has no order. -/
def holds (op : CompareOp) (actual : Option Value) (literal : Value) : Bool :=
  match actual, op with
  | none, op => op == .ne
  | some v, .eq => v.looseEq literal
  | some v, .ne => !v.looseEq literal
  | some v, op => (v.looseCompare literal).any op.admits

end CompareOp

/-- How predicates are joined. -/
inductive Connective where
  | and | or
deriving Repr, DecidableEq

/-- The word for a connective. -/
def Connective.word : Connective → String
  | .and => "and"
  | .or => "or"

/-- A predicate on property bags. -/
inductive Predicate where
  | all (parts : List Predicate)
  | any (parts : List Predicate)
  | compare (op : CompareOp) (key : String) (literal : Value)

namespace Predicate

mutual

/-- Whether a bag satisfies the predicate. -/
def holds (bag : Properties) : Predicate → Bool
  | .all parts => allHold bag parts
  | .any parts => anyHolds bag parts
  | .compare op key literal => op.holds (bag.get? key) literal
termination_by structural p => p

/-- Whether a bag satisfies every predicate of a list. -/
def allHold (bag : Properties) : List Predicate → Bool
  | [] => true
  | p :: parts => holds bag p && allHold bag parts
termination_by structural parts => parts

/-- Whether a bag satisfies some predicate of a list. -/
def anyHolds (bag : Properties) : List Predicate → Bool
  | [] => false
  | p :: parts => holds bag p || anyHolds bag parts
termination_by structural parts => parts

end

end Predicate

end PropertyGraph
