import PropertyGraph.Element

/-!
# Changes and subscribers

A change is an element before and after an update. Subscribers are called after every change,
the regular ones first and then the finalizing ones, each group in the order of subscription.

## Main definitions

- `Change` — one update of an element
- `Subscribers` — the two groups of subscribers, by name
-/

namespace PropertyGraph

/-- An element before and after an update; nothing before, if the update created it. -/
inductive Change where
  | vertex (before : Option Vertex) (after : Vertex)
  | edge (before : Option Edge) (after : Edge)

namespace Change

/-- The changed element is a vertex. -/
def isVertex : Change → Bool
  | .vertex _ _ => true
  | .edge _ _ => false

/-- The element did not exist before. -/
def isNew : Change → Bool
  | .vertex before _ => before.isNone
  | .edge before _ => before.isNone

/-- The vertex after the change. -/
def vertex? : Change → Option Vertex
  | .vertex _ after => some after
  | .edge _ _ => none

/-- The edge after the change. -/
def edge? : Change → Option Edge
  | .vertex _ _ => none
  | .edge _ after => some after

end Change

/-- The names of subscribers, in the order of subscription. -/
structure Subscribers where
  regular : List String
  finalizing : List String

namespace Subscribers

/-- Nobody. -/
def none : Subscribers := ⟨[], []⟩

/-- Add a subscriber. -/
def push (s : Subscribers) (name : String) (finalizing : Bool) : Subscribers :=
  if finalizing then { s with finalizing := s.finalizing ++ [name] }
  else { s with regular := s.regular ++ [name] }

/-- All subscribers, in the order in which they are called. -/
def callOrder (s : Subscribers) : List String := s.regular ++ s.finalizing

/-- The number of subscribers. -/
def size (s : Subscribers) : Nat := s.callOrder.length

/-- Nobody is subscribed. -/
def isEmpty (s : Subscribers) : Bool := s.callOrder.isEmpty

/-- The sizes of the two groups as text. -/
def summary (s : Subscribers) : String :=
  "Subscribers \x7b regular: " ++ toString s.regular.length ++ ", finalization: "
    ++ toString s.finalizing.length ++ " \x7d"

end Subscribers

end PropertyGraph
