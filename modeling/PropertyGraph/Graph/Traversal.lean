import PropertyGraph.Graph.Reachable

/-!
# The traversal as a queue

The vertices that an extraction reaches can be found one by one. Visited vertices wait in a queue,
each with its number of steps from the root. A round takes the vertex at the front, and looks along
the edges at it, unless all steps are used up there: a vertex at the other end that is visited for
the first time goes to the back of the queue.

The vertices found are those of `Graph.reached`, which has them layer by layer.

## Main definitions

- `Traversal` — the vertices visited so far, and those that wait
- `Graph.look`, `Graph.expand` — one edge, and one round
- `Graph.Visits` — the loop, from any point on to its result
- `Graph.Traverses` — the whole traversal
-/

namespace PropertyGraph

/-- A traversal between two rounds. -/
structure Traversal where
  visited : SortedSet String
  /-- The visited vertices that wait for their round, with their distances. -/
  queue : List (String × Nat)

namespace Traversal

/-- Visit a vertex, and put it at the back of the queue. -/
def visit (t : Traversal) (id : String) (distance : Nat) : Traversal :=
  ⟨t.visited.insert id (), t.queue ++ [(id, distance)]⟩

/-- The traversal before the first round. -/
def start (root : String) : Traversal := visit ⟨.empty, []⟩ root 0

end Traversal

namespace Graph

/-- Look along an edge at a vertex: what is at its other end is visited, if it was not before, is
stored and may be visited. -/
def look (g : Graph) (q : ReachQuery) (id : String) (distance : Nat) (t : Traversal) (e : Edge) :
    Traversal :=
  if satisfies q.edgeQuery e.properties then
    if t.visited.contains (e.key.other id) then t
    else
      match g.store.vertex? (e.key.other id) with
      | some v => if satisfies q.vertexQuery v.properties then t.visit v.id (distance + 1) else t
      | none => t
  else t

/-- A round: look along all edges at a vertex, if one more step is allowed there. -/
def expand (g : Graph) (q : ReachQuery) (id : String) (distance : Nat) (t : Traversal) :
    Traversal :=
  if q.depth.any (· ≤ distance) then t
  else (g.store.incident id q.direction).foldl (g.look q id distance) t

/-- The loop ends when no vertex waits, with the vertices visited. -/
inductive Visits (g : Graph) (q : ReachQuery) : Traversal → SortedSet String → Prop
  | done {visited : SortedSet String} : Visits g q ⟨visited, []⟩ visited
  | round {visited result : SortedSet String} {id : String} {distance : Nat}
      {queue : List (String × Nat)} :
      Visits g q (g.expand q id distance ⟨visited, queue⟩) result →
      Visits g q ⟨visited, (id, distance) :: queue⟩ result

/-- The whole traversal ends. There is none without a root that is stored and may be visited. -/
def Traverses (g : Graph) (q : ReachQuery) (visited : SortedSet String) : Prop :=
  match q.root <|> g.root with
  | none => visited = .empty
  | some root =>
    match g.store.vertex? root with
    | none => visited = .empty
    | some v =>
      if satisfies q.vertexQuery v.properties then g.Visits q (.start v.id) visited
      else visited = .empty

end Graph

end PropertyGraph
