import PropertyGraph.Graph.Basic

/-!
# Removals and marks in place

A graph is changed where it is, step by step, and an error ends the change where it stands: what
has been done by then is not taken back. A removal takes its element out of the store before it is
known whether there is one, and a mark looks for its element first.

## Main definitions

- `Store.takeVertex`, `Store.takeEdge` — take an element out of a store, if it is there
- `Progress`, `InPlace` — a change under way, and its steps
- `InPlace.removeVertex`, `InPlace.removeEdge` — remove an element
- `InPlace.markVertexDeleted`, `InPlace.markEdgeDeleted` — mark an element as deleted
-/

namespace PropertyGraph

namespace Store

/-- Take an edge out of a store: the edge, if there is one, and what is left. -/
def takeEdge (s : Store) (key : EdgeKey) : Option Edge × Store :=
  let left := { s with edges := s.edges.erase key }
  match s.edge? key with
  | none => (none, left)
  | some e =>
    (some e, { left with
      outgoing := EdgeIndex.unlink left.outgoing key.source key
      incoming := EdgeIndex.unlink left.incoming key.target key })

/-- Take some edges out of a store, one after the other: those that were there, and what is left. -/
def takeEdges (s : Store) : List EdgeKey → List Edge × Store
  | [] => ([], s)
  | key :: keys =>
    let (e, s) := s.takeEdge key
    let (rest, s) := s.takeEdges keys
    (e.toList ++ rest, s)

/-- Take a vertex out of a store, and then the edges in its rows: the vertex, if there is one, with
these edges, and what is left. -/
def takeVertex (s : Store) (id : String) : Option (Vertex × List Edge) × Store :=
  let left := { s with vertices := s.vertices.erase id }
  match s.vertex? id with
  | none => (none, left)
  | some v =>
    let (edges, left) := takeEdges
      { left with outgoing := left.outgoing.erase id, incoming := left.incoming.erase id }
      (s.keysAround id)
    (some (v, edges), left)

end Store

/-- How far a change has come: the graph as it is, and the calls of subscribers so far. -/
structure Progress where
  graph : Graph
  calls : List Notice

/-- A change in place. After an error, what has been done by then stays. -/
abbrev InPlace := EStateM GraphError Progress

namespace InPlace

/-- The graph as it is. -/
def graph : InPlace Graph := return (← get).graph

/-- Change the graph, and call subscribers. -/
def change (f : Graph → Graph × List Notice) : InPlace Unit :=
  modify fun p => ⟨(f p.graph).1, p.calls ++ (f p.graph).2⟩

/-- Take something out of the store. -/
def take {α : Type} (f : Store → α × Store) : InPlace α :=
  modifyGet fun p =>
    ((f p.graph.store).1, { p with graph := { p.graph with store := (f p.graph.store).2 } })

/-- Remove a vertex and every edge at it. -/
def removeVertex (id : String) : InPlace Vertex := do
  match ← take (·.takeVertex id) with
  | none => throw (.vertexNotFound id)
  | some (v, edges) =>
    change fun g => (g.countRemovals (1 + edges.length), [])
    return v

/-- Remove an edge. -/
def removeEdge (key : EdgeKey) : InPlace Edge := do
  match ← take (·.takeEdge key) with
  | none => throw (.edgeNotFound key)
  | some e =>
    change fun g => (g.countRemovals 1, [])
    return e

/-- Mark a stored vertex as deleted, by an update. -/
def markVertexDeleted (id : String) (t : Instant) : InPlace Unit := do
  unless (← graph).store.hasVertex id do throw (.vertexNotFound id)
  let mark ← ofExcept (Vertex.new? id .empty)
  let mark := mark.set VertexKey.isDeleted (.boolean true)
  change (·.updateVertex (mark.set VertexKey.updateTimestamp (.timestamp t)) true)

/-- Mark a stored edge as deleted, by an update. -/
def markEdgeDeleted (key : EdgeKey) (t : Instant) : InPlace Unit := do
  unless (← graph).store.edges.contains key do throw (.edgeNotFound key)
  let mark ← ofExcept (Edge.new? key .empty)
  let mark := mark.set RelationKey.isDeleted (.boolean true)
  change (·.updateEdge (mark.set RelationKey.updateTimestamp (.timestamp t)) true)

/-- Remove a placeholder that may be removed; whether it was. -/
def deletePlaceholder (id : String) : InPlace Bool := do
  if (← graph).isRemovablePlaceholder id then
    let _ ← removeVertex id
    return true
  return false

end InPlace

end PropertyGraph
