import PropertyGraph.AttributeFilter
import PropertyGraph.Query.Compile
import PropertyGraph.Store
import PropertyGraph.Subscription

/-!
# Graphs

A named directed multigraph with properties. Updates merge: an element that is stored takes
over the properties of the update, and a new one is stored without deletion markers. Every
update is made known to the subscribers, and counted.

## Main definitions

- `Graph`, `Metrics` — a graph, and what it counts
- `Notice` — one call of a subscriber
- `Graph.updateVertex`, `Graph.updateEdge` — merge an element into the graph
- `Graph.removeVertex`, `Graph.removeEdge` — remove an element
- `Graph.edgesAt`, `Graph.neighbors` — the surroundings of a vertex
-/

namespace PropertyGraph

/-- What a graph counts. -/
structure Metrics where
  vertexUpdates : Nat
  edgeUpdates : Nat
  removals : Nat
  notifications : Nat
  snapshotLookups : Nat
  traversals : Nat
  matchRuns : Nat
deriving Repr, DecidableEq

/-- Nothing counted yet. -/
def Metrics.zero : Metrics := ⟨0, 0, 0, 0, 0, 0, 0⟩

/-- A named directed multigraph. -/
structure Graph where
  name : String
  root : Option String
  store : Store
  subscribers : Subscribers
  metrics : Metrics

/-- One call of a subscriber: what changed, and the graph that the subscriber saw. -/
structure Notice where
  subscriber : String
  change : Change
  seen : Graph

/-- Call all subscribers. -/
def Subscribers.notify (s : Subscribers) (c : Change) (g : Graph) : List Notice :=
  s.callOrder.map fun name => ⟨name, c, g⟩

/-- Whether a bag satisfies an optional filter. -/
def admits (f : Option AttributeFilter) (bag : Properties) : Bool := f.all (·.accepts bag)

/-- Whether a bag satisfies an optional query. -/
def satisfies (q : Option Query) (bag : Properties) : Bool := q.all (·.accepts bag)

namespace Graph

/-- A graph without elements. -/
def new (name : String) (root : Option String) : Graph := ⟨name, root, .empty, .none, .zero⟩

/-- The graph that is given no name. -/
def default : Graph := new defaultGraphName none

instance : Inhabited Graph := ⟨default⟩

/-- Designate a root. -/
def setRoot (g : Graph) (id : String) : Graph := { g with root := some id }

/-- Subscribe to changes. -/
def subscribe (g : Graph) (name : String) (finalizing : Bool) : Graph :=
  { g with subscribers := g.subscribers.push name finalizing }

/-- Somebody is subscribed. -/
def hasSubscribers (g : Graph) : Bool := !g.subscribers.isEmpty

/-- Change what is counted. -/
def count (g : Graph) (f : Metrics → Metrics) : Graph := { g with metrics := f g.metrics }

/-! ## Updates -/

/-- Count the look at an element before an update, which is taken for subscribers only. -/
def countLookup (g : Graph) : Graph :=
  if g.hasSubscribers then g.count fun m => { m with snapshotLookups := m.snapshotLookups + 1 } else g

/-- Call the subscribers, and count the calls. -/
def announce (g : Graph) (c : Change) : Graph × List Notice :=
  let notices := g.subscribers.notify c g
  (g.count fun m => { m with notifications := m.notifications + notices.length }, notices)

/-- The stored vertex after an update. -/
def mergedVertex (stored : Option Vertex) (v : Vertex) (overwrite : Bool) : Vertex :=
  match stored with
  | some old => old.withProperties (old.properties.merge v.properties overwrite)
  | none => v.withProperties v.properties.normalize

/-- Store a vertex update. -/
def storeVertex (s : Store) (v : Vertex) (overwrite : Bool) : Store :=
  let merged := mergedVertex (s.vertex? v.id) v overwrite
  if s.hasVertex v.id then s.overwriteVertex v.id merged else s.insertVertex merged

/-- Merge a vertex into the graph. Without `overwrite`, values that are stored stay. -/
def updateVertex (g : Graph) (v : Vertex) (overwrite : Bool) : Graph × List Notice :=
  let before := if g.hasSubscribers then g.store.vertex? v.id else none
  let g := g.countLookup
  let g := { g with store := storeVertex g.store v overwrite }
  let g := g.count fun m => { m with vertexUpdates := m.vertexUpdates + 1 }
  match g.store.vertex? v.id with
  | some after => g.announce (.vertex before after)
  | none => (g, [])

/-- The stored edge after an update; its label is among the properties again. -/
def mergedEdge (stored : Option Edge) (e : Edge) (overwrite : Bool) : Edge :=
  match stored with
  | some old => (old.withProperties (old.properties.merge e.properties overwrite)).syncLabel
  | none => (e.withProperties e.properties.normalize).syncLabel

/-- Store an edge update. -/
def storeEdge (s : Store) (e : Edge) (overwrite : Bool) : Store :=
  let merged := mergedEdge (s.edge? e.key) e overwrite
  if s.edges.contains e.key then s.overwriteEdge e.key merged else s.insertEdge merged

/-- Merge an edge into the graph. Endpoints that are not stored are created without a call of
the subscribers. -/
def updateEdge (g : Graph) (e : Edge) (overwrite : Bool) : Graph × List Notice :=
  let before := if g.hasSubscribers then g.store.edge? e.key else none
  let g := g.countLookup
  let g := { g with store := storeEdge g.store e overwrite }
  let g := g.count fun m => { m with edgeUpdates := m.edgeUpdates + 1 }
  match g.store.edge? e.key with
  | some after => g.announce (.edge before after)
  | none => (g, [])

/-- Merge a list of vertices, overwriting. -/
def updateVertices (g : Graph) : List Vertex → Graph × List Notice
  | [] => (g, [])
  | v :: rest =>
    let (g, first) := g.updateVertex v true
    let (g, later) := g.updateVertices rest
    (g, first ++ later)

/-- Merge a list of edges, overwriting. -/
def updateEdges (g : Graph) : List Edge → Graph × List Notice
  | [] => (g, [])
  | e :: rest =>
    let (g, first) := g.updateEdge e true
    let (g, later) := g.updateEdges rest
    (g, first ++ later)

/-- Merge every element of another graph, and take over its root if there is none yet. -/
def union (g other : Graph) : Graph × List Notice :=
  let (g, first) := g.updateVertices other.store.vertexList
  let (g, later) := g.updateEdges other.store.edgeList
  ({ g with root := g.root <|> other.root }, first ++ later)

/-! ## Removal -/

/-- Count removed elements. -/
def countRemovals (g : Graph) (n : Nat) : Graph :=
  g.count fun m => { m with removals := m.removals + n }

/-- Remove a vertex and every edge at it. -/
def removeVertex (g : Graph) (id : String) : Except GraphError (Graph × Vertex) :=
  match g.store.vertex? id with
  | some v =>
    .ok ({ g with store := g.store.removeVertex id }.countRemovals
      (1 + (g.store.edgesAround id).length), v)
  | none => .error (.vertexNotFound id)

/-- Remove an edge. -/
def removeEdge (g : Graph) (key : EdgeKey) : Except GraphError (Graph × Edge) :=
  match g.store.edge? key with
  | some e => .ok ({ g with store := g.store.removeEdge key }.countRemovals 1, e)
  | none => .error (.edgeNotFound key)

/-! ## Marks and placeholders -/

/-- Mark a stored vertex as deleted, by an update. -/
def markVertexDeleted (g : Graph) (id : String) (t : Instant) : Except GraphError (Graph × List Notice) :=
  if g.store.hasVertex id then do
    let mark ← Vertex.new? id .empty
    let mark := (mark.set VertexKey.isDeleted (.boolean true)).set VertexKey.updateTimestamp (.timestamp t)
    return g.updateVertex mark true
  else .error (.vertexNotFound id)

/-- Mark a stored edge as deleted, by an update. -/
def markEdgeDeleted (g : Graph) (key : EdgeKey) (t : Instant) : Except GraphError (Graph × List Notice) :=
  if g.store.edges.contains key then do
    let mark ← Edge.new? key .empty
    let mark := (mark.set RelationKey.isDeleted (.boolean true)).set RelationKey.updateTimestamp (.timestamp t)
    return g.updateEdge mark true
  else .error (.edgeNotFound key)

/-- The vertex is a placeholder, and all edges at it are marked as deleted. -/
def isRemovablePlaceholder (g : Graph) (id : String) : Bool :=
  match g.store.vertex? id with
  | some v => v.isPlaceholder && (g.store.incident id .both).all (·.isDeleted)
  | none => false

/-- Remove a placeholder that may be removed; whether it was. -/
def deletePlaceholder (g : Graph) (id : String) : Except GraphError (Graph × Bool) :=
  if g.isRemovablePlaceholder id then do
    let (g, _) ← g.removeVertex id
    return (g, true)
  else .ok (g, false)

/-! ## Reading -/

/-- The vertices that satisfy a filter and a query, in order. -/
def selectVertices (g : Graph) (f : Option AttributeFilter) (q : Option Query) : List Vertex :=
  g.store.vertexList.filter fun v => admits f v.properties && satisfies q v.properties

/-- The edge from one vertex to another with a label; without a label, the first one. -/
def edgeBetween? (g : Graph) (source target : String) (label : Option String) : Option Edge :=
  match label with
  | some l => g.store.edge? ⟨source, target, l⟩
  | none => (g.store.between source target).head?

/-- The edges at a vertex that satisfy a filter. -/
def edgesAt (g : Graph) (id : String) (d : Direction) (f : Option AttributeFilter) : List Edge :=
  (g.store.incident id d).filter fun e => admits f e.properties

/-- The vertices at the other ends of edges that satisfy a filter, each once, if they satisfy a
filter themselves. -/
def neighbors (g : Graph) (id : String) (vertexFilter edgeFilter : Option AttributeFilter)
    (d : Direction) : List Vertex :=
  (((g.edgesAt id d edgeFilter).map (·.key.other id)).eraseDups.filterMap g.store.vertex?).filter
    fun v => admits vertexFilter v.properties

/-! ## Copies and extracts -/

/-- The same elements, name and root, without subscribers and with nothing counted. -/
def copy (g : Graph) : Graph := ⟨g.name, g.root, g.store, .none, .zero⟩

/-- The vertices to keep, and the edges between them that satisfy a condition. -/
def restrict (g : Graph) (keep : String → Bool) (edgeOk : Edge → Bool) : Graph :=
  let vertices := g.store.vertexList.filter fun v => keep v.id
  let edges := g.store.edgeList.filter fun e => keep e.key.source && keep e.key.target && edgeOk e
  ⟨g.name, g.root.filter fun r => g.store.hasVertex r && keep r, .ofElements vertices edges, .none, .zero⟩

/-- The named vertices with all edges between them. Unknown names are ignored. -/
def subgraph (g : Graph) (ids : List String) : Graph := g.restrict ids.contains fun _ => true

/-- The vertices that satisfy a filter and a query, with the edges between them that satisfy a
filter. -/
def matchingVertices (g : Graph) (f : Option AttributeFilter) (q : Option Query)
    (edgeFilter : Option AttributeFilter) : Graph :=
  let ids := (g.selectVertices f q).map (·.id)
  g.restrict ids.contains fun e => admits edgeFilter e.properties

end Graph

end PropertyGraph
