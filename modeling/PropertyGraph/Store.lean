import PropertyGraph.Element

/-!
# The element store

Vertices by identity, edges by identity, and for every vertex the keys of the edges that leave
it and of those that enter it. All listings are in key order.

## Main definitions

- `Store` — the four maps
- `Store.insertVertex`, `Store.insertEdge` — insert or replace an element
- `Store.removeVertex`, `Store.removeEdge` — remove an element with what hangs on it
- `Store.incident` — the edges at a vertex
- `Store.checkedNeighbors` — the edges at a vertex with the vertices they lead to
-/

namespace PropertyGraph

/-- For every vertex the keys of some edges at it. -/
abbrev EdgeIndex := SortedMap String (SortedSet EdgeKey)

namespace EdgeIndex

/-- The keys listed at a vertex. -/
def keysAt (index : EdgeIndex) (id : String) : List EdgeKey := ((index.get? id).map (·.keys)).getD []

/-- Give a vertex a list, if it has none yet. -/
def ensure (index : EdgeIndex) (id : String) : EdgeIndex :=
  if index.contains id then index else index.insert id .empty

/-- List a key at a vertex. -/
def link (index : EdgeIndex) (id : String) (key : EdgeKey) : EdgeIndex :=
  index.insert id (((index.get? id).getD .empty).insert key ())

/-- Strike a key from the list of a vertex. -/
def unlink (index : EdgeIndex) (id : String) (key : EdgeKey) : EdgeIndex :=
  match index.get? id with
  | some keys => index.insert id (keys.erase key)
  | none => index

end EdgeIndex

/-- Vertices and edges with the edges at every vertex. -/
structure Store where
  vertices : SortedMap String Vertex
  edges : SortedMap EdgeKey Edge
  outgoing : EdgeIndex
  incoming : EdgeIndex

namespace Store

/-- The store without elements. -/
def empty : Store := ⟨.empty, .empty, .empty, .empty⟩

instance : EmptyCollection Store := ⟨empty⟩

instance : Inhabited Store := ⟨empty⟩

/-- The vertex stored under an identity. -/
def vertex? (s : Store) (id : String) : Option Vertex := s.vertices.get? id

/-- Whether a vertex is stored under an identity. -/
def hasVertex (s : Store) (id : String) : Bool := s.vertices.contains id

/-- The edge stored under an identity. -/
def edge? (s : Store) (key : EdgeKey) : Option Edge := s.edges.get? key

/-- The vertices, in the order of their identities. -/
def vertexList (s : Store) : List Vertex := s.vertices.values

/-- The edges, in the order of their identities. -/
def edgeList (s : Store) : List Edge := s.edges.values

/-- The identities under which vertices are stored, in order. -/
def vertexIds (s : Store) : List String := s.vertices.keys

/-! ## Insertion -/

/-- Insert or replace a vertex. -/
def insertVertex (s : Store) (v : Vertex) : Store :=
  { s with
    vertices := s.vertices.insert v.id v
    outgoing := EdgeIndex.ensure s.outgoing v.id
    incoming := EdgeIndex.ensure s.incoming v.id }

/-- Insert a vertex unless its identity is stored. -/
def ensureVertex (s : Store) (v : Vertex) : Store := if s.hasVertex v.id then s else s.insertVertex v

/-- The endpoints of an edge that are not stored, source before target. -/
def missingEndpoints (s : Store) (e : Edge) : List String :=
  (if e.key.isLoop then [e.key.source] else [e.key.source, e.key.target]).filter (!s.hasVertex ·)

/-- Insert or replace an edge. Endpoints that are not stored are created without properties. -/
def insertEdge (s : Store) (e : Edge) : Store :=
  let s := (s.ensureVertex e.sourceVertex).ensureVertex e.targetVertex
  { s with
    edges := s.edges.insert e.key e
    outgoing := EdgeIndex.link s.outgoing e.key.source e.key
    incoming := EdgeIndex.link s.incoming e.key.target e.key }

/-- Replace the vertex stored under an identity, whatever its own identity; the rest is left as
it is. -/
def overwriteVertex (s : Store) (id : String) (v : Vertex) : Store :=
  if s.hasVertex id then { s with vertices := s.vertices.insert id v } else s

/-- Replace the edge stored under an identity, whatever its own identity; the rest is left as it
is. -/
def overwriteEdge (s : Store) (key : EdgeKey) (e : Edge) : Store :=
  if s.edges.contains key then { s with edges := s.edges.insert key e } else s

/-- The store of some vertices and edges. -/
def ofElements (vertices : List Vertex) (edges : List Edge) : Store :=
  edges.foldl insertEdge (vertices.foldl insertVertex empty)

/-! ## Removal -/

/-- Remove an edge. -/
def removeEdge (s : Store) (key : EdgeKey) : Store :=
  if s.edges.contains key then
    { s with
      edges := s.edges.erase key
      outgoing := EdgeIndex.unlink s.outgoing key.source key
      incoming := EdgeIndex.unlink s.incoming key.target key }
  else s

/-- The keys of all edges at a vertex, each once, in order. -/
def keysAround (s : Store) (id : String) : List EdgeKey :=
  (SortedSet.ofList (EdgeIndex.keysAt s.outgoing id ++ EdgeIndex.keysAt s.incoming id)).keys

/-- The edges that go with a vertex when it is removed. -/
def edgesAround (s : Store) (id : String) : List Edge := (s.keysAround id).filterMap s.edge?

/-- Remove a vertex and every edge at it. -/
def removeVertex (s : Store) (id : String) : Store :=
  if s.hasVertex id then
    (s.keysAround id).foldl removeEdge
      { s with
        vertices := s.vertices.erase id
        outgoing := s.outgoing.erase id
        incoming := s.incoming.erase id }
  else s

/-! ## Edges at a vertex -/

/-- The keys of the edges at a vertex on the sides of a direction: those that leave it, then
those that enter it. On both sides a loop is listed once. -/
def incidentKeys (s : Store) (id : String) (d : Direction) : List EdgeKey :=
  (if d.includesOut then EdgeIndex.keysAt s.outgoing id else [])
    ++ (if d.includesIn then
      (EdgeIndex.keysAt s.incoming id).filter fun k => d ≠ .both || !k.isLoop
    else [])

/-- The edges at a vertex on the sides of a direction. -/
def incident (s : Store) (id : String) (d : Direction) : List Edge :=
  (s.incidentKeys id d).filterMap s.edge?

/-- The edges from one vertex to another, in the order of their labels. -/
def between (s : Store) (source target : String) : List Edge :=
  ((EdgeIndex.keysAt s.outgoing source).filter (·.target = target)).filterMap s.edge?

/-- An edge with the vertex that it leads to from `id`. -/
def checkedNeighbor (s : Store) (id : String) (e : Edge) : Except GraphError (Edge × Vertex) :=
  match s.vertex? (e.key.other id) with
  | some v => .ok (e, v)
  | none => .error (.danglingEdge e.key (e.key.other id))

/-- The edges at a vertex with the vertices that they lead to. An edge that leads to a vertex
that is not stored is an error. -/
def checkedNeighbors (s : Store) (id : String) (d : Direction) :
    Except GraphError (List (Edge × Vertex)) :=
  (s.incident id d).mapM (s.checkedNeighbor id)

end Store

end PropertyGraph
