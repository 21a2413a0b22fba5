import PropertyGraph.Graph.Basic
import PropertyGraph.Json.Reader
import PropertyGraph.NodeLink.Document

/-!
# Graphs as node-link documents

Export numbers the vertices in the order of their identities. Import adds the nodes and then the
links to an empty graph by updates, so that a later element is merged into an earlier one of the
same identity.

## Main definitions

- `NodeLink.Document.ofGraph`, `NodeLink.Document.toGraph` — export and import
- `Graph.toJsonText`, `Graph.ofJsonText` — the same by way of JSON text
-/

namespace PropertyGraph

namespace NodeLink

/-! ## Export -/

/-- A vertex as a node. -/
def Node.ofVertex (v : Vertex) (index : Nat) : Node :=
  ⟨UInt64.ofNat index, v.id, .ofMembers v.properties.toJson⟩

/-- An edge as a link between vertices of a list; none, if an endpoint is not listed. -/
def Link.ofEdge? (ids : List String) (e : Edge) : Option Link := do
  let source ← ids.idxOf? e.key.source
  let target ← ids.idxOf? e.key.target
  return ⟨UInt64.ofNat source, UInt64.ofNat target, e.key.label, .ofMembers e.properties.toJson⟩

/-- The document of a graph. -/
def Document.ofGraph (g : Graph) : Document where
  directed := true
  multigraph := true
  attributes := ⟨some g.name, g.root⟩
  nodes := g.store.vertexList.zipIdx.map fun e => .ofVertex e.1 e.2
  links := g.store.edgeList.filterMap (Link.ofEdge? (g.store.vertexList.map (·.id)))

/-! ## Import -/

/-- The identities of the nodes added so far. -/
abbrev Indices := SortedMap UInt64 String

/-- Add a node to a graph. -/
def addNode (state : Graph × Indices) (n : Node) : Except GraphError (Graph × Indices) :=
  let (g, indices) := state
  if indices.contains n.index then .error (.serialization (.duplicateIndex n.index))
  else do
    let v ← Vertex.new? n.id (.ofJson n.properties.members)
    return ((g.updateVertex v true).1, indices.insert n.index n.id)

/-- The identity of the node with an index. -/
def resolve (indices : Indices) (index : UInt64) : Except GraphError String :=
  match indices.get? index with
  | some id => .ok id
  | none => .error (.serialization (.unknownNode index))

/-- Add a link to a graph. -/
def addLink (indices : Indices) (g : Graph) (l : Link) : Except GraphError Graph := do
  let source ← resolve indices l.source
  let target ← resolve indices l.target
  let e ← Edge.new? ⟨source, target, l.label⟩ (.ofJson l.properties.members)
  return (g.updateEdge e true).1

/-- How many elements were imported. -/
structure ImportCounts where
  vertices : Nat
  edges : Nat
deriving Repr, DecidableEq

/-- The graph of a document, and the numbers of its nodes and links. -/
def Document.toGraph (d : Document) : Except GraphError (Graph × ImportCounts) := do
  let (g, indices) ← d.nodes.foldlM addNode
    (Graph.new (d.attributes.name.getD defaultGraphName) d.attributes.root, .empty)
  let g ← d.links.foldlM (addLink indices) g
  return (g, ⟨d.nodes.length, d.links.length⟩)

/-- The document written as JSON text, whatever else its records have. -/
def Document.ofText (text : String) : Except GraphError Document :=
  match (Json.readAs? Document.shape text).bind Document.ofJson? with
  | some d => .ok d
  | none => .error (.serialization .malformed)

end NodeLink

/-- The graph as JSON text, indented or compact. -/
def Graph.toJsonText (g : Graph) (indented : Bool) : String :=
  let j := (NodeLink.Document.ofGraph g).toJson
  if indented then j.indented else j.compact

/-- The graph written as JSON text. -/
def Graph.ofJsonText (text : String) : Except GraphError Graph := do
  return (← (← NodeLink.Document.ofText text).toGraph).1

end PropertyGraph
