import PropertyGraph.Error
import PropertyGraph.Vocabulary

/-!
# Vertices and edges

A vertex is an identity with properties; an edge is an edge identity with properties, among
them its label as `relationship_type`. Identities have no empty parts.

## Main definitions

- `Vertex`, `Edge` — the elements of a graph
- `Vertex.new?`, `Edge.new?` — build an element from checked parts
- `Edge.syncLabel` — restore the label among the properties
-/

namespace PropertyGraph

/-- A property that is set to true. -/
def Properties.isTrue (p : Properties) (k : String) : Bool :=
  ((p.get? k).bind Value.asBoolean?).getD false

/-- A vertex of a graph. -/
structure Vertex where
  id : String
  properties : Properties
  named : id ≠ ""

namespace Vertex

/-- A vertex with a non-empty identity. -/
def new? (id : String) (properties : Properties) : Except GraphError Vertex :=
  if h : id ≠ "" then .ok ⟨id, properties, h⟩ else .error (.invalidArgument .emptyVertexId)

/-- Replace the properties. -/
def withProperties (v : Vertex) (p : Properties) : Vertex := ⟨v.id, p, v.named⟩

/-- Store a property, or a deletion marker. -/
def set (v : Vertex) (k : String) (x : Value) : Vertex := v.withProperties (v.properties.set k x)

/-- The vertex is marked as deleted. -/
def isDeleted (v : Vertex) : Bool := v.properties.isTrue VertexKey.isDeleted

/-- The vertex only stands in for one not seen yet. -/
def isPlaceholder (v : Vertex) : Bool := v.properties.isTrue VertexKey.isPlaceholder

/-- Same identity and equal properties. -/
def beq (v w : Vertex) : Bool := v.id == w.id && v.properties == w.properties

instance : BEq Vertex := ⟨beq⟩

/-- The text shown to people. -/
def displayText (v : Vertex) : String :=
  "Vertex(" ++ v.id ++ ", " ++ toString v.properties.size ++ " properties)"

end Vertex

/-- An edge of a graph. -/
structure Edge where
  key : EdgeKey
  properties : Properties
  named : key.Named

namespace Edge

/-- Replace the properties. -/
def withProperties (e : Edge) (p : Properties) : Edge := ⟨e.key, p, e.named⟩

/-- Store a property, or a deletion marker. -/
def set (e : Edge) (k : String) (x : Value) : Edge := e.withProperties (e.properties.set k x)

/-- Restore the label among the properties. -/
def syncLabel (e : Edge) : Edge := e.set RelationKey.relationshipType (.string e.key.label)

/-- An edge whose identity has no empty part, with its label among the properties. -/
def new? (key : EdgeKey) (properties : Properties) : Except GraphError Edge :=
  if hs : key.source ≠ "" then
    if ht : key.target ≠ "" then
      if hl : key.label ≠ "" then .ok (syncLabel ⟨key, properties, hs, ht, hl⟩)
      else .error (.invalidArgument .emptyLabel)
    else .error (.invalidArgument .emptyTarget)
  else .error (.invalidArgument .emptySource)

/-- The source as a vertex without properties. -/
def sourceVertex (e : Edge) : Vertex := ⟨e.key.source, .empty, e.named.1⟩

/-- The target as a vertex without properties. -/
def targetVertex (e : Edge) : Vertex := ⟨e.key.target, .empty, e.named.2.1⟩

/-- The edge is marked as deleted. -/
def isDeleted (e : Edge) : Bool := e.properties.isTrue RelationKey.isDeleted

/-- Same identity and equal properties. -/
def beq (e f : Edge) : Bool := e.key == f.key && e.properties == f.properties

instance : BEq Edge := ⟨beq⟩

/-- The text shown to people. -/
def displayText (e : Edge) : String := "Edge(" ++ e.key.text ++ ")"

end Edge

end PropertyGraph
