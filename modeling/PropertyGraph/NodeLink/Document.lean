import PropertyGraph.Json.Record
import PropertyGraph.Json.Written

/-!
# Node-link documents

A graph as a document: nodes with an index each, and links between indices. It is kept as a JSON
record; the records of its parts may as well be arrays of their fields.

## Main definitions

- `NodeLink.Document` and the records that it consists of
- `NodeLink.Document.shape` — what is looked at in a document
- `NodeLink.Document.toJson`, `NodeLink.Document.ofJson?` — to and from JSON
-/

namespace PropertyGraph

namespace NodeLink

/-- What is said of the graph as a whole. -/
structure Attributes where
  name : Option String
  root : Option String
deriving DecidableEq

/-- A vertex under an index. -/
structure Node where
  index : UInt64
  id : String
  properties : JsonObject

/-- An edge between two indices. -/
structure Link where
  source : UInt64
  target : UInt64
  label : String
  properties : JsonObject

/-- A graph as nodes and links. -/
structure Document where
  directed : Bool
  multigraph : Bool
  attributes : Attributes
  nodes : List Node
  links : List Link

/-- Nothing said. -/
def Attributes.none : Attributes := ⟨.none, .none⟩

/-! ## Equality, field by field -/

/-- All fields are equal. -/
def Node.beq (a b : Node) : Bool := a.index == b.index && a.id == b.id && a.properties == b.properties

instance : BEq Node := ⟨Node.beq⟩

/-- All fields are equal. -/
def Link.beq (a b : Link) : Bool :=
  a.source == b.source && a.target == b.target && a.label == b.label && a.properties == b.properties

instance : BEq Link := ⟨Link.beq⟩

/-- All fields are equal. -/
def Document.beq (a b : Document) : Bool :=
  a.directed == b.directed && a.multigraph == b.multigraph && a.attributes == b.attributes
    && a.nodes == b.nodes && a.links == b.links

instance : BEq Document := ⟨Document.beq⟩

/-! ## To JSON -/

/-- The attributes as JSON; what is not said is left out. -/
def Attributes.toJson (a : Attributes) : Json :=
  .object ((a.name.map fun s => ("name", Json.string s)).toList
    ++ (a.root.map fun s => ("root_id", Json.string s)).toList)

/-- A node as JSON. -/
def Node.toJson (n : Node) : Json :=
  .object [("index", .ofWord n.index), ("id", .string n.id), ("properties", n.properties.toJson)]

/-- A link as JSON. -/
def Link.toJson (l : Link) : Json :=
  .object [("source", .ofWord l.source), ("target", .ofWord l.target), ("key", .string l.label),
    ("properties", l.properties.toJson)]

/-- A document as JSON. -/
def Document.toJson (d : Document) : Json :=
  .object [("directed", .bool d.directed), ("multigraph", .bool d.multigraph),
    ("graph", d.attributes.toJson), ("nodes", .array (d.nodes.map Node.toJson)),
    ("links", .array (d.links.map Link.toJson))]

/-! ## Fields -/

/-- The names of the fields of the attributes. -/
def Attributes.fields : List (List String) := [["name"], ["root_id"]]

/-- The names of the fields of a node. -/
def Node.fields : List (List String) := [["index"], ["id"], ["properties"]]

/-- The names of the fields of a link. -/
def Link.fields : List (List String) := [["source"], ["target"], ["key"], ["properties"]]

/-- The names of the fields of a document; `edges` is another name of the links. -/
def Document.fields : List (List String) :=
  [["directed"], ["multigraph"], ["graph"], ["nodes"], ["links", "edges"]]

/-- A record whose fields are looked at as a whole. -/
def flatShape (fields : List (List String)) : Json.Shape := .record (fields.map fun names => (names, .whole))

/-- What is looked at in a document: the fields of its records. -/
def Document.shape : Json.Shape :=
  .record (Document.fields.zip [.whole, .whole, flatShape Attributes.fields, .list (flatShape Node.fields),
    .list (flatShape Link.fields)])

/-! ## From JSON -/

/-- The attributes of a record; both may be left out. -/
def Attributes.ofJson? (j : Json) : Option Attributes := do
  match ← Json.recordFields? Attributes.fields j with
  | [name, root] =>
    return {
      name := ← Json.withDefault? .none Json.optionalString? name
      root := ← Json.withDefault? .none Json.optionalString? root }
  | _ => failure

/-- The node of a record; its properties may be left out. -/
def Node.ofJson? (j : Json) : Option Node := do
  match ← Json.recordFields? Node.fields j with
  | [index, id, properties] =>
    return {
      index := ← Json.required? Json.word? index
      id := ← Json.required? Json.string? id
      properties := ← Json.withDefault? .empty Json.object? properties }
  | _ => failure

/-- The link of a record; its properties may be left out. -/
def Link.ofJson? (j : Json) : Option Link := do
  match ← Json.recordFields? Link.fields j with
  | [source, target, label, properties] =>
    return {
      source := ← Json.required? Json.word? source
      target := ← Json.required? Json.word? target
      label := ← Json.required? Json.string? label
      properties := ← Json.withDefault? .empty Json.object? properties }
  | _ => failure

/-- **The document of a record.** All but the nodes may be left out. -/
def Document.ofJson? (j : Json) : Option Document := do
  match ← Json.recordFields? Document.fields j with
  | [directed, multigraph, attributes, nodes, links] =>
    return {
      directed := ← Json.withDefault? true Json.bool? directed
      multigraph := ← Json.withDefault? true Json.bool? multigraph
      attributes := ← Json.withDefault? .none Attributes.ofJson? attributes
      nodes := ← Json.required? (Json.list? Node.ofJson?) nodes
      links := ← Json.withDefault? [] (Json.list? Link.ofJson?) links }
  | _ => failure

end NodeLink

end PropertyGraph
