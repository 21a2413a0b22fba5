import PropertyGraph.Graph.Basic

/-!
# Extraction of the reachable part

From a root, vertices are reached over edges that satisfy a query, through vertices that
satisfy a query, in at most a number of steps. The extract has the vertices reached and all
edges between them. The vertices are taken layer by layer here, and one by one by
`Graph.Traverses`.

## Main definitions

- `ReachQuery` — root, depth, direction and the two queries
- `spread` — the vertices reached, layer after layer
- `Graph.reached`, `Graph.extractReachable` — the vertices reached from the root, and the extract
-/

namespace PropertyGraph

/-- What to extract. -/
structure ReachQuery where
  vertexQuery : Option Query
  edgeQuery : Option Query
  /-- The start; the root of the graph, if none is given. -/
  root : Option String
  /-- The greatest number of steps. -/
  depth : Option Nat
  direction : Direction

/-- The vertices of `rest` that one step from a layer leads to. -/
def layerAfter (next : String → List String) (layer rest : List String) : List String :=
  rest.filter ((layer.flatMap next).contains ·)

/-- The vertices of `rest` that no step from a layer leads to. -/
def restAfter (next : String → List String) (layer rest : List String) : List String :=
  rest.filter (!(layer.flatMap next).contains ·)

theorem length_restAfter_lt {next : String → List String} {layer rest : List String}
    (h : layerAfter next layer rest ≠ []) : (restAfter next layer rest).length < rest.length := by
  have hpos := List.length_pos_iff.2 h
  have hsplit := List.length_eq_countP_add_countP (fun v => (layer.flatMap next).contains v) (l := rest)
  simp only [layerAfter, restAfter, List.countP_eq_length_filter, Bool.not_eq_true,
    Bool.decide_eq_false] at *
  omega

/-- The reached vertices after further layers: those of `rest` that one step leads to from the
latest layer form the next one, until there are none or the depth is used up. -/
def spread (next : String → List String) (depth : Option Nat) (reached layer rest : List String) :
    List String :=
  if depth = some 0 then reached
  else if _ : layerAfter next layer rest = [] then reached
  else
    spread next (depth.map (· - 1)) (reached ++ layerAfter next layer rest)
      (layerAfter next layer rest) (restAfter next layer rest)
termination_by rest.length
decreasing_by exact length_restAfter_lt ‹_›

namespace Graph

/-- The vertices that one step leads to. -/
def stepsFrom (g : Graph) (q : ReachQuery) (id : String) : List String :=
  ((g.store.incident id q.direction).filter fun e => satisfies q.edgeQuery e.properties).map (·.key.other id)

/-- The identities of all vertices that may be visited. -/
def visitable (g : Graph) (q : ReachQuery) : List String :=
  g.store.vertexIds.filter fun id => (g.store.vertex? id).any fun v => satisfies q.vertexQuery v.properties

/-- The vertices reached from the root. Nothing is reached from a root that is not stored or
may not be visited. -/
def reached (g : Graph) (q : ReachQuery) : List String :=
  match q.root <|> g.root with
  | none => []
  | some root =>
    if (g.visitable q).contains root then
      spread (g.stepsFrom q) q.depth [root] [root] ((g.visitable q).filter (· ≠ root))
    else []

/-- The vertices reached from the root with all edges between them, and the graph with the
traversal counted. -/
def extractReachable (g : Graph) (q : ReachQuery) : Graph × Graph :=
  let ids := g.reached q
  (g.restrict ids.contains fun _ => true, g.count fun m => { m with traversals := m.traversals + 1 })

end Graph

end PropertyGraph
