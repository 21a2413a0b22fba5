import PropertyGraph.Graph.Basic

/-!
# Embeddings of a pattern

A pattern is a small graph whose property bags are read as filters. An embedding sends its
vertices to live vertices that pass their filters, such that every pattern edge has a live
counterpart with the same label that passes its filter. Anchors fix parts of the embedding
beforehand.

## Main definitions

- `Anchor`, `MatchOptions` — what is known of the embedding, and how to search
- `Mapping` — a partial embedding: pattern vertices to live vertices
- `Matcher` — pattern, live graph and the filters of the pattern
- `Matcher.pin?` — extend a mapping by one vertex
- `Matcher.pinAnchors` — the mapping that the anchors fix
-/

namespace PropertyGraph

/-- A known part of the embedding. -/
inductive Anchor where
  | vertex (pattern live : String)
  | edge (pattern live : EdgeKey)
deriving Repr, DecidableEq

/-- How to search. -/
structure MatchOptions where
  /-- The greatest number of mappings looked at. -/
  maxSteps : Option UInt64
  /-- No two pattern vertices share a live vertex. -/
  injective : Bool
  /-- Where no pinned vertex leads on, any live vertex is tried. -/
  seedUnanchored : Bool
deriving Repr, DecidableEq

/-- Any number of steps, shared live vertices, and no vertex out of the anchors' reach. -/
def MatchOptions.standard : MatchOptions := ⟨none, false, false⟩

/-- Pattern vertices pinned to live vertices. -/
abbrev Mapping := SortedMap String String

/-- A pattern with its filters, and the elements among which it is searched. -/
structure Matcher where
  pattern : Store
  live : Store
  options : MatchOptions
  vertexFilters : SortedMap String AttributeFilter
  edgeFilters : SortedMap EdgeKey AttributeFilter

namespace Matcher

/-- The filter of a pattern vertex, under its identity. -/
def vertexFilter (v : Vertex) : Except GraphError (String × AttributeFilter) :=
  (AttributeFilter.ofProperties v.properties).map (v.id, ·)

/-- The filter of a pattern edge, under its identity. -/
def edgeFilter (e : Edge) : Except GraphError (EdgeKey × AttributeFilter) :=
  (AttributeFilter.ofProperties e.properties).map (e.key, ·)

/-- Prepare a search. A property of the pattern may be no filter. -/
def new? (pattern live : Store) (options : MatchOptions) : Except GraphError Matcher := do
  let vertexFilters ← pattern.vertexList.mapM vertexFilter
  let edgeFilters ← pattern.edgeList.mapM edgeFilter
  return ⟨pattern, live, options, .ofList vertexFilters, .ofList edgeFilters⟩

/-- Whether a live vertex passes the filter of a pattern vertex. -/
def vertexFits (m : Matcher) (p : String) (v : Vertex) : Bool :=
  admits (m.vertexFilters.get? p) v.properties

/-- Whether a live edge passes the filter of a pattern edge. -/
def edgeFits (m : Matcher) (p : EdgeKey) (e : Edge) : Bool :=
  admits (m.edgeFilters.get? p) e.properties

/-- A pattern edge has a live counterpart, unless one of its ends is not pinned. -/
def edgeHolds (m : Matcher) (c : Mapping) (e : Edge) : Bool :=
  match c.get? e.key.source, c.get? e.key.target with
  | some s, some t => (m.live.edge? ⟨s, t, e.key.label⟩).any (m.edgeFits e.key)
  | _, _ => true

/-- Every pattern edge between a vertex and a pinned one has a live counterpart. -/
def edgesHold (m : Matcher) (c : Mapping) (p : String) : Bool :=
  (m.pattern.incident p .both).all (m.edgeHolds c)

/-- Pin a pattern vertex, if that breaks no rule on several vertices. -/
def pin? (m : Matcher) (c : Mapping) (p live : String) : Option Mapping :=
  if m.options.injective && c.values.contains live then none
  else if m.edgesHold (c.insert p live) p then some (c.insert p live)
  else none

/-! ## Anchors -/

/-- Pin what a vertex anchor fixes. No mapping, if the anchor is rejected. -/
def pinVertex (m : Matcher) (c : Mapping) (p live : String) : Except GraphError (Option Mapping) :=
  if m.vertexFilters.contains p then
    match c.get? p with
    | some earlier => .ok (if earlier = live then some c else none)
    | none => .ok (((m.live.vertex? live).filter (m.vertexFits p)).bind fun _ => m.pin? c p live)
  else .error (.invalidArgument (.unknownPatternVertex p))

/-- Pin what an edge anchor fixes, the source first. No mapping, if the anchor is rejected. -/
def pinEdge (m : Matcher) (c : Mapping) (p live : EdgeKey) : Except GraphError (Option Mapping) :=
  if m.edgeFilters.contains p then
    if p.label = live.label ∧ (m.live.edge? live).any (m.edgeFits p) then do
      match ← m.pinVertex c p.source live.source with
      | some c => m.pinVertex c p.target live.target
      | none => return none
    else .ok none
  else .error (.invalidArgument (.unknownPatternEdge p))

/-- Pin what an anchor fixes. -/
def pinAnchor (m : Matcher) (c : Mapping) : Anchor → Except GraphError (Option Mapping)
  | .vertex p live => m.pinVertex c p live
  | .edge p live => m.pinEdge c p live

/-- Pin what anchors fix, in order, up to the first one that is rejected. -/
def pinAnchors (m : Matcher) (c : Mapping) : List Anchor → Except GraphError (Option Mapping)
  | [] => .ok (some c)
  | a :: rest => do
    match ← m.pinAnchor c a with
    | some c => m.pinAnchors c rest
    | none => return none

end Matcher

end PropertyGraph
