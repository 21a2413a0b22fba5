import PropertyGraph.Matching.Basic
import PropertyGraph.Matching.Plan

/-!
# The search for embeddings

The mapping that the anchors fix is the first generation. Every step of the plan makes the next
generation: for each mapping, in order, all its extensions by one vertex, in the order of the
live vertices. Each mapping of each generation counts against the budget.

## Main definitions

- `Matcher.run` — follow a plan, generation by generation
- `Matcher.findAll` — all embeddings that agree with some anchors
- `Graph.findMatches` — the same for two graphs, with the search counted
-/

namespace PropertyGraph

namespace Matcher

/-- The steps spent after looking at some mappings; an error beyond the budget. -/
def spend (m : Matcher) (spent looked : Nat) : Except GraphError Nat :=
  match m.options.maxSteps with
  | some budget =>
    if spent + looked ≤ budget.toNat then .ok (spent + looked) else .error (.stepBudgetExceeded budget)
  | none => .ok (spent + looked)

/-- The identities of the live neighbours that fit a pattern vertex, in order. -/
def candidates (m : Matcher) (live p : String) : Except GraphError (List String) := do
  let around ← m.live.checkedNeighbors live .both
  return (SortedSet.ofList (((around.map (·.2)).filter (m.vertexFits p)).map (·.id))).keys

/-- The extensions of a mapping by a vertex along an edge from a pinned one. -/
def extensions (m : Matcher) (along next : String) (c : Mapping) : Except GraphError (List Mapping) :=
  match c.get? along with
  | some live => do return (← m.candidates live next).filterMap (m.pin? c next)
  | none => .ok []

/-- The extensions of a mapping by a vertex pinned anywhere. -/
def seeds (m : Matcher) (next : String) (c : Mapping) : List Mapping :=
  ((m.live.vertexList.filter (m.vertexFits next)).map (·.id)).filterMap (m.pin? c next)

/-- Follow a plan from a generation of mappings, after some steps. -/
def run (m : Matcher) : MatchPlan → Nat → List Mapping → Except GraphError (List Mapping)
  | .done, spent, generation => do
    let _ ← m.spend spent generation.length
    return generation
  | .stuck, spent, generation => do
    let _ ← m.spend spent generation.length
    return []
  | .close rest, spent, generation => do
    m.run rest (← m.spend spent generation.length) generation
  | .extend along next rest, spent, generation => do
    let spent ← m.spend spent generation.length
    let following ← generation.mapM (m.extensions along next)
    m.run rest spent following.flatten
  | .seed next rest, spent, generation => do
    let spent ← m.spend spent generation.length
    m.run rest spent (generation.flatMap (m.seeds next))

/-- The plan for a pattern whose vertices are pinned as far as a mapping goes. -/
def plan (m : Matcher) (c : Mapping) : Except GraphError MatchPlan :=
  MatchPlan.make m.pattern m.options.seedUnanchored (m.pattern.vertexIds.filter (!c.contains ·))
    m.pattern.vertexIds

/-- All embeddings that agree with some anchors. A rejected anchor leaves none. -/
def findAll (m : Matcher) (anchors : List Anchor) : Except GraphError (List Mapping) := do
  match ← m.pinAnchors .empty anchors with
  | some c => m.run (← m.plan c) 0 [c]
  | none => return []

end Matcher

/-- All embeddings of a pattern into a graph that agree with some anchors, and the graph with
the search counted; a pattern that is no filter makes no search. -/
def Graph.findMatches (g : Graph) (pattern : Graph) (options : MatchOptions) (anchors : List Anchor) :
    Graph × Except GraphError (List Mapping) :=
  match Matcher.new? pattern.store g.store options with
  | .ok m => (g.count fun c => { c with matchRuns := c.matchRuns + 1 }, m.findAll anchors)
  | .error e => (g, .error e)

end PropertyGraph
