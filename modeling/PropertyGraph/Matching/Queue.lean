import PropertyGraph.Matching.Search

/-!
# The search as a queue of candidates

A search can be run without laying down its order first. Candidates wait in a queue: mappings,
each with the pattern vertices around which it has nothing left to pin. A round takes the
candidate at the front. It is an embedding, or it is dropped, or what is made of it goes to the
back of the queue: the candidate with one more vertex closed, or a copy for every way to pin one
more vertex. Every round counts against the budget.

Each round decides anew what to do, from its candidate alone. The result is the one of
`Matcher.findAll`, which decides once for a whole generation of mappings.

## Main definitions

- `Candidate` — a mapping under exploration
- `Matcher.visit` — what becomes of a candidate
- `Exploration`, `Matcher.pop` — the loop between two rounds, and one round
- `Matcher.Explores` — the loop, from any point on to its result
- `Matcher.Finds` — the whole search
-/

namespace PropertyGraph

/-- A mapping under exploration, and the pattern vertices that are closed in it. -/
structure Candidate where
  mapping : Mapping
  closed : SortedSet String

namespace Candidate

/-- A mapping that is not explored yet: no vertex is closed. -/
def start (c : Mapping) : Candidate := ⟨c, .empty⟩

/-- Close a pattern vertex. -/
def close (c : Candidate) (p : String) : Candidate := { c with closed := c.closed.insert p () }

/-- Another mapping, with the same vertices closed. -/
def branch (c : Candidate) (mapping : Mapping) : Candidate := { c with mapping }

end Candidate

/-- What becomes of a candidate. -/
inductive Visit where
  /-- It maps the whole pattern. -/
  | found (f : Mapping)
  /-- It is replaced by others; by none, if it is dropped. -/
  | queued (cs : List Candidate)

/-- The loop between two rounds. -/
structure Exploration where
  queue : List Candidate
  found : List Mapping
  steps : Nat

namespace Exploration

/-- The loop before the first round, from the mapping that the anchors fix. -/
def start (c : Mapping) : Exploration := ⟨[.start c], [], 0⟩

/-- The loop after a round, from what became of the candidate and the steps so far. -/
def take (rest : Exploration) (steps : Nat) : Visit → Exploration
  | .found f => ⟨rest.queue, rest.found ++ [f], steps⟩
  | .queued cs => ⟨rest.queue ++ cs, rest.found, steps⟩

end Exploration

namespace Matcher

/-- Whether a candidate pins every pattern vertex. -/
def isComplete (m : Matcher) (c : Candidate) : Bool := m.pattern.vertexIds.all (c.mapping.contains ·)

/-- The first pattern vertex that is pinned and not closed. -/
def frontier? (m : Matcher) (c : Candidate) : Option String :=
  m.pattern.vertexIds.find? fun p => c.mapping.contains p && !c.closed.contains p

/-- The first pattern vertex that is not pinned. -/
def firstUnpinned? (m : Matcher) (c : Candidate) : Option String :=
  m.pattern.vertexIds.find? (!c.mapping.contains ·)

/-- The neighbours of a pattern vertex that are not pinned, in order. -/
def unpinnedNeighbors (m : Matcher) (c : Candidate) (p : String) : Except GraphError (List String) := do
  let around ← m.pattern.checkedNeighbors p .both
  return (SortedSet.ofList ((around.map (·.2.id)).filter (!c.mapping.contains ·))).keys

/-- Copies of a candidate, for each live vertex that its first unpinned vertex can be pinned to. -/
def seedBranches (m : Matcher) (c : Candidate) : List Candidate :=
  match m.firstUnpinned? c with
  | some next => (m.seeds next c.mapping).map c.branch
  | none => []

/-- Go on from a pinned vertex: close it, or pin its first unpinned neighbour. -/
def advance (m : Matcher) (c : Candidate) (along : String) : Except GraphError (List Candidate) := do
  match (← m.unpinnedNeighbors c along).head? with
  | none => return [c.close along]
  | some next => return (← m.extensions along next c.mapping).map c.branch

/-- What becomes of a candidate. -/
def visit (m : Matcher) (c : Candidate) : Except GraphError Visit :=
  if m.isComplete c then .ok (.found c.mapping)
  else
    match m.frontier? c with
    | some along => (m.advance c along).map .queued
    | none => .ok (.queued (if m.options.seedUnanchored then m.seedBranches c else []))

/-- A round of the loop, for the candidate at the front of the queue: it is counted first. -/
def pop (m : Matcher) (c : Candidate) (rest : Exploration) : Except GraphError Exploration := do
  let steps ← m.spend rest.steps 1
  return rest.take steps (← m.visit c)

/-- The loop ends, with the mappings found and the number of candidates looked at, or with an
error. -/
inductive Explores (m : Matcher) : Exploration → Except GraphError (List Mapping × Nat) → Prop
  | done {found : List Mapping} {steps : Nat} : Explores m ⟨[], found, steps⟩ (.ok (found, steps))
  | round {c : Candidate} {queue : List Candidate} {found : List Mapping} {steps : Nat}
      {s : Exploration} {r : Except GraphError (List Mapping × Nat)} :
      m.pop c ⟨queue, found, steps⟩ = .ok s → Explores m s r →
      Explores m ⟨c :: queue, found, steps⟩ r
  | failed {c : Candidate} {queue : List Candidate} {found : List Mapping} {steps : Nat}
      {err : GraphError} :
      m.pop c ⟨queue, found, steps⟩ = .error err →
      Explores m ⟨c :: queue, found, steps⟩ (.error err)

/-- The whole search ends. A rejected anchor leaves no candidate to look at. -/
def Finds (m : Matcher) (anchors : List Anchor) (r : Except GraphError (List Mapping × Nat)) : Prop :=
  match m.pinAnchors .empty anchors with
  | .ok (some c) => m.Explores (.start c) r
  | .ok none => r = .ok ([], 0)
  | .error err => r = .error err

end Matcher

end PropertyGraph
