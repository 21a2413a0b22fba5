import PropertyGraph.Store

/-!
# The order of the search

Which pattern vertex is pinned next depends on the pattern and on the vertices that are pinned,
not on what they are pinned to. So the order is laid down before the search. From the first
pinned vertex that is still open the search goes on to its first unpinned neighbour; without one,
the vertex is closed.

## Main definitions

- `MatchPlan` — what is done with a generation of mappings, and with the ones after it
- `MatchPlan.make` — the plan for a pattern some of whose vertices are pinned
-/

namespace PropertyGraph

/-- What is done with a generation of mappings. -/
inductive MatchPlan where
  /-- Every pattern vertex is pinned: the mappings are embeddings. -/
  | done
  /-- No pinned vertex leads on: the mappings are dropped. -/
  | stuck
  /-- A vertex is closed: the mappings stay as they are. -/
  | close (rest : MatchPlan)
  /-- Pin a vertex to the neighbours of what another one is pinned to. -/
  | extend (along next : String) (rest : MatchPlan)
  /-- Pin a vertex to all live vertices. -/
  | seed (next : String) (rest : MatchPlan)
deriving Repr, DecidableEq

namespace MatchPlan

/-- The first of some vertices that is joined to a given one by an edge. -/
def neighborAmong (pattern : Store) (unpinned : List String) (id : String) :
    Except GraphError (Option { next : String // next ∈ unpinned }) := do
  let around ← pattern.checkedNeighbors id .both
  return unpinned.attach.find? fun next => around.any (·.2.id == next.val)

/-- The plan for the unpinned and the open vertices of a pattern, both in order. -/
def make (pattern : Store) (seeding : Bool) (unpinned opened : List String) : Except GraphError MatchPlan :=
  match unpinned with
  | [] => .ok .done
  | first :: others =>
    match _ : opened.find? (!(first :: others).contains ·) with
    | none => if seeding then do return .seed first (← make pattern seeding others opened) else .ok .stuck
    | some along => do
      match ← neighborAmong pattern (first :: others) along with
      | some ⟨next, _⟩ =>
        return .extend along next (← make pattern seeding ((first :: others).erase next) opened)
      | none => return .close (← make pattern seeding (first :: others) (opened.erase along))
termination_by unpinned.length + opened.length
decreasing_by
  · simp only [List.length_cons]
    omega
  · have := List.length_erase_of_mem ‹next ∈ first :: others›
    simp only [List.length_cons] at *
    omega
  · have hmem := List.mem_of_find?_eq_some ‹opened.find? _ = some along›
    have := List.length_erase_of_mem hmem
    have := List.length_pos_of_mem hmem
    simp only [List.length_cons]
    omega

end MatchPlan

end PropertyGraph
