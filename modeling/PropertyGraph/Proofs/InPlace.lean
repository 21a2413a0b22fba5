import Mathlib.Data.List.Basic
import PropertyGraph.Graph.InPlace
import PropertyGraph.Proofs.Run
import PropertyGraph.Proofs.Store.Lookup

/-!
# Operations in place

An operation that is carried out step by step ends as `Graph.perform` says. Where it fails, the
steps before the error have changed nothing: a removal has taken from the store what was not there,
and a mark has only looked.

## Main definitions

- `Operation.inPlace` — an operation as a change in place
- `Progress.resume` — a change under way after an operation with a known outcome
-/

namespace PropertyGraph

/-- An operation as a change in place. -/
def Operation.inPlace : Operation → InPlace Unit
  | .updateVertex v overwrite => InPlace.change (·.updateVertex v overwrite)
  | .updateEdge e overwrite => InPlace.change (·.updateEdge e overwrite)
  | .markVertex id t => InPlace.markVertexDeleted id t
  | .markEdge key t => InPlace.markEdgeDeleted key t
  | .removeVertex id => do let _ ← InPlace.removeVertex id
  | .removeEdge key => do let _ ← InPlace.removeEdge key
  | .deletePlaceholder id => do let _ ← InPlace.deletePlaceholder id
  | .union other => InPlace.change (·.union other)
  | .setRoot id => InPlace.change fun g => (g.setRoot id, [])
  | .subscribe name finalizing => InPlace.change fun g => (g.subscribe name finalizing, [])

/-- A change under way after an operation with a known outcome. If that is an error, the change
stands where it stood. -/
def Progress.resume {α : Type} (p : Progress) :
    Except GraphError (α × Graph × List Notice) → EStateM.Result GraphError Progress α
  | .ok (a, g, calls) => .ok a ⟨g, p.calls ++ calls⟩
  | .error err => .error err p

/-! ## Taking elements out of a store -/

namespace Store

variable {s : Store} {id : String} {key : EdgeKey}

theorem takeEdge_eq (s : Store) (key : EdgeKey) :
    s.takeEdge key = (s.edge? key, s.removeEdge key) := by
  rw [takeEdge]
  cases hkey : s.edge? key with
  | none =>
    -- what is not there leaves the table as it is
    have herase : s.edges.erase key = s.edges := SortedMap.erase_of_get?_eq_none hkey
    rw [removeEdge_of_absent hkey, herase]
  | some e => rw [removeEdge, if_pos (containsEdge_of_edge? hkey)]

theorem takeEdges_eq {keys : List EdgeKey} (hkeys : keys.Nodup) (s : Store) :
    s.takeEdges keys = (keys.filterMap s.edge?, keys.foldl removeEdge s) := by
  induction keys generalizing s with
  | nil => rfl
  | cons key keys ih =>
    obtain ⟨hkey, hkeys⟩ := List.nodup_cons.1 hkeys
    -- the other edges are found as if this one were still there
    have hothers : keys.filterMap (s.removeEdge key).edge? = keys.filterMap s.edge? := by
      refine List.filterMap_congr fun k hk => ?_
      have hne : k ≠ key := fun heq => hkey (heq ▸ hk)
      rw [edge?_removeEdge, if_neg hne]
    rw [takeEdges, takeEdge_eq]
    dsimp only
    rw [ih hkeys, hothers, List.foldl_cons]
    cases hedge : s.edge? key with
    | none => rw [List.filterMap_cons_none hedge, Option.toList_none, List.nil_append]
    | some e => rw [List.filterMap_cons_some hedge, Option.toList_some, List.singleton_append]

theorem takeVertex_eq (s : Store) (id : String) :
    s.takeVertex id = ((s.vertex? id).map (·, s.edgesAround id), s.removeVertex id) := by
  rw [takeVertex]
  cases hid : s.vertex? id with
  | none =>
    have herase : s.vertices.erase id = s.vertices := SortedMap.erase_of_get?_eq_none hid
    rw [removeVertex_of_absent hid, herase]
    rfl
  | some v =>
    have hkeys : (s.keysAround id).Nodup := SortedMap.nodup_keys _
    rw [removeVertex, if_pos (hasVertex_of_vertex? hid)]
    dsimp only
    rw [takeEdges_eq hkeys]
    rfl

end Store

/-! ## Operations -/

namespace InPlace

variable {α β : Type}

/-- What is taken out of the store is known before the next step. -/
theorem take_bind (f : Store → α × Store) (next : α → InPlace β) (p : Progress) :
    (take f >>= next) p =
      next (f p.graph.store).1
        { p with graph := { p.graph with store := (f p.graph.store).2 } } := rfl

theorem graph_bind (next : Graph → InPlace β) (p : Progress) :
    (graph >>= next) p = next p.graph p := rfl

/-- A change in place whose outcome is known, with something else to return. -/
theorem bind_pure_eq {x : InPlace α} {p : Progress}
    {r : Except GraphError (α × Graph × List Notice)} (h : x p = p.resume r) (f : α → β) :
    (do let a ← x; return f a : InPlace β) p = p.resume (r.map fun q => (f q.1, q.2)) := by
  change EStateM.bind x (fun a => EStateM.pure (f a)) p = _
  rw [EStateM.bind, h]
  cases r with
  | error err => rfl
  | ok q => rfl

theorem removeVertex_eq (id : String) (p : Progress) :
    removeVertex id p = p.resume ((p.graph.removeVertex id).map fun r => (r.2, r.1, [])) := by
  rw [removeVertex, take_bind, Store.takeVertex_eq, Graph.removeVertex]
  cases hid : p.graph.store.vertex? id with
  | none =>
    -- a store from which nothing was taken is the one from before
    dsimp only [Option.map]
    rw [Store.removeVertex_of_absent hid]
    rfl
  | some v => rfl

theorem removeEdge_eq (key : EdgeKey) (p : Progress) :
    removeEdge key p = p.resume ((p.graph.removeEdge key).map fun r => (r.2, r.1, [])) := by
  rw [removeEdge, take_bind, Store.takeEdge_eq, Graph.removeEdge]
  cases hkey : p.graph.store.edge? key with
  | none =>
    dsimp only
    rw [Store.removeEdge_of_absent hkey]
    rfl
  | some e => rfl

theorem markVertexDeleted_eq (id : String) (t : Instant) (p : Progress) :
    markVertexDeleted id t p =
      p.resume ((p.graph.markVertexDeleted id t).map fun r => ((), r)) := by
  rw [markVertexDeleted, graph_bind, Graph.markVertexDeleted]
  cases p.graph.store.hasVertex id with
  | false => rfl
  | true =>
    cases Vertex.new? id .empty with
    | error err => rfl
    | ok mark => rfl

theorem markEdgeDeleted_eq (key : EdgeKey) (t : Instant) (p : Progress) :
    markEdgeDeleted key t p =
      p.resume ((p.graph.markEdgeDeleted key t).map fun r => ((), r)) := by
  rw [markEdgeDeleted, graph_bind, Graph.markEdgeDeleted]
  cases p.graph.store.edges.contains key with
  | false => rfl
  | true =>
    cases Edge.new? key .empty with
    | error err => rfl
    | ok mark => rfl

theorem deletePlaceholder_eq (id : String) (p : Progress) :
    deletePlaceholder id p =
      p.resume ((p.graph.deletePlaceholder id).map fun r => (r.2, r.1, [])) := by
  rw [deletePlaceholder, graph_bind, Graph.deletePlaceholder]
  cases p.graph.isRemovablePlaceholder id with
  | false =>
    change EStateM.Result.ok false p = .ok false ⟨p.graph, p.calls ++ []⟩
    rw [List.append_nil]
  | true =>
    refine (bind_pure_eq (removeVertex_eq id p) fun _ => true).trans ?_
    cases p.graph.removeVertex id with
    | error err => rfl
    | ok r => rfl

/-- A removal whose result nobody looks at. -/
theorem ignore_eq {x : InPlace α} {p : Progress} {r : Except GraphError (Graph × α)}
    (h : x p = p.resume (r.map fun q => (q.2, q.1, []))) :
    (do let _ ← x : InPlace Unit) p = p.resume ((r.map fun q => (q.1, [])).map fun q => ((), q)) := by
  refine (bind_pure_eq h fun _ => ()).trans ?_
  cases r with
  | error err => rfl
  | ok q => rfl

end InPlace

/-- **An operation in place ends as it does at once**: it changes the graph and calls subscribers
as `Graph.perform` says, and if that is an error, everything is as it was. -/
theorem Operation.inPlace_eq (op : Operation) (p : Progress) :
    op.inPlace p = p.resume ((p.graph.perform op).map fun r => ((), r)) := by
  cases op with
  | updateVertex | updateEdge | union | setRoot | subscribe => rfl
  | markVertex id t => exact InPlace.markVertexDeleted_eq id t p
  | markEdge key t => exact InPlace.markEdgeDeleted_eq key t p
  | removeVertex id => exact InPlace.ignore_eq (InPlace.removeVertex_eq id p)
  | removeEdge key => exact InPlace.ignore_eq (InPlace.removeEdge_eq key p)
  | deletePlaceholder id => exact InPlace.ignore_eq (InPlace.deletePlaceholder_eq id p)

/-- An operation that fails in place leaves everything as it was, whatever steps it took. -/
theorem Operation.inPlace_eq_error_iff {g : Graph} {calls : List Notice} {err : GraphError}
    {left : Progress} (op : Operation) :
    op.inPlace ⟨g, calls⟩ = .error err left ↔ g.perform op = .error err ∧ left = ⟨g, calls⟩ := by
  rw [inPlace_eq]
  cases g.perform op with
  | error err' => simp [Progress.resume, Except.map, eq_comm]
  | ok r => simp [Progress.resume, Except.map]

end PropertyGraph
