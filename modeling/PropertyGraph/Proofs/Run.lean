import PropertyGraph.Graph.Basic
import PropertyGraph.Proofs.Except

/-!
# Operations and runs

Everything that can be done to a graph in place is one of ten operations. A run performs
operations one after another; one that fails changes nothing. What an operation does to the
store is said once, here: later proofs do not open it again.

## Main definitions

- `Operation`, `Graph.perform` — an operation, and its outcome
- `Graph.attempt`, `Graph.run` — failing operations are skipped
- `deletionMark` — the change that marks an element as deleted
-/

namespace PropertyGraph

/-- Something that can be done to a graph. -/
inductive Operation where
  | updateVertex (v : Vertex) (overwrite : Bool)
  | updateEdge (e : Edge) (overwrite : Bool)
  | markVertex (id : String) (t : Instant)
  | markEdge (key : EdgeKey) (t : Instant)
  | removeVertex (id : String)
  | removeEdge (key : EdgeKey)
  | deletePlaceholder (id : String)
  | union (other : Graph)
  | setRoot (id : String)
  | subscribe (name : String) (finalizing : Bool)

/-- The change that marks an element as deleted. -/
def deletionMark (t : Instant) : Properties :=
  (Properties.empty.set VertexKey.isDeleted (.boolean true)).set VertexKey.updateTimestamp
    (.timestamp t)

/-- The edge that carries the deletion mark of a stored edge, its label included. -/
def edgeMark (key : EdgeKey) (named : key.Named) (t : Instant) : Edge where
  key := key
  properties :=
    ((Properties.empty.set RelationKey.relationshipType (.string key.label)).set
      RelationKey.isDeleted (.boolean true)).set RelationKey.updateTimestamp (.timestamp t)
  named := named

/-- A vertex that is built has a name. -/
theorem Vertex.new?_eq_ok {id : String} {p : Properties} {v : Vertex} (h : new? id p = .ok v) :
    ∃ named : id ≠ "", v = ⟨id, p, named⟩ := by
  unfold new? at h
  split at h
  · rename_i named
    cases h
    exact ⟨named, rfl⟩
  · cases h

/-- An edge that is built has all parts of its name, and its label among the properties. -/
theorem Edge.new?_eq_ok {key : EdgeKey} {p : Properties} {e : Edge} (h : new? key p = .ok e) :
    ∃ named : key.Named, e = syncLabel ⟨key, p, named⟩ := by
  unfold new? at h
  split at h
  · split at h
    · split at h
      · rename_i hs ht hl
        cases h
        exact ⟨⟨hs, ht, hl⟩, rfl⟩
      · cases h
    · cases h
  · cases h

namespace Graph

/-- The graph after an operation, and the calls of subscribers that it made. -/
def perform (g : Graph) : Operation → Except GraphError (Graph × List Notice)
  | .updateVertex v overwrite => .ok (g.updateVertex v overwrite)
  | .updateEdge e overwrite => .ok (g.updateEdge e overwrite)
  | .markVertex id t => g.markVertexDeleted id t
  | .markEdge key t => g.markEdgeDeleted key t
  | .removeVertex id => (g.removeVertex id).map fun r => (r.1, [])
  | .removeEdge key => (g.removeEdge key).map fun r => (r.1, [])
  | .deletePlaceholder id => (g.deletePlaceholder id).map fun r => (r.1, [])
  | .union other => .ok (g.union other)
  | .setRoot id => .ok (g.setRoot id, [])
  | .subscribe name finalizing => .ok (g.subscribe name finalizing, [])

/-- The graph after an operation that may fail. -/
def attempt (g : Graph) (op : Operation) : Graph :=
  match g.perform op with
  | .ok r => r.1
  | .error _ => g

/-- The graph after a series of operations. -/
def run (g : Graph) (ops : List Operation) : Graph := ops.foldl attempt g

theorem attempt_of_ok {g : Graph} {op : Operation} {r : Graph × List Notice}
    (h : g.perform op = .ok r) : g.attempt op = r.1 := by
  rw [attempt, h]

theorem attempt_of_error {g : Graph} {op : Operation} {err : GraphError}
    (h : g.perform op = .error err) : g.attempt op = g := by
  rw [attempt, h]

/-! ## The graph after an update -/

theorem hasSubscribers_iff {g : Graph} :
    g.hasSubscribers = true ↔ 0 < g.subscribers.size := by
  rw [hasSubscribers, Subscribers.isEmpty, Bool.not_eq_true', List.isEmpty_eq_false_iff,
    Subscribers.size, List.length_pos_iff]

/-- The look at an element is counted if there is anybody to tell. -/
theorem countLookup_eq (g : Graph) : g.countLookup = { g with metrics := { g.metrics with
    snapshotLookups := g.metrics.snapshotLookups + if 0 < g.subscribers.size then 1 else 0 } } := by
  by_cases hsubscribers : g.hasSubscribers = true
  · rw [countLookup, if_pos hsubscribers, if_pos (hasSubscribers_iff.1 hsubscribers)]
    rfl
  · rw [countLookup, if_neg hsubscribers, if_neg (mt hasSubscribers_iff.2 hsubscribers)]
    rfl

/-- An update of a vertex changes the store, and what is counted. -/
theorem updateVertex_fst (g : Graph) (v : Vertex) (overwrite : Bool) :
    ∃ metrics, (g.updateVertex v overwrite).1 =
      { g with store := storeVertex g.store v overwrite, metrics := metrics } := by
  unfold updateVertex
  rw [countLookup_eq]
  dsimp only
  split
  · exact ⟨_, rfl⟩
  · exact ⟨_, rfl⟩

/-- An update of an edge changes the store, and what is counted. -/
theorem updateEdge_fst (g : Graph) (e : Edge) (overwrite : Bool) :
    ∃ metrics, (g.updateEdge e overwrite).1 =
      { g with store := storeEdge g.store e overwrite, metrics := metrics } := by
  unfold updateEdge
  rw [countLookup_eq]
  dsimp only
  split
  · exact ⟨_, rfl⟩
  · exact ⟨_, rfl⟩

theorem updateVertices_fst (g : Graph) (vertices : List Vertex) :
    ∃ metrics, (g.updateVertices vertices).1 =
      { g with
        store := vertices.foldl (fun s v => storeVertex s v true) g.store, metrics := metrics } := by
  induction vertices generalizing g with
  | nil => exact ⟨g.metrics, rfl⟩
  | cons v rest ih =>
    obtain ⟨first, hfirst⟩ := updateVertex_fst g v true
    obtain ⟨metrics, hrest⟩ := ih (g.updateVertex v true).1
    refine ⟨metrics, ?_⟩
    rw [updateVertices]
    dsimp only
    rw [hrest, hfirst, List.foldl_cons]

theorem updateEdges_fst (g : Graph) (edges : List Edge) :
    ∃ metrics, (g.updateEdges edges).1 =
      { g with
        store := edges.foldl (fun s e => storeEdge s e true) g.store, metrics := metrics } := by
  induction edges generalizing g with
  | nil => exact ⟨g.metrics, rfl⟩
  | cons e rest ih =>
    obtain ⟨first, hfirst⟩ := updateEdge_fst g e true
    obtain ⟨metrics, hrest⟩ := ih (g.updateEdge e true).1
    refine ⟨metrics, ?_⟩
    rw [updateEdges]
    dsimp only
    rw [hrest, hfirst, List.foldl_cons]

theorem store_updateVertex (g : Graph) (v : Vertex) (overwrite : Bool) :
    (g.updateVertex v overwrite).1.store = storeVertex g.store v overwrite := by
  obtain ⟨metrics, h⟩ := updateVertex_fst g v overwrite
  rw [h]

theorem store_updateEdge (g : Graph) (e : Edge) (overwrite : Bool) :
    (g.updateEdge e overwrite).1.store = storeEdge g.store e overwrite := by
  obtain ⟨metrics, h⟩ := updateEdge_fst g e overwrite
  rw [h]

theorem store_updateVertices (g : Graph) (vertices : List Vertex) :
    (g.updateVertices vertices).1.store =
      vertices.foldl (fun s v => storeVertex s v true) g.store := by
  obtain ⟨metrics, h⟩ := updateVertices_fst g vertices
  rw [h]

theorem store_updateEdges (g : Graph) (edges : List Edge) :
    (g.updateEdges edges).1.store = edges.foldl (fun s e => storeEdge s e true) g.store := by
  obtain ⟨metrics, h⟩ := updateEdges_fst g edges
  rw [h]

theorem store_union (g other : Graph) :
    (g.union other).1.store =
      other.store.edgeList.foldl (fun s e => storeEdge s e true)
        (other.store.vertexList.foldl (fun s v => storeVertex s v true) g.store) := by
  rw [← store_updateVertices, ← store_updateEdges]
  rfl

/-! ## Operations that succeed -/

variable {g : Graph}

/-- A vertex is marked by an update of the stored vertex. -/
theorem markVertexDeleted_eq_ok {id : String} {t : Instant} {r : Graph × List Notice}
    (h : g.markVertexDeleted id t = .ok r) :
    g.store.hasVertex id = true ∧
      ∃ named : id ≠ "", r = g.updateVertex ⟨id, deletionMark t, named⟩ true := by
  rw [markVertexDeleted] at h
  split at h
  · rename_i hid
    rw [bind_eq_ok_iff] at h
    obtain ⟨mark, hmark, h⟩ := h
    obtain ⟨named, rfl⟩ := Vertex.new?_eq_ok hmark
    cases h
    exact ⟨hid, named, rfl⟩
  · cases h

/-- An edge is marked by an update of the stored edge. -/
theorem markEdgeDeleted_eq_ok {key : EdgeKey} {t : Instant} {r : Graph × List Notice}
    (h : g.markEdgeDeleted key t = .ok r) :
    g.store.edges.contains key = true ∧
      ∃ named : key.Named, r = g.updateEdge (edgeMark key named t) true := by
  rw [markEdgeDeleted] at h
  split at h
  · rename_i hkey
    rw [bind_eq_ok_iff] at h
    obtain ⟨mark, hmark, h⟩ := h
    obtain ⟨named, rfl⟩ := Edge.new?_eq_ok hmark
    cases h
    exact ⟨hkey, named, rfl⟩
  · cases h

theorem removeVertex_eq_ok {id : String} {r : Graph × Vertex} (h : g.removeVertex id = .ok r) :
    g.store.vertex? id = some r.2 ∧ r.1.store = g.store.removeVertex id := by
  rw [removeVertex] at h
  split at h
  · rename_i v hv
    cases h
    exact ⟨hv, rfl⟩
  · cases h

theorem removeEdge_eq_ok {key : EdgeKey} {r : Graph × Edge} (h : g.removeEdge key = .ok r) :
    g.store.edge? key = some r.2 ∧ r.1.store = g.store.removeEdge key := by
  rw [removeEdge] at h
  split at h
  · rename_i e he
    cases h
    exact ⟨he, rfl⟩
  · cases h

/-- A placeholder is removed as any vertex, or nothing is changed. -/
theorem deletePlaceholder_eq_ok {id : String} {r : Graph × Bool}
    (h : g.deletePlaceholder id = .ok r) :
    (r.2 = true ∧ r.1.store = g.store.removeVertex id) ∨ (r.2 = false ∧ r.1 = g) := by
  rw [deletePlaceholder] at h
  split at h
  · rw [bind_eq_ok_iff] at h
    obtain ⟨removed, hremoved, h⟩ := h
    cases h
    exact .inl ⟨rfl, (removeVertex_eq_ok hremoved).2⟩
  · cases h
    exact .inr ⟨rfl, rfl⟩

end Graph

end PropertyGraph
