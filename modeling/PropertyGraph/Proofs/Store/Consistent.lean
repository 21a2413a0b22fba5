import PropertyGraph.Graph.Basic
import PropertyGraph.Proofs.Properties
import PropertyGraph.Proofs.Store.Indexed

/-!
# Consistent stores

A store is consistent if its indices are right and every element is stored under its own identity,
without deletion markers, an edge with its label among the properties. An update keeps this
whatever it carries, since it is the merge that removes markers and restores the label.

## Main definitions

- `Vertex.StoredUnder`, `Edge.StoredUnder` — what a stored element looks like
- `Store.Consistent` — the invariant of the stores of graphs
-/

namespace PropertyGraph

/-- A vertex as it is stored under an identity. -/
structure Vertex.StoredUnder (v : Vertex) (id : String) : Prop where
  id_eq : v.id = id
  markerFree : v.properties.MarkerFree

/-- An edge as it is stored under an identity. -/
structure Edge.StoredUnder (e : Edge) (key : EdgeKey) : Prop where
  key_eq : e.key = key
  markerFree : e.properties.MarkerFree
  label : e.properties.get? RelationKey.relationshipType = some (.string key.label)

theorem Vertex.StoredUnder.id_ne_empty {v : Vertex} {id : String} (h : v.StoredUnder id) :
    id ≠ "" :=
  h.id_eq ▸ v.named

theorem Edge.StoredUnder.key_named {e : Edge} {key : EdgeKey} (h : e.StoredUnder key) :
    key.Named :=
  h.key_eq ▸ e.named

theorem Edge.syncLabel_storedUnder {e : Edge} {key : EdgeKey} (hkey : e.key = key)
    (h : e.properties.MarkerFree) : e.syncLabel.StoredUnder key where
  key_eq := hkey
  markerFree := h.set rfl
  label := by
    rw [← hkey]
    exact (Properties.get?_set rfl _).trans (if_pos rfl)

/-- **The invariant of the stores of graphs.** -/
structure Store.Consistent (s : Store) : Prop extends s.Indexed where
  vertex : ∀ {id v}, s.vertex? id = some v → v.StoredUnder id
  edge : ∀ {k e}, s.edge? k = some e → e.StoredUnder k

namespace Store.Consistent

variable {s : Store}

theorem empty : Store.empty.Consistent where
  toIndexed := .empty
  vertex h := nomatch h
  edge h := nomatch h

/-! ## Single elements -/

theorem insertVertex (h : s.Consistent) {v : Vertex} (hv : v.StoredUnder v.id) :
    (s.insertVertex v).Consistent where
  toIndexed := h.toIndexed.insertVertex v
  vertex {id w} hw := by
    rw [vertex?_insertVertex] at hw
    split at hw
    · rename_i hid
      cases hw
      exact hid ▸ hv
    · exact h.vertex hw
  edge he := h.edge he

theorem overwriteVertex (h : s.Consistent) {id : String} {v : Vertex} (hv : v.StoredUnder id) :
    (s.overwriteVertex id v).Consistent where
  toIndexed := h.toIndexed.overwriteVertex id v
  vertex {j w} hw := by
    by_cases hid : s.hasVertex id = true
    · rw [vertex?_overwriteVertex hid] at hw
      split at hw
      · rename_i hj
        cases hw
        exact hj ▸ hv
      · exact h.vertex hw
    · rw [Store.overwriteVertex, if_neg hid] at hw
      exact h.vertex hw
  edge he := h.edge (by rwa [edge?_overwriteVertex] at he)

theorem insertEdge (h : s.Consistent) {e : Edge} (he : e.StoredUnder e.key) :
    (s.insertEdge e).Consistent where
  toIndexed := h.toIndexed.insertEdge e
  vertex {id w} hw := by
    rw [vertex?_insertEdge, Option.or_eq_some_iff, Option.or_eq_some_iff] at hw
    rcases hw with (hw | ⟨-, hw⟩) | ⟨-, hw⟩
    · exact h.vertex hw
    · obtain ⟨rfl, rfl⟩ : id = e.key.source ∧ e.sourceVertex = w := by simpa using hw
      exact ⟨rfl, Properties.markerFree_empty⟩
    · obtain ⟨rfl, rfl⟩ : id = e.key.target ∧ e.targetVertex = w := by simpa using hw
      exact ⟨rfl, Properties.markerFree_empty⟩
  edge {k f} hf := by
    rw [edge?_insertEdge] at hf
    split at hf
    · rename_i hk
      cases hf
      exact hk ▸ he
    · exact h.edge hf

theorem overwriteEdge (h : s.Consistent) {key : EdgeKey} {e : Edge} (he : e.StoredUnder key) :
    (s.overwriteEdge key e).Consistent where
  toIndexed := h.toIndexed.overwriteEdge key e
  vertex hv := h.vertex (by rwa [vertex?_overwriteEdge] at hv)
  edge {k f} hf := by
    by_cases hkey : s.edges.contains key = true
    · rw [edge?_overwriteEdge hkey] at hf
      split at hf
      · rename_i hk
        cases hf
        exact hk ▸ he
      · exact h.edge hf
    · rw [Store.overwriteEdge, if_neg hkey] at hf
      exact h.edge hf

theorem removeEdge (h : s.Consistent) (key : EdgeKey) : (s.removeEdge key).Consistent where
  toIndexed := h.toIndexed.removeEdge key
  vertex hv := h.vertex (by rwa [vertex?_removeEdge] at hv)
  edge {k e} he := by
    rw [edge?_removeEdge] at he
    split at he
    · cases he
    · exact h.edge he

theorem removeVertex (h : s.Consistent) (id : String) : (s.removeVertex id).Consistent where
  toIndexed := h.toIndexed.removeVertex id
  vertex {j v} hv := by
    rw [vertex?_removeVertex] at hv
    split at hv
    · cases hv
    · exact h.vertex hv
  edge {k e} he := by
    rw [h.edge?_removeVertex] at he
    split at he
    · cases he
    · exact h.edge he

/-! ## Lists of elements -/

theorem foldl_insertVertex {vertices : List Vertex} (h : s.Consistent)
    (hv : ∀ v ∈ vertices, v.StoredUnder v.id) :
    (vertices.foldl Store.insertVertex s).Consistent := by
  induction vertices generalizing s with
  | nil => exact h
  | cons v rest ih =>
    rw [List.foldl_cons]
    exact ih (h.insertVertex (hv v List.mem_cons_self)) fun w hw => hv w (List.mem_cons_of_mem _ hw)

theorem foldl_insertEdge {edges : List Edge} (h : s.Consistent)
    (he : ∀ e ∈ edges, e.StoredUnder e.key) : (edges.foldl Store.insertEdge s).Consistent := by
  induction edges generalizing s with
  | nil => exact h
  | cons e rest ih =>
    rw [List.foldl_cons]
    exact ih (h.insertEdge (he e List.mem_cons_self)) fun f hf => he f (List.mem_cons_of_mem _ hf)

theorem storedUnder_of_mem_vertexList (h : s.Consistent) {v : Vertex} (hv : v ∈ s.vertexList) :
    s.vertex? v.id = some v ∧ v.StoredUnder v.id := by
  obtain ⟨id, hid⟩ := mem_vertexList.1 hv
  have heq := (h.vertex hid).id_eq
  subst heq
  exact ⟨hid, h.vertex hid⟩

theorem storedUnder_of_mem_edgeList (h : s.Consistent) {e : Edge} (he : e ∈ s.edgeList) :
    s.edge? e.key = some e ∧ e.StoredUnder e.key := by
  obtain ⟨k, hk⟩ := mem_edgeList.1 he
  have heq := (h.edge hk).key_eq
  subst heq
  exact ⟨hk, h.edge hk⟩

theorem map_id_vertexList (h : s.Consistent) : s.vertexList.map (·.id) = s.vertexIds := by
  rw [vertexList, vertexIds, SortedMap.values, SortedMap.keys, List.map_map]
  exact List.map_congr_left fun _ he => (h.vertex (SortedMap.get?_eq_some_iff.2 he)).id_eq

theorem map_key_edgeList (h : s.Consistent) : s.edgeList.map (·.key) = s.edges.keys := by
  rw [edgeList, SortedMap.values, SortedMap.keys, List.map_map]
  exact List.map_congr_left fun _ he => (h.edge (SortedMap.get?_eq_some_iff.2 he)).key_eq

theorem nodup_ids_vertexList (h : s.Consistent) : (s.vertexList.map (·.id)).Nodup := by
  rw [h.map_id_vertexList]
  exact SortedMap.nodup_keys _

theorem nodup_keys_edgeList (h : s.Consistent) : (s.edgeList.map (·.key)).Nodup := by
  rw [h.map_key_edgeList]
  exact SortedMap.nodup_keys _

/-! ## Edges at a vertex -/

theorem mem_incident (h : s.Consistent) {id : String} {d : Direction} {e : Edge} :
    e ∈ s.incident id d ↔ s.edge? e.key = some e ∧
      (d.includesOut = true ∧ e.key.source = id ∨ d.includesIn = true ∧ e.key.target = id) := by
  rw [h.toIndexed.mem_incident]
  constructor
  · rintro ⟨k, he, hside⟩
    have hkey := (h.edge he).key_eq
    subst hkey
    exact ⟨he, hside⟩
  · exact fun hstored => ⟨e.key, hstored⟩

end Store.Consistent

/-! ## Updates -/

namespace Graph

variable {s : Store}

theorem mergedVertex_storedUnder (h : s.Consistent) (v : Vertex) (overwrite : Bool) :
    (mergedVertex (s.vertex? v.id) v overwrite).StoredUnder v.id := by
  cases hs : s.vertex? v.id with
  | some old => exact ⟨(h.vertex hs).id_eq, Properties.markerFree_merge _ _ _⟩
  | none => exact ⟨rfl, Properties.markerFree_normalize _⟩

theorem mergedEdge_storedUnder (h : s.Consistent) (e : Edge) (overwrite : Bool) :
    (mergedEdge (s.edge? e.key) e overwrite).StoredUnder e.key := by
  cases hs : s.edge? e.key with
  | some old =>
    exact Edge.syncLabel_storedUnder (h.edge hs).key_eq (Properties.markerFree_merge _ _ _)
  | none => exact Edge.syncLabel_storedUnder rfl (Properties.markerFree_normalize _)

theorem storeVertex_consistent (h : s.Consistent) (v : Vertex) (overwrite : Bool) :
    (storeVertex s v overwrite).Consistent := by
  have hmerged := mergedVertex_storedUnder h v overwrite
  rw [storeVertex]
  split
  · exact h.overwriteVertex hmerged
  · exact h.insertVertex (hmerged.id_eq.symm ▸ hmerged)

theorem storeEdge_consistent (h : s.Consistent) (e : Edge) (overwrite : Bool) :
    (storeEdge s e overwrite).Consistent := by
  have hmerged := mergedEdge_storedUnder h e overwrite
  rw [storeEdge]
  split
  · exact h.overwriteEdge hmerged
  · exact h.insertEdge (hmerged.key_eq.symm ▸ hmerged)

theorem vertex?_storeVertex (h : s.Consistent) (v : Vertex) (overwrite : Bool) (id : String) :
    (storeVertex s v overwrite).vertex? id =
      if id = v.id then some (mergedVertex (s.vertex? v.id) v overwrite) else s.vertex? id := by
  have hmerged := (mergedVertex_storedUnder h v overwrite).id_eq
  rw [storeVertex]
  split
  · exact Store.vertex?_overwriteVertex ‹_› ..
  · rw [Store.vertex?_insertVertex, hmerged]

theorem edge?_storeVertex (s : Store) (v : Vertex) (overwrite : Bool) (k : EdgeKey) :
    (storeVertex s v overwrite).edge? k = s.edge? k := by
  rw [storeVertex]
  split
  · exact Store.edge?_overwriteVertex ..
  · rfl

theorem edge?_storeEdge (h : s.Consistent) (e : Edge) (overwrite : Bool) (k : EdgeKey) :
    (storeEdge s e overwrite).edge? k =
      if k = e.key then some (mergedEdge (s.edge? e.key) e overwrite) else s.edge? k := by
  have hmerged := (mergedEdge_storedUnder h e overwrite).key_eq
  rw [storeEdge]
  split
  · exact Store.edge?_overwriteEdge ‹_› ..
  · rw [Store.edge?_insertEdge, hmerged]

/-- An edge update keeps the stored vertices, and creates missing endpoints without
properties. -/
theorem properties_storeEdge (h : s.Consistent) (e : Edge) (overwrite : Bool) (id : String) :
    ((storeEdge s e overwrite).vertex? id).map (·.properties) =
      ((s.vertex? id).map (·.properties)).or
        (if id = e.key.source ∨ id = e.key.target then some .empty else none) := by
  have hmerged := (mergedEdge_storedUnder h e overwrite).key_eq
  rw [storeEdge]
  split
  · -- the endpoints of a stored edge are stored
    rename_i hkey
    rw [Store.vertex?_overwriteEdge]
    cases hs : s.vertex? id with
    | some v => rfl
    | none =>
      rw [if_neg]
      · rfl
      · rw [← Store.hasVertex_eq_false_iff, Bool.eq_false_iff] at hs
        rintro (rfl | rfl)
        · exact hs (h.source_stored _ hkey)
        · exact hs (h.target_stored _ hkey)
  · rw [Store.properties_insertEdge, hmerged]

/-- **A vertex update is an insertion** of the merged vertex. -/
theorem storeVertex_eq_insertVertex (h : s.Consistent) (v : Vertex) (overwrite : Bool) :
    storeVertex s v overwrite = s.insertVertex (mergedVertex (s.vertex? v.id) v overwrite) := by
  have hmerged := (mergedVertex_storedUnder h v overwrite).id_eq
  refine (storeVertex_consistent h v overwrite).ext (h.toIndexed.insertVertex _) ?_ ?_
  · intro id
    rw [vertex?_storeVertex h, Store.vertex?_insertVertex, hmerged]
  · intro k
    rw [edge?_storeVertex, Store.edge?_insertVertex]

/-- **An edge update is an insertion** of the merged edge, which brings its missing endpoints
along. -/
theorem storeEdge_eq_insertEdge (h : s.Consistent) (e : Edge) (overwrite : Bool) :
    storeEdge s e overwrite = s.insertEdge (mergedEdge (s.edge? e.key) e overwrite) := by
  have hmerged := (mergedEdge_storedUnder h e overwrite).key_eq
  refine (storeEdge_consistent h e overwrite).ext (h.toIndexed.insertEdge _) ?_ ?_
  · intro id
    rw [storeEdge]
    split
    · -- a stored edge has its endpoints already
      rename_i hkey
      rw [← hmerged] at hkey
      rw [Store.vertex?_overwriteEdge,
        Store.vertex?_insertEdge_of_endpoints (h.source_stored _ hkey) (h.target_stored _ hkey)]
    · rfl
  · intro k
    rw [edge?_storeEdge h, Store.edge?_insertEdge, hmerged]

end Graph

end PropertyGraph
