import PropertyGraph.Store
import PropertyGraph.Proofs.SortedMap

/-!
# Lookups after store operations

Every operation of the store is described by what it does to the lookups: the vertex under an
identity, the edge under an identity, and the keys that an index lists at a vertex. Removing a
vertex removes the edges at it one by one, so a series of removals is described at once.
-/

namespace PropertyGraph

/-! ## The other end of an edge -/

theorem EdgeKey.other_of_source {k : EdgeKey} {v : String} (h : k.source = v) :
    k.other v = k.target :=
  if_pos h

/-- A loop leads back, so that its source is at the other end as well. -/
theorem EdgeKey.other_of_target {k : EdgeKey} {v : String} (h : k.target = v) :
    k.other v = k.source := by
  rw [other]
  split
  · rename_i hsource
    rw [h, hsource]
  · rfl

/-- What is at the other end of an edge at a vertex. -/
theorem EdgeKey.other_eq_iff {k : EdgeKey} {v w : String} (h : k.source = v ∨ k.target = v) :
    k.other v = w ↔ k.source = v ∧ k.target = w ∨ k.source = w ∧ k.target = v := by
  rcases h with rfl | rfl
  · rw [other_of_source rfl]
    constructor
    · exact fun hw => .inl ⟨rfl, hw⟩
    · rintro (⟨-, hw⟩ | ⟨hw, hloop⟩)
      · exact hw
      · exact hloop.trans hw
  · rw [other_of_target rfl]
    constructor
    · exact fun hw => .inr ⟨hw, rfl⟩
    · rintro (⟨hloop, hw⟩ | ⟨hw, -⟩)
      · exact hloop.trans hw
      · exact hw

/-! ## Indices -/

namespace EdgeIndex

variable {index : EdgeIndex} {id j : String} {key k : EdgeKey}

theorem mem_keysAt :
    k ∈ keysAt index id ↔ ∃ keys, index.get? id = some keys ∧ keys.contains k = true := by
  rw [keysAt]
  cases index.get? id with
  | none => simp
  | some keys => simp [SortedMap.mem_keys_iff]

theorem contains_ensure :
    (ensure index id).contains j = true ↔ j = id ∨ index.contains j = true := by
  rw [ensure]
  split
  · rename_i h
    constructor
    · exact .inr
    · rintro (rfl | hj)
      · exact h
      · exact hj
  · exact SortedMap.contains_insert

theorem mem_keysAt_ensure : k ∈ keysAt (ensure index id) j ↔ k ∈ keysAt index j := by
  rw [ensure]
  split
  · rfl
  · rename_i h
    rw [Bool.not_eq_true, SortedMap.contains_eq_false_iff] at h
    rw [mem_keysAt, mem_keysAt, SortedMap.get?_insert]
    by_cases hj : j = id
    · simp [hj, h]
    · simp [hj]

theorem contains_link :
    (link index id key).contains j = true ↔ j = id ∨ index.contains j = true :=
  SortedMap.contains_insert

theorem mem_keysAt_link :
    k ∈ keysAt (link index id key) j ↔ (k = key ∧ j = id) ∨ k ∈ keysAt index j := by
  rw [mem_keysAt, mem_keysAt, link, SortedMap.get?_insert]
  by_cases hj : j = id
  · subst hj
    cases index.get? j with
    | none => simp [SortedMap.contains_insert]
    | some keys => simp [SortedMap.contains_insert]
  · simp [hj]

theorem contains_unlink :
    (unlink index id key).contains j = true ↔ index.contains j = true := by
  rw [unlink]
  split
  · exact SortedMap.contains_insert_of_contains (SortedMap.contains_of_get? ‹_›)
  · rfl

theorem mem_keysAt_unlink :
    k ∈ keysAt (unlink index id key) j ↔ k ∈ keysAt index j ∧ ¬(k = key ∧ j = id) := by
  rw [unlink]
  split
  · rename_i keys hkeys
    rw [mem_keysAt, mem_keysAt, SortedMap.get?_insert]
    by_cases hj : j = id
    · subst hj
      simp [hkeys, SortedMap.contains_erase, and_comm]
    · simp [hj]
  · rename_i hnone
    rw [mem_keysAt]
    constructor
    · rintro ⟨keys, hkeys, hk⟩
      refine ⟨⟨keys, hkeys, hk⟩, ?_⟩
      rintro ⟨-, rfl⟩
      rw [hnone] at hkeys
      cases hkeys
    · exact And.left

theorem mem_keysAt_erase :
    k ∈ keysAt (index.erase id) j ↔ k ∈ keysAt index j ∧ j ≠ id := by
  rw [mem_keysAt, mem_keysAt, SortedMap.get?_erase]
  by_cases hj : j = id <;> simp [hj]

end EdgeIndex

namespace Store

variable {s : Store} {id : String} {key k : EdgeKey}

theorem hasVertex_iff : s.hasVertex id = true ↔ ∃ v, s.vertex? id = some v :=
  SortedMap.contains_iff_get?

theorem hasVertex_of_vertex? {v : Vertex} (h : s.vertex? id = some v) : s.hasVertex id = true :=
  hasVertex_iff.2 ⟨v, h⟩

theorem hasVertex_eq_false_iff : s.hasVertex id = false ↔ s.vertex? id = none :=
  SortedMap.contains_eq_false_iff

theorem containsEdge_iff : s.edges.contains k = true ↔ ∃ e, s.edge? k = some e :=
  SortedMap.contains_iff_get?

theorem containsEdge_of_edge? {e : Edge} (h : s.edge? k = some e) : s.edges.contains k = true :=
  containsEdge_iff.2 ⟨e, h⟩

theorem containsEdge_eq_false_iff : s.edges.contains k = false ↔ s.edge? k = none :=
  SortedMap.contains_eq_false_iff

theorem mem_vertexIds : id ∈ s.vertexIds ↔ s.hasVertex id = true := SortedMap.mem_keys_iff

theorem mem_vertexList {v : Vertex} : v ∈ s.vertexList ↔ ∃ id, s.vertex? id = some v :=
  SortedMap.mem_values_iff

theorem mem_edgeList {e : Edge} : e ∈ s.edgeList ↔ ∃ k, s.edge? k = some e :=
  SortedMap.mem_values_iff

@[simp] theorem vertex?_empty (id : String) : Store.empty.vertex? id = none := rfl

@[simp] theorem edge?_empty (k : EdgeKey) : Store.empty.edge? k = none := rfl

/-! ## Insertion -/

theorem vertex?_insertVertex (s : Store) (v : Vertex) (id : String) :
    (s.insertVertex v).vertex? id = if id = v.id then some v else s.vertex? id :=
  SortedMap.get?_insert ..

theorem edge?_insertVertex (s : Store) (v : Vertex) (k : EdgeKey) :
    (s.insertVertex v).edge? k = s.edge? k := rfl

theorem vertex?_ensureVertex (s : Store) (v : Vertex) (id : String) :
    (s.ensureVertex v).vertex? id =
      (s.vertex? id).or (if id = v.id then some v else none) := by
  rw [ensureVertex]
  split
  · rename_i h
    obtain ⟨w, hw⟩ := hasVertex_iff.1 h
    by_cases hid : id = v.id
    · simp [hid, hw]
    · simp [hid]
  · rename_i h
    rw [Bool.not_eq_true, hasVertex_eq_false_iff] at h
    rw [vertex?_insertVertex]
    by_cases hid : id = v.id
    · simp [hid, h]
    · simp [hid]

theorem edge?_ensureVertex (s : Store) (v : Vertex) (k : EdgeKey) :
    (s.ensureVertex v).edge? k = s.edge? k := by
  rw [ensureVertex]
  split <;> rfl

theorem vertex?_insertEdge (s : Store) (e : Edge) (id : String) :
    (s.insertEdge e).vertex? id =
      ((s.vertex? id).or (if id = e.key.source then some e.sourceVertex else none)).or
        (if id = e.key.target then some e.targetVertex else none) := by
  change ((s.ensureVertex e.sourceVertex).ensureVertex e.targetVertex).vertex? id = _
  rw [vertex?_ensureVertex, vertex?_ensureVertex]
  rfl

/-- What a new edge adds to the vertices: those endpoints that are missing, without
properties. -/
theorem properties_insertEdge (s : Store) (e : Edge) (id : String) :
    ((s.insertEdge e).vertex? id).map (·.properties) =
      ((s.vertex? id).map (·.properties)).or
        (if id = e.key.source ∨ id = e.key.target then some .empty else none) := by
  rw [vertex?_insertEdge]
  cases s.vertex? id with
  | some v => rfl
  | none =>
    by_cases hs : id = e.key.source
    · simp [hs, Edge.sourceVertex]
    · by_cases ht : id = e.key.target
      · subst ht
        simp [hs, Edge.targetVertex]
      · simp [hs, ht]

theorem edge?_insertEdge (s : Store) (e : Edge) (k : EdgeKey) :
    (s.insertEdge e).edge? k = if k = e.key then some e else s.edge? k := by
  have h : ((s.ensureVertex e.sourceVertex).ensureVertex e.targetVertex).edge? k = s.edge? k := by
    rw [edge?_ensureVertex, edge?_ensureVertex]
  rw [← h]
  exact SortedMap.get?_insert ..

/-- Edges between stored vertices add no vertex. -/
theorem vertex?_insertEdge_of_endpoints {e : Edge} (hs : s.hasVertex e.key.source = true)
    (ht : s.hasVertex e.key.target = true) (id : String) :
    (s.insertEdge e).vertex? id = s.vertex? id := by
  rw [vertex?_insertEdge]
  cases hid : s.vertex? id with
  | some v => rfl
  | none =>
    rw [← hasVertex_eq_false_iff, Bool.eq_false_iff] at hid
    have hsource : id ≠ e.key.source := by
      rintro rfl
      exact hid hs
    have htarget : id ≠ e.key.target := by
      rintro rfl
      exact hid ht
    rw [if_neg hsource, if_neg htarget]
    rfl

/-! ## Overwriting -/

theorem vertex?_overwriteVertex (h : s.hasVertex id = true) (v : Vertex) (j : String) :
    (s.overwriteVertex id v).vertex? j = if j = id then some v else s.vertex? j := by
  rw [overwriteVertex, if_pos h]
  exact SortedMap.get?_insert ..

theorem edge?_overwriteVertex (s : Store) (id : String) (v : Vertex) (k : EdgeKey) :
    (s.overwriteVertex id v).edge? k = s.edge? k := by
  rw [overwriteVertex]
  split <;> rfl

theorem vertex?_overwriteEdge (s : Store) (key : EdgeKey) (e : Edge) (id : String) :
    (s.overwriteEdge key e).vertex? id = s.vertex? id := by
  rw [overwriteEdge]
  split <;> rfl

theorem edge?_overwriteEdge (h : s.edges.contains key = true) (e : Edge) (k : EdgeKey) :
    (s.overwriteEdge key e).edge? k = if k = key then some e else s.edge? k := by
  rw [overwriteEdge, if_pos h]
  exact SortedMap.get?_insert ..

/-! ## Removal -/

theorem vertices_removeEdge (s : Store) (key : EdgeKey) :
    (s.removeEdge key).vertices = s.vertices := by
  rw [removeEdge]
  split <;> rfl

theorem edge?_removeEdge (s : Store) (key k : EdgeKey) :
    (s.removeEdge key).edge? k = if k = key then none else s.edge? k := by
  rw [removeEdge]
  split
  · exact SortedMap.get?_erase ..
  · rename_i h
    rw [Bool.not_eq_true, containsEdge_eq_false_iff] at h
    by_cases hk : k = key
    · simp [hk, h]
    · simp [hk]

theorem removeEdge_of_absent (h : s.edge? k = none) : s.removeEdge k = s :=
  if_neg (Bool.eq_false_iff.1 (containsEdge_eq_false_iff.2 h))

/-- The store takes nothing out for a vertex that it does not have. -/
theorem removeVertex_of_absent (h : s.vertex? id = none) : s.removeVertex id = s :=
  if_neg (Bool.eq_false_iff.1 (hasVertex_eq_false_iff.2 h))

theorem vertices_foldl_removeEdge (keys : List EdgeKey) (s : Store) :
    (keys.foldl removeEdge s).vertices = s.vertices := by
  induction keys generalizing s with
  | nil => rfl
  | cons key rest ih => rw [List.foldl_cons, ih, vertices_removeEdge]

theorem edge?_foldl_removeEdge (keys : List EdgeKey) (s : Store) (k : EdgeKey) :
    (keys.foldl removeEdge s).edge? k = if k ∈ keys then none else s.edge? k := by
  induction keys generalizing s with
  | nil => rfl
  | cons key rest ih =>
    rw [List.foldl_cons, ih, edge?_removeEdge]
    by_cases hk : k = key
    · simp [hk]
    · simp [hk]

theorem vertex?_removeEdge (s : Store) (key : EdgeKey) (id : String) :
    (s.removeEdge key).vertex? id = s.vertex? id := by
  rw [vertex?, vertices_removeEdge, vertex?]

theorem vertex?_removeVertex (s : Store) (id j : String) :
    (s.removeVertex id).vertex? j = if j = id then none else s.vertex? j := by
  rw [removeVertex]
  split
  · rw [vertex?, vertices_foldl_removeEdge]
    exact SortedMap.get?_erase ..
  · rename_i h
    rw [Bool.not_eq_true, hasVertex_eq_false_iff] at h
    by_cases hj : j = id
    · simp [hj, h]
    · simp [hj]

theorem edge?_removeVertex (h : s.hasVertex id = true) (k : EdgeKey) :
    (s.removeVertex id).edge? k = if k ∈ s.keysAround id then none else s.edge? k := by
  rw [removeVertex, if_pos h, edge?_foldl_removeEdge]
  rfl

theorem mem_keysAround :
    k ∈ s.keysAround id ↔
      k ∈ EdgeIndex.keysAt s.outgoing id ∨ k ∈ EdgeIndex.keysAt s.incoming id := by
  rw [keysAround, SortedSet.mem_keys_ofList, List.mem_append]

/-! ## Neighbours -/

theorem checkedNeighbor_eq_ok_iff {e : Edge} {r : Edge × Vertex} :
    s.checkedNeighbor id e = .ok r ↔
      ∃ u, s.vertex? (e.key.other id) = some u ∧ r = (e, u) := by
  rw [checkedNeighbor]
  cases s.vertex? (e.key.other id) with
  | none => simp
  | some u => simp [eq_comm]

theorem checkedNeighbor_eq_error_iff {e : Edge} {err : GraphError} :
    s.checkedNeighbor id e = .error err ↔
      s.vertex? (e.key.other id) = none ∧ err = .danglingEdge e.key (e.key.other id) := by
  rw [checkedNeighbor]
  cases s.vertex? (e.key.other id) with
  | none => simp [eq_comm]
  | some u => simp

end Store

end PropertyGraph
