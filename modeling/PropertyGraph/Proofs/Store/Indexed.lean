import PropertyGraph.Proofs.Store.Lookup

/-!
# Exact edge indices

The two indices of a store repeat what the keys of the edges say. They are exact if every stored
vertex has a row, and a row lists the stored edges that begin, or end, at its vertex. Exactness
is kept by every operation, also while a vertex is being removed and edges at it are still
there; that no edge is left without an endpoint is a property of whole operations only.

## Main definitions

- `EdgeIndex.Exact`, `Store.IndicesExact` — an index repeats one endpoint of all stored edges
- `Store.Indexed` — both indices are exact, and both endpoints of every edge are stored
-/

namespace PropertyGraph

/-- The index has a row for every vertex, and at a stored vertex it lists the stored edges with
that endpoint. -/
structure EdgeIndex.Exact (index : EdgeIndex) (endpoint : EdgeKey → String)
    (vertices : SortedMap String Vertex) (edges : SortedMap EdgeKey Edge) : Prop where
  contains_iff : ∀ id, index.contains id = true ↔ vertices.contains id = true
  mem_keysAt : ∀ id k, k ∈ EdgeIndex.keysAt index id ↔
    vertices.contains id = true ∧ edges.contains k = true ∧ endpoint k = id

namespace EdgeIndex.Exact

variable {index : EdgeIndex} {endpoint : EdgeKey → String}
  {vertices : SortedMap String Vertex} {edges : SortedMap EdgeKey Edge}

theorem empty : Exact .empty endpoint .empty .empty where
  contains_iff _ := by simp
  mem_keysAt _ _ := by simp [EdgeIndex.mem_keysAt]

/-- Exactness depends on which vertices and edges there are, not on what is stored for them. -/
theorem congr (h : Exact index endpoint vertices edges) {vertices' : SortedMap String Vertex}
    {edges' : SortedMap EdgeKey Edge}
    (hv : ∀ id, vertices'.contains id = true ↔ vertices.contains id = true)
    (he : ∀ k, edges'.contains k = true ↔ edges.contains k = true) :
    Exact index endpoint vertices' edges' where
  contains_iff id := (h.contains_iff id).trans (hv id).symm
  mem_keysAt id k := by rw [h.mem_keysAt, hv, he]

theorem insertVertex (h : Exact index endpoint vertices edges)
    (hstored : ∀ k, edges.contains k = true → vertices.contains (endpoint k) = true)
    (v : Vertex) : Exact (EdgeIndex.ensure index v.id) endpoint (vertices.insert v.id v) edges where
  contains_iff id := by
    rw [EdgeIndex.contains_ensure, SortedMap.contains_insert, h.contains_iff]
  mem_keysAt id k := by
    rw [EdgeIndex.mem_keysAt_ensure, h.mem_keysAt, SortedMap.contains_insert]
    constructor
    · rintro ⟨hid, hk⟩
      exact ⟨.inr hid, hk⟩
    · rintro ⟨-, hk, rfl⟩
      exact ⟨hstored k hk, hk, rfl⟩

theorem insertEdge (h : Exact index endpoint vertices edges) {key : EdgeKey}
    (hkey : vertices.contains (endpoint key) = true) (e : Edge) :
    Exact (EdgeIndex.link index (endpoint key) key) endpoint vertices (edges.insert key e) where
  contains_iff id := by
    rw [EdgeIndex.contains_link, h.contains_iff]
    constructor
    · rintro (rfl | hid)
      · exact hkey
      · exact hid
    · exact .inr
  mem_keysAt id k := by
    rw [EdgeIndex.mem_keysAt_link, h.mem_keysAt, SortedMap.contains_insert]
    constructor
    · rintro (⟨rfl, rfl⟩ | ⟨hid, hk, hend⟩)
      · exact ⟨hkey, .inl rfl, rfl⟩
      · exact ⟨hid, .inr hk, hend⟩
    · rintro ⟨hid, rfl | hk, hend⟩
      · exact .inl ⟨rfl, hend.symm⟩
      · exact .inr ⟨hid, hk, hend⟩

theorem eraseEdge (h : Exact index endpoint vertices edges) (key : EdgeKey) :
    Exact (EdgeIndex.unlink index (endpoint key) key) endpoint vertices (edges.erase key) where
  contains_iff id := by rw [EdgeIndex.contains_unlink, h.contains_iff]
  mem_keysAt id k := by
    rw [EdgeIndex.mem_keysAt_unlink, h.mem_keysAt, SortedMap.contains_erase]
    -- a key is struck from one row only, but that is the only row that lists it
    constructor
    · rintro ⟨⟨hid, hk, rfl⟩, hne⟩
      exact ⟨hid, ⟨fun heq => hne ⟨heq, congrArg endpoint heq⟩, hk⟩, rfl⟩
    · rintro ⟨hid, ⟨hne, hk⟩, hend⟩
      exact ⟨⟨hid, hk, hend⟩, fun heq => hne heq.1⟩

/-- The row of a vertex goes with it. The edges that the row listed are still there: they are
erased one by one afterwards. -/
theorem eraseVertex (h : Exact index endpoint vertices edges) (id : String) :
    Exact (index.erase id) endpoint (vertices.erase id) edges where
  contains_iff j := by
    rw [SortedMap.contains_erase, SortedMap.contains_erase, h.contains_iff]
  mem_keysAt j k := by
    rw [EdgeIndex.mem_keysAt_erase, h.mem_keysAt, SortedMap.contains_erase]
    constructor
    · rintro ⟨⟨hj, hk⟩, hne⟩
      exact ⟨⟨hne, hj⟩, hk⟩
    · rintro ⟨⟨hne, hj⟩, hk⟩
      exact ⟨⟨hj, hk⟩, hne⟩

/-- What an exact index holds is settled by the vertices and edges. -/
theorem unique {index' : EdgeIndex} (h : Exact index endpoint vertices edges)
    (h' : Exact index' endpoint vertices edges) : index = index' := by
  refine SortedMap.ext_get? fun id => ?_
  have hrow : index.contains id = true ↔ index'.contains id = true :=
    (h.contains_iff id).trans (h'.contains_iff id).symm
  cases hkeys : index.get? id with
  | none =>
    have hnone : index'.contains id = false := by
      rw [← SortedMap.contains_eq_false_iff, Bool.eq_false_iff] at hkeys
      exact Bool.eq_false_iff.2 fun hid => hkeys (hrow.2 hid)
    exact (SortedMap.contains_eq_false_iff.1 hnone).symm
  | some keys =>
    obtain ⟨keys', hkeys'⟩ := SortedMap.contains_iff_get?.1
      (hrow.1 (SortedMap.contains_of_get? hkeys))
    have hmem : ∀ k, keys.contains k = true ↔ keys'.contains k = true := by
      intro k
      have hk := (h.mem_keysAt id k).trans (h'.mem_keysAt id k).symm
      rw [EdgeIndex.mem_keysAt, EdgeIndex.mem_keysAt, hkeys, hkeys'] at hk
      simpa using hk
    rw [hkeys', SortedSet.ext_contains hmem]

end EdgeIndex.Exact

/-- Both indices of a store are exact. -/
structure Store.IndicesExact (s : Store) : Prop where
  outgoing : EdgeIndex.Exact s.outgoing EdgeKey.source s.vertices s.edges
  incoming : EdgeIndex.Exact s.incoming EdgeKey.target s.vertices s.edges

namespace Store.IndicesExact

variable {s : Store}

theorem removeEdge (h : s.IndicesExact) (key : EdgeKey) : (s.removeEdge key).IndicesExact := by
  rw [Store.removeEdge]
  split
  · exact ⟨h.outgoing.eraseEdge key, h.incoming.eraseEdge key⟩
  · exact h

theorem foldl_removeEdge (h : s.IndicesExact) (keys : List EdgeKey) :
    (keys.foldl Store.removeEdge s).IndicesExact := by
  induction keys generalizing s with
  | nil => exact h
  | cons key rest ih => exact ih (h.removeEdge key)

theorem removeVertex (h : s.IndicesExact) (id : String) : (s.removeVertex id).IndicesExact := by
  rw [Store.removeVertex]
  split
  · exact foldl_removeEdge ⟨h.outgoing.eraseVertex id, h.incoming.eraseVertex id⟩ _
  · exact h

end Store.IndicesExact

/-- Both indices are exact, and no edge lacks an endpoint. -/
structure Store.Indexed (s : Store) : Prop extends s.IndicesExact where
  source_stored : ∀ k, s.edges.contains k = true → s.hasVertex k.source = true
  target_stored : ∀ k, s.edges.contains k = true → s.hasVertex k.target = true

namespace Store.Indexed

variable {s : Store} {id : String} {k : EdgeKey}

theorem empty : Store.empty.Indexed where
  outgoing := .empty
  incoming := .empty
  source_stored _ h := nomatch h
  target_stored _ h := nomatch h

/-- **Stores with the same vertices and edges are the same**, indices included. -/
theorem ext {t : Store} (hs : s.Indexed) (ht : t.Indexed)
    (hvertex : ∀ id, s.vertex? id = t.vertex? id) (hedge : ∀ k, s.edge? k = t.edge? k) : s = t := by
  have hvertices : s.vertices = t.vertices := SortedMap.ext_get? hvertex
  have hedges : s.edges = t.edges := SortedMap.ext_get? hedge
  obtain ⟨vertices, edges, outgoing, incoming⟩ := s
  obtain ⟨vertices', edges', outgoing', incoming'⟩ := t
  dsimp only at hvertices hedges
  subst hvertices hedges
  have houtgoing : outgoing = outgoing' := hs.outgoing.unique ht.outgoing
  have hincoming : incoming = incoming' := hs.incoming.unique ht.incoming
  rw [houtgoing, hincoming]

/-! ## What the indices list -/

theorem mem_outgoing (h : s.Indexed) :
    k ∈ EdgeIndex.keysAt s.outgoing id ↔ s.edges.contains k = true ∧ k.source = id := by
  rw [h.outgoing.mem_keysAt]
  constructor
  · exact And.right
  · rintro ⟨hk, rfl⟩
    exact ⟨h.source_stored k hk, hk, rfl⟩

theorem mem_incoming (h : s.Indexed) :
    k ∈ EdgeIndex.keysAt s.incoming id ↔ s.edges.contains k = true ∧ k.target = id := by
  rw [h.incoming.mem_keysAt]
  constructor
  · exact And.right
  · rintro ⟨hk, rfl⟩
    exact ⟨h.target_stored k hk, hk, rfl⟩

theorem mem_keysAround (h : s.Indexed) :
    k ∈ s.keysAround id ↔ s.edges.contains k = true ∧ (k.source = id ∨ k.target = id) := by
  rw [Store.mem_keysAround, h.mem_outgoing, h.mem_incoming, and_or_left]

/-- On both sides, a loop is listed by the row of its source alone. -/
theorem mem_incidentKeys (h : s.Indexed) {d : Direction} :
    k ∈ s.incidentKeys id d ↔ s.edges.contains k = true ∧
      (d.includesOut = true ∧ k.source = id ∨ d.includesIn = true ∧ k.target = id) := by
  cases d with
  | out => simp [incidentKeys, Direction.includesOut, Direction.includesIn, h.mem_outgoing]
  | into => simp [incidentKeys, Direction.includesOut, Direction.includesIn, h.mem_incoming]
  | both =>
    simp only [incidentKeys, Direction.includesOut, Direction.includesIn, if_true, List.mem_append,
      List.mem_filter, h.mem_outgoing, h.mem_incoming, true_and]
    by_cases hloop : k.source = k.target
    · simp [EdgeKey.isLoop, hloop]
    · simp [EdgeKey.isLoop, hloop, and_or_left]

/-- The edges at a vertex are those stored under a key with that endpoint, whatever keys the edges
have themselves. -/
theorem mem_incident (h : s.Indexed) {d : Direction} {e : Edge} :
    e ∈ s.incident id d ↔ ∃ k, s.edge? k = some e ∧
      (d.includesOut = true ∧ k.source = id ∨ d.includesIn = true ∧ k.target = id) := by
  rw [incident, List.mem_filterMap]
  constructor
  · rintro ⟨k, hk, he⟩
    exact ⟨k, he, (h.mem_incidentKeys.1 hk).2⟩
  · rintro ⟨k, he, hside⟩
    exact ⟨k, h.mem_incidentKeys.2 ⟨containsEdge_of_edge? he, hside⟩, he⟩

/-! ## Insertion and overwriting -/

theorem insertVertex (h : s.Indexed) (v : Vertex) : (s.insertVertex v).Indexed where
  outgoing := h.outgoing.insertVertex h.source_stored v
  incoming := h.incoming.insertVertex h.target_stored v
  source_stored k hk := SortedMap.contains_insert.2 (.inr (h.source_stored k hk))
  target_stored k hk := SortedMap.contains_insert.2 (.inr (h.target_stored k hk))

theorem ensureVertex (h : s.Indexed) (v : Vertex) : (s.ensureVertex v).Indexed := by
  rw [Store.ensureVertex]
  split
  · exact h
  · exact h.insertVertex v

theorem hasVertex_ensureVertex (s : Store) (v : Vertex) (id : String) :
    (s.ensureVertex v).hasVertex id = true ↔ id = v.id ∨ s.hasVertex id = true := by
  rw [hasVertex_iff, vertex?_ensureVertex, hasVertex_iff]
  cases hs : s.vertex? id with
  | some w => simp
  | none => by_cases hid : id = v.id <;> simp [hid]

theorem insertEdge (h : s.Indexed) (e : Edge) : (s.insertEdge e).Indexed := by
  -- both endpoints are there before the key is listed at them
  have h' : ((s.ensureVertex e.sourceVertex).ensureVertex e.targetVertex).Indexed :=
    (h.ensureVertex _).ensureVertex _
  have hsource : ((s.ensureVertex e.sourceVertex).ensureVertex e.targetVertex).hasVertex
      e.key.source = true := by
    rw [hasVertex_ensureVertex, hasVertex_ensureVertex]
    exact .inr (.inl rfl)
  have htarget : ((s.ensureVertex e.sourceVertex).ensureVertex e.targetVertex).hasVertex
      e.key.target = true := by
    rw [hasVertex_ensureVertex]
    exact .inl rfl
  refine ⟨⟨h'.outgoing.insertEdge hsource e, h'.incoming.insertEdge htarget e⟩, ?_, ?_⟩
  · intro k hk
    rcases SortedMap.contains_insert.1 hk with rfl | hk
    · exact hsource
    · exact h'.source_stored k hk
  · intro k hk
    rcases SortedMap.contains_insert.1 hk with rfl | hk
    · exact htarget
    · exact h'.target_stored k hk

theorem overwriteVertex (h : s.Indexed) (id : String) (v : Vertex) :
    (s.overwriteVertex id v).Indexed := by
  rw [Store.overwriteVertex]
  split
  · rename_i hid
    have hv : ∀ j, (s.vertices.insert id v).contains j = true ↔ s.vertices.contains j = true :=
      fun j => SortedMap.contains_insert_of_contains hid
    refine ⟨⟨h.outgoing.congr hv fun _ => Iff.rfl, h.incoming.congr hv fun _ => Iff.rfl⟩, ?_, ?_⟩
    · exact fun k hk => (hv k.source).2 (h.source_stored k hk)
    · exact fun k hk => (hv k.target).2 (h.target_stored k hk)
  · exact h

theorem overwriteEdge (h : s.Indexed) (key : EdgeKey) (e : Edge) :
    (s.overwriteEdge key e).Indexed := by
  rw [Store.overwriteEdge]
  split
  · rename_i hkey
    have he : ∀ k, (s.edges.insert key e).contains k = true ↔ s.edges.contains k = true :=
      fun k => SortedMap.contains_insert_of_contains hkey
    refine ⟨⟨h.outgoing.congr (fun _ => Iff.rfl) he, h.incoming.congr (fun _ => Iff.rfl) he⟩,
      ?_, ?_⟩
    · exact fun k hk => h.source_stored k ((he k).1 hk)
    · exact fun k hk => h.target_stored k ((he k).1 hk)
  · exact h

/-! ## Removal -/

theorem removeEdge (h : s.Indexed) (key : EdgeKey) : (s.removeEdge key).Indexed := by
  have hedge : ∀ k, (s.removeEdge key).edges.contains k = true → s.edges.contains k = true := by
    intro k hk
    obtain ⟨e, he⟩ := containsEdge_iff.1 hk
    rw [edge?_removeEdge] at he
    split at he
    · cases he
    · exact containsEdge_of_edge? he
  have hvertex : ∀ id, (s.removeEdge key).hasVertex id = s.hasVertex id := by
    intro id
    rw [hasVertex, vertices_removeEdge, hasVertex]
  refine ⟨h.toIndicesExact.removeEdge key, fun k hk => ?_, fun k hk => ?_⟩
  · rw [hvertex]
    exact h.source_stored k (hedge k hk)
  · rw [hvertex]
    exact h.target_stored k (hedge k hk)

theorem removeVertex (h : s.Indexed) (id : String) : (s.removeVertex id).Indexed := by
  by_cases hid : s.hasVertex id = true
  · have hvertex : ∀ j, j ≠ id → s.hasVertex j = true → (s.removeVertex id).hasVertex j = true := by
      intro j hne hj
      obtain ⟨v, hv⟩ := hasVertex_iff.1 hj
      exact hasVertex_iff.2 ⟨v, by rw [vertex?_removeVertex, if_neg hne, hv]⟩
    -- an edge that is left was stored and is not around the removed vertex
    have hedge : ∀ k, (s.removeVertex id).edges.contains k = true →
        s.edges.contains k = true ∧ k.source ≠ id ∧ k.target ≠ id := by
      intro k hk
      obtain ⟨e, he⟩ := containsEdge_iff.1 hk
      rw [edge?_removeVertex hid] at he
      split at he
      · cases he
      · rename_i hnot
        have hk := containsEdge_of_edge? he
        rw [h.mem_keysAround] at hnot
        exact ⟨hk, fun heq => hnot ⟨hk, .inl heq⟩, fun heq => hnot ⟨hk, .inr heq⟩⟩
    refine ⟨h.toIndicesExact.removeVertex id, fun k hk => ?_, fun k hk => ?_⟩
    · obtain ⟨hk, hsource, -⟩ := hedge k hk
      exact hvertex _ hsource (h.source_stored k hk)
    · obtain ⟨hk, -, htarget⟩ := hedge k hk
      exact hvertex _ htarget (h.target_stored k hk)
  · rw [Store.removeVertex, if_neg hid]
    exact h

/-- The edges that stay when a vertex is removed: those that do not touch it. -/
theorem edge?_removeVertex (h : s.Indexed) (id : String) (k : EdgeKey) :
    (s.removeVertex id).edge? k = if k.source = id ∨ k.target = id then none else s.edge? k := by
  by_cases hid : s.hasVertex id = true
  · rw [Store.edge?_removeVertex hid]
    cases hk : s.edge? k with
    | some e => simp [h.mem_keysAround, containsEdge_of_edge? hk]
    | none => simp
  · -- an edge at a vertex that is not stored is not stored either
    rw [Store.removeVertex, if_neg hid]
    split
    · rename_i hend
      rw [← containsEdge_eq_false_iff, Bool.eq_false_iff]
      intro hk
      rcases hend with rfl | rfl
      · exact hid (h.source_stored k hk)
      · exact hid (h.target_stored k hk)
    · rfl

end Store.Indexed

end PropertyGraph
