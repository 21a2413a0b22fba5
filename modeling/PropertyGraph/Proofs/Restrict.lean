import PropertyGraph.Proofs.Store.Consistent

/-!
# Restricting a graph to some of its vertices

An extract is built by inserting vertices and then edges of a store into an empty one. Inserting
elements of a consistent store again gives lookups that agree with it on what was inserted, and
edges whose endpoints are there add no vertex.
-/

namespace PropertyGraph

namespace Store

variable {s t : Store}

/-- Inserting vertices that `s` has makes the lookups of these those of `s`. -/
theorem vertex?_foldl_insertVertex {vertices : List Vertex}
    (h : ∀ v ∈ vertices, s.vertex? v.id = some v) (t : Store) (id : String) :
    (vertices.foldl insertVertex t).vertex? id =
      if id ∈ vertices.map (·.id) then s.vertex? id else t.vertex? id := by
  induction vertices generalizing t with
  | nil => rfl
  | cons v rest ih =>
    have hrest := ih (fun w hw => h w (List.mem_cons_of_mem _ hw)) (t.insertVertex v)
    rw [List.foldl_cons, hrest, vertex?_insertVertex]
    by_cases hid : id = v.id
    · subst hid
      simp [h v List.mem_cons_self]
    · simp [hid]

theorem edge?_foldl_insertVertex (vertices : List Vertex) (t : Store) (k : EdgeKey) :
    (vertices.foldl insertVertex t).edge? k = t.edge? k := by
  induction vertices generalizing t with
  | nil => rfl
  | cons v rest ih => rw [List.foldl_cons, ih, edge?_insertVertex]

/-- Inserting edges that `s` has makes the lookups of these those of `s`. -/
theorem edge?_foldl_insertEdge {edges : List Edge} (h : ∀ e ∈ edges, s.edge? e.key = some e)
    (t : Store) (k : EdgeKey) :
    (edges.foldl insertEdge t).edge? k =
      if k ∈ edges.map (·.key) then s.edge? k else t.edge? k := by
  induction edges generalizing t with
  | nil => rfl
  | cons e rest ih =>
    have hrest := ih (fun f hf => h f (List.mem_cons_of_mem _ hf)) (t.insertEdge e)
    rw [List.foldl_cons, hrest, edge?_insertEdge]
    by_cases hk : k = e.key
    · subst hk
      simp [h e List.mem_cons_self]
    · simp [hk]

theorem vertex?_foldl_insertEdge {edges : List Edge}
    (h : ∀ e ∈ edges, t.hasVertex e.key.source = true ∧ t.hasVertex e.key.target = true)
    (id : String) : (edges.foldl insertEdge t).vertex? id = t.vertex? id := by
  induction edges generalizing t with
  | nil => rfl
  | cons e rest ih =>
    obtain ⟨hs, ht⟩ := h e List.mem_cons_self
    have hsame := vertex?_insertEdge_of_endpoints hs ht
    rw [List.foldl_cons, ih, hsame]
    intro f hf
    rw [hasVertex_iff, hasVertex_iff, hsame, hsame, ← hasVertex_iff, ← hasVertex_iff]
    exact h f (List.mem_cons_of_mem _ hf)

end Store

namespace Graph

variable {g : Graph}

theorem restrict_consistent (h : g.store.Consistent) (keep : String → Bool)
    (edgeOk : Edge → Bool) : (g.restrict keep edgeOk).store.Consistent := by
  refine Store.Consistent.foldl_insertEdge (Store.Consistent.foldl_insertVertex .empty ?_) ?_
  · exact fun v hv => (h.storedUnder_of_mem_vertexList (List.mem_filter.1 hv).1).2
  · exact fun e he => (h.storedUnder_of_mem_edgeList (List.mem_filter.1 he).1).2

/-- The vertices that are kept, before any edge is put in. -/
theorem vertex?_insertKept (h : g.store.Consistent) (keep : String → Bool) (id : String) :
    ((g.store.vertexList.filter fun v => keep v.id).foldl Store.insertVertex .empty).vertex? id =
      if keep id then g.store.vertex? id else none := by
  have hvertices : ∀ v ∈ g.store.vertexList.filter fun v => keep v.id,
      g.store.vertex? v.id = some v :=
    fun v hv => (h.storedUnder_of_mem_vertexList (List.mem_filter.1 hv).1).1
  have hmem : id ∈ (g.store.vertexList.filter fun v => keep v.id).map (·.id) ↔
      keep id = true ∧ g.store.hasVertex id = true := by
    rw [List.mem_map, Store.hasVertex_iff]
    constructor
    · rintro ⟨v, hv, rfl⟩
      exact ⟨(List.mem_filter.1 hv).2, v, hvertices v hv⟩
    · rintro ⟨hkeep, v, hv⟩
      have hid := (h.vertex hv).id_eq
      exact ⟨v, List.mem_filter.2 ⟨Store.mem_vertexList.2 ⟨id, hv⟩, hid ▸ hkeep⟩, hid⟩
  rw [Store.vertex?_foldl_insertVertex hvertices]
  cases hkeep : keep id with
  | true =>
    cases hv : g.store.vertex? id with
    | none => simp
    | some v => simp [hmem, hkeep, Store.hasVertex_of_vertex? hv]
  | false => simp [hmem, hkeep]

/-- The edges that are kept run between vertices that are kept. -/
theorem endpoints_insertKept (h : g.store.Consistent) {keep : String → Bool}
    {edgeOk : Edge → Bool} {e : Edge}
    (he : e ∈ g.store.edgeList.filter
      fun e => keep e.key.source && keep e.key.target && edgeOk e) :
    ((g.store.vertexList.filter fun v => keep v.id).foldl Store.insertVertex .empty).hasVertex
        e.key.source = true ∧
      ((g.store.vertexList.filter fun v => keep v.id).foldl Store.insertVertex .empty).hasVertex
        e.key.target = true := by
  obtain ⟨he, hkeep⟩ := List.mem_filter.1 he
  simp only [Bool.and_eq_true] at hkeep
  have hstored := Store.containsEdge_of_edge? (h.storedUnder_of_mem_edgeList he).1
  rw [Store.hasVertex_iff, Store.hasVertex_iff, vertex?_insertKept h, vertex?_insertKept h,
    if_pos hkeep.1.1, if_pos hkeep.1.2]
  exact ⟨Store.hasVertex_iff.1 (h.source_stored _ hstored),
    Store.hasVertex_iff.1 (h.target_stored _ hstored)⟩

/-- A restriction has the vertices that are kept, as they were. -/
theorem vertex?_restrict (h : g.store.Consistent) (keep : String → Bool) (edgeOk : Edge → Bool)
    (id : String) :
    (g.restrict keep edgeOk).store.vertex? id = if keep id then g.store.vertex? id else none := by
  change (((g.store.edgeList.filter _).foldl Store.insertEdge _).vertex? id) = _
  rw [Store.vertex?_foldl_insertEdge, vertex?_insertKept h]
  exact fun e he => endpoints_insertKept h he

theorem hasVertex_restrict (h : g.store.Consistent) (keep : String → Bool)
    (edgeOk : Edge → Bool) (id : String) :
    (g.restrict keep edgeOk).store.hasVertex id = (g.store.hasVertex id && keep id) := by
  rw [Bool.eq_iff_iff, Store.hasVertex_iff, vertex?_restrict h, Bool.and_eq_true,
    Store.hasVertex_iff]
  cases hkeep : keep id with
  | true => simp
  | false => simp

/-- A restriction has the edges between kept vertices that satisfy the condition, as they
were. -/
theorem edge?_restrict (h : g.store.Consistent) (keep : String → Bool) (edgeOk : Edge → Bool)
    (k : EdgeKey) :
    (g.restrict keep edgeOk).store.edge? k =
      (g.store.edge? k).filter fun e => keep k.source && keep k.target && edgeOk e := by
  have hedges : ∀ e ∈ g.store.edgeList.filter
      (fun e => keep e.key.source && keep e.key.target && edgeOk e), g.store.edge? e.key = some e :=
    fun e he => (h.storedUnder_of_mem_edgeList (List.mem_filter.1 he).1).1
  change (((g.store.edgeList.filter _).foldl Store.insertEdge _).edge? k) = _
  rw [Store.edge?_foldl_insertEdge hedges, Store.edge?_foldl_insertVertex, Store.edge?_empty]
  cases hk : g.store.edge? k with
  | none => simp
  | some e =>
    have hkey := (h.edge hk).key_eq
    subst hkey
    have hmem : e.key ∈ (g.store.edgeList.filter
        fun e => keep e.key.source && keep e.key.target && edgeOk e).map (·.key) ↔
        (keep e.key.source && keep e.key.target && edgeOk e) = true := by
      rw [List.mem_map]
      constructor
      · rintro ⟨f, hf, hfe⟩
        have hsame := hedges f hf
        rw [hfe, hk] at hsame
        cases hsame
        exact (List.mem_filter.1 hf).2
      · exact fun hok => ⟨e, List.mem_filter.2 ⟨Store.mem_edgeList.2 ⟨_, hk⟩, hok⟩, rfl⟩
    by_cases hok : (keep e.key.source && keep e.key.target && edgeOk e) = true
    · rw [if_pos (hmem.2 hok), Option.filter_some, if_pos hok]
    · rw [if_neg fun hin => hok (hmem.1 hin), Option.filter_some, if_neg hok]

end Graph

end PropertyGraph
