import PropertyGraph.Proofs.Built
import PropertyGraph.Proofs.Content
import PropertyGraph.Proofs.Store.Scan

/-!
# Subgraphs

A subgraph is a restriction to some of the vertices. The edges of a restriction are those that a
scan of all edges finds between vertices that are kept. As the rows of the index are exact, it comes
to the same to go through the rows of the kept vertices, and to insert what they list one edge after
the other: each edge is in one row, and both of its endpoints are there before it.

## Main definitions

- `Store.gather` — the kept vertices with the edges that their rows list
- `Graph.Built.subgraphs_exact` — what is in a subgraph
-/

namespace PropertyGraph

namespace Store

variable {s t : Store}

/-- The stored vertices that are kept, and then, vertex after vertex, the edges that leave it for a
vertex that is kept and that satisfy a condition. -/
def gather (s : Store) (keep : String → Bool) (edgeOk : Edge → Bool) : Store :=
  let ids := s.vertexIds.filter keep
  .ofElements (ids.filterMap s.vertex?)
    (ids.flatMap fun id => (s.incident id .out).filter fun e =>
      ids.contains e.key.target && edgeOk e)

/-- Looking up some of the identities finds the vertices that a scan finds. -/
theorem Consistent.filterMap_vertex? (h : s.Consistent) (keep : String → Bool) :
    (s.vertexIds.filter keep).filterMap s.vertex? = s.vertexList.filter fun v => keep v.id := by
  rw [← h.map_id_vertexList, List.filter_map, List.filterMap_map]
  have hlookup : ∀ v ∈ s.vertexList.filter (keep ∘ (·.id)), (s.vertex? ∘ (·.id)) v = some v :=
    fun v hv => (h.storedUnder_of_mem_vertexList (List.mem_filter.1 hv).1).1
  rw [List.filterMap_congr hlookup, List.filterMap_some]
  rfl

/-- The rows of the kept vertices list the edges that a scan finds. -/
theorem Consistent.mem_flatMap_leaving (h : s.Consistent) {keep : String → Bool}
    {edgeOk : Edge → Bool} {e : Edge} :
    (e ∈ (s.vertexIds.filter keep).flatMap fun id => (s.incident id .out).filter fun e =>
        (s.vertexIds.filter keep).contains e.key.target && edgeOk e) ↔
      e ∈ s.edgeList.filter fun e => keep e.key.source && keep e.key.target && edgeOk e := by
  have hkept : ∀ id, (s.vertexIds.filter keep).contains id = true ↔
      s.hasVertex id = true ∧ keep id = true := by
    intro id
    rw [List.contains_iff_mem, List.mem_filter, mem_vertexIds]
  simp only [List.mem_flatMap, List.mem_filter, h.mem_incident, Bool.and_eq_true, hkept,
    mem_vertexIds, h.mem_edgeList]
  constructor
  · rintro ⟨id, ⟨-, hid⟩, ⟨he, hside⟩, ⟨-, htarget⟩, hok⟩
    have hsource : e.key.source = id := by
      simpa [Direction.includesOut, Direction.includesIn] using hside
    exact ⟨he, ⟨hsource ▸ hid, htarget⟩, hok⟩
  · rintro ⟨he, ⟨hsource, htarget⟩, hok⟩
    have hstored := containsEdge_of_edge? he
    exact ⟨e.key.source, ⟨h.source_stored _ hstored, hsource⟩, ⟨he, .inl ⟨rfl, rfl⟩⟩,
      ⟨h.target_stored _ hstored, htarget⟩, hok⟩

/-- In which order stored edges are inserted between vertices that are there, and how often, does
not matter. -/
theorem Consistent.foldl_insertEdge_congr (h : s.Consistent) (ht : t.Consistent)
    {edges edges' : List Edge} (hstored : ∀ e ∈ edges, s.edge? e.key = some e)
    (hends : ∀ e ∈ edges, t.hasVertex e.key.source = true ∧ t.hasVertex e.key.target = true)
    (hmem : ∀ e, e ∈ edges' ↔ e ∈ edges) :
    edges'.foldl Store.insertEdge t = edges.foldl Store.insertEdge t := by
  have hstored' : ∀ e ∈ edges', s.edge? e.key = some e := fun e he => hstored e ((hmem e).1 he)
  have hends' : ∀ e ∈ edges', t.hasVertex e.key.source = true ∧ t.hasVertex e.key.target = true :=
    fun e he => hends e ((hmem e).1 he)
  have hleft := ht.foldl_insertEdge fun e he => h.edge (hstored' e he)
  have hright := ht.foldl_insertEdge fun e he => h.edge (hstored e he)
  refine hleft.ext hright.toIndexed (fun id => ?_) fun k => ?_
  · rw [vertex?_foldl_insertEdge hends', vertex?_foldl_insertEdge hends]
  · have hkeys : k ∈ edges'.map (·.key) ↔ k ∈ edges.map (·.key) := by
      simp only [List.mem_map, hmem]
    rw [edge?_foldl_insertEdge hstored', edge?_foldl_insertEdge hstored]
    simp only [hkeys]

end Store

namespace Graph

variable {g : Graph}

/-- **A restriction goes through the rows** of the vertices that are kept. -/
theorem store_restrict_eq_gather (h : g.store.Consistent) (keep : String → Bool)
    (edgeOk : Edge → Bool) : (g.restrict keep edgeOk).store = g.store.gather keep edgeOk := by
  have hvertices : ((g.store.vertexList.filter fun v => keep v.id).foldl Store.insertVertex
      .empty).Consistent :=
    .foldl_insertVertex .empty fun v hv =>
      (h.storedUnder_of_mem_vertexList (List.mem_filter.1 hv).1).2
  change (g.store.edgeList.filter _).foldl Store.insertEdge
    ((g.store.vertexList.filter fun v => keep v.id).foldl Store.insertVertex .empty) = _
  rw [Store.gather, Store.ofElements, h.filterMap_vertex?]
  have hstored : ∀ e ∈ g.store.edgeList.filter
      (fun e => keep e.key.source && keep e.key.target && edgeOk e), g.store.edge? e.key = some e :=
    fun e he => h.mem_edgeList.1 (List.mem_filter.1 he).1
  exact (h.foldl_insertEdge_congr hvertices hstored (fun e he => endpoints_insertKept h he)
    fun e => h.mem_flatMap_leaving).symm

/-! ## What a restriction has -/

theorem restrict_vertex?_eq_some_iff (h : g.store.Consistent) {keep : String → Bool}
    {edgeOk : Edge → Bool} {id : String} {v : Vertex} :
    (g.restrict keep edgeOk).store.vertex? id = some v ↔
      g.store.vertex? id = some v ∧ keep id = true := by
  rw [vertex?_restrict h]
  cases keep id with
  | true => simp
  | false => simp

/-- The endpoints of a stored edge are stored, so that they are kept just if they are in the
restriction. -/
theorem restrict_edge?_eq_some_iff (h : g.store.Consistent) {keep : String → Bool}
    {edgeOk : Edge → Bool} {k : EdgeKey} {e : Edge} :
    (g.restrict keep edgeOk).store.edge? k = some e ↔
      g.store.edge? k = some e ∧
        (g.restrict keep edgeOk).store.hasVertex k.source = true ∧
        (g.restrict keep edgeOk).store.hasVertex k.target = true ∧ edgeOk e = true := by
  rw [edge?_restrict h, Option.filter_eq_some_iff, hasVertex_restrict h, hasVertex_restrict h]
  constructor
  · rintro ⟨he, hkeep⟩
    have hstored := Store.containsEdge_of_edge? he
    simp only [Bool.and_eq_true] at hkeep ⊢
    exact ⟨he, ⟨h.source_stored _ hstored, hkeep.1.1⟩, ⟨h.target_stored _ hstored, hkeep.1.2⟩,
      hkeep.2⟩
  · rintro ⟨he, hsource, htarget, hok⟩
    simp only [Bool.and_eq_true] at hsource htarget
    simp only [hsource.2, htarget.2, hok, Bool.and_self, and_true, he]

theorem root_restrict (h : g.store.Consistent) (keep : String → Bool) (edgeOk : Edge → Bool) :
    (g.restrict keep edgeOk).root = g.root.filter (g.restrict keep edgeOk).store.hasVertex := by
  rw [funext (hasVertex_restrict h keep edgeOk)]
  rfl

/-- To restrict twice is to restrict to what is kept both times. -/
theorem restrict_restrict (h : g.store.Consistent) (keep keep' : String → Bool)
    (edgeOk edgeOk' : Edge → Bool) :
    ((g.restrict keep edgeOk).restrict keep' edgeOk').SameContent
      (g.restrict (fun id => keep id && keep' id) fun e => edgeOk e && edgeOk' e) := by
  have hfirst := restrict_consistent h keep edgeOk
  refine ⟨rfl, ?_, (restrict_consistent hfirst keep' edgeOk').ext
    (restrict_consistent h _ _).toIndexed (fun id => ?_) fun k => ?_⟩
  · rw [root_restrict hfirst, root_restrict h, root_restrict h, Option.filter_filter]
    refine congrArg (g.root.filter ·) (funext fun id => ?_)
    rw [hasVertex_restrict hfirst, hasVertex_restrict h, hasVertex_restrict h,
      Bool.and_self_left, Bool.and_assoc]
  · rw [vertex?_restrict hfirst, vertex?_restrict h, vertex?_restrict h]
    cases keep id <;> cases keep' id <;> rfl
  · rw [edge?_restrict hfirst, edge?_restrict h, edge?_restrict h, Option.filter_filter]
    refine congrArg ((g.store.edge? k).filter ·) (funext fun e => ?_)
    ac_rfl

/-! ## What a subgraph has -/

theorem subgraph_vertex?_eq_some_iff (h : g.store.Consistent) {ids : List String} {id : String}
    {v : Vertex} :
    (g.subgraph ids).store.vertex? id = some v ↔ g.store.vertex? id = some v ∧ id ∈ ids := by
  rw [subgraph, restrict_vertex?_eq_some_iff h, List.contains_iff_mem]

theorem subgraph_edge?_eq_some_iff (h : g.store.Consistent) {ids : List String} {k : EdgeKey}
    {e : Edge} :
    (g.subgraph ids).store.edge? k = some e ↔
      g.store.edge? k = some e ∧ k.source ∈ ids ∧ k.target ∈ ids := by
  rw [subgraph, edge?_restrict h, Option.filter_eq_some_iff]
  simp only [Bool.and_true, Bool.and_eq_true, List.contains_iff_mem]

/-- A subgraph of a subgraph is one of the whole graph. -/
theorem subgraph_subgraph (h : g.store.Consistent) {ids ids' both : List String}
    (hboth : ∀ id, id ∈ both ↔ id ∈ ids ∧ id ∈ ids') :
    ((g.subgraph ids).subgraph ids').SameContent (g.subgraph both) := by
  have hkeep : both.contains = fun id => ids.contains id && ids'.contains id := by
    funext id
    rw [Bool.eq_iff_iff, Bool.and_eq_true, List.contains_iff_mem, List.contains_iff_mem,
      List.contains_iff_mem, hboth]
  rw [subgraph, subgraph, subgraph, hkeep]
  exact restrict_restrict h ids.contains ids'.contains (fun _ => true) fun _ => true

/-- The identities of selected vertices select them: no two vertices have one identity. -/
theorem contains_selectVertices (h : g.store.Consistent) {f : Option AttributeFilter}
    {q : Option Query} {id : String} {v : Vertex} (hv : g.store.vertex? id = some v) :
    ((g.selectVertices f q).map (·.id)).contains id =
      (admits f v.properties && satisfies q v.properties) := by
  rw [Bool.eq_iff_iff, List.contains_iff_mem, List.mem_map]
  constructor
  · rintro ⟨w, hw, rfl⟩
    obtain ⟨hw, hselected⟩ := List.mem_filter.1 hw
    have hsame := (h.storedUnder_of_mem_vertexList hw).1
    rw [hv] at hsame
    cases hsame
    exact hselected
  · intro hselected
    exact ⟨v, List.mem_filter.2 ⟨Store.mem_vertexList.2 ⟨id, hv⟩, hselected⟩, (h.vertex hv).id_eq⟩

theorem matchingVertices_vertex?_eq_some_iff (h : g.store.Consistent) {f : Option AttributeFilter}
    {q : Option Query} {edgeFilter : Option AttributeFilter} {id : String} {v : Vertex} :
    (g.matchingVertices f q edgeFilter).store.vertex? id = some v ↔
      g.store.vertex? id = some v ∧ admits f v.properties = true ∧
        satisfies q v.properties = true := by
  rw [matchingVertices, restrict_vertex?_eq_some_iff h]
  refine and_congr_right fun hv => ?_
  rw [contains_selectVertices h hv, Bool.and_eq_true]

/-- **Subgraphs are exact.** A subgraph has exactly the stored vertices that are named, however
often, and exactly the stored edges between them. An extract of the vertices that satisfy a filter
and a query has exactly these and the stored edges between them that satisfy another filter. All
elements are as they were, the name stays, and so does the root if its vertex is there. So a
subgraph of a subgraph is the subgraph of what is named both times; and what a scan of all edges
finds is what the rows of the kept vertices list, inserted one edge after the other. -/
theorem Built.subgraphs_exact (h : g.Built) :
    (∀ ids, (g.subgraph ids).name = g.name ∧
      (∀ id v, (g.subgraph ids).store.vertex? id = some v ↔
        g.store.vertex? id = some v ∧ id ∈ ids) ∧
      (∀ k e, (g.subgraph ids).store.edge? k = some e ↔
        g.store.edge? k = some e ∧ k.source ∈ ids ∧ k.target ∈ ids) ∧
      (g.subgraph ids).root = g.root.filter (g.subgraph ids).store.hasVertex) ∧
    (∀ f q edgeFilter, (g.matchingVertices f q edgeFilter).name = g.name ∧
      (∀ id v, (g.matchingVertices f q edgeFilter).store.vertex? id = some v ↔
        g.store.vertex? id = some v ∧ admits f v.properties = true ∧
          satisfies q v.properties = true) ∧
      (∀ k e, (g.matchingVertices f q edgeFilter).store.edge? k = some e ↔
        g.store.edge? k = some e ∧
          (g.matchingVertices f q edgeFilter).store.hasVertex k.source = true ∧
          (g.matchingVertices f q edgeFilter).store.hasVertex k.target = true ∧
          admits edgeFilter e.properties = true) ∧
      (g.matchingVertices f q edgeFilter).root =
        g.root.filter (g.matchingVertices f q edgeFilter).store.hasVertex) ∧
    (∀ ids ids' both : List String, (∀ id, id ∈ both ↔ id ∈ ids ∧ id ∈ ids') →
      ((g.subgraph ids).subgraph ids').SameContent (g.subgraph both)) ∧
    ∀ keep edgeOk, (g.restrict keep edgeOk).store = g.store.gather keep edgeOk := by
  have hs := h.consistent
  refine ⟨fun ids => ⟨rfl, fun id v => subgraph_vertex?_eq_some_iff hs,
      fun k e => subgraph_edge?_eq_some_iff hs, root_restrict hs _ _⟩,
    fun f q edgeFilter => ⟨rfl, fun id v => matchingVertices_vertex?_eq_some_iff hs,
      fun k e => restrict_edge?_eq_some_iff hs, root_restrict hs _ _⟩,
    fun ids ids' both => subgraph_subgraph hs, store_restrict_eq_gather hs⟩

/-- A name that is repeated, one that is unknown, a loop and two edges with the same endpoints. -/
theorem Built.subgraphs_exact_loop :
    let g := (Graph.new "g" (some "c")).run
      [.updateEdge ⟨⟨"a", "a", "l"⟩, .empty, by decide⟩ true,
        .updateEdge ⟨⟨"a", "b", "l"⟩, .empty, by decide⟩ true,
        .updateEdge ⟨⟨"a", "b", "m"⟩, .empty, by decide⟩ true,
        .updateEdge ⟨⟨"b", "c", "l"⟩, .empty, by decide⟩ true]
    g.Built ∧ (g.subgraph ["b", "x", "a", "b"]).store.vertexIds = ["a", "b"] ∧
      (g.subgraph ["b", "x", "a", "b"]).store.edges.keys =
        [⟨"a", "a", "l"⟩, ⟨"a", "b", "l"⟩, ⟨"a", "b", "m"⟩] ∧
      (g.subgraph ["b", "x", "a", "b"]).root = none ∧
      ((g.subgraph ["b", "x", "a", "b"]).subgraph ["c", "a"]).SameContent (g.subgraph ["a"]) := by
  intro g
  have hg : g.Built := .run (.new _ _) _
  obtain ⟨hsubgraph, -, htwice, -⟩ := Built.subgraphs_exact hg
  refine ⟨hg, by decide, by decide, ?_, htwice _ _ _ ?_⟩
  · rw [(hsubgraph ["b", "x", "a", "b"]).2.2.2]
    decide
  · intro id
    simp only [List.mem_cons, List.not_mem_nil, or_false]
    constructor
    · rintro rfl
      simp
    · rintro ⟨hfirst, rfl | rfl⟩
      · exact absurd hfirst (by decide)
      · rfl

end Graph

end PropertyGraph
