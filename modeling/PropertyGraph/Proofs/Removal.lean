import PropertyGraph.Proofs.Surroundings

/-!
# Removal

What is taken out of a graph, and that nothing else changes. The edges at a vertex are struck from
the rows of their other endpoints after its own rows are gone. As the indices stay exact all the
way, the graph that is left is described by its elements alone: every listing of edges is the one
from before without the edges that are gone.

## Main definitions

- `Graph.Loses` — some elements are taken out of a graph, and this is counted
- `Graph.RemovablePlaceholder` — a placeholder all of whose edges are marked as deleted
- `Graph.Built.removals_exact` — what the operations that remove take out
-/

namespace PropertyGraph

theorem Properties.isTrue_iff {p : Properties} {key : String} :
    p.isTrue key = true ↔ p.get? key = some (.boolean true) := by
  rw [isTrue]
  cases p.get? key with
  | none => simp
  | some value => cases value <;> simp [Value.asBoolean?]

/-- The edge begins or ends at a vertex. -/
def EdgeKey.touches (k : EdgeKey) (id : String) : Bool := k.source == id || k.target == id

theorem EdgeKey.touches_iff {k : EdgeKey} {id : String} :
    k.touches id = true ↔ k.source = id ∨ k.target = id := by
  simp [touches]

namespace Store

variable {s t : Store} {id : String} {k : EdgeKey}

/-- How many vertices and edges there are. -/
def elementCount (s : Store) : Nat := s.vertices.size + s.edges.size

/-! ## The edges at a removed vertex -/

theorem Indexed.keysAround_eq_scan (h : s.Indexed) (id : String) :
    s.keysAround id = s.edges.keys.filter (·.touches id) := by
  refine SortedMap.keys_ext (SortedMap.keys_increasing _) (s.edges.keys_increasing.filter _)
    fun k => ?_
  rw [h.mem_keysAround, List.mem_filter, SortedMap.mem_keys_iff, EdgeKey.touches_iff]

theorem Indexed.edge?_removeVertex_touches (h : s.Indexed) (id : String) (k : EdgeKey) :
    (s.removeVertex id).edge? k = if k.touches id then none else s.edge? k := by
  simp only [h.edge?_removeVertex, EdgeKey.touches_iff]

/-- The edges that go with a vertex, by a scan: a loop is one of them once. -/
theorem Consistent.edgesAround_eq_scan (h : s.Consistent) (id : String) :
    s.edgesAround id = s.edgeList.filter (·.key.touches id) := by
  rw [edgesAround, h.keysAround_eq_scan, h.filterMap_edge? (·.touches id)]

/-! ## What is left of the listings -/

/-- A consistent store without some of the edges lists the other ones. -/
theorem Consistent.edgeList_of_gone (hs : s.Consistent) {gone : EdgeKey → Bool}
    (hedge : ∀ k, t.edge? k = if gone k then none else s.edge? k) :
    t.edgeList = s.edgeList.filter (!gone ·.key) := by
  have hedges : t.edges = s.edges.filter fun k _ => !gone k := by
    refine SortedMap.ext_get? fun k => ?_
    rw [SortedMap.get?_filter]
    refine (hedge k).trans ?_
    rw [edge?]
    cases gone k <;> cases s.edges.get? k <;> rfl
  rw [edgeList, hedges, edgeList, SortedMap.values, SortedMap.values, List.filter_map]
  refine congrArg (List.map Prod.snd) (List.filter_congr fun e he => ?_)
  have hkey := (hs.edge (SortedMap.get?_eq_some_iff.2 he)).key_eq
  rw [Function.comp_apply, hkey]

theorem Consistent.incident_of_gone (hs : s.Consistent) (ht : t.Consistent)
    {gone : EdgeKey → Bool} (hedge : ∀ k, t.edge? k = if gone k then none else s.edge? k)
    (id : String) (d : Direction) :
    t.incident id d = (s.incident id d).filter (!gone ·.key) := by
  rw [ht.incident_eq_scan, hs.incident_eq_scan, hs.edgeList_of_gone hedge, List.filter_append,
    List.filter_comm, List.filter_comm (fun e => d.includesIn && _ && _)]

/-! ## How many elements are gone -/

theorem elementCount_removeEdge (h : s.edges.contains k = true) :
    1 + (s.removeEdge k).elementCount = s.elementCount := by
  have hedges := SortedMap.size_erase_add_one h
  rw [elementCount, elementCount, removeEdge, if_pos h]
  dsimp only
  omega

theorem Consistent.elementCount_removeVertex (h : s.Consistent) (hid : s.hasVertex id = true) :
    1 + (s.edgesAround id).length + (s.removeVertex id).elementCount = s.elementCount := by
  have hvertices : (s.removeVertex id).vertices.size + 1 = s.vertices.size := by
    rw [Store.removeVertex, if_pos hid, vertices_foldl_removeEdge]
    exact SortedMap.size_erase_add_one hid
  have hlength : ∀ s : Store, s.edges.size = s.edgeList.length :=
    fun _ => (List.length_map _).symm
  -- an edge of the old list goes with the vertex, or it is in the new one
  have hedges : s.edgeList.length =
      (s.edgesAround id).length + (s.removeVertex id).edgeList.length := by
    rw [h.edgesAround_eq_scan, h.edgeList_of_gone (h.edge?_removeVertex_touches id)]
    exact List.length_eq_length_filter_add _
  rw [elementCount, elementCount, hlength, hlength]
  omega

end Store

namespace Graph

variable {g g' : Graph} {id : String} {k : EdgeKey}

/-- A graph loses some vertices and edges. All other elements are as they were, also in the listings
of the edges at a vertex, and it is counted how many elements are gone. -/
structure Loses (g : Graph) (vertexGone : String → Bool) (edgeGone : EdgeKey → Bool)
    (g' : Graph) : Prop where
  name : g'.name = g.name
  root : g'.root = g.root
  subscribers : g'.subscribers = g.subscribers
  vertex : ∀ id, g'.store.vertex? id = if vertexGone id then none else g.store.vertex? id
  edge : ∀ k, g'.store.edge? k = if edgeGone k then none else g.store.edge? k
  edgesAt : ∀ id d f, g'.edgesAt id d f = (g.edgesAt id d f).filter (!edgeGone ·.key)
  removals : g'.metrics.removals + g'.store.elementCount =
    g.metrics.removals + g.store.elementCount
  metrics : g'.metrics = { g.metrics with removals := g'.metrics.removals }

/-- A store that lacks some elements, put in the place of a graph's store. -/
theorem loses_countRemovals {t : Store} {vertexGone : String → Bool} {edgeGone : EdgeKey → Bool}
    {n : Nat} (hs : g.store.Consistent) (ht : t.Consistent)
    (hvertex : ∀ id, t.vertex? id = if vertexGone id then none else g.store.vertex? id)
    (hedge : ∀ k, t.edge? k = if edgeGone k then none else g.store.edge? k)
    (hcount : n + t.elementCount = g.store.elementCount) :
    g.Loses vertexGone edgeGone ({ g with store := t }.countRemovals n) where
  name := rfl
  root := rfl
  subscribers := rfl
  vertex := hvertex
  edge := hedge
  edgesAt id d f := by
    change (t.incident id d).filter _ = ((g.store.incident id d).filter _).filter _
    rw [hs.incident_of_gone ht hedge, List.filter_comm]
  removals := by
    change g.metrics.removals + n + t.elementCount = _
    omega
  metrics := rfl

/-! ## The operations that remove -/

/-- **A vertex is removed with the edges that touch it**, and with nothing else. -/
theorem removeVertex_loses (h : g.store.Consistent) {v : Vertex}
    (hv : g.store.vertex? id = some v) :
    ∃ g', g.removeVertex id = .ok (g', v) ∧ g.Loses (· == id) (·.touches id) g' := by
  refine ⟨_, by rw [removeVertex, hv], ?_⟩
  refine loses_countRemovals h (h.removeVertex id) ?_ (h.edge?_removeVertex_touches id)
    (h.elementCount_removeVertex (Store.hasVertex_of_vertex? hv))
  intro j
  simp only [Store.vertex?_removeVertex, beq_iff_eq]

/-- **An edge is removed**, and nothing else. -/
theorem removeEdge_loses (h : g.store.Consistent) {e : Edge} (he : g.store.edge? k = some e) :
    ∃ g', g.removeEdge k = .ok (g', e) ∧ g.Loses (fun _ => false) (· == k) g' := by
  refine ⟨_, by rw [removeEdge, he], ?_⟩
  refine loses_countRemovals h (h.removeEdge k) ?_ ?_
    (Store.elementCount_removeEdge (Store.containsEdge_of_edge? he))
  · intro j
    exact Store.vertex?_removeEdge ..
  · intro j
    simp only [Store.edge?_removeEdge, beq_iff_eq]

/-! ## Placeholders -/

/-- A stored vertex that is marked as a placeholder, with no edge at it that is not marked as
deleted. -/
structure RemovablePlaceholder (g : Graph) (id : String) : Prop where
  placeholder : ∃ v, g.store.vertex? id = some v ∧
    v.properties.get? VertexKey.isPlaceholder = some (.boolean true)
  deleted : ∀ k e, g.store.edge? k = some e → k.source = id ∨ k.target = id →
    e.properties.get? RelationKey.isDeleted = some (.boolean true)

theorem isRemovablePlaceholder_iff (h : g.store.Consistent) :
    g.isRemovablePlaceholder id = true ↔ g.RemovablePlaceholder id := by
  have hdeleted : (g.store.incident id .both).all (·.isDeleted) = true ↔
      ∀ k e, g.store.edge? k = some e → k.source = id ∨ k.target = id →
        e.properties.get? RelationKey.isDeleted = some (.boolean true) := by
    simp only [List.all_eq_true, h.mem_incident, Edge.isDeleted, Properties.isTrue_iff,
      Direction.includesOut, Direction.includesIn, true_and]
    constructor
    · intro hall k e he htouches
      obtain rfl := (h.edge he).key_eq
      exact hall e ⟨he, htouches⟩
    · intro hall e he
      exact hall e.key e he.1 he.2
  rw [isRemovablePlaceholder]
  cases hv : g.store.vertex? id with
  | none =>
    constructor
    · intro hfalse
      cases hfalse
    · intro hremovable
      obtain ⟨v, hv', -⟩ := hremovable.placeholder
      rw [hv] at hv'
      cases hv'
  | some v =>
    rw [Bool.and_eq_true, hdeleted, Vertex.isPlaceholder, Properties.isTrue_iff]
    constructor
    · intro hboth
      exact ⟨⟨v, hv, hboth.1⟩, hboth.2⟩
    · intro hremovable
      obtain ⟨w, hw, hplaceholder⟩ := hremovable.placeholder
      rw [hv] at hw
      cases hw
      exact ⟨hplaceholder, hremovable.deleted⟩

theorem deletePlaceholder_of_removable (h : g.store.Consistent)
    (hremovable : g.RemovablePlaceholder id) :
    ∃ g' v, g.removeVertex id = .ok (g', v) ∧ g.Loses (· == id) (·.touches id) g' ∧
      g.deletePlaceholder id = .ok (g', true) := by
  obtain ⟨v, hv, -⟩ := hremovable.placeholder
  obtain ⟨g', hremove, hloses⟩ := removeVertex_loses h hv
  refine ⟨g', v, hremove, hloses, ?_⟩
  rw [deletePlaceholder, if_pos ((isRemovablePlaceholder_iff h).2 hremovable), hremove]
  rfl

theorem deletePlaceholder_of_not_removable (h : g.store.Consistent)
    (hnot : ¬g.RemovablePlaceholder id) : g.deletePlaceholder id = .ok (g, false) := by
  rw [deletePlaceholder, if_neg (mt (isRemovablePlaceholder_iff h).1 hnot)]

/-- An edge that is not marked as deleted stays when a placeholder is removed. -/
theorem Loses.edge_of_removable (hloses : g.Loses (· == id) (·.touches id) g')
    (hremovable : g.RemovablePlaceholder id) {e : Edge} (he : g.store.edge? k = some e)
    (hkept : e.properties.get? RelationKey.isDeleted ≠ some (.boolean true)) :
    g'.store.edge? k = some e := by
  have htouches : ¬k.touches id = true := by
    intro htouches
    exact hkept (hremovable.deleted k e he (EdgeKey.touches_iff.1 htouches))
  rw [hloses.edge, if_neg htouches, he]

/-- **Removal is exact.** A stored vertex is removed with the edges that touch it, each loop once,
and a stored edge is removed alone. All other elements stay as they were, every listing of edges at
a vertex stays but for the edges that are gone, and the removals that are counted grow by what is
lost. Asked to delete a placeholder, a graph never fails: it removes the vertex if it is stored and
marked as a placeholder and every edge at it is marked as deleted, and else it does not change. So
an edge that is not marked as deleted does not go that way. -/
theorem Built.removals_exact (h : g.Built) :
    (∀ id v, g.store.vertex? id = some v →
      ∃ g', g.removeVertex id = .ok (g', v) ∧ g.Loses (· == id) (·.touches id) g') ∧
    (∀ id, g.store.edgesAround id = g.store.edgeList.filter (·.key.touches id)) ∧
    (∀ k e, g.store.edge? k = some e →
      ∃ g', g.removeEdge k = .ok (g', e) ∧ g.Loses (fun _ => false) (· == k) g') ∧
    ∀ id, ∃ g' removed, g.deletePlaceholder id = .ok (g', removed) ∧
      (removed = true ↔ g.RemovablePlaceholder id) ∧
      (removed = true → ∃ v, g.removeVertex id = .ok (g', v)) ∧
      (removed = false → g' = g) ∧
      ∀ k e, g.store.edge? k = some e →
        e.properties.get? RelationKey.isDeleted ≠ some (.boolean true) →
        g'.store.edge? k = some e := by
  have hs := h.consistent
  refine ⟨fun id v => removeVertex_loses hs, hs.edgesAround_eq_scan, fun k e => removeEdge_loses hs,
    fun id => ?_⟩
  by_cases hremovable : g.RemovablePlaceholder id
  · obtain ⟨g', v, hremove, hloses, hdelete⟩ := deletePlaceholder_of_removable hs hremovable
    refine ⟨g', true, hdelete, ?_, ?_, ?_, ?_⟩
    · exact ⟨fun _ => hremovable, fun _ => rfl⟩
    · exact fun _ => ⟨v, hremove⟩
    · exact fun hfalse => nomatch hfalse
    · exact fun k e he hkept => hloses.edge_of_removable hremovable he hkept
  · refine ⟨g, false, deletePlaceholder_of_not_removable hs hremovable, ?_, ?_, ?_, ?_⟩
    · exact ⟨fun hfalse => (nomatch hfalse), fun hyes => absurd hyes hremovable⟩
    · exact fun hfalse => nomatch hfalse
    · exact fun _ => rfl
    · exact fun k e he _ => he

/-- A placeholder goes with its loop and with an edge to another vertex, which keeps its other
edge. -/
theorem Built.removals_exact_loop :
    let p : Vertex := ⟨"p", .ofList [("is_placeholder", .boolean true)], by decide⟩
    let deleted : Properties := .ofList [("is_deleted", .boolean true)]
    let g := (Graph.new "g" none).run
      [.updateVertex p true, .updateEdge ⟨⟨"p", "p", "l"⟩, deleted, by decide⟩ true,
        .updateEdge ⟨⟨"p", "b", "l"⟩, deleted, by decide⟩ true,
        .updateEdge ⟨⟨"b", "c", "l"⟩, .empty, by decide⟩ true]
    g.Built ∧ ∃ g' v, g.store.vertex? "p" = some v ∧ g.removeVertex "p" = .ok (g', v) ∧
      g.deletePlaceholder "p" = .ok (g', true) ∧
      g'.metrics.removals + g'.store.elementCount = 6 ∧
      (g'.edgesAt "b" .both none).map (·.key) = [⟨"b", "c", "l"⟩] := by
  intro p deleted g
  have hg : g.Built := .run (.new "g" none) _
  obtain ⟨hvertex, -, -, hplaceholder⟩ := Built.removals_exact hg
  obtain ⟨v, hv⟩ : ∃ v, g.store.vertex? "p" = some v := Store.hasVertex_iff.1 (by decide)
  obtain ⟨g', hremove, hloses⟩ := hvertex "p" v hv
  obtain ⟨g'', removed, hdelete, hremovable, hsame, -, -⟩ := hplaceholder "p"
  obtain rfl : removed = true :=
    hremovable.2 ((isRemovablePlaceholder_iff hg.consistent).1 (by decide))
  obtain ⟨w, hremove'⟩ := hsame rfl
  rw [hremove] at hremove'
  cases hremove'
  refine ⟨hg, g', v, hv, hremove, hdelete, ?_, ?_⟩
  · rw [hloses.removals]
    decide
  · rw [hloses.edgesAt]
    decide

end Graph

end PropertyGraph
