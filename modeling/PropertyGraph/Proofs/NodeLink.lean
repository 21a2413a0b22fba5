import PropertyGraph.NodeLink.Graph
import PropertyGraph.Proofs.Built
import PropertyGraph.Proofs.Value

/-!
# Export and import

A graph that is exported and imported again has the same vertices and edges: the indices of the
document are exact, no link is lost on the way, and every node and link finds its place empty. Of
the properties it has what comes through JSON.

## Main definitions

- `Properties.readBack`, `Store.readBack` — what export and import make of a bag and of a store
- `Properties.Reread` — the same, key by key
- `Store.Holds` — the values of the stored elements
-/

namespace PropertyGraph

/-! ## Bags -/

namespace Properties

/-- The bag that is read back from the JSON of a bag. -/
def readBack (p : Properties) : Properties := .ofJson (JsonObject.ofMembers p.toJson).members

/-- A bag has what is read back from another one. A double that is not finite is lost, and all
other values are there as they come through JSON. -/
structure Reread (p q : Properties) : Prop where
  missing : ∀ key, q.get? key = none ↔
    p.get? key = none ∨ ∃ x, p.get? key = some (.float x) ∧ x.isFinite = false
  value : ∀ key v w, p.get? key = some v → q.get? key = some w → w = .ofJson v.toJson

/-- The JSON of a bag is canonical, so that a document takes it over as it is. -/
theorem members_ofMembers_toJson (p : Properties) :
    (JsonObject.ofMembers p.toJson).members = p.toJson := by
  change (SortedMap.ofList (Json.canonicalMembers p.toJson)).entries = p.toJson
  rw [toJson, Json.canonicalMembers_eq_self (Value.canonical_of_mem_toJsonEntries p.toList)]
  exact Value.ofList_toJsonEntries p.normalize.entries.increasing

/-- A bag is read back value by value. -/
theorem readBack_eq (p : Properties) :
    p.readBack = ⟨p.normalize.entries.map fun _ v => .ofJson v.toJson⟩ := by
  have hmembers : Value.ofJsonMembers p.toJson =
      (p.normalize.entries.map fun _ v => Value.ofJson v.toJson).entries := by
    rw [toJson, Value.toJsonEntries_eq_map, Value.ofJsonMembers_eq_map, List.map_map]
    rfl
  rw [readBack, members_ofMembers_toJson, ofJson, ofList, hmembers, SortedMap.ofList_entries]

theorem get?_readBack (p : Properties) (k : String) :
    p.readBack.get? k = ((p.get? k).map fun v => .ofJson v.toJson).filter (!·.isUnset) := by
  rw [get?, readBack_eq, SortedMap.get?_map, entries_get?_normalize]

/-- What a bag reads as after export and import. -/
theorem reread_of_get? {p q : Properties} (h : ∀ k, q.get? k = p.readBack.get? k) :
    p.Reread q := by
  refine ⟨fun key => ?_, fun key v w hv hw => ?_⟩
  · rw [h, get?_readBack]
    cases hv : p.get? key with
    | none => simp
    | some v =>
      have hset : v ≠ .unset := fun heq => by
        rw [heq, get?_eq_some_iff] at hv
        cases hv.2
      rw [Option.map_some, Option.filter_eq_none_iff]
      simp [Value.isUnset_ofJson_toJson, hset]
  · rw [h, get?_readBack, hv, Option.map_some, Option.filter_eq_some_iff] at hw
    exact (Option.some.inj hw.1).symm

/-- A bag whose values all come through JSON reads as it was. -/
theorem get?_readBack_of_plain {p : Properties}
    (h : ∀ k x, p.get? k = some x → x.Plain ∧ x.Ordered) (k : String) :
    p.readBack.get? k = p.get? k := by
  rw [get?_readBack]
  cases hx : p.get? k with
  | none => rfl
  | some x =>
    obtain ⟨hplain, hordered⟩ := h k x hx
    have hset : x.isUnset = false := (get?_eq_some_iff.1 hx).2
    rw [Option.map_some, Value.ofJson_toJson x hplain hordered, Option.filter_some, hset]
    rfl

end Properties

/-! ## Elements -/

/-- The vertex that is read back from the node of a vertex. -/
def Vertex.readBack (v : Vertex) : Vertex := v.withProperties v.properties.readBack

/-- The edge that is read back from the link of an edge. -/
def Edge.readBack (e : Edge) : Edge := (e.withProperties e.properties.readBack).syncLabel

/-- The store after export and import. -/
def Store.readBack (s : Store) : Store where
  vertices := s.vertices.map fun _ v => Graph.mergedVertex none v.readBack true
  edges := s.edges.map fun _ e => Graph.mergedEdge none e.readBack true
  outgoing := s.outgoing
  incoming := s.incoming

/-- A stored element has a value under some key. -/
inductive Store.Holds (s : Store) (x : Value) : Prop
  | vertex {id key : String} {v : Vertex} :
      s.vertex? id = some v → v.properties.get? key = some x → Holds s x
  | edge {k : EdgeKey} {key : String} {e : Edge} :
      s.edge? k = some e → e.properties.get? key = some x → Holds s x

namespace NodeLink

variable {g : Graph} {indices : Indices}

/-! ## Nodes -/

theorem addNode_ofVertex {v : Vertex} {i : Nat} (hnew : indices.contains (UInt64.ofNat i) = false) :
    addNode (g, indices) (.ofVertex v i) =
      .ok ((g.updateVertex v.readBack true).1, indices.insert (UInt64.ofNat i) v.id) := by
  have hindex : ¬indices.contains (Node.ofVertex v i).index = true := by
    rw [Node.ofVertex, hnew]
    exact Bool.false_ne_true
  rw [addNode, if_neg hindex, Node.ofVertex, Vertex.new?, dif_pos v.named]
  rfl

/-- Nodes with different indices are added one after the other. -/
theorem foldlM_addNode {l : List (Vertex × Nat)}
    (hnodup : (l.map fun e => UInt64.ofNat e.2).Nodup)
    (hnew : ∀ e ∈ l, indices.contains (UInt64.ofNat e.2) = false) :
    (l.map fun e => Node.ofVertex e.1 e.2).foldlM addNode (g, indices) =
      .ok ((g.updateVertices (l.map fun e => e.1.readBack)).1,
        (l.map fun e => (UInt64.ofNat e.2, e.1.id)).foldl (fun m e => m.insert e.1 e.2) indices) := by
  induction l generalizing g indices with
  | nil => rfl
  | cons e rest ih =>
    obtain ⟨he, hrest⟩ := List.nodup_cons.1 hnodup
    -- the index of the first node is taken now, but no later node has it
    have hnew' : ∀ f ∈ rest,
        (indices.insert (UInt64.ofNat e.2) e.1.id).contains (UInt64.ofNat f.2) = false := by
      intro f hf
      rw [Bool.eq_false_iff]
      intro hin
      rcases SortedMap.contains_insert.1 hin with heq | hin
      · exact he (List.mem_map.2 ⟨f, hf, heq⟩)
      · rw [hnew f (List.mem_cons_of_mem _ hf)] at hin
        cases hin
    rw [List.map_cons, List.foldlM_cons, addNode_ofVertex (hnew e List.mem_cons_self)]
    exact ih hrest hnew'

/-- Up to the number of machine words, the indices of nodes differ. -/
theorem nodup_indices {vertices : List Vertex} (hsize : vertices.length ≤ UInt64.size) :
    (vertices.zipIdx.map fun e => UInt64.ofNat e.2).Nodup := by
  have hrange : (vertices.zipIdx.map fun e => UInt64.ofNat e.2) =
      (List.range' 0 vertices.length).map UInt64.ofNat := by
    rw [← List.zipIdx_map_snd, List.map_map]
    rfl
  rw [hrange, List.nodup_iff_pairwise_ne, List.pairwise_map]
  refine List.Pairwise.imp_of_mem (fun {a b} ha hb hlt heq => ?_) List.pairwise_lt_range'
  have ha' : a < UInt64.size := by
    have := (List.mem_range'_1.1 ha).2
    omega
  have hb' : b < UInt64.size := by
    have := (List.mem_range'_1.1 hb).2
    omega
  have hnat := congrArg UInt64.toNat heq
  rw [UInt64.toNat_ofNat_of_lt' ha', UInt64.toNat_ofNat_of_lt' hb'] at hnat
  omega

/-- What an index stands for when all nodes have been added. -/
theorem get?_indices {vertices : List Vertex} (hsize : vertices.length ≤ UInt64.size) {i : Nat}
    {id : String} (hid : (vertices.map (·.id))[i]? = some id) :
    (SortedMap.ofList (vertices.zipIdx.map fun e => (UInt64.ofNat e.2, e.1.id))).get?
      (UInt64.ofNat i) = some id := by
  rw [List.getElem?_map, Option.map_eq_some_iff] at hid
  obtain ⟨v, hv, rfl⟩ := hid
  have hmem : (v, i) ∈ vertices.zipIdx := List.mem_zipIdx_iff_getElem?.2 hv
  refine SortedMap.get?_ofList_of_mem ?_ (List.mem_map.2 ⟨(v, i), hmem, rfl⟩)
  rw [List.map_map]
  exact nodup_indices hsize

/-! ## Links -/

/-- A link is resolved to the edge that it was made of. -/
theorem addLink_ofEdge? {ids : List String} {e : Edge} (hsource : e.key.source ∈ ids)
    (htarget : e.key.target ∈ ids)
    (hindices : ∀ i id, ids[i]? = some id → indices.get? (UInt64.ofNat i) = some id) :
    ∃ l, Link.ofEdge? ids e = some l ∧
      ∀ g : Graph, addLink indices g l = .ok (g.updateEdge e.readBack true).1 := by
  have hindex : ∀ id ∈ ids, ∃ i, ids.idxOf? id = some i ∧
      resolve indices (UInt64.ofNat i) = .ok id := by
    intro id hid
    obtain ⟨i, hi⟩ := Option.isSome_iff_exists.1 (List.isSome_idxOf?.2 hid)
    obtain ⟨hlt, hget, -⟩ := List.idxOf?_eq_some_iff.1 hi
    refine ⟨i, hi, ?_⟩
    rw [resolve, hindices i id (hget ▸ List.getElem?_eq_getElem hlt)]
  obtain ⟨i, hi, hresolve⟩ := hindex _ hsource
  obtain ⟨j, hj, hresolve'⟩ := hindex _ htarget
  refine ⟨⟨UInt64.ofNat i, UInt64.ofNat j, e.key.label, .ofMembers e.properties.toJson⟩, ?_,
    fun g => ?_⟩
  · rw [Link.ofEdge?, hi, hj]
    rfl
  · rw [addLink, hresolve, hresolve']
    change (Edge.new? e.key e.properties.readBack >>= _) = _
    rw [Edge.new?, dif_pos e.named.1, dif_pos e.named.2.1, dif_pos e.named.2.2]
    rfl

/-- Links between exported nodes are all kept, and added one after the other. -/
theorem foldlM_addLink {ids : List String}
    (hindices : ∀ i id, ids[i]? = some id → indices.get? (UInt64.ofNat i) = some id)
    {edges : List Edge} (hends : ∀ e ∈ edges, e.key.source ∈ ids ∧ e.key.target ∈ ids) :
    (edges.filterMap (Link.ofEdge? ids)).length = edges.length ∧
      ∀ g : Graph, (edges.filterMap (Link.ofEdge? ids)).foldlM (addLink indices) g =
        .ok (g.updateEdges (edges.map (·.readBack))).1 := by
  induction edges with
  | nil => exact ⟨rfl, fun g => rfl⟩
  | cons e rest ih =>
    obtain ⟨⟨hsource, htarget⟩, hrest⟩ := List.forall_mem_cons.1 hends
    obtain ⟨l, hl, hadd⟩ := addLink_ofEdge? hsource htarget hindices
    obtain ⟨hlength, hfold⟩ := ih hrest
    rw [List.filterMap_cons_some hl]
    refine ⟨congrArg Nat.succ hlength, fun g => ?_⟩
    rw [List.foldlM_cons, hadd]
    exact hfold _

end NodeLink

/-! ## Updates of elements that are new -/

namespace Graph

variable {s : Store}

theorem storeVertex_of_new {v : Vertex} (h : s.vertex? v.id = none) (overwrite : Bool) :
    storeVertex s v overwrite = s.insertVertex (mergedVertex none v overwrite) := by
  rw [storeVertex, h, if_neg (Bool.eq_false_iff.1 (Store.hasVertex_eq_false_iff.2 h))]

theorem storeEdge_of_new {e : Edge} (h : s.edge? e.key = none) (overwrite : Bool) :
    storeEdge s e overwrite = s.insertEdge (mergedEdge none e overwrite) := by
  rw [storeEdge, h, if_neg (Bool.eq_false_iff.1 (Store.containsEdge_eq_false_iff.2 h))]

theorem foldl_storeVertex_of_new {vertices : List Vertex} (hnodup : (vertices.map (·.id)).Nodup)
    (hnew : ∀ v ∈ vertices, s.vertex? v.id = none) :
    vertices.foldl (fun s v => storeVertex s v true) s =
      (vertices.map (mergedVertex none · true)).foldl Store.insertVertex s := by
  induction vertices generalizing s with
  | nil => rfl
  | cons v rest ih =>
    obtain ⟨hv, hrest⟩ := List.nodup_cons.1 hnodup
    rw [List.foldl_cons, List.map_cons, List.foldl_cons,
      storeVertex_of_new (hnew v List.mem_cons_self)]
    refine ih hrest fun w hw => ?_
    rw [Store.vertex?_insertVertex, if_neg]
    · exact hnew w (List.mem_cons_of_mem _ hw)
    · exact fun heq => hv (List.mem_map.2 ⟨w, hw, heq⟩)

theorem foldl_storeEdge_of_new {edges : List Edge} (hnodup : (edges.map (·.key)).Nodup)
    (hnew : ∀ e ∈ edges, s.edge? e.key = none) :
    edges.foldl (fun s e => storeEdge s e true) s =
      (edges.map (mergedEdge none · true)).foldl Store.insertEdge s := by
  induction edges generalizing s with
  | nil => rfl
  | cons e rest ih =>
    obtain ⟨he, hrest⟩ := List.nodup_cons.1 hnodup
    rw [List.foldl_cons, List.map_cons, List.foldl_cons,
      storeEdge_of_new (hnew e List.mem_cons_self)]
    refine ih hrest fun f hf => ?_
    rw [Store.edge?_insertEdge, if_neg]
    · exact hnew f (List.mem_cons_of_mem _ hf)
    · exact fun heq => he (List.mem_map.2 ⟨f, hf, heq⟩)

end Graph

/-! ## The store after import -/

namespace Store

variable {s : Store}

theorem vertex?_readBack (s : Store) (id : String) :
    s.readBack.vertex? id = (s.vertex? id).map (Graph.mergedVertex none ·.readBack true) :=
  SortedMap.get?_map ..

theorem edge?_readBack (s : Store) (k : EdgeKey) :
    s.readBack.edge? k = (s.edge? k).map (Graph.mergedEdge none ·.readBack true) :=
  SortedMap.get?_map ..

theorem hasVertex_readBack (s : Store) (id : String) : s.readBack.hasVertex id = s.hasVertex id :=
  SortedMap.contains_map ..

theorem containsEdge_readBack (s : Store) (k : EdgeKey) :
    s.readBack.edges.contains k = s.edges.contains k :=
  SortedMap.contains_map ..

/-- The indices of a store do not depend on its properties. -/
theorem Indexed.readBack (h : s.Indexed) : s.readBack.Indexed := by
  have hvertices : ∀ id, s.readBack.vertices.contains id = true ↔ s.vertices.contains id = true :=
    fun id => iff_of_eq (congrArg (· = true) (hasVertex_readBack s id))
  have hedges : ∀ k, s.readBack.edges.contains k = true ↔ s.edges.contains k = true :=
    fun k => iff_of_eq (congrArg (· = true) (containsEdge_readBack s k))
  refine ⟨⟨h.outgoing.congr hvertices hedges, h.incoming.congr hvertices hedges⟩, ?_, ?_⟩
  · exact fun k hk => (hvertices _).2 (h.source_stored k ((hedges k).1 hk))
  · exact fun k hk => (hvertices _).2 (h.target_stored k ((hedges k).1 hk))

/-- The nodes make up the vertices. -/
theorem Consistent.vertex?_foldl_readBack (h : s.Consistent) (id : String) :
    ((s.vertexList.map (·.readBack)).foldl (fun s v => Graph.storeVertex s v true) .empty).vertex?
      id = s.readBack.vertex? id := by
  have hids : (s.vertexList.map (·.readBack)).map (·.id) = s.vertices.keys := by
    rw [List.map_map]
    exact h.map_id_vertexList
  have hstored : ∀ v ∈ (s.vertexList.map (·.readBack)).map (Graph.mergedVertex none · true),
      s.readBack.vertex? v.id = some v := by
    intro v hv
    rw [List.map_map] at hv
    obtain ⟨w, hw, rfl⟩ := List.mem_map.1 hv
    have hstored := (h.storedUnder_of_mem_vertexList hw).1
    change s.readBack.vertex? w.id = _
    rw [vertex?_readBack, hstored]
    rfl
  rw [Graph.foldl_storeVertex_of_new (hids ▸ SortedMap.nodup_keys _) fun _ _ => rfl,
    vertex?_foldl_insertVertex hstored]
  have hmem : id ∈ ((s.vertexList.map (·.readBack)).map (Graph.mergedVertex none · true)).map (·.id) ↔
      s.readBack.hasVertex id = true := by
    rw [List.map_map, hasVertex_readBack, ← mem_vertexIds, vertexIds, ← hids]
    rfl
  split
  · rfl
  · rename_i hnot
    rw [hmem, Bool.not_eq_true, hasVertex_eq_false_iff] at hnot
    exact hnot.symm

/-- **What import stores** is the exported store, read back. -/
theorem Consistent.foldl_readBack (h : s.Consistent) :
    (s.edgeList.map (·.readBack)).foldl (fun s e => Graph.storeEdge s e true)
      ((s.vertexList.map (·.readBack)).foldl (fun s v => Graph.storeVertex s v true) .empty) =
      s.readBack := by
  have hnodes := Graph.foldl_storeVertex_consistent .empty (s.vertexList.map (·.readBack))
  have hvertex := h.vertex?_foldl_readBack
  have hedge : ∀ k, ((s.vertexList.map (·.readBack)).foldl (fun s v => Graph.storeVertex s v true)
      .empty).edge? k = none :=
    fun k => Graph.edge?_foldl_storeVertex _ _ k
  generalize (s.vertexList.map (·.readBack)).foldl (fun s v => Graph.storeVertex s v true) .empty =
    t at hnodes hvertex hedge ⊢
  have hkeys : (s.edgeList.map (·.readBack)).map (·.key) = s.edges.keys := by
    rw [List.map_map]
    exact h.map_key_edgeList
  have hstored : ∀ e ∈ (s.edgeList.map (·.readBack)).map (Graph.mergedEdge none · true),
      s.readBack.edge? e.key = some e := by
    intro e he
    rw [List.map_map] at he
    obtain ⟨f, hf, rfl⟩ := List.mem_map.1 he
    have hstored := (h.storedUnder_of_mem_edgeList hf).1
    change s.readBack.edge? f.key = _
    rw [edge?_readBack, hstored]
    rfl
  -- both endpoints of a link are among the nodes
  have hends : ∀ e ∈ (s.edgeList.map (·.readBack)).map (Graph.mergedEdge none · true),
      t.hasVertex e.key.source = true ∧ t.hasVertex e.key.target = true := by
    intro e he
    have hkey := containsEdge_of_edge? (hstored e he)
    rw [hasVertex_iff, hasVertex_iff, hvertex, hvertex, ← hasVertex_iff, ← hasVertex_iff]
    exact ⟨h.toIndexed.readBack.source_stored _ hkey, h.toIndexed.readBack.target_stored _ hkey⟩
  refine (Graph.foldl_storeEdge_consistent hnodes _).ext h.toIndexed.readBack ?_ ?_
  · intro id
    rw [Graph.foldl_storeEdge_of_new (hkeys ▸ SortedMap.nodup_keys _) fun _ _ => hedge _,
      vertex?_foldl_insertEdge hends, hvertex]
  · intro k
    have hmem : k ∈ ((s.edgeList.map (·.readBack)).map (Graph.mergedEdge none · true)).map (·.key) ↔
        s.readBack.edges.contains k = true := by
      rw [List.map_map, containsEdge_readBack, ← SortedMap.mem_keys_iff, ← hkeys]
      rfl
    rw [Graph.foldl_storeEdge_of_new (hkeys ▸ SortedMap.nodup_keys _) fun _ _ => hedge _,
      edge?_foldl_insertEdge hstored, hedge]
    split
    · rfl
    · rename_i hnot
      rw [hmem, Bool.not_eq_true, containsEdge_eq_false_iff] at hnot
      exact hnot.symm

end Store

/-! ## What the elements have -/

namespace Graph

theorem get?_mergedVertex_readBack (v : Vertex) (k : String) :
    (mergedVertex none v.readBack true).properties.get? k = v.properties.readBack.get? k :=
  Properties.get?_normalize _ k

/-- The label of a stored edge is read back as it was, and so putting it back changes nothing. -/
theorem get?_mergedEdge_readBack {e : Edge} {key : EdgeKey} (he : e.StoredUnder key) (k : String) :
    (mergedEdge none e.readBack true).properties.get? k = e.properties.readBack.get? k := by
  -- import puts the label back twice, when the edge is built and when it is stored
  change (((e.properties.readBack.set RelationKey.relationshipType
    (.string e.key.label)).normalize).set RelationKey.relationshipType
      (.string e.key.label)).get? k = _
  rw [Properties.get?_set rfl, Properties.get?_normalize, Properties.get?_set rfl]
  split
  · rename_i hk
    rw [hk, Properties.get?_readBack, he.label, he.key_eq]
    rfl
  · rfl

/-- A stored vertex whose values all come through JSON is read back as it was. -/
theorem mergedVertex_readBack_eq {v : Vertex} {id : String} (hv : v.StoredUnder id)
    (h : ∀ k x, v.properties.get? k = some x → x.Plain ∧ x.Ordered) :
    mergedVertex none v.readBack true = v := by
  have hfree := (mergedVertex_storedUnder .empty v.readBack true).markerFree
  have hbag : (mergedVertex none v.readBack true).properties = v.properties := by
    refine Properties.MarkerFree.ext hfree hv.markerFree fun k => ?_
    rw [get?_mergedVertex_readBack, Properties.get?_readBack_of_plain h]
  change v.withProperties (mergedVertex none v.readBack true).properties = v
  rw [hbag]
  rfl

/-- A stored edge whose values all come through JSON is read back as it was. -/
theorem mergedEdge_readBack_eq {e : Edge} {key : EdgeKey} (he : e.StoredUnder key)
    (h : ∀ k x, e.properties.get? k = some x → x.Plain ∧ x.Ordered) :
    mergedEdge none e.readBack true = e := by
  have hfree := (mergedEdge_storedUnder .empty e.readBack true).markerFree
  have hbag : (mergedEdge none e.readBack true).properties = e.properties := by
    refine Properties.MarkerFree.ext hfree he.markerFree fun k => ?_
    rw [get?_mergedEdge_readBack he, Properties.get?_readBack_of_plain h]
  change e.withProperties (mergedEdge none e.readBack true).properties = e
  rw [hbag]
  rfl

end Graph

/-- A store whose values all come through JSON is read back as it was. -/
theorem Store.Consistent.readBack_eq_self {s : Store} (h : s.Consistent)
    (hvalues : ∀ x, s.Holds x → x.Plain ∧ x.Ordered) :
    s.readBack = s := by
  refine h.toIndexed.readBack.ext h.toIndexed (fun id => ?_) fun k => ?_
  · rw [Store.vertex?_readBack]
    cases hv : s.vertex? id with
    | none => rfl
    | some v =>
      have heq := Graph.mergedVertex_readBack_eq (h.vertex hv) fun k x hx => hvalues x (.vertex hv hx)
      rw [Option.map_some, heq]
  · rw [Store.edge?_readBack]
    cases he : s.edge? k with
    | none => rfl
    | some e =>
      have heq := Graph.mergedEdge_readBack_eq (h.edge he) fun k x hx => hvalues x (.edge he hx)
      rw [Option.map_some, heq]

/-! ## Export and import -/

namespace NodeLink

theorem toGraph_eq_ok {d : Document} {g g' : Graph} {indices : Indices}
    (hnodes : d.nodes.foldlM addNode
      (Graph.new (d.attributes.name.getD defaultGraphName) d.attributes.root, .empty) =
        .ok (g, indices))
    (hlinks : d.links.foldlM (addLink indices) g = .ok g') :
    d.toGraph = .ok (g', ⟨d.nodes.length, d.links.length⟩) := by
  rw [Document.toGraph, hnodes]
  change (d.links.foldlM (addLink indices) g >>= _) = _
  rw [hlinks]
  rfl

/-- Export and import update an empty graph with what is read back of all vertices and all
edges. -/
theorem toGraph_ofGraph_eq {g : Graph} (h : g.store.Consistent)
    (hsize : g.store.vertices.size ≤ UInt64.size) :
    (Document.ofGraph g).toGraph =
      .ok ((((Graph.new g.name g.root).updateVertices
        (g.store.vertexList.map (·.readBack))).1.updateEdges
          (g.store.edgeList.map (·.readBack))).1,
        ⟨g.store.vertices.size, g.store.edges.size⟩) := by
  have hlength : g.store.vertexList.length = g.store.vertices.size := List.length_map _
  have hvertices : (g.store.vertexList.zipIdx.map fun e => e.1.readBack) =
      g.store.vertexList.map (·.readBack) := by
    rw [← List.zipIdx_map_fst 0 g.store.vertexList, List.map_map, List.zipIdx_map_fst]
    rfl
  have hnodes := foldlM_addNode (g := Graph.new g.name g.root)
    (nodup_indices (hlength ▸ hsize)) fun _ _ => SortedMap.contains_empty _
  rw [hvertices] at hnodes
  have hends : ∀ e ∈ g.store.edgeList, e.key.source ∈ g.store.vertexList.map (·.id) ∧
      e.key.target ∈ g.store.vertexList.map (·.id) := by
    intro e he
    have hkey := Store.containsEdge_of_edge? (h.storedUnder_of_mem_edgeList he).1
    rw [h.map_id_vertexList]
    exact ⟨Store.mem_vertexIds.2 (h.source_stored _ hkey),
      Store.mem_vertexIds.2 (h.target_stored _ hkey)⟩
  obtain ⟨hlinks, hfold⟩ := foldlM_addLink
    (fun i id hid => get?_indices (hlength ▸ hsize) hid) hends
  have hnodesLength : (Document.ofGraph g).nodes.length = g.store.vertices.size := by
    rw [Document.ofGraph, List.length_map, List.length_zipIdx, hlength]
  have hlinksLength : (Document.ofGraph g).links.length = g.store.edges.size :=
    hlinks.trans (List.length_map _)
  have himported := toGraph_eq_ok (d := Document.ofGraph g) hnodes (hfold _)
  rw [himported, hnodesLength, hlinksLength]

end NodeLink

namespace Graph

variable {g : Graph}

/-- **Export and import** give a graph with the name, the root and the store of the exported one,
the properties read back. -/
theorem exists_toGraph_ofGraph (h : g.store.Consistent)
    (hsize : g.store.vertices.size ≤ UInt64.size) :
    ∃ imported, (NodeLink.Document.ofGraph g).toGraph =
        .ok (imported, ⟨g.store.vertices.size, g.store.edges.size⟩) ∧
      imported.name = g.name ∧ imported.root = g.root ∧ imported.store = g.store.readBack := by
  obtain ⟨first, hfirst⟩ :=
    updateVertices_fst (Graph.new g.name g.root) (g.store.vertexList.map (·.readBack))
  obtain ⟨metrics, hlast⟩ :=
    updateEdges_fst ((Graph.new g.name g.root).updateVertices (g.store.vertexList.map (·.readBack))).1
      (g.store.edgeList.map (·.readBack))
  refine ⟨_, NodeLink.toGraph_ofGraph_eq h hsize, ?_, ?_, ?_⟩
  · rw [hlast, hfirst]
    rfl
  · rw [hlast, hfirst]
    rfl
  · rw [hlast, hfirst]
    exact h.foldl_readBack

/-- **The round trip of a graph.** Unless a graph has more vertices than there are machine words
to number them, its document is imported, and every node and every link counts. The graph that
is imported has the same name and root, the same vertices and the same edges. A property is lost
just if it is a double that is not finite, and otherwise has the value that is read back from its
JSON. So nothing at all changes if no timestamp and no such double stands inside any value and
the entries of maps are in key order. (They are in every graph built from such maps, and a graph
that was imported has no values of the other kinds either: see `StoredValues`.) -/
theorem Built.roundTrip (hg : g.Built) (hsize : g.store.vertices.size ≤ UInt64.size) :
    ∃ imported, (NodeLink.Document.ofGraph g).toGraph =
        .ok (imported, ⟨g.store.vertices.size, g.store.edges.size⟩) ∧
      imported.name = g.name ∧ imported.root = g.root ∧
      imported.store.vertices.keys = g.store.vertices.keys ∧
      imported.store.edges.keys = g.store.edges.keys ∧
      (∀ id v w, g.store.vertex? id = some v → imported.store.vertex? id = some w →
        v.properties.Reread w.properties) ∧
      (∀ k e f, g.store.edge? k = some e → imported.store.edge? k = some f →
        e.properties.Reread f.properties) ∧
      ((∀ x, g.store.Holds x → x.Plain ∧ x.Ordered) → imported.store = g.store) := by
  have hs := hg.consistent
  obtain ⟨imported, htoGraph, hname, hroot, hstore⟩ := exists_toGraph_ofGraph hs hsize
  refine ⟨imported, htoGraph, hname, hroot, ?_, ?_, ?_, ?_, ?_⟩
  · rw [hstore]
    exact SortedMap.keys_map ..
  · rw [hstore]
    exact SortedMap.keys_map ..
  · intro id v w hv hw
    rw [hstore, Store.vertex?_readBack, hv] at hw
    cases hw
    exact Properties.reread_of_get? (get?_mergedVertex_readBack v)
  · intro k e f he hf
    rw [hstore, Store.edge?_readBack, he] at hf
    cases hf
    exact Properties.reread_of_get? (get?_mergedEdge_readBack (hs.edge he))
  · intro hvalues
    rw [hstore, hs.readBack_eq_self hvalues]

/-- A deletion marker inside a list comes back from import as it was. -/
theorem Built.roundTrip_nested_unset :
    let v : Vertex := ⟨"a", .ofList [("x", .list [.unset])], by decide⟩
    let g := (Graph.new "g" none).run [.updateVertex v false]
    g.Built ∧ g.store.vertices.size ≤ UInt64.size ∧
      ∃ imported, (NodeLink.Document.ofGraph g).toGraph = .ok (imported, ⟨1, 0⟩) ∧
        imported.store = g.store := by
  intro v g
  have hg : g.Built := .run (.new "g" none) _
  have hsize : g.store.vertices.size ≤ UInt64.size := by decide
  have hinside : ∀ {x : Value}, x.Inside (.list [.unset]) → x = .list [.unset] ∨ x = .unset := by
    intro x hx
    cases hx with
    | self => exact .inl rfl
    | item hmem hx =>
      obtain rfl := List.mem_singleton.1 hmem
      cases hx
      exact .inr rfl
  have hvalue : (Value.list [.unset]).Plain ∧ (Value.list [.unset]).Ordered := by
    refine ⟨⟨fun t ht => ?_, fun x hx => ?_⟩, fun entries he => ?_⟩
    · simpa using hinside ht
    · simpa using hinside hx
    · simpa using hinside he
  have hvalues : ∀ x, g.store.Holds x → x.Plain ∧ x.Ordered := by
    intro x hx
    cases hx with
    | @vertex id key w hw hx =>
      change (if id = "a" then some v else none) = some w at hw
      split at hw
      · cases hw
        rw [Properties.get?_eq_some_iff] at hx
        have hx := hx.1
        change (if key = "x" then some (Value.list [.unset]) else none) = some x at hx
        split at hx
        · cases hx
          exact hvalue
        · cases hx
      · cases hw
    | edge he => cases he
  obtain ⟨imported, himported, -, -, -, -, -, -, hstore⟩ := Built.roundTrip hg hsize
  exact ⟨hg, hsize, imported, himported, hstore hvalues⟩

end Graph

end PropertyGraph
