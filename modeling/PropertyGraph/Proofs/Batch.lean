import PropertyGraph.Proofs.Built

/-!
# Changes that follow one another

A merge acts key by key, so the order in which the entries of a change are visited does not matter,
and a change that is applied again finds nothing left to do. Two changes that may overwrite can be
put together beforehand: where both have an entry for a key, be it a value or a marker, the later
one counts. So a series of updates of one element can be stored as a single update.

## Main definitions

- `Properties.andThen` — two changes as one
-/

namespace PropertyGraph

/-! ## One key -/

theorem mergedValue_mergedValue_self (stored change : Option Value) (overwrite : Bool) :
    mergedValue (mergedValue stored change overwrite) change overwrite =
      mergedValue stored change overwrite := by
  cases change with
  | none => rfl
  | some v =>
    cases hv : v.isUnset with
    | true => simp [mergedValue, hv]
    | false =>
      -- a value that was not let in the first time finds the same value in its place again
      by_cases hlet : (overwrite || stored.isNone) = true
      · simp [mergedValue, hv, hlet]
      · simp [mergedValue, hv, hlet]

/-- Of two changes that may overwrite, the later one decides where it has an entry. -/
theorem mergedValue_mergedValue (stored first later : Option Value) :
    mergedValue (mergedValue stored first true) later true =
      mergedValue stored (later.or first) true := by
  cases later with
  | none => rfl
  | some v =>
    cases hv : v.isUnset with
    | true => simp [mergedValue, hv]
    | false => simp [mergedValue, hv]

namespace Properties

variable {p q : Properties}

/-- Two changes as one: where both have an entry for a key, the later one's counts. -/
def andThen (p q : Properties) : Properties :=
  ⟨q.entries.entries.foldl (fun m e => m.insert e.1 e.2) p.entries⟩

theorem entries_get?_andThen (p q : Properties) (k : String) :
    (p.andThen q).entries.get? k = (q.entries.get? k).or (p.entries.get? k) :=
  SortedMap.get?_foldl_insert (SortedMap.nodup_keys q.entries) p.entries k

/-! ## Merging -/

/-- The entries of a change may be visited in any order. -/
theorem normalize_foldl_mergeEntry {visited : List (String × Value)}
    (h : visited.Perm p.entries.entries) (b : Properties) (overwrite : Bool) :
    (visited.foldl (mergeEntry overwrite) b).normalize = b.merge p overwrite := by
  have hkeys : (p.entries.entries.map (·.1)).Nodup := SortedMap.nodup_keys p.entries
  have hvisited : (visited.map (·.1)).Nodup := (h.map _).nodup_iff.2 hkeys
  refine (markerFree_normalize _).ext (markerFree_merge b p overwrite) fun k => ?_
  have hsame : SortedMap.lookupIn k visited = p.entries.get? k :=
    SortedMap.lookupIn_perm hkeys h k
  rw [get?_normalize, get?_foldl_mergeEntry overwrite hvisited, hsame, get?_merge]

theorem merge_merge_self (b p : Properties) (overwrite : Bool) :
    (b.merge p overwrite).merge p overwrite = b.merge p overwrite := by
  refine (markerFree_merge _ _ _).ext (markerFree_merge _ _ _) fun k => ?_
  rw [get?_merge, get?_merge, mergedValue_mergedValue_self]

theorem merge_andThen (b p q : Properties) :
    (b.merge p true).merge q true = b.merge (p.andThen q) true := by
  refine (markerFree_merge _ _ _).ext (markerFree_merge _ _ _) fun k => ?_
  rw [get?_merge, get?_merge, get?_merge, mergedValue_mergedValue, entries_get?_andThen]

/-- The bag of a new element is a merge into no properties. -/
theorem normalize_eq_merge (p : Properties) (overwrite : Bool) :
    p.normalize = empty.merge p overwrite := by
  refine (markerFree_normalize p).ext (markerFree_merge _ _ _) fun k => ?_
  rw [(markerFree_normalize p).get?_eq, entries_get?_normalize_eq_merged p overwrite, get?_merge,
    get?_empty]

/-- A value that is put back after every change need not be put back in between. -/
theorem set_merge_set {v : Value} (hv : v.isUnset = false) (key : String) (b q : Properties) :
    ((b.set key v).merge q true).set key v = (b.merge q true).set key v := by
  refine ((markerFree_merge _ _ _).set hv).ext ((markerFree_merge _ _ _).set hv) fun k => ?_
  rw [get?_set hv, get?_set hv]
  by_cases hk : k = key
  · rw [if_pos hk, if_pos hk]
  · rw [if_neg hk, if_neg hk, get?_merge, get?_merge, get?_set hv, if_neg hk]

end Properties

/-! ## Replacing what has just been inserted -/

namespace Store.Indexed

variable {s : Store}

theorem insertVertex_insertVertex (h : s.Indexed) {v w : Vertex} (hid : w.id = v.id) :
    (s.insertVertex v).insertVertex w = s.insertVertex w := by
  refine ((h.insertVertex v).insertVertex w).ext (h.insertVertex w) (fun id => ?_) fun k => ?_
  · rw [vertex?_insertVertex, vertex?_insertVertex, vertex?_insertVertex, hid]
    by_cases hv : id = v.id
    · rw [if_pos hv, if_pos hv]
    · rw [if_neg hv, if_neg hv, if_neg hv]
  · rw [edge?_insertVertex, edge?_insertVertex, edge?_insertVertex]

theorem insertEdge_insertEdge (h : s.Indexed) {e f : Edge} (hkey : f.key = e.key) :
    (s.insertEdge e).insertEdge f = s.insertEdge f := by
  obtain ⟨key, p, named⟩ := e
  obtain ⟨key', q, named'⟩ := f
  obtain rfl : key' = key := hkey
  refine ((h.insertEdge _).insertEdge _).ext (h.insertEdge _) (fun id => ?_) fun k => ?_
  · -- the first insertion has brought the endpoints along
    rw [vertex?_insertEdge, vertex?_insertEdge, vertex?_insertEdge]
    cases s.vertex? id with
    | some v => rfl
    | none => by_cases hs : id = key'.source <;> by_cases ht : id = key'.target <;>
        simp [hs, ht, Edge.sourceVertex, Edge.targetVertex]
  · rw [edge?_insertEdge, edge?_insertEdge, edge?_insertEdge]
    by_cases hk : k = key'
    · rw [if_pos hk, if_pos hk]
    · rw [if_neg hk, if_neg hk, if_neg hk]

end Store.Indexed

/-! ## Elements -/

namespace Graph

variable {s : Store}

theorem mergedVertex_andThen (stored : Option Vertex) (v : Vertex) (change : Properties) :
    mergedVertex (some (mergedVertex stored v true)) (v.withProperties change) true =
      mergedVertex stored (v.withProperties (v.properties.andThen change)) true := by
  cases stored with
  | some old =>
    have hbag := Properties.merge_andThen old.properties v.properties change
    exact congrArg old.withProperties hbag
  | none =>
    have hbag : v.properties.normalize.merge change true =
        (v.properties.andThen change).normalize := by
      rw [Properties.normalize_eq_merge _ true, Properties.normalize_eq_merge _ true,
        Properties.merge_andThen]
    exact congrArg v.withProperties hbag

theorem mergedEdge_andThen (stored : Option Edge) (e : Edge) (change : Properties) :
    mergedEdge (some (mergedEdge stored e true)) (e.withProperties change) true =
      mergedEdge stored (e.withProperties (e.properties.andThen change)) true := by
  -- the label is put back after either change
  cases stored with
  | some old =>
    have hbag : (((old.properties.merge e.properties true).set RelationKey.relationshipType
          (.string old.key.label)).merge change true).set RelationKey.relationshipType
            (.string old.key.label) =
        (old.properties.merge (e.properties.andThen change) true).set
          RelationKey.relationshipType (.string old.key.label) := by
      rw [Properties.set_merge_set rfl, Properties.merge_andThen]
    exact congrArg old.withProperties hbag
  | none =>
    have hbag : ((e.properties.normalize.set RelationKey.relationshipType
          (.string e.key.label)).merge change true).set RelationKey.relationshipType
            (.string e.key.label) =
        (e.properties.andThen change).normalize.set RelationKey.relationshipType
          (.string e.key.label) := by
      rw [Properties.set_merge_set rfl, Properties.normalize_eq_merge _ true,
        Properties.normalize_eq_merge _ true, Properties.merge_andThen]
    exact congrArg e.withProperties hbag

/-! ## Stores -/

/-- A vertex that is updated twice is stored as by one update. -/
theorem storeVertex_andThen (h : s.Consistent) (v : Vertex) (change : Properties) :
    storeVertex (storeVertex s v true) (v.withProperties change) true =
      storeVertex s (v.withProperties (v.properties.andThen change)) true := by
  let first := mergedVertex (s.vertex? v.id) v true
  let both := mergedVertex (s.vertex? v.id) (v.withProperties (v.properties.andThen change)) true
  have hfirst : storeVertex s v true = s.insertVertex first := storeVertex_eq_insertVertex h v true
  have hconsistent : (s.insertVertex first).Consistent := hfirst ▸ storeVertex_consistent h v true
  have hid : first.id = v.id := (mergedVertex_storedUnder h v true).id_eq
  have hboth : both.id = v.id :=
    (mergedVertex_storedUnder h (v.withProperties (v.properties.andThen change)) true).id_eq
  have hstored : (s.insertVertex first).vertex? v.id = some first := by
    rw [Store.vertex?_insertVertex, if_pos hid.symm]
  have hmerged : mergedVertex ((s.insertVertex first).vertex? v.id) (v.withProperties change) true =
      both := by
    rw [hstored]
    exact mergedVertex_andThen _ v change
  calc storeVertex (storeVertex s v true) (v.withProperties change) true
      = storeVertex (s.insertVertex first) (v.withProperties change) true := by rw [hfirst]
    _ = (s.insertVertex first).insertVertex both :=
        hmerged ▸ storeVertex_eq_insertVertex hconsistent (v.withProperties change) true
    _ = s.insertVertex both := h.toIndexed.insertVertex_insertVertex (hboth.trans hid.symm)
    _ = storeVertex s (v.withProperties (v.properties.andThen change)) true :=
        (storeVertex_eq_insertVertex h (v.withProperties (v.properties.andThen change)) true).symm

theorem storeEdge_andThen (h : s.Consistent) (e : Edge) (change : Properties) :
    storeEdge (storeEdge s e true) (e.withProperties change) true =
      storeEdge s (e.withProperties (e.properties.andThen change)) true := by
  let first := mergedEdge (s.edge? e.key) e true
  let both := mergedEdge (s.edge? e.key) (e.withProperties (e.properties.andThen change)) true
  have hfirst : storeEdge s e true = s.insertEdge first := storeEdge_eq_insertEdge h e true
  have hconsistent : (s.insertEdge first).Consistent := hfirst ▸ storeEdge_consistent h e true
  have hkey : first.key = e.key := (mergedEdge_storedUnder h e true).key_eq
  have hboth : both.key = e.key :=
    (mergedEdge_storedUnder h (e.withProperties (e.properties.andThen change)) true).key_eq
  have hstored : (s.insertEdge first).edge? e.key = some first := by
    rw [Store.edge?_insertEdge, if_pos hkey.symm]
  have hmerged : mergedEdge ((s.insertEdge first).edge? e.key) (e.withProperties change) true =
      both := by
    rw [hstored]
    exact mergedEdge_andThen _ e change
  calc storeEdge (storeEdge s e true) (e.withProperties change) true
      = storeEdge (s.insertEdge first) (e.withProperties change) true := by rw [hfirst]
    _ = (s.insertEdge first).insertEdge both :=
        hmerged ▸ storeEdge_eq_insertEdge hconsistent (e.withProperties change) true
    _ = s.insertEdge both := h.toIndexed.insertEdge_insertEdge (hboth.trans hkey.symm)
    _ = storeEdge s (e.withProperties (e.properties.andThen change)) true :=
        (storeEdge_eq_insertEdge h (e.withProperties (e.properties.andThen change)) true).symm

/-- A series of updates of one vertex is stored as by one update. -/
theorem foldl_storeVertex_andThen (h : s.Consistent) (v : Vertex) (changes : List Properties) :
    (v :: changes.map v.withProperties).foldl (fun s v => storeVertex s v true) s =
      storeVertex s (v.withProperties (changes.foldl Properties.andThen v.properties)) true := by
  induction changes generalizing v with
  | nil => rfl
  | cons change rest ih =>
    have hrest := ih (v.withProperties (v.properties.andThen change))
    rw [List.foldl_cons, ← storeVertex_andThen h] at hrest
    exact hrest

theorem foldl_storeEdge_andThen (h : s.Consistent) (e : Edge) (changes : List Properties) :
    (e :: changes.map e.withProperties).foldl (fun s e => storeEdge s e true) s =
      storeEdge s (e.withProperties (changes.foldl Properties.andThen e.properties)) true := by
  induction changes generalizing e with
  | nil => rfl
  | cons change rest ih =>
    have hrest := ih (e.withProperties (e.properties.andThen change))
    rw [List.foldl_cons, ← storeEdge_andThen h] at hrest
    exact hrest

end Graph

/-- **The algebra of merging.** Whatever the order in which the entries of a change are visited, the
bag that is left has no markers, and at every key it reads as the change says: nothing at a marker;
the value of the change, if it may overwrite or fills a gap; and otherwise what was there. So
merging a change again does nothing, two changes that may overwrite are merged one after the other
as the one in which the later entries count, and a series of updates of one element is stored as one
update. -/
theorem Properties.merge_laws (b p q : Properties) (overwrite : Bool) :
    (∀ visited : List (String × Value), visited.Perm p.entries.entries →
      (visited.foldl (mergeEntry overwrite) b).normalize = b.merge p overwrite) ∧
    (b.merge p overwrite).MarkerFree ∧
    (∀ k, (b.merge p overwrite).get? k =
      match p.entries.get? k with
      | some .unset => none
      | some v => if overwrite || (b.get? k).isNone then some v else b.get? k
      | none => b.get? k) ∧
    (b.merge p overwrite).merge p overwrite = b.merge p overwrite ∧
    (∀ k, (p.andThen q).entries.get? k = (q.entries.get? k).or (p.entries.get? k)) ∧
    (b.merge p true).merge q true = b.merge (p.andThen q) true ∧
    ∀ g : Graph, g.Built → ∀ changes : List Properties,
      (∀ v : Vertex, (g.updateVertices (v :: changes.map v.withProperties)).1.store =
        (g.updateVertex (v.withProperties (changes.foldl andThen v.properties)) true).1.store) ∧
      ∀ e : Edge, (g.updateEdges (e :: changes.map e.withProperties)).1.store =
        (g.updateEdge (e.withProperties (changes.foldl andThen e.properties)) true).1.store := by
  refine ⟨fun visited h => normalize_foldl_mergeEntry h b overwrite, markerFree_merge b p overwrite,
    fun k => ?_, merge_merge_self b p overwrite, entries_get?_andThen p q, merge_andThen b p q,
    fun g hg changes => ⟨fun v => ?_, fun e => ?_⟩⟩
  · rw [get?_merge]
    cases p.entries.get? k with
    | none => rfl
    | some v => cases v <;> rfl
  · rw [Graph.store_updateVertices, Graph.store_updateVertex,
      Graph.foldl_storeVertex_andThen hg.consistent]
  · rw [Graph.store_updateEdges, Graph.store_updateEdge,
      Graph.foldl_storeEdge_andThen hg.consistent]

/-- A marker of the bag counts as a gap, and a key that a first change deletes and a second one sets
is set by the batch of both. -/
theorem Properties.merge_laws_markers :
    let b : Properties := .ofList [("x", .unset), ("y", .integer 1)]
    let p : Properties := .ofList [("x", .string "s"), ("y", .unset)]
    let q : Properties := .ofList [("y", .integer 2)]
    let visited : List (String × Value) := [("y", .unset), ("x", .string "s")]
    let v : Vertex := ⟨"a", p, by decide⟩
    let g := (Graph.new "g" none).run [.updateVertex ⟨"a", b, by decide⟩ true]
    visited.Perm p.entries.entries ∧
      (visited.foldl (mergeEntry false) b).normalize = b.merge p false ∧
      (b.merge p false).get? "x" = some (.string "s") ∧ (p.andThen q).get? "y" = some (.integer 2) ∧
      g.Built ∧ (g.updateVertices [v, v.withProperties q]).1.store =
        (g.updateVertex (v.withProperties (v.properties.andThen q)) true).1.store := by
  intro b p q visited v g
  have hvisited : visited.Perm p.entries.entries := .swap _ _ _
  have hg : g.Built := .run (.new "g" none) _
  have hlaws := merge_laws b p q false
  have hx : (b.merge p false).get? "x" = some (.string "s") := by
    rw [hlaws.2.2.1]
    rfl
  have hy : (p.andThen q).get? "y" = some (.integer 2) := by
    rw [get?, hlaws.2.2.2.2.1]
    rfl
  have hbatch := (hlaws.2.2.2.2.2.2 g hg [q]).1 v
  rw [List.map_singleton, List.foldl_cons, List.foldl_nil] at hbatch
  exact ⟨hvisited, hlaws.1 visited hvisited, hx, hy, hg, hbatch⟩

end PropertyGraph
