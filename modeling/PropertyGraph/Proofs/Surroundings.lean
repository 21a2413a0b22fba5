import Mathlib.Data.List.Induction
import PropertyGraph.Proofs.Built
import PropertyGraph.Proofs.Store.Scan

/-!
# The surroundings of a vertex

The edges at a vertex, the edge between two vertices and the neighbours of a vertex are found by
way of the indices. What is found is said here without them: by looking at all stored edges in
their order, and at the vertices that these lead to in the order in which they turn up.

## Main definitions

- `Graph.leaving`, `Graph.entering` — the edges on either side of a vertex, among all edges
-/

namespace PropertyGraph

/-- Without its repetitions, a list has its members in the order in which they first occur. -/
theorem eraseDups_pairwise_idxOf {α : Type} [BEq α] [LawfulBEq α] (l : List α) :
    l.eraseDups.Pairwise fun a b => l.idxOf a < l.idxOf b := by
  induction l using List.reverseRecOn with
  | nil => exact .nil
  | append_singleton l c ih =>
    rw [List.eraseDups_append, List.pairwise_append]
    -- one more item is new, or it does not count
    have hnew : ∀ b ∈ ([c].removeAll l).eraseDups, b = c ∧ c ∉ l := by
      intro b hb
      rw [List.mem_eraseDups, List.removeAll, List.mem_filter, List.mem_singleton] at hb
      obtain ⟨rfl, hb⟩ := hb
      exact ⟨rfl, by simpa using hb⟩
    refine ⟨?_, ?_, ?_⟩
    · refine ih.imp_of_mem fun {a b} ha hb hlt => ?_
      rwa [List.idxOf_append_of_mem (List.mem_eraseDups.1 ha),
        List.idxOf_append_of_mem (List.mem_eraseDups.1 hb)]
    · by_cases hc : c ∈ l <;> simp [List.removeAll, hc, List.eraseDups_cons]
    · intro a ha b hb
      obtain ⟨rfl, hb⟩ := hnew b hb
      rw [List.mem_eraseDups] at ha
      rw [List.idxOf_append_of_mem ha, List.idxOf_append, if_neg hb]
      have hlt := List.idxOf_lt_length_iff.2 ha
      omega

namespace Direction

theorem includesOut_iff {d : Direction} : d.includesOut = true ↔ d = .out ∨ d = .both := by
  cases d <;> simp [includesOut]

theorem includesIn_iff {d : Direction} : d.includesIn = true ↔ d = .into ∨ d = .both := by
  cases d <;> simp [includesIn]

end Direction

namespace Graph

variable {g : Graph} {id : String} {d : Direction} {f : Option AttributeFilter}

/-! ## Edges at a vertex -/

/-- The edges that leave a vertex and satisfy a filter, among all edges, if the direction includes
them. -/
def leaving (g : Graph) (id : String) (d : Direction) (f : Option AttributeFilter) : List Edge :=
  g.store.edgeList.filter fun e => admits f e.properties && (d.includesOut && e.key.source == id)

/-- The edges that enter a vertex and satisfy a filter, among all edges, if the direction includes
them. An edge that leaves the vertex as well is left out if it counts as leaving. -/
def entering (g : Graph) (id : String) (d : Direction) (f : Option AttributeFilter) : List Edge :=
  g.store.edgeList.filter fun e => admits f e.properties &&
    (d.includesIn && e.key.target == id && !(d.includesOut && e.key.source == id))

theorem edgesAt_eq_scan (h : g.store.Consistent) (id : String) (d : Direction)
    (f : Option AttributeFilter) : g.edgesAt id d f = g.leaving id d f ++ g.entering id d f := by
  rw [edgesAt, h.incident_eq_scan, List.filter_append, List.filter_filter, List.filter_filter,
    leaving, entering]

theorem mem_leaving (h : g.store.Consistent) {e : Edge} :
    e ∈ g.leaving id d f ↔ g.store.edge? e.key = some e ∧ d.includesOut = true ∧
      e.key.source = id ∧ admits f e.properties = true := by
  rw [leaving, List.mem_filter, h.mem_edgeList]
  simp only [Bool.and_eq_true, beq_iff_eq]
  tauto

theorem mem_entering (h : g.store.Consistent) {e : Edge} :
    e ∈ g.entering id d f ↔ g.store.edge? e.key = some e ∧ d.includesIn = true ∧
      e.key.target = id ∧ ¬(d.includesOut = true ∧ e.key.source = id) ∧
      admits f e.properties = true := by
  rw [entering, List.mem_filter, h.mem_edgeList]
  simp only [Bool.and_eq_true, beq_iff_eq, Bool.not_eq_true', Bool.eq_false_iff, ne_eq]
  tauto

theorem mem_edgesAt (h : g.store.Consistent) {e : Edge} :
    e ∈ g.edgesAt id d f ↔ g.store.edge? e.key = some e ∧
      (d.includesOut = true ∧ e.key.source = id ∨ d.includesIn = true ∧ e.key.target = id) ∧
      admits f e.properties = true := by
  rw [edgesAt, List.mem_filter, h.mem_incident, and_assoc]

/-- The edges that leave a vertex are listed by target, then label. -/
theorem leaving_increasing (h : g.store.Consistent) :
    (g.leaving id d f).Pairwise fun a b => a.key.compareLeaving b.key = .lt := by
  refine (h.edgeList_increasing.filter _).imp_of_mem fun {a b} ha hb hlt => ?_
  have hsource := (mem_leaving h).1 ha
  have hsource' := (mem_leaving h).1 hb
  exact EdgeKey.compareLeaving_of_lt hlt (hsource.2.2.1.trans hsource'.2.2.1.symm)

/-- The edges that enter a vertex are listed by source, then label. -/
theorem entering_increasing (h : g.store.Consistent) :
    (g.entering id d f).Pairwise fun a b => a.key.compareEntering b.key = .lt := by
  refine (h.edgeList_increasing.filter _).imp_of_mem fun {a b} ha hb hlt => ?_
  have htarget := (mem_entering h).1 ha
  have htarget' := (mem_entering h).1 hb
  exact EdgeKey.compareEntering_of_lt hlt (htarget.2.2.1.trans htarget'.2.2.1.symm)

/-- No edge is listed twice at a vertex, a loop included. -/
theorem nodup_keys_edgesAt (h : g.store.Consistent) (id : String) (d : Direction)
    (f : Option AttributeFilter) : ((g.edgesAt id d f).map (·.key)).Nodup := by
  have hscan : ∀ p : Edge → Bool, ((g.store.edgeList.filter p).map (·.key)).Nodup :=
    fun p => h.nodup_keys_edgeList.sublist (List.filter_sublist.map _)
  rw [edgesAt_eq_scan h, List.map_append, List.nodup_append]
  refine ⟨hscan _, hscan _, ?_⟩
  intro k hk k' hk' heq
  obtain ⟨e, he, rfl⟩ := List.mem_map.1 hk
  obtain ⟨e', he', rfl⟩ := List.mem_map.1 hk'
  obtain ⟨-, hout, hsource, -⟩ := (mem_leaving h).1 he
  obtain ⟨-, -, -, hnot, -⟩ := (mem_entering h).1 he'
  exact hnot ⟨hout, heq ▸ hsource⟩

/-! ## The edge between two vertices -/

section Between

variable {source target : String}

theorem mem_between (h : g.store.Consistent) {e : Edge} :
    e ∈ g.store.between source target ↔
      g.store.edge? e.key = some e ∧ e.key.source = source ∧ e.key.target = target := by
  rw [h.between_eq_scan, List.mem_filter, h.mem_edgeList]
  simp [and_comm]

/-- The edges between two vertices are listed by label. -/
theorem between_increasing (h : g.store.Consistent) (source target : String) :
    (g.store.between source target).Pairwise fun a b => a.key.label < b.key.label := by
  have hscan := h.edgeList_increasing.filter fun e =>
    e.key.target == target && e.key.source == source
  rw [← h.between_eq_scan] at hscan
  refine hscan.imp_of_mem fun {a b} ha hb hlt => ?_
  obtain ⟨-, hsource, htarget⟩ := (mem_between h).1 ha
  obtain ⟨-, hsource', htarget'⟩ := (mem_between h).1 hb
  have hleaving := EdgeKey.compareLeaving_of_lt hlt (hsource.trans hsource'.symm)
  rw [EdgeKey.compareLeaving, htarget, htarget', Std.ReflOrd.compare_self] at hleaving
  exact compareOfLessAndEq_eq_lt.1 hleaving

theorem edgeBetween?_eq_none_iff (h : g.store.Consistent) :
    g.edgeBetween? source target none = none ↔
      ∀ e : Edge, g.store.edge? e.key = some e →
        ¬(e.key.source = source ∧ e.key.target = target) := by
  rw [edgeBetween?, List.head?_eq_none_iff, List.eq_nil_iff_forall_not_mem]
  simp only [mem_between h, not_and]

/-- Without a label, the edge with the first one is found. -/
theorem edgeBetween?_eq_some_iff (h : g.store.Consistent) {e : Edge} :
    g.edgeBetween? source target none = some e ↔
      (g.store.edge? e.key = some e ∧ e.key.source = source ∧ e.key.target = target) ∧
      ∀ e' : Edge, g.store.edge? e'.key = some e' → e'.key.source = source →
        e'.key.target = target → e.key.label ≤ e'.key.label := by
  have hincreasing := between_increasing h source target
  have hmem : ∀ e, e ∈ g.store.between source target ↔ _ := fun e => mem_between h
  rw [edgeBetween?]
  generalize g.store.between source target = edges at hincreasing hmem
  cases edges with
  | nil => simp [← hmem]
  | cons first rest =>
    obtain ⟨hfirst, -⟩ := List.pairwise_cons.1 hincreasing
    simp only [List.head?_cons, Option.some.injEq, ← hmem]
    constructor
    · rintro rfl
      refine ⟨List.mem_cons_self, fun e' hstored hsource htarget => ?_⟩
      rcases List.mem_cons.1 ((hmem e').2 ⟨hstored, hsource, htarget⟩) with rfl | hrest
      · exact String.le_refl _
      · exact String.not_lt.1 (String.lt_asymm (hfirst e' hrest))
    · rintro ⟨he, hleast⟩
      rcases List.mem_cons.1 he with rfl | hrest
      · rfl
      · -- a later edge has a greater label
        obtain ⟨hstored, hsource, htarget⟩ := (hmem first).1 List.mem_cons_self
        exact absurd (hfirst e hrest) (String.not_lt.2 (hleast first hstored hsource htarget))

end Between

/-! ## Neighbours -/

section Neighbors

variable {vertexFilter edgeFilter : Option AttributeFilter}

theorem mem_neighbors (h : g.store.Consistent) {w : Vertex} :
    w ∈ g.neighbors id vertexFilter edgeFilter d ↔ g.store.vertex? w.id = some w ∧
      w.id ∈ (g.edgesAt id d edgeFilter).map (·.key.other id) ∧
      admits vertexFilter w.properties = true := by
  rw [neighbors, List.mem_filter, List.mem_filterMap]
  simp only [List.mem_eraseDups]
  constructor
  · rintro ⟨⟨j, hj, hw⟩, hadmits⟩
    obtain rfl := (h.vertex hw).id_eq
    exact ⟨hw, hj, hadmits⟩
  · rintro ⟨hw, hj, hadmits⟩
    exact ⟨⟨w.id, hj, hw⟩, hadmits⟩

/-- The vertices at the other ends of the edges at a vertex. -/
theorem mem_map_other (h : g.store.Consistent) {w : String} :
    w ∈ (g.edgesAt id d edgeFilter).map (·.key.other id) ↔
      ∃ e ∈ g.edgesAt id d edgeFilter,
        e.key.source = id ∧ e.key.target = w ∨ e.key.source = w ∧ e.key.target = id := by
  rw [List.mem_map]
  refine exists_congr fun e => and_congr_right fun he => ?_
  obtain ⟨-, hside, -⟩ := (mem_edgesAt h).1 he
  exact EdgeKey.other_eq_iff (hside.imp And.right And.right)

/-- Neighbours are listed in the order in which the edges first lead to them. -/
theorem neighbors_pairwise (h : g.store.Consistent) :
    (g.neighbors id vertexFilter edgeFilter d).Pairwise fun v w =>
      ((g.edgesAt id d edgeFilter).map (·.key.other id)).idxOf v.id <
        ((g.edgesAt id d edgeFilter).map (·.key.other id)).idxOf w.id := by
  rw [neighbors]
  refine List.Pairwise.filter _ ?_
  refine List.Pairwise.filterMap _ (fun i j hlt v hv w hw => ?_) (eraseDups_pairwise_idxOf _)
  rwa [(h.vertex hv).id_eq, (h.vertex hw).id_eq]

theorem nodup_ids_neighbors (h : g.store.Consistent) :
    ((g.neighbors id vertexFilter edgeFilter d).map (·.id)).Nodup := by
  rw [List.nodup_iff_pairwise_ne, List.pairwise_map]
  refine (neighbors_pairwise h).imp fun {v w} hlt heq => ?_
  rw [heq] at hlt
  exact Nat.lt_irrefl _ hlt

/-- A vertex is its own neighbour just if it has a loop. -/
theorem self_mem_neighbors (h : g.store.Consistent) :
    (∃ w ∈ g.neighbors id vertexFilter edgeFilter d, w.id = id) ↔
      (∃ w, g.store.vertex? id = some w ∧ admits vertexFilter w.properties = true) ∧
      ∃ e : Edge, g.store.edge? e.key = some e ∧ e.key.source = id ∧ e.key.target = id ∧
        admits edgeFilter e.properties = true := by
  constructor
  · rintro ⟨w, hw, rfl⟩
    obtain ⟨hstored, hother, hadmits⟩ := (mem_neighbors h).1 hw
    obtain ⟨e, he, hends⟩ := (mem_map_other h).1 hother
    obtain ⟨hedge, -, hpasses⟩ := (mem_edgesAt h).1 he
    refine ⟨⟨w, hstored, hadmits⟩, e, hedge, ?_⟩
    rcases hends with ⟨hsource, htarget⟩ | ⟨hsource, htarget⟩ <;>
      exact ⟨hsource, htarget, hpasses⟩
  · rintro ⟨⟨w, hstored, hadmits⟩, e, hedge, hsource, htarget, hpasses⟩
    obtain rfl := (h.vertex hstored).id_eq
    -- a loop is listed for each direction
    have he : e ∈ g.edgesAt w.id d edgeFilter :=
      (mem_edgesAt h).2 ⟨hedge, by cases d <;> simp [Direction.includesOut, Direction.includesIn,
        hsource, htarget], hpasses⟩
    exact ⟨w, (mem_neighbors h).2 ⟨hstored, (mem_map_other h).2 ⟨e, he, .inl ⟨hsource, htarget⟩⟩,
      hadmits⟩, rfl⟩

end Neighbors

/-! ## Lookups in graphs that can be built -/

/-- **Lookups are scans.** The edges at a vertex are the stored edges that leave it, by target and
label, and then those other ones that enter it, by source and label, as far as the direction and
the filter let them; none of them is listed twice. Between two vertices the edge with the least
label is found, if there is one. Neighbours are the stored vertices at the other ends of the edges,
in the order in which the edges first lead to them, and a vertex is among its own ones just if it
has a loop. -/
theorem Built.lookups_eq_scans (h : g.Built) :
    (∀ id d f,
      g.edgesAt id d f = g.leaving id d f ++ g.entering id d f ∧
      ((g.edgesAt id d f).map (·.key)).Nodup ∧
      (∀ e : Edge, e ∈ g.leaving id d f ↔
        g.store.edge? e.key = some e ∧ (d = .out ∨ d = .both) ∧ e.key.source = id ∧
          admits f e.properties = true) ∧
      (∀ e : Edge, e ∈ g.entering id d f ↔
        g.store.edge? e.key = some e ∧ (d = .into ∨ d = .both) ∧ e.key.target = id ∧
          ¬((d = .out ∨ d = .both) ∧ e.key.source = id) ∧ admits f e.properties = true) ∧
      ((g.leaving id d f).Pairwise fun a b => a.key.compareLeaving b.key = .lt) ∧
      (g.entering id d f).Pairwise fun a b => a.key.compareEntering b.key = .lt) ∧
    (∀ source target,
      (∀ e : Edge, g.edgeBetween? source target none = some e ↔
        (g.store.edge? e.key = some e ∧ e.key.source = source ∧ e.key.target = target) ∧
        ∀ e' : Edge, g.store.edge? e'.key = some e' → e'.key.source = source →
          e'.key.target = target → e.key.label ≤ e'.key.label) ∧
      (g.edgeBetween? source target none = none ↔
        ∀ e : Edge, g.store.edge? e.key = some e →
          ¬(e.key.source = source ∧ e.key.target = target))) ∧
    ∀ id vertexFilter edgeFilter d,
      ((g.neighbors id vertexFilter edgeFilter d).map (·.id)).Nodup ∧
      (∀ w : Vertex, w ∈ g.neighbors id vertexFilter edgeFilter d ↔
        g.store.vertex? w.id = some w ∧ admits vertexFilter w.properties = true ∧
          ∃ e ∈ g.edgesAt id d edgeFilter,
            e.key.source = id ∧ e.key.target = w.id ∨
              e.key.source = w.id ∧ e.key.target = id) ∧
      ((g.neighbors id vertexFilter edgeFilter d).Pairwise fun v w =>
        ((g.edgesAt id d edgeFilter).map (·.key.other id)).idxOf v.id <
          ((g.edgesAt id d edgeFilter).map (·.key.other id)).idxOf w.id) ∧
      ((∃ w ∈ g.neighbors id vertexFilter edgeFilter d, w.id = id) ↔
        (∃ w, g.store.vertex? id = some w ∧ admits vertexFilter w.properties = true) ∧
        ∃ e : Edge, g.store.edge? e.key = some e ∧ e.key.source = id ∧ e.key.target = id ∧
          admits edgeFilter e.properties = true) := by
  have hs := h.consistent
  refine ⟨fun id d f => ⟨edgesAt_eq_scan hs id d f, nodup_keys_edgesAt hs id d f, ?_, ?_,
    leaving_increasing hs, entering_increasing hs⟩,
    fun source target => ⟨fun e => edgeBetween?_eq_some_iff hs, edgeBetween?_eq_none_iff hs⟩,
    fun id vertexFilter edgeFilter d => ⟨nodup_ids_neighbors hs, fun w => ?_,
      neighbors_pairwise hs, self_mem_neighbors hs⟩⟩
  · intro e
    rw [mem_leaving hs, Direction.includesOut_iff]
  · intro e
    rw [mem_entering hs, Direction.includesOut_iff, Direction.includesIn_iff]
  · rw [mem_neighbors hs, mem_map_other hs, and_comm (a := ∃ _, _)]

/-- A loop, two edges to one neighbour and an edge from another, each of which is stored after one
that is listed later. -/
theorem Built.lookups_eq_scans_loop :
    let g := (Graph.new "g" none).run
      [.updateEdge ⟨⟨"c", "a", "l"⟩, .empty, by decide⟩ true,
        .updateEdge ⟨⟨"a", "b", "m"⟩, .empty, by decide⟩ true,
        .updateEdge ⟨⟨"a", "b", "l"⟩, .empty, by decide⟩ true,
        .updateEdge ⟨⟨"a", "a", "l"⟩, .empty, by decide⟩ true]
    g.Built ∧ (g.edgesAt "a" .both none).map (·.key) =
      [⟨"a", "a", "l"⟩, ⟨"a", "b", "l"⟩, ⟨"a", "b", "m"⟩, ⟨"c", "a", "l"⟩] ∧
    (g.neighbors "a" none none .both).map (·.id) = ["a", "b", "c"] ∧
    ((g.neighbors "a" none none .both).map (·.id)).Nodup :=
  ⟨.run (.new _ _) _, by decide, by decide,
    ((Built.lookups_eq_scans (.run (.new _ _) _)).2.2 "a" none none .both).1⟩

end Graph

end PropertyGraph
