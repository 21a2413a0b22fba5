import PropertyGraph.Graph.Reachable
import PropertyGraph.Matching.Search
import PropertyGraph.NodeLink.Graph
import PropertyGraph.Proofs.Restrict
import PropertyGraph.Proofs.Run

/-!
# Graphs that can be built

A graph comes into being empty, as a copy or an extract of another one, or by import, and is then
changed by operations. The stores of all such graphs are consistent, whatever the updates carry.

## Main definitions

- `Graph.Built` — the graphs that can be built
- `Graph.Built.consistent` — their stores are consistent
-/

namespace PropertyGraph

/-- The graphs that can be built. -/
inductive Graph.Built : Graph → Prop
  | new (name : String) (root : Option String) : Built (.new name root)
  | perform {g : Graph} {op : Operation} {r : Graph × List Notice} :
      Built g → g.perform op = .ok r → Built r.1
  | copy {g : Graph} : Built g → Built g.copy
  | subgraph {g : Graph} (ids : List String) : Built g → Built (g.subgraph ids)
  | matching {g : Graph} (f : Option AttributeFilter) (q : Option Query)
      (edgeFilter : Option AttributeFilter) : Built g → Built (g.matchingVertices f q edgeFilter)
  | extracted {g : Graph} (q : ReachQuery) : Built g → Built (g.extractReachable q).1
  | traversed {g : Graph} (q : ReachQuery) : Built g → Built (g.extractReachable q).2
  | searched {g : Graph} (pattern : Graph) (options : MatchOptions) (anchors : List Anchor) :
      Built g → Built (g.findMatches pattern options anchors).1
  | imported {d : NodeLink.Document} {r : Graph × NodeLink.ImportCounts} :
      d.toGraph = .ok r → Built r.1

namespace Graph

variable {g : Graph}

/-! ## What operations and import keep -/

theorem foldl_storeVertex_consistent {s : Store} (h : s.Consistent) (vertices : List Vertex) :
    (vertices.foldl (fun s v => storeVertex s v true) s).Consistent := by
  induction vertices generalizing s with
  | nil => exact h
  | cons v rest ih => exact ih (storeVertex_consistent h v true)

theorem foldl_storeEdge_consistent {s : Store} (h : s.Consistent) (edges : List Edge) :
    (edges.foldl (fun s e => storeEdge s e true) s).Consistent := by
  induction edges generalizing s with
  | nil => exact h
  | cons e rest ih => exact ih (storeEdge_consistent h e true)

theorem edge?_foldl_storeVertex (vertices : List Vertex) (s : Store) (k : EdgeKey) :
    (vertices.foldl (fun s v => storeVertex s v true) s).edge? k = s.edge? k := by
  induction vertices generalizing s with
  | nil => rfl
  | cons v rest ih => rw [List.foldl_cons, ih, edge?_storeVertex]

theorem updateVertex_consistent (h : g.store.Consistent) (v : Vertex) (overwrite : Bool) :
    (g.updateVertex v overwrite).1.store.Consistent := by
  rw [store_updateVertex]
  exact storeVertex_consistent h v overwrite

theorem updateEdge_consistent (h : g.store.Consistent) (e : Edge) (overwrite : Bool) :
    (g.updateEdge e overwrite).1.store.Consistent := by
  rw [store_updateEdge]
  exact storeEdge_consistent h e overwrite

theorem perform_consistent (h : g.store.Consistent) {op : Operation} {r : Graph × List Notice}
    (hop : g.perform op = .ok r) : r.1.store.Consistent := by
  cases op with
  | updateVertex v overwrite =>
    cases hop
    exact updateVertex_consistent h v overwrite
  | updateEdge e overwrite =>
    cases hop
    exact updateEdge_consistent h e overwrite
  | markVertex id t =>
    obtain ⟨-, named, rfl⟩ := markVertexDeleted_eq_ok hop
    exact updateVertex_consistent h _ true
  | markEdge key t =>
    obtain ⟨-, named, rfl⟩ := markEdgeDeleted_eq_ok hop
    exact updateEdge_consistent h _ true
  | removeVertex id =>
    obtain ⟨removed, hremoved, rfl⟩ := map_eq_ok_iff.1 hop
    rw [(removeVertex_eq_ok hremoved).2]
    exact h.removeVertex id
  | removeEdge key =>
    obtain ⟨removed, hremoved, rfl⟩ := map_eq_ok_iff.1 hop
    rw [(removeEdge_eq_ok hremoved).2]
    exact h.removeEdge key
  | deletePlaceholder id =>
    obtain ⟨removed, hremoved, rfl⟩ := map_eq_ok_iff.1 hop
    rcases deletePlaceholder_eq_ok hremoved with ⟨-, hstore⟩ | ⟨-, hsame⟩
    · rw [hstore]
      exact h.removeVertex id
    · rw [hsame]
      exact h
  | union other =>
    cases hop
    rw [store_union]
    exact foldl_storeEdge_consistent (foldl_storeVertex_consistent h _) _
  | setRoot id =>
    cases hop
    exact h
  | subscribe name finalizing =>
    cases hop
    exact h

theorem addNode_consistent {state state' : Graph × NodeLink.Indices} {n : NodeLink.Node}
    (h : state.1.store.Consistent) (hadd : NodeLink.addNode state n = .ok state') :
    state'.1.store.Consistent := by
  obtain ⟨g, indices⟩ := state
  unfold NodeLink.addNode at hadd
  dsimp only at hadd
  split at hadd
  · cases hadd
  · rw [bind_eq_ok_iff] at hadd
    obtain ⟨v, -, hadd⟩ := hadd
    cases hadd
    exact updateVertex_consistent h v true

theorem addLink_consistent {indices : NodeLink.Indices} {g' : Graph} {l : NodeLink.Link}
    (h : g.store.Consistent) (hadd : NodeLink.addLink indices g l = .ok g') :
    g'.store.Consistent := by
  simp only [NodeLink.addLink, bind_eq_ok_iff] at hadd
  obtain ⟨_, -, _, -, e, -, hadd⟩ := hadd
  cases hadd
  exact updateEdge_consistent h e true

theorem toGraph_consistent {d : NodeLink.Document} {r : Graph × NodeLink.ImportCounts}
    (h : d.toGraph = .ok r) : r.1.store.Consistent := by
  simp only [NodeLink.Document.toGraph, bind_eq_ok_iff] at h
  obtain ⟨⟨g₁, indices⟩, hnodes, g₂, hlinks, h⟩ := h
  cases h
  have hg₁ : g₁.store.Consistent :=
    foldlM_invariant (P := fun state : Graph × NodeLink.Indices => state.1.store.Consistent)
      (fun _ _ _ => addNode_consistent) .empty hnodes
  exact foldlM_invariant (P := fun g : Graph => g.store.Consistent)
    (fun _ _ _ => addLink_consistent) hg₁ hlinks

/-! ## What all graphs have -/

theorem store_findMatches (g pattern : Graph) (options : MatchOptions) (anchors : List Anchor) :
    (g.findMatches pattern options anchors).1.store = g.store := by
  rw [findMatches]
  split <;> rfl

/-- **The store of a graph is consistent.** -/
theorem Built.consistent (h : g.Built) : g.store.Consistent := by
  induction h with
  | new name root => exact .empty
  | perform _ hop ih => exact perform_consistent ih hop
  | copy _ ih => exact ih
  | subgraph ids _ ih => exact restrict_consistent ih _ _
  | matching f q edgeFilter _ ih => exact restrict_consistent ih _ _
  | extracted q _ ih => exact restrict_consistent ih _ _
  | traversed q _ ih => exact ih
  | searched pattern options anchors _ ih =>
    rw [store_findMatches]
    exact ih
  | imported h => exact toGraph_consistent h

theorem Built.attempt (h : g.Built) (op : Operation) : (g.attempt op).Built := by
  cases hop : g.perform op with
  | ok r =>
    rw [attempt_of_ok hop]
    exact h.perform hop
  | error err =>
    rw [attempt_of_error hop]
    exact h

theorem Built.run (h : g.Built) (ops : List Operation) : (g.run ops).Built := by
  induction ops generalizing g with
  | nil => exact h
  | cons op rest ih => exact ih (h.attempt op)

/-- **The representation of a graph.** Elements are stored under their own identities, none of
whose parts is empty; every edge has both endpoints; each index has a row for exactly the stored
vertices, and a row lists exactly the edges that leave, or enter, its vertex; no stored bag has
a deletion marker; and every edge has its label among the properties. -/
theorem Built.store_representation (h : g.Built) :
    (∀ id v, g.store.vertex? id = some v → v.id = id ∧ id ≠ "") ∧
    (∀ k e, g.store.edge? k = some e →
      e.key = k ∧ k.source ≠ "" ∧ k.target ≠ "" ∧ k.label ≠ "") ∧
    (∀ k, g.store.edges.contains k = true →
      g.store.hasVertex k.source = true ∧ g.store.hasVertex k.target = true) ∧
    (∀ id, (g.store.outgoing.contains id = true ↔ g.store.hasVertex id = true) ∧
      (g.store.incoming.contains id = true ↔ g.store.hasVertex id = true)) ∧
    (∀ id k,
      (k ∈ EdgeIndex.keysAt g.store.outgoing id ↔
        g.store.edges.contains k = true ∧ k.source = id) ∧
      (k ∈ EdgeIndex.keysAt g.store.incoming id ↔
        g.store.edges.contains k = true ∧ k.target = id)) ∧
    (∀ id v, g.store.vertex? id = some v → ∀ key, v.properties.entries.get? key ≠ some .unset) ∧
    (∀ k e, g.store.edge? k = some e → ∀ key, e.properties.entries.get? key ≠ some .unset) ∧
    (∀ k e, g.store.edge? k = some e →
      e.properties.get? RelationKey.relationshipType = some (.string k.label)) := by
  have hs := h.consistent
  refine ⟨?_, ?_, ?_, ?_, ?_, ?_, ?_, ?_⟩
  · exact fun id v hv => ⟨(hs.vertex hv).id_eq, (hs.vertex hv).id_ne_empty⟩
  · exact fun k e he => ⟨(hs.edge he).key_eq, (hs.edge he).key_named⟩
  · exact fun k hk => ⟨hs.source_stored k hk, hs.target_stored k hk⟩
  · exact fun id => ⟨hs.outgoing.contains_iff id, hs.incoming.contains_iff id⟩
  · exact fun id k => ⟨hs.mem_outgoing, hs.mem_incoming⟩
  · exact fun id v hv => (hs.vertex hv).markerFree
  · exact fun k e he => (hs.edge he).markerFree
  · exact fun k e he => (hs.edge he).label

/-- A loop is stored by an update that deletes its label, and an edge to another vertex goes with
that vertex: what is left has its label and no dangling edge. -/
theorem Built.store_representation_loop :
    let g := (Graph.new "g" none).run
      [.updateEdge ⟨⟨"a", "a", "l"⟩, .ofList [("relationship_type", .unset)], by decide⟩ false,
        .updateEdge ⟨⟨"a", "b", "m"⟩, .empty, by decide⟩ true, .removeVertex "b"]
    g.Built ∧ g.store.edges.contains ⟨"a", "a", "l"⟩ = true ∧
      ∀ k e, g.store.edge? k = some e →
        e.properties.get? RelationKey.relationshipType = some (.string k.label) :=
  ⟨.run (.new _ _) _, by decide,
    (Built.store_representation (.run (.new _ _) _)).2.2.2.2.2.2.2⟩

end Graph

end PropertyGraph
