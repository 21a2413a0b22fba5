import PropertyGraph.Proofs.Store.Consistent

/-!
# The content of a graph

A consistent store is settled by its vertices, its edges and the values of their properties: the
indices repeat the keys of the edges, an element carries the identity that it is stored under, and
there are no markers to tell bags apart that read as the same.

## Main definitions

- `Store.vertexValue?`, `Store.edgeValue?` — the value of a property of a stored element
- `Graph.SameContent` — the same name, root and elements
-/

namespace PropertyGraph

/-- Stored vertices of one identity are the same if their properties read as the same. -/
theorem Vertex.StoredUnder.ext {v w : Vertex} {id : String} (hv : v.StoredUnder id)
    (hw : w.StoredUnder id) (h : ∀ key, v.properties.get? key = w.properties.get? key) : v = w := by
  have hid : v.id = w.id := hv.id_eq.trans hw.id_eq.symm
  have hbag : v.properties = w.properties := hv.markerFree.ext hw.markerFree h
  obtain ⟨id, p, named⟩ := v
  obtain ⟨id', q, named'⟩ := w
  dsimp only at hid hbag
  subst hid hbag
  rfl

theorem Edge.StoredUnder.ext {e f : Edge} {k : EdgeKey} (he : e.StoredUnder k)
    (hf : f.StoredUnder k) (h : ∀ key, e.properties.get? key = f.properties.get? key) : e = f := by
  have hkey : e.key = f.key := he.key_eq.trans hf.key_eq.symm
  have hbag : e.properties = f.properties := he.markerFree.ext hf.markerFree h
  obtain ⟨k, p, named⟩ := e
  obtain ⟨k', q, named'⟩ := f
  dsimp only at hkey hbag
  subst hkey hbag
  rfl

namespace Store

/-- The value of a property of a stored vertex. -/
def vertexValue? (s : Store) (id key : String) : Option Value :=
  (s.vertex? id).bind (·.properties.get? key)

/-- The value of a property of a stored edge. -/
def edgeValue? (s : Store) (k : EdgeKey) (key : String) : Option Value :=
  (s.edge? k).bind (·.properties.get? key)

/-- **Stores with the same elements and values are the same.** -/
theorem Consistent.ext_values {s t : Store} (hs : s.Consistent) (ht : t.Consistent)
    (hvertex : ∀ id, s.hasVertex id = true ↔ t.hasVertex id = true)
    (hedge : ∀ k, s.edges.contains k = true ↔ t.edges.contains k = true)
    (hvertexValue : ∀ id key, s.vertexValue? id key = t.vertexValue? id key)
    (hedgeValue : ∀ k key, s.edgeValue? k key = t.edgeValue? k key) : s = t := by
  refine hs.toIndexed.ext ht.toIndexed (fun id => ?_) fun k => ?_
  · have hstored := hvertex id
    have hvalue := hvertexValue id
    rw [hasVertex_iff, hasVertex_iff] at hstored
    simp only [vertexValue?] at hvalue
    cases hv : s.vertex? id with
    | none =>
      cases hw : t.vertex? id with
      | none => rfl
      | some w => simp [hv, hw] at hstored
    | some v =>
      cases hw : t.vertex? id with
      | none => simp [hv, hw] at hstored
      | some w =>
        rw [hv, hw] at hvalue
        rw [(hs.vertex hv).ext (ht.vertex hw) hvalue]
  · have hstored := hedge k
    have hvalue := hedgeValue k
    rw [containsEdge_iff, containsEdge_iff] at hstored
    simp only [edgeValue?] at hvalue
    cases he : s.edge? k with
    | none =>
      cases hf : t.edge? k with
      | none => rfl
      | some f => simp [he, hf] at hstored
    | some e =>
      cases hf : t.edge? k with
      | none => simp [he, hf] at hstored
      | some f =>
        rw [he, hf] at hvalue
        rw [(hs.edge he).ext (ht.edge hf) hvalue]

/-- A store without vertices is empty: an edge would have endpoints. -/
theorem Indexed.eq_empty {s : Store} (h : s.Indexed) (hnone : ∀ id, s.hasVertex id = false) :
    s = .empty := by
  refine h.ext .empty (fun id => hasVertex_eq_false_iff.1 (hnone id)) fun k => ?_
  refine containsEdge_eq_false_iff.1 (Bool.eq_false_iff.2 fun hk => ?_)
  have hsource := h.source_stored k hk
  rw [hnone] at hsource
  cases hsource

end Store

/-- Two graphs with the same name, root, vertices, edges and properties; who is subscribed and what
has been counted does not matter. -/
structure Graph.SameContent (g h : Graph) : Prop where
  name : g.name = h.name
  root : g.root = h.root
  store : g.store = h.store

end PropertyGraph
