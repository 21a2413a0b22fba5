import PropertyGraph.Proofs.InPlace
import PropertyGraph.Proofs.Notification
import PropertyGraph.Proofs.Removal
import PropertyGraph.Proofs.Union

/-!
# Marks, and operations that fail

An operation fails only if the element that it is addressed to is not stored, and then nothing has
happened. The identity of a stored element has no empty part, so the change that marks an element can
always be built once the element has been found. A mark that succeeds is seen in two properties of
one element.

## Main definitions

- `Operation.Misses` — the element that an operation is addressed to is not stored
- `Properties.Marked` — a bag is marked as deleted, and is otherwise as it was
- `Graph.VertexMarked`, `Graph.EdgeMarked` — one element of a graph is marked as deleted
- `Graph.Built.failures_exact` — which operations fail, and what marks do
-/

namespace PropertyGraph

/-- An operation is addressed to an element that is not stored, which is what it reports. -/
inductive Operation.Misses (s : Store) : Operation → GraphError → Prop
  | removeVertex {id : String} : s.vertex? id = none →
      Misses s (.removeVertex id) (.vertexNotFound id)
  | markVertex {id : String} {t : Instant} : s.vertex? id = none →
      Misses s (.markVertex id t) (.vertexNotFound id)
  | removeEdge {key : EdgeKey} : s.edge? key = none →
      Misses s (.removeEdge key) (.edgeNotFound key)
  | markEdge {key : EdgeKey} {t : Instant} : s.edge? key = none →
      Misses s (.markEdge key t) (.edgeNotFound key)

/-- A bag is marked as deleted at a time, and reads as before otherwise. -/
structure Properties.Marked (before : Properties) (t : Instant) (after : Properties) : Prop where
  deleted : after.get? VertexKey.isDeleted = some (.boolean true)
  time : after.get? VertexKey.updateTimestamp = some (.timestamp t)
  others : ∀ key, key ≠ VertexKey.isDeleted → key ≠ VertexKey.updateTimestamp →
    after.get? key = before.get? key

/-- A stored vertex is marked as deleted, and no other element is changed. -/
structure Graph.VertexMarked (g : Graph) (id : String) (t : Instant) (g' : Graph) : Prop where
  frame : g' = { g with store := g'.store, metrics := g'.metrics }
  marked : ∃ v v', g.store.vertex? id = some v ∧ g'.store.vertex? id = some v' ∧
    v'.isDeleted = true ∧ v.properties.Marked t v'.properties
  vertices : ∀ j, j ≠ id → g'.store.vertex? j = g.store.vertex? j
  edges : ∀ k, g'.store.edge? k = g.store.edge? k

/-- A stored edge is marked as deleted and keeps its label, and no other element is changed. -/
structure Graph.EdgeMarked (g : Graph) (key : EdgeKey) (t : Instant) (g' : Graph) : Prop where
  frame : g' = { g with store := g'.store, metrics := g'.metrics }
  marked : ∃ e e', g.store.edge? key = some e ∧ g'.store.edge? key = some e' ∧
    e'.isDeleted = true ∧ e.properties.Marked t e'.properties ∧
    e'.properties.get? RelationKey.relationshipType = some (.string key.label)
  vertices : ∀ id, g'.store.vertex? id = g.store.vertex? id
  edges : ∀ k, k ≠ key → g'.store.edge? k = g.store.edge? k

/-! ## The change that marks an element -/

theorem get?_deletionMark (t : Instant) (key : String) :
    (deletionMark t).get? key =
      if key = VertexKey.updateTimestamp then some (.timestamp t)
      else if key = VertexKey.isDeleted then some (.boolean true) else none := by
  rw [deletionMark, Properties.get?_set rfl, Properties.get?_set rfl, Properties.get?_empty]

theorem markerFree_deletionMark (t : Instant) : (deletionMark t).MarkerFree :=
  (Properties.markerFree_empty.set rfl).set rfl

theorem get?_edgeMark {key : EdgeKey} (named : key.Named) (t : Instant) (name : String) :
    (edgeMark key named t).properties.get? name =
      ((deletionMark t).get? name).or
        (if name = RelationKey.relationshipType then some (.string key.label) else none) := by
  rw [edgeMark, Properties.get?_set rfl, Properties.get?_set rfl, Properties.get?_set rfl,
    Properties.get?_empty, get?_deletionMark, RelationKey.updateTimestamp, RelationKey.isDeleted,
    VertexKey.updateTimestamp, VertexKey.isDeleted]
  split
  · rfl
  · split <;> rfl

theorem edgeMark_storedUnder {key : EdgeKey} (named : key.Named) (t : Instant) :
    (edgeMark key named t).StoredUnder key where
  key_eq := rfl
  markerFree := ((Properties.markerFree_empty.set rfl).set rfl).set rfl
  label := by
    rw [get?_edgeMark, get?_deletionMark]
    rfl

/-- Laying the mark over a bag marks it. -/
theorem Properties.marked_of_get? {before after : Properties} {t : Instant}
    (h : ∀ key, after.get? key = ((deletionMark t).get? key).or (before.get? key)) :
    before.Marked t after where
  deleted := by
    rw [h, get?_deletionMark]
    rfl
  time := by
    rw [h, get?_deletionMark]
    rfl
  others key hdeleted htime := by
    rw [h, get?_deletionMark, if_neg htime, if_neg hdeleted]
    rfl

namespace Graph

variable {g : Graph}

/-! ## Marks -/

/-- The mark of a stored vertex can be built, whatever is asked for besides. -/
theorem vertexMark_of_stored (h : g.store.Consistent) {id : String}
    (hid : g.store.hasVertex id = true) (p : Properties) : ∃ v, Vertex.new? id p = .ok v := by
  obtain ⟨v, hv⟩ := Store.hasVertex_iff.1 hid
  rw [Vertex.new?, dif_pos (h.vertex hv).id_ne_empty]
  exact ⟨_, rfl⟩

theorem edgeMark_of_stored (h : g.store.Consistent) {key : EdgeKey}
    (hkey : g.store.edges.contains key = true) (p : Properties) : ∃ e, Edge.new? key p = .ok e := by
  obtain ⟨e, he⟩ := Store.containsEdge_iff.1 hkey
  have named := (h.edge he).key_named
  rw [Edge.new?, dif_pos named.1, dif_pos named.2.1, dif_pos named.2.2]
  exact ⟨_, rfl⟩

/-- **A stored vertex can be marked.** -/
theorem markVertexDeleted_of_stored (h : g.store.Consistent) {id : String}
    (hid : g.store.hasVertex id = true) (t : Instant) :
    ∃ g' notices, g.markVertexDeleted id t = .ok (g', notices) ∧ g.VertexMarked id t g' := by
  obtain ⟨v, hv⟩ := Store.hasVertex_iff.1 hid
  have named := (h.vertex hv).id_ne_empty
  have hmark : Vertex.StoredUnder ⟨id, deletionMark t, named⟩ id :=
    ⟨rfl, markerFree_deletionMark t⟩
  have hproperties : v.properties.Marked t
      (mergedVertex (some v) ⟨id, deletionMark t, named⟩ true).properties :=
    Properties.marked_of_get? (get?_mergedVertex hmark (some v))
  obtain ⟨metrics, hframe⟩ := updateVertex_fst g ⟨id, deletionMark t, named⟩ true
  refine ⟨(g.updateVertex ⟨id, deletionMark t, named⟩ true).1,
    (g.updateVertex ⟨id, deletionMark t, named⟩ true).2, perform_markVertex named hid, ?_⟩
  rw [hframe]
  refine ⟨rfl, ⟨v, _, hv, ?_, Properties.isTrue_iff.2 hproperties.deleted, hproperties⟩, ?_, ?_⟩
  · exact (vertex?_storeVertex h _ true id).trans ((if_pos rfl).trans (by rw [hv]))
  · exact fun j hj => (vertex?_storeVertex h _ true j).trans (if_neg hj)
  · exact fun k => edge?_storeVertex ..

/-- An update of a stored edge leaves the vertices as they are. -/
theorem vertex?_storeEdge_of_stored {s : Store} {e : Edge} (he : s.edges.contains e.key = true)
    (overwrite : Bool) (id : String) : (storeEdge s e overwrite).vertex? id = s.vertex? id := by
  rw [storeEdge, if_pos he, Store.vertex?_overwriteEdge]

/-- **A stored edge can be marked.** -/
theorem markEdgeDeleted_of_stored (h : g.store.Consistent) {key : EdgeKey}
    (hkey : g.store.edges.contains key = true) (t : Instant) :
    ∃ g' notices, g.markEdgeDeleted key t = .ok (g', notices) ∧ g.EdgeMarked key t g' := by
  obtain ⟨e, he⟩ := Store.containsEdge_iff.1 hkey
  have named := (h.edge he).key_named
  have hmark := edgeMark_storedUnder named t
  have hkeys : ∀ old, some e = some old → old.key = key :=
    fun old hold => Option.some.inj hold ▸ (h.edge he).key_eq
  have hread := get?_mergedEdge hmark hkeys
  have hmerged := mergedEdge_storedUnder h (edgeMark key named t) true
  -- the label that the mark carries is the one that the stored edge has
  have hproperties : e.properties.Marked t
      (mergedEdge (some e) (edgeMark key named t) true).properties := by
    refine Properties.marked_of_get? fun name => ?_
    rw [hread, get?_edgeMark, Option.or_assoc]
    congr 1
    split
    · rename_i hname
      rw [hname]
      exact (h.edge he).label.symm
    · rfl
  obtain ⟨metrics, hframe⟩ := updateEdge_fst g (edgeMark key named t) true
  refine ⟨(g.updateEdge (edgeMark key named t) true).1,
    (g.updateEdge (edgeMark key named t) true).2, perform_markEdge named hkey, ?_⟩
  rw [hframe]
  refine ⟨rfl, ⟨e, _, he, ?_, Properties.isTrue_iff.2 hproperties.deleted, hproperties, ?_⟩,
    fun id => ?_, ?_⟩
  · exact (edge?_storeEdge h _ true key).trans ((if_pos rfl).trans (by rw [← he]; rfl))
  · have hlabel := hmerged.label
    rwa [show g.store.edge? (edgeMark key named t).key = some e from he] at hlabel
  · exact vertex?_storeEdge_of_stored hkey true id
  · exact fun k hk => (edge?_storeEdge h _ true k).trans (if_neg hk)

/-! ## Failures -/

theorem removeVertex_eq_error_iff {id : String} {err : GraphError} :
    g.removeVertex id = .error err ↔ g.store.vertex? id = none ∧ err = .vertexNotFound id := by
  refine eq_error_iff_of_option (fun v hv => ?_) fun hid => ?_
  · rw [removeVertex, hv]
    exact ⟨_, rfl⟩
  · rw [removeVertex, hid]

theorem removeEdge_eq_error_iff {key : EdgeKey} {err : GraphError} :
    g.removeEdge key = .error err ↔ g.store.edge? key = none ∧ err = .edgeNotFound key := by
  refine eq_error_iff_of_option (fun e he => ?_) fun hkey => ?_
  · rw [removeEdge, he]
    exact ⟨_, rfl⟩
  · rw [removeEdge, hkey]

/-- A placeholder that is removed is stored. -/
theorem deletePlaceholder_ne_error (h : g.store.Consistent) (id : String) (err : GraphError) :
    g.deletePlaceholder id ≠ .error err := by
  intro herror
  by_cases hremovable : g.RemovablePlaceholder id
  · obtain ⟨g', v, -, -, hdelete⟩ := deletePlaceholder_of_removable h hremovable
    rw [hdelete] at herror
    cases herror
  · rw [deletePlaceholder_of_not_removable h hremovable] at herror
    cases herror

theorem markVertexDeleted_eq_error_iff (h : g.store.Consistent) {id : String} {t : Instant}
    {err : GraphError} : g.markVertexDeleted id t = .error err ↔
      g.store.vertex? id = none ∧ err = .vertexNotFound id := by
  refine eq_error_iff_of_option (fun v hv => ?_) fun hid => ?_
  · obtain ⟨g', notices, hmark, -⟩ :=
      markVertexDeleted_of_stored h (Store.hasVertex_iff.2 ⟨v, hv⟩) t
    exact ⟨_, hmark⟩
  · rw [markVertexDeleted, Store.hasVertex_eq_false_iff.2 hid]
    rfl

theorem markEdgeDeleted_eq_error_iff (h : g.store.Consistent) {key : EdgeKey} {t : Instant}
    {err : GraphError} : g.markEdgeDeleted key t = .error err ↔
      g.store.edge? key = none ∧ err = .edgeNotFound key := by
  refine eq_error_iff_of_option (fun e he => ?_) fun hkey => ?_
  · obtain ⟨g', notices, hmark, -⟩ :=
      markEdgeDeleted_of_stored h (Store.containsEdge_iff.2 ⟨e, he⟩) t
    exact ⟨_, hmark⟩
  · rw [markEdgeDeleted, Store.containsEdge_eq_false_iff.2 hkey]
    rfl

/-- **An operation fails just if it misses its element**, and reports that. -/
theorem perform_eq_error_iff (h : g.store.Consistent) {op : Operation} {err : GraphError} :
    g.perform op = .error err ↔ op.Misses g.store err := by
  constructor
  · intro hop
    cases op with
    | markVertex id t =>
      obtain ⟨hid, rfl⟩ := (markVertexDeleted_eq_error_iff h).1 hop
      exact .markVertex hid
    | markEdge key t =>
      obtain ⟨hkey, rfl⟩ := (markEdgeDeleted_eq_error_iff h).1 hop
      exact .markEdge hkey
    | removeVertex id =>
      obtain ⟨hid, rfl⟩ := removeVertex_eq_error_iff.1 (map_eq_error_iff.1 hop)
      exact .removeVertex hid
    | removeEdge key =>
      obtain ⟨hkey, rfl⟩ := removeEdge_eq_error_iff.1 (map_eq_error_iff.1 hop)
      exact .removeEdge hkey
    | deletePlaceholder id =>
      exact absurd (map_eq_error_iff.1 hop) (deletePlaceholder_ne_error h id err)
    | updateVertex | updateEdge | union | setRoot | subscribe => cases hop
  · rintro (hid | hid | hkey | hkey)
    · exact map_eq_error_iff.2 (removeVertex_eq_error_iff.2 ⟨hid, rfl⟩)
    · exact (markVertexDeleted_eq_error_iff h).2 ⟨hid, rfl⟩
    · exact map_eq_error_iff.2 (removeEdge_eq_error_iff.2 ⟨hkey, rfl⟩)
    · exact (markEdgeDeleted_eq_error_iff h).2 ⟨hkey, rfl⟩

/-- **Operations that can fail do so only for want of their element, and do all or nothing.** A
removal or a mark fails just if the vertex or the edge is not stored, whatever the identity, and no
other operation fails. In particular the change that marks a stored element is never refused. What
fails leaves the whole graph as it is, and calls no subscriber, also when it is carried out in place:
the steps before the error have changed nothing. A removal that fails is tried on the store first,
and the store keeps its indices too. What marks a stored element succeeds: the element reads as
deleted at the given time and has all else that it had, and the rest of the graph is as it was. -/
theorem Built.failures_exact (h : g.Built) :
    (∀ op err, g.perform op = .error err ↔ op.Misses g.store err) ∧
    (∀ op err, g.perform op = .error err → g.attempt op = g ∧ g.calls op = []) ∧
    (∀ (op : Operation) calls err left, op.inPlace ⟨g, calls⟩ = .error err left ↔
      op.Misses g.store err ∧ left = ⟨g, calls⟩) ∧
    (∀ id, g.store.vertex? id = none → g.store.removeVertex id = g.store) ∧
    (∀ key, g.store.edge? key = none → g.store.removeEdge key = g.store) ∧
    (∀ id, g.store.hasVertex id = true → ∃ mark, Vertex.new? id .empty = .ok mark) ∧
    (∀ key, g.store.edges.contains key = true → ∃ mark, Edge.new? key .empty = .ok mark) ∧
    (∀ op fault, g.perform op ≠ .error (.invalidArgument fault)) ∧
    (∀ id t, g.store.hasVertex id = true → ∃ g' notices,
      g.markVertexDeleted id t = .ok (g', notices) ∧ g.VertexMarked id t g') ∧
    ∀ key t, g.store.edges.contains key = true → ∃ g' notices,
      g.markEdgeDeleted key t = .ok (g', notices) ∧ g.EdgeMarked key t g' := by
  have hs := h.consistent
  refine ⟨fun op err => perform_eq_error_iff hs, fun op err hop => ?_, fun op calls err left => ?_,
    fun id => Store.removeVertex_of_absent, fun key => Store.removeEdge_of_absent, fun id hid => ?_,
    fun key hkey => ?_, fun op fault hop => ?_, fun id t hid => ?_, fun key t hkey => ?_⟩
  · exact ⟨attempt_of_error hop, calls_of_error hop⟩
  · rw [op.inPlace_eq_error_iff, perform_eq_error_iff hs]
  · exact vertexMark_of_stored hs hid .empty
  · exact edgeMark_of_stored hs hkey .empty
  · cases (perform_eq_error_iff hs).1 hop
  · exact markVertexDeleted_of_stored hs hid t
  · exact markEdgeDeleted_of_stored hs hkey t

/-- In a graph with one edge and somebody who listens, an edge without a source is not found, which
leaves the graph as it is, and the edge that is stored is marked and keeps a property of its own. -/
theorem Built.failures_exact_edge :
    let key : EdgeKey := ⟨"a", "b", "l"⟩
    let g := (Graph.new "g" none).run
      [.updateEdge ⟨key, .ofList [("weight", .integer 3)], by decide⟩ true, .subscribe "log" false]
    g.Built ∧ g.perform (.markEdge ⟨"", "b", "l"⟩ ⟨0, 0⟩) = .error (.edgeNotFound ⟨"", "b", "l"⟩) ∧
      g.calls (.markEdge ⟨"", "b", "l"⟩ ⟨0, 0⟩) = [] ∧
      (Operation.removeVertex "c").inPlace ⟨g, []⟩ = .error (.vertexNotFound "c") ⟨g, []⟩ ∧
      ∃ g' notices, g.markEdgeDeleted key ⟨0, 0⟩ = .ok (g', notices) ∧ g.EdgeMarked key ⟨0, 0⟩ g' := by
  intro key g
  have hg : g.Built := .run (.new "g" none) _
  obtain ⟨hfails, hsame, hinPlace, -, -, -, -, -, -, hmark⟩ := Built.failures_exact hg
  have hmisses := (hfails (.markEdge ⟨"", "b", "l"⟩ ⟨0, 0⟩) _).2 (.markEdge rfl)
  have habsent : g.store.vertex? "c" = none := Store.hasVertex_eq_false_iff.1 (by decide)
  have hleft := (hinPlace (.removeVertex "c") [] _ _).2 ⟨.removeVertex habsent, rfl⟩
  exact ⟨hg, hmisses, (hsame _ _ hmisses).2, hleft, hmark key ⟨0, 0⟩ (by decide)⟩

end Graph

end PropertyGraph
