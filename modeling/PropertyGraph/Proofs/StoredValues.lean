import PropertyGraph.Proofs.Content
import PropertyGraph.Proofs.Conversion
import PropertyGraph.Proofs.NodeLink

/-!
# Where stored values come from

A stored value was there before, or was brought by an update, or is one that graphs store of their
own accord: the label of an edge, or a part of a deletion mark. So whatever all values have in
common that are brought to a graph, all values in its store have. Most of all, the maps inside them
are listed in key order, and a graph that comes out of JSON stores only what JSON can hold.

## Main definitions

- `Value.Inherent` — what the values have that graphs store of their own accord
- `Store.All`, `Operation.All` — all values that are stored, or brought, have a property
- `Graph.BuiltOf` — the graphs that can be built from values of some kind

## Main results

- `Graph.BuiltOf.all` — what all values have that are brought, all stored values have
- `Graph.BuiltOf.ordered` — the maps inside stored values are in key order
- `NodeLink.toGraph_ofGraph_of_toGraph` — a graph that was imported once comes back as it is
-/

namespace PropertyGraph

variable {P : Value → Prop}

/-- The values have a property that graphs store of their own accord. -/
structure Value.Inherent (P : Value → Prop) : Prop where
  string : ∀ s, P (.string s)
  boolean : ∀ b, P (.boolean b)
  timestamp : ∀ t, P (.timestamp t)

/-- All values of a bag have a property. -/
def Properties.All (P : Value → Prop) (p : Properties) : Prop := ∀ k x, p.get? k = some x → P x

/-- All values in a store have a property. -/
def Store.All (P : Value → Prop) (s : Store) : Prop := ∀ x, s.Holds x → P x

/-- All values that an operation brings have a property. -/
def Operation.All (P : Value → Prop) : Operation → Prop
  | .updateVertex v _ => v.properties.All P
  | .updateEdge e _ => e.properties.All P
  | .union other => other.store.All P
  | _ => True

/-- The graphs that can be built from values with a property. Documents may have any values. -/
inductive Graph.BuiltOf (P : Value → Prop) : Graph → Prop
  | new (name : String) (root : Option String) : BuiltOf P (.new name root)
  | perform {g : Graph} {op : Operation} {r : Graph × List Notice} :
      BuiltOf P g → op.All P → g.perform op = .ok r → BuiltOf P r.1
  | copy {g : Graph} : BuiltOf P g → BuiltOf P g.copy
  | subgraph {g : Graph} (ids : List String) : BuiltOf P g → BuiltOf P (g.subgraph ids)
  | matching {g : Graph} (f : Option AttributeFilter) (q : Option Query)
      (edgeFilter : Option AttributeFilter) :
      BuiltOf P g → BuiltOf P (g.matchingVertices f q edgeFilter)
  | extracted {g : Graph} (q : ReachQuery) : BuiltOf P g → BuiltOf P (g.extractReachable q).1
  | traversed {g : Graph} (q : ReachQuery) : BuiltOf P g → BuiltOf P (g.extractReachable q).2
  | searched {g : Graph} (pattern : Graph) (options : MatchOptions) (anchors : List Anchor) :
      BuiltOf P g → BuiltOf P (g.findMatches pattern options anchors).1
  | imported {d : NodeLink.Document} {r : Graph × NodeLink.ImportCounts} :
      d.toGraph = .ok r → BuiltOf P r.1

/-! ## Kinds of values -/

namespace Value

theorem inherent_ordered : Inherent Ordered where
  string s entries hin := by cases hin
  boolean b entries hin := by cases hin
  timestamp t entries hin := by cases hin

theorem plain_string (s : String) : (string s).Plain where
  noTimestamp t ht := by cases ht
  finite x hx := by cases hx

end Value

/-! ## Bags -/

namespace Properties.All

variable {p q : Properties}

theorem empty : (Properties.empty).All P := by
  intro k x hx
  cases hx

theorem set (h : p.All P) {key : String} {v : Value} (hv : P v) : (p.set key v).All P := by
  intro k x hx
  rw [get?_eq_some_iff, Properties.set, SortedMap.get?_insert] at hx
  obtain ⟨hx, hset⟩ := hx
  split at hx
  · cases hx
    exact hv
  · exact h k x (get?_eq_some_iff.2 ⟨hx, hset⟩)

theorem normalize (h : p.All P) : p.normalize.All P := by
  intro k x hx
  rw [get?_normalize] at hx
  exact h k x hx

/-- A merged bag has its values from the bag and from the change. -/
theorem merge (h : p.All P) (h' : q.All P) (overwrite : Bool) : (p.merge q overwrite).All P := by
  intro k x hx
  rw [get?_merge] at hx
  unfold mergedValue at hx
  split at hx
  · exact h k x hx
  · rename_i v hv
    split at hx
    · cases hx
    · rename_i hset
      split at hx
      · cases hx
        exact h' k x (get?_eq_some_iff.2 ⟨hv, Bool.eq_false_iff.2 hset⟩)
      · exact h k x hx

/-- The values of a bag of JSON members are those of the members. -/
theorem ofJson {members : List (String × Json)} (h : ∀ e ∈ members, P (.ofJson e.2)) :
    (Properties.ofJson members).All P := by
  intro k x hx
  have hmem := SortedMap.get?_eq_some_iff.1 (get?_eq_some_iff.1 hx).1
  have hlisted := SortedMap.mem_of_mem_ofList hmem
  rw [Value.ofJsonMembers_eq_map, List.mem_map] at hlisted
  obtain ⟨e, he, heq⟩ := hlisted
  cases heq
  exact h e he

/-- The members of a JSON object are canonical. -/
theorem ofObject (hjson : ∀ j : Json, j.canonical = j → P (.ofJson j)) (o : JsonObject) :
    (Properties.ofJson o.members).All P :=
  .ofJson fun _ he => hjson _ (Json.canonical_of_mem_object o.canonical he)

end Properties.All

/-! ## Stores -/

/-- An edge brings its vertices no values: those that are created have none. -/
theorem properties_of_storeEdge {s : Store} (hs : s.Consistent) {e : Edge} {overwrite : Bool}
    {id : String} {v : Vertex} (hv : (Graph.storeEdge s e overwrite).vertex? id = some v) :
    v.properties = .empty ∨ ∃ old, s.vertex? id = some old ∧ v.properties = old.properties := by
  have hbag := Graph.properties_storeEdge hs e overwrite id
  rw [hv, Option.map_some] at hbag
  cases hold : s.vertex? id with
  | some old =>
    rw [hold] at hbag
    exact .inr ⟨old, rfl, Option.some.inj hbag⟩
  | none =>
    rw [hold] at hbag
    split at hbag
    · exact .inl (Option.some.inj hbag)
    · cases hbag

namespace Store.All

variable {s t : Store}

theorem empty : (Store.empty).All P := by
  rintro x (hv | he)
  · cases hv
  · cases he

theorem vertex (h : s.All P) {id : String} {v : Vertex} (hv : s.vertex? id = some v) :
    v.properties.All P :=
  fun _ x hx => h x (.vertex hv hx)

theorem edge (h : s.All P) {k : EdgeKey} {e : Edge} (he : s.edge? k = some e) :
    e.properties.All P :=
  fun _ x hx => h x (.edge he hx)

/-- A store whose bags are bags of another store. -/
theorem of_sub (h : s.All P) (hvertex : ∀ id v, t.vertex? id = some v → s.vertex? id = some v)
    (hedge : ∀ k e, t.edge? k = some e → s.edge? k = some e) : t.All P := by
  rintro x (⟨hv, hx⟩ | ⟨he, hx⟩)
  · exact h.vertex (hvertex _ _ hv) _ x hx
  · exact h.edge (hedge _ _ he) _ x hx

theorem storeVertex (h : s.All P) (hs : s.Consistent) {v : Vertex} (hv : v.properties.All P)
    (overwrite : Bool) : (Graph.storeVertex s v overwrite).All P := by
  have hmerged : (Graph.mergedVertex (s.vertex? v.id) v overwrite).properties.All P := by
    cases hold : s.vertex? v.id with
    | none => exact hv.normalize
    | some old => exact (h.vertex hold).merge hv overwrite
  rintro x (⟨hw, hx⟩ | ⟨he, hx⟩)
  · rw [Graph.vertex?_storeVertex hs] at hw
    split at hw
    · cases hw
      exact hmerged _ x hx
    · exact h.vertex hw _ x hx
  · rw [Graph.edge?_storeVertex] at he
    exact h.edge he _ x hx

theorem storeEdge (h : s.All P) (hs : s.Consistent) {e : Edge} (he : e.properties.All P)
    (hlabel : ∀ label, P (.string label)) (overwrite : Bool) :
    (Graph.storeEdge s e overwrite).All P := by
  have hmerged : (Graph.mergedEdge (s.edge? e.key) e overwrite).properties.All P := by
    cases hold : s.edge? e.key with
    | none => exact he.normalize.set (hlabel _)
    | some old => exact ((h.edge hold).merge he overwrite).set (hlabel _)
  rintro x (⟨hv, hx⟩ | ⟨hf, hx⟩)
  · obtain hnone | ⟨old, hold, hsame⟩ := properties_of_storeEdge hs hv
    · rw [hnone] at hx
      cases hx
    · rw [hsame] at hx
      exact h.vertex hold _ x hx
  · rw [Graph.edge?_storeEdge hs] at hf
    split at hf
    · cases hf
      exact hmerged _ x hx
    · exact h.edge hf _ x hx

theorem removeEdge (h : s.All P) (key : EdgeKey) : (s.removeEdge key).All P := by
  refine h.of_sub (fun id v hv => ?_) fun k e he => ?_
  · rwa [vertex?_removeEdge] at hv
  · rw [edge?_removeEdge] at he
    split at he
    · cases he
    · exact he

theorem removeVertex (h : s.All P) (hs : s.Consistent) (id : String) :
    (s.removeVertex id).All P := by
  refine h.of_sub (fun j v hv => ?_) fun k e he => ?_
  · rw [vertex?_removeVertex] at hv
    split at hv
    · cases hv
    · exact hv
  · rw [hs.edge?_removeVertex] at he
    split at he
    · cases he
    · exact he

theorem foldl_storeVertex (h : s.All P) (hs : s.Consistent) {vertices : List Vertex}
    (hvertices : ∀ v ∈ vertices, v.properties.All P) :
    (vertices.foldl (fun s v => Graph.storeVertex s v true) s).All P := by
  induction vertices generalizing s with
  | nil => exact h
  | cons v rest ih =>
    obtain ⟨hv, hrest⟩ := List.forall_mem_cons.1 hvertices
    exact ih (h.storeVertex hs hv true) (Graph.storeVertex_consistent hs v true) hrest

theorem foldl_storeEdge (h : s.All P) (hs : s.Consistent) {edges : List Edge}
    (hedges : ∀ e ∈ edges, e.properties.All P) (hlabel : ∀ label, P (.string label)) :
    (edges.foldl (fun s e => Graph.storeEdge s e true) s).All P := by
  induction edges generalizing s with
  | nil => exact h
  | cons e rest ih =>
    obtain ⟨he, hrest⟩ := List.forall_mem_cons.1 hedges
    exact ih (h.storeEdge hs he hlabel true) (Graph.storeEdge_consistent hs e true) hrest

end Store.All

namespace Graph

variable {g : Graph}

/-! ## Operations -/

theorem all_deletionMark (hP : Value.Inherent P) (t : Instant) : (deletionMark t).All P :=
  (Properties.All.empty.set (hP.boolean true)).set (hP.timestamp t)

theorem all_edgeMark (hP : Value.Inherent P) {key : EdgeKey} (named : key.Named) (t : Instant) :
    (edgeMark key named t).properties.All P :=
  ((Properties.All.empty.set (hP.string _)).set (hP.boolean true)).set (hP.timestamp t)

/-- **One operation**: what it stores was there or was brought. -/
theorem all_perform (hP : Value.Inherent P) (h : g.store.All P) (hs : g.store.Consistent)
    {op : Operation} (hop : op.All P) {r : Graph × List Notice} (hr : g.perform op = .ok r) :
    r.1.store.All P := by
  cases op with
  | updateVertex v overwrite =>
    cases hr
    rw [store_updateVertex]
    exact h.storeVertex hs hop overwrite
  | updateEdge e overwrite =>
    cases hr
    rw [store_updateEdge]
    exact h.storeEdge hs hop hP.string overwrite
  | markVertex id t =>
    obtain ⟨-, named, rfl⟩ := markVertexDeleted_eq_ok hr
    rw [store_updateVertex]
    exact h.storeVertex hs (all_deletionMark hP t) true
  | markEdge key t =>
    obtain ⟨-, named, rfl⟩ := markEdgeDeleted_eq_ok hr
    rw [store_updateEdge]
    exact h.storeEdge hs (all_edgeMark hP named t) hP.string true
  | removeVertex id =>
    obtain ⟨removed, hremoved, rfl⟩ := map_eq_ok_iff.1 hr
    rw [(removeVertex_eq_ok hremoved).2]
    exact h.removeVertex hs id
  | removeEdge key =>
    obtain ⟨removed, hremoved, rfl⟩ := map_eq_ok_iff.1 hr
    rw [(removeEdge_eq_ok hremoved).2]
    exact h.removeEdge key
  | deletePlaceholder id =>
    obtain ⟨removed, hremoved, rfl⟩ := map_eq_ok_iff.1 hr
    rcases deletePlaceholder_eq_ok hremoved with ⟨-, hstore⟩ | ⟨-, hsame⟩
    · rw [hstore]
      exact h.removeVertex hs id
    · rw [hsame]
      exact h
  | union other =>
    cases hr
    have hvertices : ∀ v ∈ other.store.vertexList, v.properties.All P := by
      intro v hv
      obtain ⟨id, hid⟩ := Store.mem_vertexList.1 hv
      exact Store.All.vertex hop hid
    have hedges : ∀ e ∈ other.store.edgeList, e.properties.All P := by
      intro e he
      obtain ⟨key, hkey⟩ := Store.mem_edgeList.1 he
      exact Store.All.edge hop hkey
    rw [store_union]
    exact (h.foldl_storeVertex hs hvertices).foldl_storeEdge
      (foldl_storeVertex_consistent hs _) hedges hP.string
  | setRoot id =>
    cases hr
    exact h
  | subscribe name finalizing =>
    cases hr
    exact h

theorem all_restrict (h : g.store.All P) (hs : g.store.Consistent) (keep : String → Bool)
    (edgeOk : Edge → Bool) : (g.restrict keep edgeOk).store.All P := by
  refine h.of_sub (fun id v hv => ?_) fun k e he => ?_
  · rw [vertex?_restrict hs] at hv
    split at hv
    · exact hv
    · cases hv
  · rw [edge?_restrict hs, Option.filter_eq_some_iff] at he
    exact he.1

/-! ## Import -/

theorem all_addNode {state state' : Graph × NodeLink.Indices} {n : NodeLink.Node}
    (hjson : ∀ j : Json, j.canonical = j → P (.ofJson j)) (h : state.1.store.All P)
    (hs : state.1.store.Consistent) (hadd : NodeLink.addNode state n = .ok state') :
    state'.1.store.All P := by
  obtain ⟨g, indices⟩ := state
  unfold NodeLink.addNode at hadd
  dsimp only at hadd
  split at hadd
  · cases hadd
  · rw [bind_eq_ok_iff] at hadd
    obtain ⟨v, hv, hadd⟩ := hadd
    cases hadd
    obtain ⟨-, rfl⟩ := Vertex.new?_eq_ok hv
    show (g.updateVertex _ true).1.store.All P
    rw [store_updateVertex]
    exact h.storeVertex hs (.ofObject hjson n.properties) true

theorem all_addLink {indices : NodeLink.Indices} {g' : Graph} {l : NodeLink.Link}
    (hjson : ∀ j : Json, j.canonical = j → P (.ofJson j)) (hlabel : ∀ label, P (.string label))
    (h : g.store.All P) (hs : g.store.Consistent) (hadd : NodeLink.addLink indices g l = .ok g') :
    g'.store.All P := by
  simp only [NodeLink.addLink, bind_eq_ok_iff] at hadd
  obtain ⟨source, -, target, -, e, he, hadd⟩ := hadd
  cases hadd
  obtain ⟨named, rfl⟩ := Edge.new?_eq_ok he
  rw [store_updateEdge]
  exact h.storeEdge hs ((Properties.All.ofObject hjson l.properties).set (hlabel _)) hlabel true

/-- **Import**: all values of a graph that is imported are values of JSON, or labels. -/
theorem all_toGraph {d : NodeLink.Document} {r : Graph × NodeLink.ImportCounts}
    (hjson : ∀ j : Json, j.canonical = j → P (.ofJson j)) (hlabel : ∀ label, P (.string label))
    (h : d.toGraph = .ok r) : r.1.store.All P := by
  simp only [NodeLink.Document.toGraph, bind_eq_ok_iff] at h
  obtain ⟨⟨g₁, indices⟩, hnodes, g₂, hlinks, h⟩ := h
  cases h
  have hg₁ : g₁.store.Consistent ∧ g₁.store.All P :=
    foldlM_invariant
      (P := fun state : Graph × NodeLink.Indices => state.1.store.Consistent ∧ state.1.store.All P)
      (fun _ _ _ hstate hadd =>
        ⟨addNode_consistent hstate.1 hadd, all_addNode hjson hstate.2 hstate.1 hadd⟩)
      ⟨.empty, .empty⟩ hnodes
  have hg₂ : g₂.store.Consistent ∧ g₂.store.All P :=
    foldlM_invariant (P := fun g : Graph => g.store.Consistent ∧ g.store.All P)
      (fun _ _ _ hg hadd =>
        ⟨addLink_consistent hg.1 hadd, all_addLink hjson hlabel hg.2 hg.1 hadd⟩)
      hg₁ hlinks
  exact hg₂.2

/-! ## All graphs -/

theorem BuiltOf.built (h : g.BuiltOf P) : g.Built := by
  induction h with
  | new name root => exact .new name root
  | perform _ _ hop ih => exact ih.perform hop
  | copy _ ih => exact ih.copy
  | subgraph ids _ ih => exact ih.subgraph ids
  | matching f q edgeFilter _ ih => exact ih.matching f q edgeFilter
  | extracted q _ ih => exact ih.extracted q
  | traversed q _ ih => exact ih.traversed q
  | searched pattern options anchors _ ih => exact ih.searched pattern options anchors
  | imported h => exact .imported h

/-- All graphs are built from values of any kind. -/
theorem Built.builtOf (h : g.Built) : g.BuiltOf fun _ => True := by
  induction h with
  | new name root => exact .new name root
  | @perform _ op _ _ hop ih =>
    have hall : op.All fun _ => True := by
      cases op <;> simp [Operation.All, Properties.All, Store.All]
    exact ih.perform hall hop
  | copy _ ih => exact ih.copy
  | subgraph ids _ ih => exact ih.subgraph ids
  | matching f q edgeFilter _ ih => exact ih.matching f q edgeFilter
  | extracted q _ ih => exact ih.extracted q
  | traversed q _ ih => exact ih.traversed q
  | searched pattern options anchors _ ih => exact ih.searched pattern options anchors
  | imported h => exact .imported h

/-- **What all values have that are brought, all stored values have.** -/
theorem BuiltOf.all (hP : Value.Inherent P) (hjson : ∀ j : Json, j.canonical = j → P (.ofJson j))
    (h : g.BuiltOf P) : g.store.All P := by
  induction h with
  | new name root => exact .empty
  | perform hg hop hperform ih => exact all_perform hP ih hg.built.consistent hop hperform
  | copy _ ih => exact ih
  | subgraph ids hg ih => exact all_restrict ih hg.built.consistent _ _
  | matching f q edgeFilter hg ih => exact all_restrict ih hg.built.consistent _ _
  | extracted q hg ih => exact all_restrict ih hg.built.consistent _ _
  | traversed q _ ih => exact ih
  | searched pattern options anchors _ ih =>
    rw [store_findMatches]
    exact ih
  | imported h => exact all_toGraph hjson hP.string h

/-- The maps inside stored values are in key order if those are that updates bring. -/
theorem BuiltOf.ordered (h : g.BuiltOf Value.Ordered) {x : Value} (hx : g.store.Holds x) :
    x.Ordered :=
  h.all Value.inherent_ordered (fun _ => Value.ordered_ofJson) x hx

/-- A stored value is the same after conversion to JSON and back just if it is plain. -/
theorem BuiltOf.beq_ofJson_toJson_iff (h : g.BuiltOf Value.Ordered) {x : Value}
    (hx : g.store.Holds x) : (Value.ofJson x.toJson == x) = true ↔ x.Plain :=
  Value.beq_ofJson_toJson_iff x (h.ordered hx)

/-- **Export and import change nothing** where all stored values are plain. -/
theorem BuiltOf.toGraph_ofGraph_of_plain (h : g.BuiltOf Value.Ordered)
    (hsize : g.store.vertices.size ≤ UInt64.size) (hplain : ∀ x, g.store.Holds x → x.Plain) :
    ∃ imported, (NodeLink.Document.ofGraph g).toGraph =
        .ok (imported, ⟨g.store.vertices.size, g.store.edges.size⟩) ∧ imported.SameContent g := by
  have hs := h.built.consistent
  obtain ⟨imported, htoGraph, hname, hroot, hstore⟩ := exists_toGraph_ofGraph hs hsize
  have hvalues : ∀ x, g.store.Holds x → x.Plain ∧ x.Ordered :=
    fun x hx => ⟨hplain x hx, h.ordered hx⟩
  exact ⟨imported, htoGraph, hname, hroot, hstore.trans (hs.readBack_eq_self hvalues)⟩

end Graph

namespace NodeLink

/-- A graph that is imported has only plain values. -/
theorem plain_of_toGraph {d : Document} {r : Graph × ImportCounts} (h : d.toGraph = .ok r)
    {x : Value} (hx : r.1.store.Holds x) : x.Plain :=
  Graph.all_toGraph (fun _ => Value.plain_ofJson) Value.plain_string h x hx

/-- **A graph that was imported once** is the same when it is exported and imported again. -/
theorem toGraph_ofGraph_of_toGraph {d : Document} {r : Graph × ImportCounts}
    (h : d.toGraph = .ok r) (hsize : r.1.store.vertices.size ≤ UInt64.size) :
    ∃ imported, (Document.ofGraph r.1).toGraph =
        .ok (imported, ⟨r.1.store.vertices.size, r.1.store.edges.size⟩) ∧
      imported.SameContent r.1 :=
  Graph.BuiltOf.toGraph_ofGraph_of_plain (.imported h) hsize fun _ => plain_of_toGraph h

end NodeLink

end PropertyGraph
