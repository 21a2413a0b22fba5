import PropertyGraph.Proofs.Built
import PropertyGraph.Proofs.Content

/-!
# The union of two graphs

A union updates a graph with every vertex and then with every edge of another one. No identity comes
up twice, so each element is merged once into what was stored before; and as the endpoints of the
edges are among the vertices, no edge has to bring one along. Read value by value, the other graph
lies over the first one, and that is all that the laws of union need.

## Main results

- `Graph.vertex?_union`, `Graph.edge?_union` — the elements of a union
- `Graph.Built.union_laws` — union is right-biased, associative and idempotent
-/

namespace PropertyGraph

namespace Graph

variable {s t : Store}

/-! ## Updates with the elements of a store -/

/-- Updating with vertices of `t`, each of them once, merges these into what `s` has. -/
theorem vertex?_foldl_storeVertex (h : s.Consistent) {vertices : List Vertex}
    (hnodup : (vertices.map (·.id)).Nodup) (hlisted : ∀ v ∈ vertices, t.vertex? v.id = some v)
    (id : String) :
    (vertices.foldl (fun s v => storeVertex s v true) s).vertex? id =
      if id ∈ vertices.map (·.id) then
        (t.vertex? id).map fun v => mergedVertex (s.vertex? id) v true
      else s.vertex? id := by
  induction vertices generalizing s with
  | nil => rfl
  | cons v rest ih =>
    obtain ⟨hv, hrest⟩ := List.nodup_cons.1 hnodup
    have hstep := ih (storeVertex_consistent h v true) hrest
      fun w hw => hlisted w (List.mem_cons_of_mem _ hw)
    rw [List.foldl_cons, hstep, vertex?_storeVertex h]
    by_cases hid : id = v.id
    · subst hid
      simp [hv, hlisted v List.mem_cons_self]
    · simp [hid]

theorem edge?_foldl_storeEdge (h : s.Consistent) {edges : List Edge}
    (hnodup : (edges.map (·.key)).Nodup) (hlisted : ∀ e ∈ edges, t.edge? e.key = some e)
    (k : EdgeKey) :
    (edges.foldl (fun s e => storeEdge s e true) s).edge? k =
      if k ∈ edges.map (·.key) then (t.edge? k).map fun e => mergedEdge (s.edge? k) e true
      else s.edge? k := by
  induction edges generalizing s with
  | nil => rfl
  | cons e rest ih =>
    obtain ⟨he, hrest⟩ := List.nodup_cons.1 hnodup
    have hstep := ih (storeEdge_consistent h e true) hrest
      fun f hf => hlisted f (List.mem_cons_of_mem _ hf)
    rw [List.foldl_cons, hstep, edge?_storeEdge h]
    by_cases hk : k = e.key
    · subst hk
      simp [he, hlisted e List.mem_cons_self]
    · simp [hk]

/-- Updates of edges between stored vertices leave the vertices as they are. -/
theorem vertex?_foldl_storeEdge (h : s.Consistent) {edges : List Edge}
    (hends : ∀ e ∈ edges, s.hasVertex e.key.source = true ∧ s.hasVertex e.key.target = true)
    (id : String) :
    (edges.foldl (fun s e => storeEdge s e true) s).vertex? id = s.vertex? id := by
  induction edges generalizing s with
  | nil => rfl
  | cons e rest ih =>
    have hkey := (mergedEdge_storedUnder h e true).key_eq
    have hsame : ∀ id, (storeEdge s e true).vertex? id = s.vertex? id := by
      intro id
      obtain ⟨hsource, htarget⟩ := hends e List.mem_cons_self
      rw [← hkey] at hsource htarget
      rw [storeEdge_eq_insertEdge h, Store.vertex?_insertEdge_of_endpoints hsource htarget]
    rw [List.foldl_cons, ih (storeEdge_consistent h e true), hsame]
    intro f hf
    rw [Store.hasVertex_iff, Store.hasVertex_iff, hsame, hsame, ← Store.hasVertex_iff,
      ← Store.hasVertex_iff]
    exact hends f (List.mem_cons_of_mem _ hf)

/-! ## The elements of a union -/

variable {a b c : Graph}

/-- A union changes the elements and the root, and what is counted. -/
theorem union_fst (a b : Graph) :
    ∃ metrics, (a.union b).1 =
      { a with root := a.root <|> b.root, store := (a.union b).1.store, metrics := metrics } := by
  obtain ⟨first, hvertices⟩ := updateVertices_fst a b.store.vertexList
  obtain ⟨metrics, hedges⟩ :=
    updateEdges_fst (a.updateVertices b.store.vertexList).1 b.store.edgeList
  refine ⟨metrics, ?_⟩
  rw [store_union, union]
  dsimp only
  rw [hedges, hvertices]

theorem name_union (a b : Graph) : (a.union b).1.name = a.name := by
  obtain ⟨metrics, h⟩ := union_fst a b
  rw [h]

theorem root_union (a b : Graph) : (a.union b).1.root = (a.root <|> b.root) := by
  obtain ⟨metrics, h⟩ := union_fst a b
  rw [h]

theorem union_consistent (ha : a.store.Consistent) (b : Graph) :
    (a.union b).1.store.Consistent := by
  rw [store_union]
  exact foldl_storeEdge_consistent (foldl_storeVertex_consistent ha _) _

/-- A vertex of the other graph is merged into what is stored; all others stay as they are. -/
theorem vertex?_union (ha : a.store.Consistent) (hb : b.store.Consistent) (id : String) :
    (a.union b).1.store.vertex? id =
      ((b.store.vertex? id).map fun v => mergedVertex (a.store.vertex? id) v true).or
        (a.store.vertex? id) := by
  have hvertices := vertex?_foldl_storeVertex ha hb.nodup_ids_vertexList
    fun v hv => (hb.storedUnder_of_mem_vertexList hv).1
  have hmem : ∀ id, id ∈ b.store.vertexList.map (·.id) ↔ b.store.hasVertex id = true := by
    intro id
    rw [hb.map_id_vertexList, Store.mem_vertexIds]
  -- what the first graph has, with the vertices of the other one
  have hjoined : ∀ id,
      (b.store.vertexList.foldl (fun s v => storeVertex s v true) a.store).vertex? id =
      ((b.store.vertex? id).map fun v => mergedVertex (a.store.vertex? id) v true).or
        (a.store.vertex? id) := by
    intro id
    rw [hvertices]
    cases hv : b.store.vertex? id with
    | some v => simp [hmem, Store.hasVertex_of_vertex? hv]
    | none => simp [hmem, Store.hasVertex_eq_false_iff.2 hv]
  rw [store_union, vertex?_foldl_storeEdge (foldl_storeVertex_consistent ha _), hjoined]
  -- no endpoint of an edge is missing
  have hhas : ∀ {id}, b.store.hasVertex id = true →
      (b.store.vertexList.foldl (fun s v => storeVertex s v true) a.store).hasVertex id = true := by
    intro id hid
    obtain ⟨v, hv⟩ := Store.hasVertex_iff.1 hid
    rw [Store.hasVertex_iff, hjoined, hv]
    exact ⟨_, rfl⟩
  intro e he
  have hstored := Store.containsEdge_of_edge? (hb.storedUnder_of_mem_edgeList he).1
  exact ⟨hhas (hb.source_stored _ hstored), hhas (hb.target_stored _ hstored)⟩

theorem edge?_union (ha : a.store.Consistent) (hb : b.store.Consistent) (k : EdgeKey) :
    (a.union b).1.store.edge? k =
      ((b.store.edge? k).map fun e => mergedEdge (a.store.edge? k) e true).or
        (a.store.edge? k) := by
  have hmem : k ∈ b.store.edgeList.map (·.key) ↔ b.store.edges.contains k = true := by
    rw [hb.map_key_edgeList, SortedMap.mem_keys_iff]
  rw [store_union,
    edge?_foldl_storeEdge (foldl_storeVertex_consistent ha _) hb.nodup_keys_edgeList
      fun e he => (hb.storedUnder_of_mem_edgeList he).1,
    edge?_foldl_storeVertex]
  cases he : b.store.edge? k with
  | some e => simp [hmem, Store.containsEdge_of_edge? he]
  | none => simp [hmem, Store.containsEdge_eq_false_iff.2 he]

/-! ## Membership and values -/

theorem hasVertex_union (ha : a.store.Consistent) (hb : b.store.Consistent) (id : String) :
    (a.union b).1.store.hasVertex id = true ↔
      a.store.hasVertex id = true ∨ b.store.hasVertex id = true := by
  rw [Store.hasVertex_iff, Store.hasVertex_iff, Store.hasVertex_iff, vertex?_union ha hb]
  cases b.store.vertex? id with
  | some v => simp
  | none => simp

theorem containsEdge_union (ha : a.store.Consistent) (hb : b.store.Consistent) (k : EdgeKey) :
    (a.union b).1.store.edges.contains k = true ↔
      a.store.edges.contains k = true ∨ b.store.edges.contains k = true := by
  rw [Store.containsEdge_iff, Store.containsEdge_iff, Store.containsEdge_iff, edge?_union ha hb]
  cases b.store.edge? k with
  | some e => simp
  | none => simp

/-- A vertex that is merged as it was stored elsewhere lies over the one that is there. -/
theorem get?_mergedVertex {v : Vertex} {id : String} (hv : v.StoredUnder id)
    (stored : Option Vertex) (key : String) :
    (mergedVertex stored v true).properties.get? key =
      (v.properties.get? key).or (stored.bind (·.properties.get? key)) := by
  cases stored with
  | some old =>
    refine (Properties.get?_merge _ _ _ _).trans ?_
    exact hv.markerFree.mergedValue_eq_or key
  | none =>
    refine (Properties.get?_normalize _ _).trans ?_
    exact Option.or_none.symm

theorem get?_mergedEdge {e : Edge} {k : EdgeKey} (he : e.StoredUnder k) {stored : Option Edge}
    (hstored : ∀ old, stored = some old → old.key = k) (key : String) :
    (mergedEdge stored e true).properties.get? key =
      (e.properties.get? key).or (stored.bind (·.properties.get? key)) := by
  -- the label that is put back is the one that the edge brings along
  by_cases hkey : key = RelationKey.relationshipType
  · subst hkey
    rw [he.label]
    cases stored with
    | some old =>
      refine (Properties.get?_set rfl _).trans ((if_pos rfl).trans ?_)
      rw [Edge.withProperties, hstored old rfl]
      rfl
    | none =>
      refine (Properties.get?_set rfl _).trans ((if_pos rfl).trans ?_)
      rw [Edge.withProperties, he.key_eq]
      rfl
  · cases stored with
    | some old =>
      refine (Properties.get?_set rfl _).trans ((if_neg hkey).trans ?_)
      refine (Properties.get?_merge _ _ _ _).trans ?_
      exact he.markerFree.mergedValue_eq_or key
    | none =>
      refine (Properties.get?_set rfl _).trans ((if_neg hkey).trans ?_)
      refine (Properties.get?_normalize _ _).trans ?_
      exact Option.or_none.symm

theorem vertexValue?_union (ha : a.store.Consistent) (hb : b.store.Consistent) (id key : String) :
    (a.union b).1.store.vertexValue? id key =
      (b.store.vertexValue? id key).or (a.store.vertexValue? id key) := by
  rw [Store.vertexValue?, vertex?_union ha hb, Store.vertexValue?, Store.vertexValue?]
  cases hv : b.store.vertex? id with
  | some v => exact get?_mergedVertex (hb.vertex hv) _ key
  | none => rfl

theorem edgeValue?_union (ha : a.store.Consistent) (hb : b.store.Consistent) (k : EdgeKey)
    (key : String) :
    (a.union b).1.store.edgeValue? k key =
      (b.store.edgeValue? k key).or (a.store.edgeValue? k key) := by
  rw [Store.edgeValue?, edge?_union ha hb, Store.edgeValue?, Store.edgeValue?]
  cases he : b.store.edge? k with
  | some e => exact get?_mergedEdge (hb.edge he) (fun old hold => (ha.edge hold).key_eq) key
  | none => rfl

/-! ## Laws -/

theorem union_assoc (ha : a.store.Consistent) (hb : b.store.Consistent) (hc : c.store.Consistent) :
    ((a.union b).1.union c).1.SameContent (a.union (b.union c).1).1 where
  name := by rw [name_union, name_union, name_union]
  root := by
    rw [root_union, root_union, root_union, root_union]
    cases a.root <;> rfl
  store := by
    have hab := union_consistent ha b
    have hbc := union_consistent hb c
    refine (union_consistent hab c).ext_values (union_consistent ha _) ?_ ?_ ?_ ?_
    · intro id
      rw [hasVertex_union hab hc, hasVertex_union ha hb, hasVertex_union ha hbc,
        hasVertex_union hb hc, or_assoc]
    · intro k
      rw [containsEdge_union hab hc, containsEdge_union ha hb, containsEdge_union ha hbc,
        containsEdge_union hb hc, or_assoc]
    · intro id key
      rw [vertexValue?_union hab hc, vertexValue?_union ha hb, vertexValue?_union ha hbc,
        vertexValue?_union hb hc, Option.or_assoc]
    · intro k key
      rw [edgeValue?_union hab hc, edgeValue?_union ha hb, edgeValue?_union ha hbc,
        edgeValue?_union hb hc, Option.or_assoc]

theorem union_self (ha : a.store.Consistent) : (a.union a).1.SameContent a where
  name := name_union a a
  root := by
    rw [root_union]
    cases a.root <;> rfl
  store := by
    refine (union_consistent ha a).ext_values ha ?_ ?_ ?_ ?_
    · intro id
      rw [hasVertex_union ha ha, or_self]
    · intro k
      rw [containsEdge_union ha ha, or_self]
    · intro id key
      rw [vertexValue?_union ha ha, Option.or_self]
    · intro k key
      rw [edgeValue?_union ha ha, Option.or_self]

/-- There is nothing to merge from an empty graph. -/
theorem store_union_of_empty (a : Graph) {e : Graph} (he : e.store = .empty) :
    (a.union e).1.store = a.store := by
  rw [store_union, he]
  rfl

/-- An empty graph takes over all elements as they are. -/
theorem store_empty_union {e : Graph} (he : e.store = .empty) (ha : a.store.Consistent) :
    (e.union a).1.store = a.store := by
  have hempty : e.store.Consistent := he ▸ .empty
  refine (union_consistent hempty a).ext_values ha ?_ ?_ ?_ ?_
  · intro id
    rw [hasVertex_union hempty ha, he]
    constructor
    · rintro (hid | hid)
      · cases hid
      · exact hid
    · exact .inr
  · intro k
    rw [containsEdge_union hempty ha, he]
    constructor
    · rintro (hk | hk)
      · cases hk
      · exact hk
    · exact .inr
  · intro id key
    rw [vertexValue?_union hempty ha, he]
    exact Option.or_none
  · intro k key
    rw [edgeValue?_union hempty ha, he]
    exact Option.or_none

/-- **Union is a right-biased monoid.** The union of two graphs has the elements of both; a property
has the value that the other graph gives to it, and the value of the first graph where the other one
has no such element or no such property. The name stays, and the root stays where there is one; of
the other graph nothing but its content matters. So it makes no difference which of two unions comes
first, a union with a copy of itself changes nothing, and neither does one with a graph that has no
vertices and no root, which in turn becomes any graph but for the name. -/
theorem Built.union_laws (ha : a.Built) (hb : b.Built) (hc : c.Built) :
    (a.union b).1.name = a.name ∧
    (a.union b).1.root = (a.root <|> b.root) ∧
    (∀ id, (a.union b).1.store.hasVertex id = true ↔
      a.store.hasVertex id = true ∨ b.store.hasVertex id = true) ∧
    (∀ k, (a.union b).1.store.edges.contains k = true ↔
      a.store.edges.contains k = true ∨ b.store.edges.contains k = true) ∧
    (∀ id key, (a.union b).1.store.vertexValue? id key =
      (b.store.vertexValue? id key).or (a.store.vertexValue? id key)) ∧
    (∀ k key, (a.union b).1.store.edgeValue? k key =
      (b.store.edgeValue? k key).or (a.store.edgeValue? k key)) ∧
    a.union b.copy = a.union b ∧
    ((a.union b).1.union c).1.SameContent (a.union (b.union c).1).1 ∧
    (a.union a.copy).1.SameContent a ∧
    ∀ e : Graph, e.Built → (∀ id, e.store.hasVertex id = false) → e.root = none →
      (a.union e).1.SameContent a ∧
      (e.union a).1.SameContent { a with name := e.name } := by
  have hsa := ha.consistent
  have hsb := hb.consistent
  have hsc := hc.consistent
  refine ⟨name_union a b, root_union a b, hasVertex_union hsa hsb, containsEdge_union hsa hsb,
    vertexValue?_union hsa hsb, edgeValue?_union hsa hsb, rfl, union_assoc hsa hsb hsc,
    union_self hsa, fun e he hnone hroot => ?_⟩
  have hempty : e.store = .empty := he.consistent.toIndexed.eq_empty hnone
  refine ⟨⟨name_union a e, ?_, store_union_of_empty a hempty⟩,
    ⟨name_union e a, ?_, store_empty_union hempty hsa⟩⟩
  · rw [root_union, hroot]
    cases a.root <;> rfl
  · rw [root_union, hroot]
    rfl

/-- A property that both graphs have takes the other graph's value, one that only the first has
stays, and the edge that the third graph adds is there whichever union comes first. -/
theorem Built.union_laws_overlap :
    let v : Vertex := ⟨"v", .ofList [("x", .integer 1), ("y", .integer 1)], by decide⟩
    let w : Vertex := ⟨"v", .ofList [("x", .integer 2)], by decide⟩
    let a := (Graph.new "a" none).run [.updateVertex v true]
    let b := (Graph.new "b" (some "v")).run [.updateVertex w true]
    let c := (Graph.new "c" none).run [.updateEdge ⟨⟨"v", "v", "l"⟩, .empty, by decide⟩ true]
    let e := Graph.new "e" none
    (a.Built ∧ b.Built ∧ c.Built ∧ e.Built) ∧
      (a.union b).1.root = some "v" ∧
      (a.union b).1.store.vertexValue? "v" "x" = some (.integer 2) ∧
      (a.union b).1.store.vertexValue? "v" "y" = some (.integer 1) ∧
      ((a.union b).1.union c).1.SameContent (a.union (b.union c).1).1 ∧
      (a.union e).1.SameContent a := by
  intro v w a b c e
  have ha : a.Built := .run (.new "a" none) _
  have hb : b.Built := .run (.new "b" (some "v")) _
  have hc : c.Built := .run (.new "c" none) _
  have he : e.Built := .new "e" none
  obtain ⟨-, hroot, -, -, hvalue, -, -, hassoc, -, hneutral⟩ := Built.union_laws ha hb hc
  refine ⟨⟨ha, hb, hc, he⟩, hroot, ?_, ?_, hassoc, (hneutral e he (fun _ => rfl) rfl).1⟩
  · rw [hvalue]
    rfl
  · rw [hvalue]
    rfl

end Graph

end PropertyGraph
