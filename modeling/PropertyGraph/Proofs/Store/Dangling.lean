import PropertyGraph.Proofs.Except
import PropertyGraph.Proofs.Store.Indexed

/-!
# Dangling edges

A stored element may be overwritten in place, and then an edge need not have the key that it is
stored under. The indices go by the keys of the map, so they stay exact whatever is stored. What
lies at the other end of an edge is read off the edge itself, and that vertex may be missing:
looking at the neighbours of a vertex fails at the first edge for which it is.

## Main definitions

- `Store.Action`, `Store.actAll` — what can be done to a store, and a series of it
- `Store.dangles` — an edge leads to a vertex that is not stored
- `Store.actAll_exact` — the indices and the neighbours after any series of actions
-/

namespace PropertyGraph

/-- Something that can be done to a store. What is stored may be overwritten by any element. -/
inductive Store.Action where
  | insertVertex (v : Vertex)
  | insertEdge (e : Edge)
  | overwriteVertex (id : String) (v : Vertex)
  | overwriteEdge (key : EdgeKey) (e : Edge)
  | removeVertex (id : String)
  | removeEdge (key : EdgeKey)

namespace Store

/-- The store after an action; what is not stored is neither overwritten nor removed. -/
def act (s : Store) : Action → Store
  | .insertVertex v => s.insertVertex v
  | .insertEdge e => s.insertEdge e
  | .overwriteVertex id v => s.overwriteVertex id v
  | .overwriteEdge key e => s.overwriteEdge key e
  | .removeVertex id => s.removeVertex id
  | .removeEdge key => s.removeEdge key

/-- The store after a series of actions. -/
def actAll (s : Store) (actions : List Action) : Store := actions.foldl act s

/-- From a vertex, an edge leads to a vertex that is not stored. -/
def dangles (s : Store) (id : String) (e : Edge) : Bool := !s.hasVertex (e.key.other id)

variable {s : Store} {id : String} {d : Direction} {e : Edge}

/-! ## Indices -/

theorem Indexed.act (h : s.Indexed) (action : Action) : (s.act action).Indexed := by
  cases action with
  | insertVertex v => exact h.insertVertex v
  | insertEdge e => exact h.insertEdge e
  | overwriteVertex id v => exact h.overwriteVertex id v
  | overwriteEdge key e => exact h.overwriteEdge key e
  | removeVertex id => exact h.removeVertex id
  | removeEdge key => exact h.removeEdge key

theorem Indexed.actAll (h : s.Indexed) (actions : List Action) : (s.actAll actions).Indexed := by
  induction actions generalizing s with
  | nil => exact h
  | cons action rest ih => exact ih (h.act action)

/-! ## Neighbours -/

theorem dangles_iff : s.dangles id e = true ↔ s.hasVertex (e.key.other id) = false := by
  rw [dangles, Bool.not_eq_true']

/-- Looking at a neighbour fails just if the edge dangles. -/
theorem checkedNeighbor_isOk (s : Store) (id : String) (e : Edge) :
    (s.checkedNeighbor id e).isOk = !s.dangles id e := by
  rw [dangles, Bool.not_not]
  cases hv : s.vertex? (e.key.other id) with
  | none =>
    rw [checkedNeighbor_eq_error_iff.2 ⟨hv, rfl⟩, hasVertex_eq_false_iff.2 hv]
    rfl
  | some v =>
    rw [checkedNeighbor_eq_ok_iff.2 ⟨v, hv, rfl⟩, hasVertex_of_vertex? hv]
    rfl

/-- **Looking at the neighbours fails at the first edge that dangles.** -/
theorem checkedNeighbors_eq_error_iff {err : GraphError} :
    s.checkedNeighbors id d = .error err ↔ ∃ e, (s.incident id d).find? (s.dangles id) = some e ∧
      err = .danglingEdge e.key (e.key.other id) := by
  rw [checkedNeighbors, mapM_eq_error_iff]
  simp only [checkedNeighbor_isOk, Bool.not_not, checkedNeighbor_eq_error_iff]
  refine exists_congr fun e => and_congr_right fun he => ?_
  have hmissing := hasVertex_eq_false_iff.1 (dangles_iff.1 (List.find?_some he))
  simp only [hmissing, true_and]

theorem exists_checkedNeighbors_error_iff :
    (∃ err, s.checkedNeighbors id d = .error err) ↔
      ∃ e ∈ s.incident id d, s.hasVertex (e.key.other id) = false := by
  simp only [checkedNeighbors_eq_error_iff, ← dangles_iff]
  constructor
  · rintro ⟨_, e, he, -⟩
    exact ⟨e, List.mem_of_find?_eq_some he, List.find?_some he⟩
  · rintro ⟨e, he, hdangles⟩
    obtain ⟨first, hfirst⟩ := Option.isSome_iff_exists.1
      (List.find?_isSome.2 ⟨e, he, hdangles⟩)
    exact ⟨_, first, hfirst, rfl⟩

/-- **If no edge dangles**, all of them are listed with the vertices that they lead to. -/
theorem exists_checkedNeighbors (h : ∀ e ∈ s.incident id d, s.hasVertex (e.key.other id) = true) :
    ∃ around, s.checkedNeighbors id d = .ok around ∧ around.map (·.1) = s.incident id d ∧
      ∀ r ∈ around, s.vertex? (r.1.key.other id) = some r.2 := by
  have hchecked : ∀ e ∈ s.incident id d, ∃ r, s.checkedNeighbor id e = .ok r := by
    intro e he
    obtain ⟨v, hv⟩ := hasVertex_iff.1 (h e he)
    exact ⟨_, checkedNeighbor_eq_ok_iff.2 ⟨v, hv, rfl⟩⟩
  obtain ⟨around, hok, hmem⟩ := exists_mapM_eq_ok hchecked
  refine ⟨around, hok, ?_, fun r hr => ?_⟩
  · have hfst : ∀ e r, s.checkedNeighbor id e = .ok r → r.1 = e := by
      intro e r hr
      obtain ⟨v, -, rfl⟩ := checkedNeighbor_eq_ok_iff.1 hr
      rfl
    simpa using map_of_mapM hfst hok
  · obtain ⟨e, -, hr⟩ := (hmem r).1 hr
    obtain ⟨v, hv, rfl⟩ := checkedNeighbor_eq_ok_iff.1 hr
    exact hv

/-- **Indices are exact, and dangling edges are found.** After any series of actions on an empty
store, overwriting included, the indices have a row for each stored vertex, the rows list the
keys under which edges are stored at their source and at their target, and both of these are
stored. The edges at a vertex are those stored under such keys. To look at its neighbours is an
error just if one of these edges leads, by its own key, to a vertex that is not stored; the error
names the first such edge. Otherwise all of them are listed in order, each with the vertex that it
leads to. -/
theorem actAll_exact (actions : List Action) :
    let s := Store.empty.actAll actions
    (∀ id, (s.outgoing.contains id = true ↔ s.hasVertex id = true) ∧
      (s.incoming.contains id = true ↔ s.hasVertex id = true)) ∧
    (∀ id k, k ∈ EdgeIndex.keysAt s.outgoing id ↔ s.edges.contains k = true ∧ k.source = id) ∧
    (∀ id k, k ∈ EdgeIndex.keysAt s.incoming id ↔ s.edges.contains k = true ∧ k.target = id) ∧
    (∀ k, s.edges.contains k = true → s.hasVertex k.source = true ∧ s.hasVertex k.target = true) ∧
    ∀ id d,
      (∀ e, e ∈ s.incident id d ↔ ∃ k, s.edge? k = some e ∧
        (d.includesOut = true ∧ k.source = id ∨ d.includesIn = true ∧ k.target = id)) ∧
      ((∃ err, s.checkedNeighbors id d = .error err) ↔
        ∃ e ∈ s.incident id d, s.hasVertex (e.key.other id) = false) ∧
      (∀ err, s.checkedNeighbors id d = .error err →
        ∃ e, (s.incident id d).find? (s.dangles id) = some e ∧
          err = .danglingEdge e.key (e.key.other id) ∧
          err.message = "algorithm error: edge " ++ e.key.text ++ " references missing vertex " ++
            e.key.other id) ∧
      ((∀ e ∈ s.incident id d, s.hasVertex (e.key.other id) = true) →
        ∃ around, s.checkedNeighbors id d = .ok around ∧ around.map (·.1) = s.incident id d ∧
          ∀ r ∈ around, s.vertex? (r.1.key.other id) = some r.2) := by
  intro s
  have h : s.Indexed := Indexed.empty.actAll actions
  refine ⟨fun id => ⟨h.outgoing.contains_iff id, h.incoming.contains_iff id⟩,
    fun _ _ => h.mem_outgoing, fun _ _ => h.mem_incoming,
    fun k hk => ⟨h.source_stored k hk, h.target_stored k hk⟩, fun id d => ⟨fun _ => h.mem_incident,
      exists_checkedNeighbors_error_iff, fun err herr => ?_, exists_checkedNeighbors⟩⟩
  obtain ⟨e, he, rfl⟩ := checkedNeighbors_eq_error_iff.1 herr
  exact ⟨e, he, rfl, rfl⟩

/-- An edge overwritten by one to a vertex that is not stored is still found at its old place. -/
example :
    let ab : Edge := ⟨⟨"a", "b", "l"⟩, .empty, by decide⟩
    let ac : Edge := ⟨⟨"a", "c", "l"⟩, .empty, by decide⟩
    let s := Store.empty.actAll [.insertEdge ab, .overwriteEdge ab.key ac]
    (s.checkedNeighbors "a" .both).toOption.isNone = true ∧
      (s.incident "b" .into).map (·.key) = [ac.key] := by
  decide

end Store

end PropertyGraph
