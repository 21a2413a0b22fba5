import Mathlib.Data.List.Basic
import PropertyGraph.Proofs.Store.Consistent

/-!
# Lookups as scans

The edges at a vertex are found by the rows of two indices. As the indices are exact, this lists
the same edges in the same order as a scan of all edges, which are listed by source, then target,
then label. Among the edges with one endpoint in common the two other parts decide the order.
-/

namespace PropertyGraph

/-! ## The order of edges -/

namespace EdgeKey

variable {a b : EdgeKey}

/-- By target, then label: the order of edges with the same source. -/
def compareLeaving (a b : EdgeKey) : Ordering :=
  (compare a.target b.target).then (compare a.label b.label)

/-- By source, then label: the order of edges with the same target. -/
def compareEntering (a b : EdgeKey) : Ordering :=
  (compare a.source b.source).then (compare a.label b.label)

theorem compare_eq_then (a b : EdgeKey) :
    compare a b = (compare a.source b.source).then (a.compareLeaving b) := rfl

theorem compareLeaving_of_lt (h : compare a b = .lt) (hsource : a.source = b.source) :
    a.compareLeaving b = .lt := by
  rw [compare_eq_then, hsource, Std.ReflOrd.compare_self] at h
  exact h

theorem compareEntering_of_lt (h : compare a b = .lt) (htarget : a.target = b.target) :
    a.compareEntering b = .lt := by
  rw [compare_eq_then, compareLeaving, htarget, Std.ReflOrd.compare_self] at h
  exact h

end EdgeKey

theorem EdgeIndex.keysAt_increasing (index : EdgeIndex) (id : String) :
    (keysAt index id).Pairwise fun a b => compare a b = .lt := by
  rw [keysAt]
  cases index.get? id with
  | none => exact .nil
  | some keys => exact keys.keys_increasing

namespace Store

variable {s : Store} {id : String} {k : EdgeKey}

/-! ## Rows as scans of the keys -/

namespace Indexed

theorem keysAt_outgoing (h : s.Indexed) (id : String) :
    EdgeIndex.keysAt s.outgoing id = s.edges.keys.filter (·.source == id) := by
  refine SortedMap.keys_ext (EdgeIndex.keysAt_increasing _ _) (s.edges.keys_increasing.filter _)
    fun k => ?_
  rw [h.mem_outgoing, List.mem_filter, SortedMap.mem_keys_iff, beq_iff_eq]

theorem keysAt_incoming (h : s.Indexed) (id : String) :
    EdgeIndex.keysAt s.incoming id = s.edges.keys.filter (·.target == id) := by
  refine SortedMap.keys_ext (EdgeIndex.keysAt_increasing _ _) (s.edges.keys_increasing.filter _)
    fun k => ?_
  rw [h.mem_incoming, List.mem_filter, SortedMap.mem_keys_iff, beq_iff_eq]

end Indexed

/-! ## Scans of the edges -/

namespace Consistent

theorem mem_edgeList (h : s.Consistent) {e : Edge} :
    e ∈ s.edgeList ↔ s.edge? e.key = some e := by
  constructor
  · exact fun he => (h.storedUnder_of_mem_edgeList he).1
  · exact fun he => Store.mem_edgeList.2 ⟨e.key, he⟩

theorem edgeList_increasing (h : s.Consistent) :
    s.edgeList.Pairwise fun e f => compare e.key f.key = .lt := by
  have hkeys := s.edges.keys_increasing
  rw [← h.map_key_edgeList] at hkeys
  exact List.pairwise_map.1 hkeys

/-- Looking up some of the keys finds the edges that a scan finds. -/
theorem filterMap_edge? (h : s.Consistent) (p : EdgeKey → Bool) :
    (s.edges.keys.filter p).filterMap s.edge? = s.edgeList.filter fun e => p e.key := by
  rw [← h.map_key_edgeList, List.filter_map, List.filterMap_map]
  have hlookup : ∀ e ∈ s.edgeList.filter (p ∘ (·.key)), (s.edge? ∘ (·.key)) e = some e :=
    fun e he => h.mem_edgeList.1 (List.mem_filter.1 he).1
  rw [List.filterMap_congr hlookup, List.filterMap_some]
  rfl

/-- **The edges at a vertex, by a scan**: those that leave it, and then those that enter it and
have not been listed. -/
theorem incident_eq_scan (h : s.Consistent) (id : String) (d : Direction) :
    s.incident id d =
      (s.edgeList.filter fun e => d.includesOut && e.key.source == id) ++
        s.edgeList.filter fun e => d.includesIn && e.key.target == id &&
          !(d.includesOut && e.key.source == id) := by
  rw [incident, incidentKeys, h.keysAt_outgoing, h.keysAt_incoming, List.filterMap_append]
  congr 1
  · rw [← h.filterMap_edge? fun k => d.includesOut && k.source == id]
    cases d <;> simp [Direction.includesOut]
  · rw [← h.filterMap_edge? fun k => d.includesIn && k.target == id &&
      !(d.includesOut && k.source == id)]
    cases d with
    | out => simp [Direction.includesIn]
    | into => simp [Direction.includesIn, Direction.includesOut]
    | both =>
      -- at its target, an edge that leaves the vertex as well is a loop
      simp only [Direction.includesIn, Direction.includesOut, if_true, List.filter_filter]
      refine congrArg (List.filterMap s.edge?) (List.filter_congr fun k _ => ?_)
      by_cases htarget : k.target = id
      · simp [htarget, EdgeKey.isLoop]
      · simp [beq_eq_false_iff_ne.2 htarget]

/-- The edges between two vertices, by a scan. -/
theorem between_eq_scan (h : s.Consistent) (source target : String) :
    s.between source target =
      s.edgeList.filter fun e => e.key.target == target && e.key.source == source := by
  rw [between, h.keysAt_outgoing, List.filter_filter,
    ← h.filterMap_edge? fun k => k.target == target && k.source == source]
  rfl

end Consistent

end Store

end PropertyGraph
