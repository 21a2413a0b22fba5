import PropertyGraph.Proofs.Built

/-!
# The reachable part

`spread` goes on layer by layer, and a vertex that is found is never looked at again. Nothing is
lost by that: a walk that comes back to a layer can start there instead, and is then shorter. So
the vertices found within some depth are those that some walk of at most that length leads to.

## Main definitions

- `Path` — steps through allowed vertices
- `Graph.Walk` — the walks that an extraction may follow
-/

namespace PropertyGraph

/-- Some steps from a vertex to another one, each of them to an allowed vertex. -/
inductive Path (next : String → List String) (allowed : List String) (start : String) :
    Nat → String → Prop
  | nil : Path next allowed start 0 start
  | snoc {k : Nat} {v w : String} :
      Path next allowed start k v → w ∈ next v → w ∈ allowed → Path next allowed start (k + 1) w

section Spread

variable {next : String → List String} {allowed layer rest : List String} {start v w : String}
  {k : Nat}

theorem Path.cons (hw : w ∈ next start) (hallowed : w ∈ allowed) (h : Path next allowed w k v) :
    Path next allowed start (k + 1) v := by
  induction h with
  | nil => exact .snoc .nil hw hallowed
  | snoc _ hstep hv ih => exact .snoc ih hstep hv

theorem Path.mono {allowed' : List String} (hsub : ∀ u ∈ allowed, u ∈ allowed')
    (h : Path next allowed start k v) : Path next allowed' start k v := by
  induction h with
  | nil => exact .nil
  | snoc _ hstep hv ih => exact .snoc ih hstep (hsub _ hv)

/-- A path that may come back to its start need not. -/
theorem Path.without_start (h : Path next allowed start k v) :
    ∃ k' ≤ k, Path next (allowed.filter (· ≠ start)) start k' v := by
  induction h with
  | nil => exact ⟨0, Nat.le_refl 0, .nil⟩
  | @snoc k v w _ hstep hw ih =>
    obtain ⟨k', hk', hpath⟩ := ih
    by_cases hstart : w = start
    · subst hstart
      exact ⟨0, Nat.zero_le _, .nil⟩
    · exact ⟨k' + 1, Nat.succ_le_succ hk',
        .snoc hpath hstep (List.mem_filter.2 ⟨hw, by simpa using hstart⟩)⟩

theorem mem_layerAfter : w ∈ layerAfter next layer rest ↔ w ∈ rest ∧ ∃ u ∈ layer, w ∈ next u := by
  simp [layerAfter]

theorem mem_restAfter :
    w ∈ restAfter next layer rest ↔ w ∈ rest ∧ ¬∃ u ∈ layer, w ∈ next u := by
  simp [restAfter]

/-- A path from a layer that takes a step can start in the next layer, with fewer steps, and
need not come back to it. -/
theorem Path.from_layerAfter (hstart : start ∈ layer) (h : Path next rest start k v) :
    v = start ∨ ∃ k' < k, ∃ u ∈ layerAfter next layer rest,
      Path next (restAfter next layer rest) u k' v := by
  induction h with
  | nil => exact .inl rfl
  | @snoc k v w _ hstep hw ih =>
    right
    by_cases hlayer : w ∈ layerAfter next layer rest
    · exact ⟨0, Nat.succ_pos k, w, hlayer, .nil⟩
    · rcases ih with rfl | ⟨k', hk', u, hu, hpath⟩
      · exact absurd (mem_layerAfter.2 ⟨hw, v, hstart, hstep⟩) hlayer
      · refine ⟨k' + 1, Nat.succ_lt_succ hk', u, hu, .snoc hpath hstep ?_⟩
        exact mem_restAfter.2 ⟨hw, fun hnext => hlayer (mem_layerAfter.2 ⟨hw, hnext⟩)⟩

/-- **What spreading finds**: the vertices that a path of at most the given length leads to from
the latest layer, besides those found before. -/
theorem mem_spread (depth : Option Nat) (found : List String) (hlayer : ∀ u ∈ layer, u ∈ found) :
    v ∈ spread next depth found layer rest ↔ v ∈ found ∨
      ∃ k, (∀ d, depth = some d → k ≤ d) ∧ ∃ u ∈ layer, Path next rest u k v := by
  fun_induction spread next depth found layer rest with
  | case1 found layer rest =>
    -- no step is left
    constructor
    · exact .inl
    · rintro (hv | ⟨k, hk, u, hu, hpath⟩)
      · exact hv
      · have hzero := Nat.le_zero.1 (hk 0 rfl)
        subst hzero
        cases hpath
        exact hlayer _ hu
  | case2 depth found layer rest _ hempty =>
    constructor
    · exact .inl
    · rintro (hv | ⟨k, -, u, hu, hpath⟩)
      · exact hv
      · rcases hpath.from_layerAfter hu with rfl | ⟨_, _, u', hu', _⟩
        · exact hlayer _ hu
        · rw [hempty] at hu'
          cases hu'
  | case3 depth found layer rest hdepth hnonempty ih =>
    have hpos : ∀ d, depth = some d → 1 ≤ d := by
      rintro d rfl
      exact Nat.pos_of_ne_zero fun hzero => hdepth (congrArg some hzero)
    rw [ih fun u hu => List.mem_append_right _ hu, List.mem_append]
    constructor
    · -- one more step leads to the layer after
      rintro ((hv | hv) | ⟨k, hk, w, hw, hpath⟩)
      · exact .inl hv
      · obtain ⟨hrest, u, hu, hstep⟩ := mem_layerAfter.1 hv
        exact .inr ⟨1, hpos, u, hu, .snoc .nil hstep hrest⟩
      · obtain ⟨hrest, u, hu, hstep⟩ := mem_layerAfter.1 hw
        have hpath' : Path next rest w k v := hpath.mono fun x hx => (mem_restAfter.1 hx).1
        refine .inr ⟨k + 1, ?_, u, hu, .cons hstep hrest hpath'⟩
        rintro d rfl
        have hle := hk (d - 1) rfl
        have hone := hpos d rfl
        omega
    · -- a path from this layer goes on from the next one, if it takes a step at all
      rintro (hv | ⟨k, hk, u, hu, hpath⟩)
      · exact .inl (.inl hv)
      · rcases hpath.from_layerAfter hu with rfl | ⟨k', hk', w, hw, hpath⟩
        · exact .inl (.inl (hlayer _ hu))
        · refine .inr ⟨k', ?_, w, hw, hpath⟩
          intro d hd
          obtain ⟨d', rfl, rfl⟩ := Option.map_eq_some_iff.1 hd
          have hle := hk d' rfl
          omega

end Spread

namespace Graph

variable {g : Graph} {q : ReachQuery} {v w : String} {k : Nat}

/-- A vertex is stored and satisfies the vertex query. -/
def Visitable (g : Graph) (q : ReachQuery) (id : String) : Prop :=
  ∃ v, g.store.vertex? id = some v ∧ satisfies q.vertexQuery v.properties = true

/-- A stored edge that satisfies the edge query may be followed from one vertex to another: along
its direction, against it, or both ways. -/
def Leads (g : Graph) (q : ReachQuery) (v w : String) : Prop :=
  ∃ e, g.store.edge? e.key = some e ∧ satisfies q.edgeQuery e.properties = true ∧
    (q.direction.includesOut = true ∧ e.key.source = v ∧ e.key.target = w ∨
      q.direction.includesIn = true ∧ e.key.target = v ∧ e.key.source = w)

/-- The walks that a query allows, by their length and the vertex that they lead to. -/
inductive Walk (g : Graph) (q : ReachQuery) (start : String) : Nat → String → Prop
  | start : g.Visitable q start → Walk g q start 0 start
  | step {k : Nat} {v w : String} :
      Walk g q start k v → g.Leads q v w → g.Visitable q w → Walk g q start (k + 1) w

theorem mem_visitable : v ∈ g.visitable q ↔ g.Visitable q v := by
  simp only [visitable, List.mem_filter, Store.mem_vertexIds, Option.any_eq_true, Visitable]
  exact ⟨And.right, fun ⟨u, hu, hsat⟩ => ⟨Store.hasVertex_of_vertex? hu, u, hu, hsat⟩⟩

theorem mem_stepsFrom (h : g.store.Consistent) : w ∈ g.stepsFrom q v ↔ g.Leads q v w := by
  simp only [stepsFrom, List.mem_map, List.mem_filter, h.mem_incident, Leads]
  constructor
  · rintro ⟨e, ⟨⟨he, ⟨hout, hsource⟩ | ⟨hin, htarget⟩⟩, hsat⟩, rfl⟩
    · exact ⟨e, he, hsat, .inl ⟨hout, hsource, (EdgeKey.other_of_source hsource).symm⟩⟩
    · exact ⟨e, he, hsat, .inr ⟨hin, htarget, (EdgeKey.other_of_target htarget).symm⟩⟩
  · rintro ⟨e, he, hsat, ⟨hout, hsource, rfl⟩ | ⟨hin, htarget, rfl⟩⟩
    · exact ⟨e, ⟨⟨he, .inl ⟨hout, hsource⟩⟩, hsat⟩, EdgeKey.other_of_source hsource⟩
    · exact ⟨e, ⟨⟨he, .inr ⟨hin, htarget⟩⟩, hsat⟩, EdgeKey.other_of_target htarget⟩

/-- The allowed walks from a vertex that may be visited are the paths through such vertices. -/
theorem walk_iff_path (h : g.store.Consistent) {start : String} (hstart : g.Visitable q start) :
    g.Walk q start k v ↔ Path (g.stepsFrom q) (g.visitable q) start k v := by
  constructor
  · intro hwalk
    induction hwalk with
    | start _ => exact .nil
    | step _ hleads hvisit ih =>
      exact .snoc ih ((mem_stepsFrom h).2 hleads) (mem_visitable.2 hvisit)
  · intro hpath
    induction hpath with
    | nil => exact .start hstart
    | snoc _ hstep hallowed ih =>
      exact .step ih ((mem_stepsFrom h).1 hstep) (mem_visitable.1 hallowed)

theorem Walk.visitable_start {start : String} (hwalk : g.Walk q start k v) :
    g.Visitable q start := by
  induction hwalk with
  | start hstart => exact hstart
  | step _ _ _ ih => exact ih

/-- **What is reached**: the vertices that an allowed walk from the root leads to, in no more steps
than the depth. -/
theorem mem_reached (h : g.store.Consistent) :
    v ∈ g.reached q ↔ ∃ start, (q.root <|> g.root) = some start ∧
      ∃ k, (∀ d, q.depth = some d → k ≤ d) ∧ g.Walk q start k v := by
  rw [reached]
  split
  · rename_i hroot
    simp [hroot]
  · rename_i root hroot
    simp only [hroot, Option.some.injEq, exists_eq_left']
    have hcontains : (g.visitable q).contains root = true ↔ g.Visitable q root := by
      rw [List.contains_iff_mem, mem_visitable]
    split
    · rename_i hstart
      rw [mem_spread _ _ fun u hu => hu]
      simp only [List.mem_singleton, exists_eq_left, walk_iff_path h (hcontains.1 hstart)]
      constructor
      · rintro (rfl | ⟨k, hk, hpath⟩)
        · exact ⟨0, fun _ _ => Nat.zero_le _, .nil⟩
        · exact ⟨k, hk, hpath.mono fun u hu => (List.mem_filter.1 hu).1⟩
      · rintro ⟨k, hk, hpath⟩
        obtain ⟨k', hle, hpath'⟩ := hpath.without_start
        exact .inr ⟨k', fun d hd => Nat.le_trans hle (hk d hd), hpath'⟩
    · rename_i hstart
      simp only [List.not_mem_nil, false_iff]
      rintro ⟨k, -, hwalk⟩
      exact hstart (hcontains.2 hwalk.visitable_start)

end Graph

end PropertyGraph
