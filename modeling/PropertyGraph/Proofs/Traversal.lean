import PropertyGraph.Graph.Traversal
import PropertyGraph.Proofs.Extraction

/-!
# The queue and the layers

The queue of a traversal holds what is left of one layer, and behind it what has been found of the
next one. Vertices of one layer add to the next one what their edges lead to, in any order and each
vertex once, so that a traversal visits what `spread` finds, and ends.

## Main definitions

- `Traversal.Grows` — some vertices are visited for the first time, and wait
- `Graph.Abreast` — a traversal stands where the layers stand
- `Graph.Built.extractReachable_exact` — what an extract consists of
-/

namespace PropertyGraph

/-- Of some vertices, those that were not visited before are visited, and wait at a distance. -/
structure Traversal.Grows (t : Traversal) (new : String → Prop) (distance : Nat) (t' : Traversal) :
    Prop where
  visited : ∀ w, t'.visited.contains w = true ↔ t.visited.contains w = true ∨ new w
  queue : ∃ ids : List String, t'.queue = t.queue ++ ids.map (·, distance) ∧
    ∀ w, w ∈ ids ↔ new w ∧ ¬t.visited.contains w = true

namespace Traversal.Grows

variable {t t' t'' : Traversal} {new new' : String → Prop} {distance : Nat}

theorem congr (h : t.Grows new distance t') (hnew : ∀ w, new w ↔ new' w) :
    t.Grows new' distance t' := by
  have heq : new = new' := funext fun w => propext (hnew w)
  exact heq ▸ h

/-- Nothing happens for vertices that have been visited. -/
theorem of_visited (hnew : ∀ w, new w → t.visited.contains w = true) :
    t.Grows new distance t where
  visited w := ⟨.inl, fun hw => hw.elim id (hnew w)⟩
  queue := by
    refine ⟨[], (List.append_nil _).symm, fun w => ⟨fun hw => (nomatch hw), fun hw => ?_⟩⟩
    exact absurd (hnew w hw.1) hw.2

theorem visit {id : String} (hid : ¬t.visited.contains id = true) :
    t.Grows (· = id) distance (t.visit id distance) where
  visited w := by
    change (t.visited.insert id ()).contains w = true ↔ _
    rw [SortedMap.contains_insert, or_comm]
  queue := by
    refine ⟨[id], rfl, fun w => ?_⟩
    rw [List.mem_singleton]
    constructor
    · rintro rfl
      exact ⟨rfl, hid⟩
    · exact fun hw => hw.1

theorem trans (h : t.Grows new distance t') (h' : t'.Grows new' distance t'') :
    t.Grows (fun w => new w ∨ new' w) distance t'' where
  visited w := by rw [h'.visited, h.visited, or_assoc]
  queue := by
    obtain ⟨ids, hqueue, hids⟩ := h.queue
    obtain ⟨ids', hqueue', hids'⟩ := h'.queue
    refine ⟨ids ++ ids', by rw [hqueue', hqueue, List.map_append, List.append_assoc], fun w => ?_⟩
    rw [List.mem_append, hids, hids', h.visited]
    tauto

end Traversal.Grows

namespace Graph

variable {g : Graph} {q : ReachQuery} {t : Traversal} {id v w : String} {distance : Nat}
  {visited result result' : SortedSet String}

/-! ## One round -/

/-- What an edge leads to is visited, if that may be and has not been done. -/
theorem look_of_visitable (h : g.store.Consistent) {e : Edge}
    (hedge : satisfies q.edgeQuery e.properties = true)
    (hnew : ¬t.visited.contains (e.key.other id) = true)
    (hvisitable : g.Visitable q (e.key.other id)) :
    g.look q id distance t e = t.visit (e.key.other id) (distance + 1) := by
  obtain ⟨v, hv, hvertex⟩ := hvisitable
  rw [look, if_pos hedge, if_neg hnew, hv]
  dsimp only
  rw [if_pos hvertex, (h.vertex hv).id_eq]

theorem look_of_not_visitable {e : Edge}
    (hnot : satisfies q.edgeQuery e.properties = true →
      ¬t.visited.contains (e.key.other id) = true → ¬g.Visitable q (e.key.other id)) :
    g.look q id distance t e = t := by
  rw [look]
  split
  · rename_i hedge
    split
    · rfl
    · rename_i hnew
      split
      · rename_i v hv
        exact if_neg fun hvertex => hnot hedge hnew ⟨v, hv, hvertex⟩
      · rfl
  · rfl

/-- What an edge leads to, in one look. -/
theorem look_grows (h : g.store.Consistent) (e : Edge) :
    t.Grows (fun w => (satisfies q.edgeQuery e.properties = true ∧ e.key.other id = w) ∧
      w ∈ g.visitable q) (distance + 1) (g.look q id distance t e) := by
  by_cases hlook : satisfies q.edgeQuery e.properties = true ∧
      ¬t.visited.contains (e.key.other id) = true ∧ g.Visitable q (e.key.other id)
  · obtain ⟨hedge, hnew, hvisitable⟩ := hlook
    rw [look_of_visitable h hedge hnew hvisitable]
    refine (Traversal.Grows.visit hnew).congr fun w => ?_
    constructor
    · rintro rfl
      exact ⟨⟨hedge, rfl⟩, mem_visitable.2 hvisitable⟩
    · exact fun hw => hw.1.2.symm
  · rw [look_of_not_visitable fun hedge hnew hvisitable => hlook ⟨hedge, hnew, hvisitable⟩]
    refine .of_visited fun w hw => ?_
    obtain ⟨⟨hedge, rfl⟩, hvisitable⟩ := hw
    by_contra hnew
    exact hlook ⟨hedge, hnew, mem_visitable.1 hvisitable⟩

/-- What one more step leads to, in one round. -/
theorem expand_grows (h : g.store.Consistent) (hdepth : q.depth.any (· ≤ distance) = false) :
    t.Grows (fun w => w ∈ g.stepsFrom q id ∧ w ∈ g.visitable q) (distance + 1)
      (g.expand q id distance t) := by
  rw [expand, hdepth, if_neg Bool.false_ne_true, stepsFrom]
  induction g.store.incident id q.direction generalizing t with
  | nil => exact .of_visited fun w hw => absurd hw.1 List.not_mem_nil
  | cons e edges ih =>
    refine ((look_grows h e).trans ih).congr fun w => ?_
    simp only [List.mem_map, List.mem_filter, List.mem_cons]
    constructor
    · rintro (⟨⟨hedge, hother⟩, hw⟩ | ⟨⟨f, ⟨hf, hedge⟩, hother⟩, hw⟩)
      · exact ⟨⟨e, ⟨.inl rfl, hedge⟩, hother⟩, hw⟩
      · exact ⟨⟨f, ⟨.inr hf, hedge⟩, hother⟩, hw⟩
    · rintro ⟨⟨f, ⟨rfl | hf, hedge⟩, hother⟩, hw⟩
      · exact .inl ⟨⟨hedge, hother⟩, hw⟩
      · exact .inr ⟨⟨f, ⟨hf, hedge⟩, hother⟩, hw⟩

/-! ## The rounds of one layer -/

/-- The loop has one result. -/
theorem Visits.unique (h : g.Visits q t result) (h' : g.Visits q t result') : result = result' := by
  induction h with
  | done =>
    cases h'
    rfl
  | round _ ih =>
    cases h' with
    | round h' => exact ih h'

/-- Vertices that no step is left for are taken from the queue. -/
theorem visits_of_no_steps (hdepth : q.depth.any (· ≤ distance) = true) (ids : List String) :
    g.Visits q ⟨visited, ids.map (·, distance)⟩ visited := by
  induction ids with
  | nil => exact .done
  | cons id ids ih =>
    apply Visits.round
    rwa [expand, if_pos hdepth]

/-- A layer at the front of the queue adds to what waits behind it all that one step leads to. -/
theorem visits_layer (h : g.store.Consistent) (hdepth : q.depth.any (· ≤ distance) = false)
    (layer : List String) (visited : SortedMap String Unit) (queue : List (String × Nat)) :
    ∃ t', Traversal.Grows ⟨visited, queue⟩
        (fun w => (∃ u ∈ layer, w ∈ g.stepsFrom q u) ∧ w ∈ g.visitable q) (distance + 1) t' ∧
      ∀ result, g.Visits q t' result →
        g.Visits q ⟨visited, layer.map (·, distance) ++ queue⟩ result := by
  induction layer generalizing visited queue with
  | nil => exact ⟨⟨visited, queue⟩, .of_visited fun w hw => by simp at hw, fun _ => id⟩
  | cons u layer ih =>
    have hround : Traversal.Grows ⟨visited, layer.map (·, distance) ++ queue⟩
        (fun w => w ∈ g.stepsFrom q u ∧ w ∈ g.visitable q) (distance + 1)
        (g.expand q u distance ⟨visited, layer.map (·, distance) ++ queue⟩) :=
      expand_grows h hdepth
    obtain ⟨ids, hqueue, hids⟩ := hround.queue
    obtain ⟨t', hrest, hvisits⟩ :=
      ih (g.expand q u distance ⟨visited, layer.map (·, distance) ++ queue⟩).visited
        (queue ++ ids.map (·, distance + 1))
    refine ⟨t', ?_, fun result hresult => .round ?_⟩
    · -- what the round adds does not depend on the rest of the layer, which waits before it
      have hfirst : Traversal.Grows ⟨visited, queue⟩
          (fun w => w ∈ g.stepsFrom q u ∧ w ∈ g.visitable q) (distance + 1)
          ⟨(g.expand q u distance ⟨visited, layer.map (·, distance) ++ queue⟩).visited,
            queue ++ ids.map (·, distance + 1)⟩ :=
        ⟨hround.visited, ids, rfl, hids⟩
      refine (hfirst.trans hrest).congr fun w => ?_
      simp only [List.mem_cons, or_and_right, exists_or, exists_eq_left]
    · have hstate := hvisits result hresult
      rw [← List.append_assoc, ← hqueue] at hstate
      exact hstate

/-! ## The whole traversal -/

/-- **A traversal stands where the layers stand**: the latest layer waits, all vertices that were
found are visited, and the rest may be visited and is not. -/
structure Abreast (g : Graph) (q : ReachQuery) (t : Traversal) (distance : Nat)
    (found layer rest : List String) : Prop where
  queue : ∃ ids : List String, t.queue = ids.map (·, distance) ∧ ∀ w, w ∈ ids ↔ w ∈ layer
  visited : ∀ w, t.visited.contains w = true ↔ w ∈ found
  rest : ∀ w, w ∈ rest ↔ w ∈ g.visitable q ∧ w ∉ found

variable {found layer rest : List String}

/-- **One layer**: if one more step is allowed, the traversal goes on to the next layer. -/
theorem Abreast.next (h : g.store.Consistent) (ht : g.Abreast q t distance found layer rest)
    (hdepth : q.depth.any (· ≤ distance) = false) :
    ∃ t', g.Abreast q t' (distance + 1) (found ++ layerAfter (g.stepsFrom q) layer rest)
        (layerAfter (g.stepsFrom q) layer rest) (restAfter (g.stepsFrom q) layer rest) ∧
      ∀ result, g.Visits q t' result → g.Visits q t result := by
  obtain ⟨ids, hqueue, hids⟩ := ht.queue
  obtain ⟨t', hgrows, hvisits⟩ := visits_layer h hdepth ids t.visited []
  obtain ⟨next, hqueue', hnext⟩ := hgrows.queue
  have hlayer : ∀ w, w ∈ next ↔ w ∈ layerAfter (g.stepsFrom q) layer rest := by
    intro w
    rw [hnext, mem_layerAfter, ht.rest, ht.visited]
    simp only [hids]
    tauto
  refine ⟨t', ⟨⟨next, hqueue', hlayer⟩, fun w => ?_, fun w => ?_⟩, fun result hresult => ?_⟩
  · rw [hgrows.visited, List.mem_append, ← hlayer, hnext, ht.visited]
    tauto
  · rw [mem_restAfter, List.mem_append, mem_layerAfter, ht.rest]
    constructor
    · rintro ⟨⟨hvisitable, hnew⟩, hstep⟩
      exact ⟨hvisitable, fun hw => hw.elim hnew fun hlater => hstep hlater.2⟩
    · rintro ⟨hvisitable, hnew⟩
      have hnot : w ∉ found := fun hw => hnew (.inl hw)
      exact ⟨⟨hvisitable, hnot⟩, fun hstep => hnew (.inr ⟨⟨hvisitable, hnot⟩, hstep⟩)⟩
  · have hstate := hvisits result hresult
    rw [List.append_nil, ← hqueue] at hstate
    exact hstate

/-- The steps that are left for a layer are used up just if those to the layer are as many as are
allowed. -/
theorem no_steps_iff :
    q.depth.map (· - distance) = some 0 ↔ q.depth.any (· ≤ distance) = true := by
  cases q.depth with
  | none => simp
  | some d => simp [Nat.sub_eq_zero_iff_le]

/-- **A traversal ends, and visits what spreads** from the layer at which it stands. -/
theorem Abreast.exists_visits (h : g.store.Consistent) {depth : Option Nat}
    (ht : g.Abreast q t distance found layer rest) (hdepth : q.depth.map (· - distance) = depth) :
    ∃ result, g.Visits q t result ∧
      ∀ w, result.contains w = true ↔ w ∈ spread (g.stepsFrom q) depth found layer rest := by
  fun_induction spread (g.stepsFrom q) depth found layer rest generalizing t distance with
  | case1 found layer rest =>
    obtain ⟨ids, hqueue, -⟩ := ht.queue
    have hvisits : g.Visits q ⟨t.visited, _⟩ t.visited :=
      visits_of_no_steps (no_steps_iff.1 hdepth) ids
    rw [← hqueue] at hvisits
    exact ⟨t.visited, hvisits, ht.visited⟩
  | case2 depth found layer rest hsteps hempty =>
    have hleft : q.depth.any (· ≤ distance) = false :=
      Bool.eq_false_iff.2 fun hused => hsteps (hdepth.symm.trans (no_steps_iff.2 hused))
    obtain ⟨t', ht', hvisits⟩ := ht.next h hleft
    rw [hempty, List.append_nil] at ht'
    -- the layer leads to nothing new, so that nothing waits after it
    obtain ⟨ids, hqueue, hids⟩ := ht'.queue
    obtain rfl : ids = [] :=
      List.eq_nil_iff_forall_not_mem.2 fun w hw => List.not_mem_nil ((hids w).1 hw)
    have hdone : g.Visits q ⟨t'.visited, t'.queue⟩ t'.visited := by
      rw [hqueue]
      exact .done
    exact ⟨t'.visited, hvisits _ hdone, ht'.visited⟩
  | case3 depth found layer rest hsteps hnonempty ih =>
    have hleft : q.depth.any (· ≤ distance) = false :=
      Bool.eq_false_iff.2 fun hused => hsteps (hdepth.symm.trans (no_steps_iff.2 hused))
    obtain ⟨t', ht', hvisits⟩ := ht.next h hleft
    have hdepth' : q.depth.map (· - (distance + 1)) = depth.map (· - 1) := by
      rw [← hdepth, Option.map_map]
      rfl
    obtain ⟨result, hresult, hfound⟩ := ih ht' hdepth'
    exact ⟨result, hvisits result hresult, hfound⟩

/-- A traversal begins with one layer, which is the root. -/
theorem abreast_start (root : String) :
    g.Abreast q (.start root) 0 [root] [root] ((g.visitable q).filter (· ≠ root)) where
  queue := ⟨[root], rfl, fun _ => Iff.rfl⟩
  visited w := by
    change (SortedMap.empty.insert root ()).contains w = true ↔ _
    rw [SortedMap.contains_insert, SortedMap.contains_empty, List.mem_singleton]
    exact or_iff_left Bool.false_ne_true
  rest w := by
    rw [List.mem_filter, List.mem_singleton]
    simp

theorem traverses_of_root {root : String} (hroot : (q.root <|> g.root) = some root) {v : Vertex}
    (hv : g.store.vertex? root = some v) (hvertex : satisfies q.vertexQuery v.properties = true) :
    g.Traverses q result ↔ g.Visits q (.start v.id) result := by
  rw [Traverses, hroot]
  dsimp only
  rw [hv]
  dsimp only
  rw [if_pos hvertex]

theorem traverses_of_no_root
    (hno : ∀ root, (q.root <|> g.root) = some root → ¬g.Visitable q root) :
    g.Traverses q result ↔ result = .empty := by
  rw [Traverses]
  split
  · exact Iff.rfl
  · rename_i root hroot
    split
    · exact Iff.rfl
    · rename_i v hv
      rw [if_neg fun hvertex => hno root hroot ⟨v, hv, hvertex⟩]

/-- The whole traversal has one result. -/
theorem Traverses.unique (h : g.Traverses q result) (h' : g.Traverses q result') :
    result = result' := by
  by_cases hstart : ∃ root, (q.root <|> g.root) = some root ∧ g.Visitable q root
  · obtain ⟨root, hroot, v, hv, hvertex⟩ := hstart
    rw [traverses_of_root hroot hv hvertex] at h h'
    exact h.unique h'
  · have hno : ∀ root, (q.root <|> g.root) = some root → ¬g.Visitable q root :=
      fun root hroot hvisitable => hstart ⟨root, hroot, hvisitable⟩
    rw [traverses_of_no_root hno] at h h'
    exact h.trans h'.symm

/-- **The whole traversal ends, and visits the vertices reached.** -/
theorem exists_traverses (h : g.store.Consistent) :
    ∃ visited, g.Traverses q visited ∧ ∀ w, visited.contains w = true ↔ w ∈ g.reached q := by
  by_cases hstart : ∃ root, (q.root <|> g.root) = some root ∧ g.Visitable q root
  · obtain ⟨root, hroot, hvisitable⟩ := hstart
    have hreached : g.reached q =
        spread (g.stepsFrom q) q.depth [root] [root] ((g.visitable q).filter (· ≠ root)) := by
      rw [reached, hroot]
      exact if_pos (List.contains_iff_mem.2 (mem_visitable.2 hvisitable))
    have hdepth : q.depth.map (· - 0) = q.depth := Option.map_id'
    obtain ⟨v, hv, hvertex⟩ := hvisitable
    obtain ⟨visited, hvisits, hfound⟩ := (abreast_start root).exists_visits h hdepth
    refine ⟨visited, (traverses_of_root hroot hv hvertex).2 ?_, fun w => ?_⟩
    · rwa [(h.vertex hv).id_eq]
    · rw [hfound, hreached]
  · have hno : ∀ root, (q.root <|> g.root) = some root → ¬g.Visitable q root :=
      fun root hroot hvisitable => hstart ⟨root, hroot, hvisitable⟩
    refine ⟨.empty, (traverses_of_no_root hno).2 rfl, fun w => ⟨fun hw => ?_, fun hw => ?_⟩⟩
    · cases hw
    · obtain ⟨root, hroot, k, -, hwalk⟩ := (mem_reached h).1 hw
      exact absurd hwalk.visitable_start (hno root hroot)

/-- **Extraction is exact.** The traversal of a graph ends, and the extract has what it visited. The
extract has the name of the graph; of its vertices those that an allowed walk from the root leads
to, in no more steps than the depth; all of its edges between these, whatever the edge query says of
them; and its root, if that vertex is among them. -/
theorem Built.extractReachable_exact (h : g.Built) (q : ReachQuery) :
    (∃ visited, g.Traverses q visited) ∧
    (∀ visited, g.Traverses q visited →
      (g.extractReachable q).1 = g.restrict visited.contains fun _ => true) ∧
    (g.extractReachable q).1.name = g.name ∧
    (∀ id v, (g.extractReachable q).1.store.vertex? id = some v ↔
      g.store.vertex? id = some v ∧ ∃ start, (q.root <|> g.root) = some start ∧
        ∃ k, (∀ d, q.depth = some d → k ≤ d) ∧ g.Walk q start k id) ∧
    (∀ k e, (g.extractReachable q).1.store.edge? k = some e ↔
      g.store.edge? k = some e ∧ (g.extractReachable q).1.store.hasVertex k.source = true ∧
        (g.extractReachable q).1.store.hasVertex k.target = true) ∧
    (g.extractReachable q).1.root =
      g.root.filter (g.extractReachable q).1.store.hasVertex := by
  have hs := h.consistent
  have hvertex := vertex?_restrict hs (g.reached q).contains fun _ => true
  have hedge := edge?_restrict hs (g.reached q).contains fun _ => true
  have hhas := hasVertex_restrict hs (g.reached q).contains fun _ => true
  obtain ⟨visited, htraverses, hvisited⟩ := exists_traverses (q := q) hs
  refine ⟨⟨visited, htraverses⟩, fun visited' htraverses' => ?_, rfl, fun id v => ?_,
    fun k e => ?_, ?_⟩
  · obtain rfl := htraverses.unique htraverses'
    have hkeep : (g.reached q).contains = visited.contains := by
      funext id
      rw [Bool.eq_iff_iff, List.contains_iff_mem, hvisited]
    rw [extractReachable, hkeep]
  · rw [← mem_reached hs, ← List.contains_iff_mem, extractReachable, hvertex]
    cases hreached : (g.reached q).contains id with
    | true => simp
    | false => simp
  · rw [extractReachable, hedge, hhas, hhas, Option.filter_eq_some_iff]
    constructor
    · rintro ⟨he, hkeep⟩
      have hstored := Store.containsEdge_of_edge? he
      simpa [he, hs.source_stored _ hstored, hs.target_stored _ hstored] using hkeep
    · rintro ⟨he, hsource, htarget⟩
      simp only [Bool.and_eq_true] at hsource htarget
      simp only [he, hsource.2, htarget.2, Bool.and_self, and_self]
  · rw [extractReachable, funext hhas]
    rfl

/-- One step against an edge leads from the root to the source of the edge. -/
theorem Built.extractReachable_exact_against :
    let g := (Graph.new "g" (some "b")).run [.updateEdge ⟨⟨"a", "b", "l"⟩, .empty, by decide⟩ true]
    let q : ReachQuery := ⟨none, none, none, some 1, .into⟩
    g.Built ∧ ∃ v, (g.extractReachable q).1.store.vertex? "a" = some v := by
  intro g q
  have hg : g.Built := .run (.new _ _) _
  have hb : g.Visitable q "b" := ⟨_, rfl, rfl⟩
  have ha : g.Visitable q "a" := ⟨_, rfl, rfl⟩
  have hleads : g.Leads q "b" "a" := by
    obtain ⟨e, he⟩ : ∃ e, g.store.edge? ⟨"a", "b", "l"⟩ = some e := ⟨_, rfl⟩
    have hkey := (hg.consistent.edge he).key_eq
    exact ⟨e, by rw [hkey, he], rfl, .inr ⟨rfl, by rw [hkey], by rw [hkey]⟩⟩
  have hwalk : g.Walk q "b" 1 "a" := .step (.start hb) hleads ha
  obtain ⟨v, hv, -⟩ := ha
  obtain ⟨-, -, -, hvertex, -⟩ := Built.extractReachable_exact hg q
  refine ⟨hg, v, (hvertex "a" v).2 ⟨hv, "b", rfl, 1, ?_, hwalk⟩⟩
  rintro d hd
  cases hd
  exact Nat.le_refl 1

end Graph

end PropertyGraph
