import Mathlib.Algebra.Ring.Nat
import PropertyGraph.Proofs.Matching.Budget

/-!
# The search ends

A candidate has some vertices left to pin and some left to close. A round closes one, or replaces
the candidate by copies that pin one more: no more copies than there are live vertices. So there
is a bound on the candidates that come of one, itself included, and each round lowers the sum of
these bounds over the queue.

## Main definitions

- `Matcher.potential` — a bound on the candidates that come of a candidate
- `Store.searchBound` — a bound on the candidates of a whole search
-/

namespace PropertyGraph

/-- A bound on the candidates of a search: each of the live vertices is tried for each vertex of the
pattern, and a vertex is pinned once and closed once. -/
def Store.searchBound (pattern live : Store) : Nat :=
  (2 * pattern.vertices.size + 1) * max 1 live.vertices.size ^ pattern.vertices.size

namespace Matcher

/-- The number of pattern vertices that a map leaves out: those that a mapping does not pin, or that
are not closed. -/
def missing {α : Type} (m : Matcher) (f : SortedMap String α) : Nat :=
  (m.pattern.vertexIds.filter (!f.contains ·)).length

/-- The number of ways to pin a vertex, or one if there are none. -/
def width (m : Matcher) : Nat := max 1 m.live.vertices.size

/-- A bound on the candidates that come of a candidate, itself included. -/
def potential (m : Matcher) (c : Candidate) : Nat :=
  (m.missing c.mapping + m.missing c.closed + 1) * m.width ^ m.missing c.mapping

/-- A bound on the candidates that come of those in a queue. -/
def queuePotential (m : Matcher) (queue : List Candidate) : Nat := (queue.map m.potential).sum

/-- A bound on the candidates that come of what becomes of a candidate. -/
def visitPotential (m : Matcher) : Visit → Nat
  | .found _ => 0
  | .queued cs => m.queuePotential cs

section

variable {m : Matcher} {c : Candidate} {next along : String} {cs : List Mapping}

theorem queuePotential_append (queue queue' : List Candidate) :
    m.queuePotential (queue ++ queue') = m.queuePotential queue + m.queuePotential queue' := by
  rw [queuePotential, List.map_append, List.sum_append]
  rfl

theorem queuePotential_cons (c : Candidate) (queue : List Candidate) :
    m.queuePotential (c :: queue) = m.potential c + m.queuePotential queue := by
  rw [queuePotential, List.map_cons, List.sum_cons]
  rfl

theorem width_pos (m : Matcher) : 0 < m.width := Nat.le_max_left 1 _

theorem potential_pos (m : Matcher) (c : Candidate) : 0 < m.potential c :=
  Nat.mul_pos (Nat.succ_pos _) (Nat.pow_pos m.width_pos)

/-! ## One candidate -/

/-- Storing under a vertex that is left out leaves out one less. -/
theorem missing_insert {α : Type} {f : SortedMap String α} {p : String}
    (hp : m.pattern.hasVertex p = true) (hmissing : f.contains p = false) (x : α) :
    m.missing f = m.missing (f.insert p x) + 1 := by
  have hmem : p ∈ m.pattern.vertexIds.filter (!f.contains ·) :=
    List.mem_filter.2 ⟨Store.mem_vertexIds.2 hp, by rw [hmissing]; rfl⟩
  have hpos := List.length_pos_of_mem hmem
  have hids : m.pattern.vertexIds.Nodup := SortedMap.nodup_keys _
  rw [missing, missing, SortedMap.filter_not_contains_insert hids, List.length_erase_of_mem hmem]
  omega

theorem missing_le {α : Type} (m : Matcher) (f : SortedMap String α) :
    m.missing f ≤ m.pattern.vertices.size :=
  Nat.le_trans (List.length_filter_le _ _) (Nat.le_of_eq (List.length_map _))

/-- Closing a vertex leaves less. -/
theorem potential_close (halong : m.pattern.hasVertex along = true)
    (hopen : c.closed.contains along = false) :
    m.queuePotential [c.close along] < m.potential c := by
  have hmissing := missing_insert halong hopen ()
  rw [queuePotential, List.map_singleton, List.sum_singleton, potential, potential, hmissing]
  exact Nat.mul_lt_mul_of_pos_right (Nat.lt_succ_self _) (Nat.pow_pos m.width_pos)

/-- Copies that pin one more vertex leave less, if there are no more of them than live
vertices. -/
theorem potential_branches (hnext : m.pattern.hasVertex next = true)
    (hfree : c.mapping.contains next = false)
    (hcs : ∀ f ∈ cs, ∃ x, f = c.mapping.insert next x) (hlength : cs.length ≤ m.width) :
    m.queuePotential (cs.map c.branch) < m.potential c := by
  obtain ⟨unpinned, hunpinned⟩ : ∃ n, m.missing c.mapping = n + 1 :=
    ⟨_, missing_insert hnext hfree ""⟩
  -- all copies have the same bound
  have hbranch : ∀ f ∈ cs, (m.potential ∘ c.branch) f =
      (unpinned + m.missing c.closed + 1) * m.width ^ unpinned := by
    intro f hf
    obtain ⟨x, rfl⟩ := hcs f hf
    have hcount := missing_insert hnext hfree x
    rw [hunpinned, Nat.add_right_cancel_iff] at hcount
    rw [Function.comp_apply, potential, hcount]
    rfl
  calc m.queuePotential (cs.map c.branch)
      = cs.length * ((unpinned + m.missing c.closed + 1) * m.width ^ unpinned) := by
        rw [queuePotential, List.map_map, List.map_congr_left hbranch, List.map_const',
          List.sum_replicate_nat]
    _ ≤ m.width * ((unpinned + m.missing c.closed + 1) * m.width ^ unpinned) :=
        Nat.mul_le_mul_right _ hlength
    _ = (unpinned + m.missing c.closed + 1) * m.width ^ (unpinned + 1) := by
        rw [Nat.pow_succ, Nat.mul_left_comm, Nat.mul_comm m.width]
    _ < (unpinned + 1 + m.missing c.closed + 1) * m.width ^ (unpinned + 1) :=
        Nat.mul_lt_mul_of_pos_right (by omega) (Nat.pow_pos m.width_pos)
    _ = m.potential c := by rw [potential, hunpinned]

theorem exists_insert_of_mem_filterMap {f f' : Mapping} {xs : List String}
    (h : f' ∈ xs.filterMap (m.pin? f next)) : ∃ x, f' = f.insert next x := by
  obtain ⟨x, -, hpin⟩ := List.mem_filterMap.1 h
  exact ⟨x, (pin?_eq_some_iff_rules.1 hpin).1⟩

theorem length_seeds_le (next : String) (f : Mapping) : (m.seeds next f).length ≤ m.width := by
  calc (m.seeds next f).length
      ≤ ((m.live.vertexList.filter (m.vertexFits next)).map (·.id)).length :=
        List.length_filterMap_le _ _
    _ ≤ m.live.vertexList.length := by
        rw [List.length_map]
        exact List.length_filter_le _ _
    _ = m.live.vertices.size := List.length_map _
    _ ≤ m.width := Nat.le_max_right 1 _

/-- From a pinned vertex there are no more ways on than live vertices. -/
theorem exists_extensions (hm : m.Prepared) {f : Mapping} (halong : f.contains along = true)
    (next : String) :
    ∃ cs, m.extensions along next f = .ok cs ∧ (∀ f' ∈ cs, ∃ x, f' = f.insert next x) ∧
      cs.length ≤ m.width := by
  obtain ⟨live, hlive⟩ := SortedMap.contains_iff_get?.1 halong
  obtain ⟨xs, hxs, hnodup, hmem⟩ := candidates_eq_ok hm live next
  refine ⟨xs.filterMap (m.pin? f next), ?_, fun f' => exists_insert_of_mem_filterMap, ?_⟩
  · rw [extensions, hlive]
    exact bind_eq_ok_iff.2 ⟨xs, hxs, rfl⟩
  · have hstored : xs ⊆ m.live.vertexIds := by
      intro x hx
      obtain ⟨⟨v, hv, -⟩, -⟩ := (hmem x).1 hx
      exact Store.mem_vertexIds.2 (Store.hasVertex_of_vertex? hv)
    calc (xs.filterMap (m.pin? f next)).length
        ≤ xs.length := List.length_filterMap_le _ _
      _ ≤ m.live.vertexIds.length := hnodup.length_le_of_subset hstored
      _ = m.live.vertices.size := List.length_map _
      _ ≤ m.width := Nat.le_max_right 1 _

/-! ## Rounds -/

/-- Going on from an open pinned vertex leaves less. -/
theorem exists_advance (hm : m.Prepared) (halong : m.pattern.hasVertex along = true)
    (hpinned : c.mapping.contains along = true) (hopen : c.closed.contains along = false) :
    ∃ cs, m.advance c along = .ok cs ∧ m.queuePotential cs < m.potential c := by
  obtain ⟨ids, hids, -, hmem⟩ := exists_unpinnedNeighbors hm.pattern c along
  rw [advance, hids, bind_ok]
  cases hhead : ids.head? with
  | none => exact ⟨_, rfl, potential_close halong hopen⟩
  | some next =>
    obtain ⟨hadjacent, hfree⟩ := (hmem next).1 (List.mem_of_head? hhead)
    obtain ⟨cs, hcs, hinsert, hlength⟩ := exists_extensions hm hpinned next
    refine ⟨_, bind_eq_ok_iff.2 ⟨cs, hcs, rfl⟩, ?_⟩
    exact potential_branches (hm.pattern.adjacent_stored hadjacent).2 hfree hinsert hlength

/-- **A round takes place, and leaves less.** -/
theorem exists_visit (hm : m.Prepared) (c : Candidate) :
    ∃ v, m.visit c = .ok v ∧ m.visitPotential v < m.potential c := by
  rw [visit]
  split
  · exact ⟨_, rfl, m.potential_pos c⟩
  split
  · rename_i along hfrontier
    have halong := List.mem_of_find?_eq_some hfrontier
    have hopen := List.find?_some hfrontier
    rw [Bool.and_eq_true, Bool.not_eq_true'] at hopen
    obtain ⟨cs, hcs, hless⟩ := exists_advance hm (Store.mem_vertexIds.1 halong) hopen.1 hopen.2
    exact ⟨_, map_eq_ok_iff.2 ⟨cs, hcs, rfl⟩, hless⟩
  · refine ⟨_, rfl, ?_⟩
    split
    · rw [seedBranches]
      split
      · rename_i next hnext
        have hfree := List.find?_some hnext
        rw [Bool.not_eq_true'] at hfree
        exact potential_branches (Store.mem_vertexIds.1 (List.mem_of_find?_eq_some hnext)) hfree
          (fun f => exists_insert_of_mem_filterMap) (length_seeds_le next _)
      · exact m.potential_pos c
    · exact m.potential_pos c

/-- **The loop ends**, after no more rounds than the bounds of the candidates that wait allow. -/
theorem exists_explores_le (hm : m.Prepared) (hsteps : m.options.maxSteps = none) {bound : Nat}
    {queue : List Candidate} (found : List Mapping) (steps : Nat)
    (hbound : m.queuePotential queue ≤ bound) :
    ∃ found' n, m.Explores ⟨queue, found, steps⟩ (.ok (found', n)) ∧ n ≤ steps + bound := by
  -- the induction is on the bound: each round leaves a lower one
  induction bound generalizing queue found steps with
  | zero =>
    cases queue with
    | nil => exact ⟨found, steps, .done, Nat.le_refl _⟩
    | cons c queue =>
      have hpos := m.potential_pos c
      rw [queuePotential_cons] at hbound
      omega
  | succ bound ih =>
    cases queue with
    | nil => exact ⟨found, steps, .done, Nat.le_add_right _ _⟩
    | cons c queue =>
      obtain ⟨v, hv, hless⟩ := exists_visit hm c
      have hpop : m.pop c ⟨queue, found, steps⟩ =
          .ok (Exploration.take ⟨queue, found, steps⟩ (steps + 1) v) :=
        pop_eq_ok_iff.2 ⟨steps + 1, v, spend_eq_ok hsteps _ _, hv, rfl⟩
      rw [queuePotential_cons] at hbound
      cases v with
      | found f =>
        have hqueue : m.queuePotential queue ≤ bound := by omega
        obtain ⟨found', n, hrest, hn⟩ := ih (found ++ [f]) (steps + 1) hqueue
        exact ⟨found', n, .round hpop hrest, by omega⟩
      | queued cs =>
        have hqueue : m.queuePotential (queue ++ cs) ≤ bound := by
          rw [queuePotential_append]
          dsimp only [visitPotential] at hless
          omega
        obtain ⟨found', n, hrest, hn⟩ := ih found (steps + 1) hqueue
        exact ⟨found', n, .round hpop hrest, by omega⟩

/-- The bound for the candidate that a search starts from. -/
theorem potential_start_le (m : Matcher) (f : Mapping) :
    m.queuePotential [.start f] ≤ m.pattern.searchBound m.live := by
  have hpinned := m.missing_le f
  have hopened := m.missing_le (.empty : SortedSet String)
  have hcount : m.missing f + m.missing (.empty : SortedSet String) + 1 ≤
      2 * m.pattern.vertices.size + 1 := by
    omega
  rw [queuePotential, List.map_singleton, List.sum_singleton]
  exact Nat.mul_le_mul hcount (Nat.pow_le_pow_right m.width_pos hpinned)

/-- **The queue runs empty**, after no more rounds than the bound of a search. -/
theorem exists_explores_start (hm : m.Prepared) (hsteps : m.options.maxSteps = none) (f : Mapping) :
    ∃ found n, m.Explores (.start f) (.ok (found, n)) ∧ n ≤ m.pattern.searchBound m.live := by
  obtain ⟨found, n, hexplores, hn⟩ := exists_explores_le hm hsteps [] 0 (m.potential_start_le f)
  exact ⟨found, n, hexplores, by omega⟩

end

end Matcher

namespace Graph

/-- **A search without a budget ends.** Once the anchors are pinned, the queue runs empty after no
more candidates than each live vertex tried for each pattern vertex, which is pinned once and
closed once. So no search exceeds a budget of that many steps. -/
theorem Built.findAll_steps_le {g pattern : Graph} (hg : g.Built) (hpattern : pattern.Built)
    {options : MatchOptions} (hsteps : options.maxSteps = none) {m : Matcher}
    (hm : Matcher.new? pattern.store g.store options = .ok m) (anchors : List Anchor) :
    (∀ c, m.pinAnchors .empty anchors = .ok (some c) →
      ∃ found n, m.Explores (.start c) (.ok (found, n)) ∧
        n ≤ pattern.store.searchBound g.store ∧ m.findAll anchors = .ok found) ∧
    ∀ b : UInt64, pattern.store.searchBound g.store ≤ b.toNat →
      ∃ limited,
        Matcher.new? pattern.store g.store { options with maxSteps := some b } = .ok limited ∧
        ∀ b', limited.findAll anchors ≠ .error (.stepBudgetExceeded b') := by
  obtain ⟨hprepared, hp, hl, hoptions⟩ :=
    Matcher.prepared_of_new? hpattern.consistent hg.consistent hm
  have hends : ∀ c, m.pinAnchors .empty anchors = .ok (some c) →
      ∃ found n, m.Finds anchors (.ok (found, n)) ∧ n ≤ pattern.store.searchBound g.store := by
    intro c hc
    obtain ⟨found, n, hexplores, hn⟩ :=
      Matcher.exists_explores_start hprepared (hoptions ▸ hsteps) c
    exact ⟨found, n, (Matcher.finds_of_pinned hc).2 hexplores, hp ▸ hl ▸ hn⟩
  refine ⟨fun c hc => ?_, fun b hb => ⟨_, Matcher.new?_withBudget hm, fun b' hexceeded => ?_⟩⟩
  · obtain ⟨found, n, hfinds, hn⟩ := hends c hc
    exact ⟨found, n, (Matcher.finds_of_pinned hc).1 hfinds, hn,
      hfinds.findAll_eq hpattern.consistent hg.consistent hm⟩
  · have hlimited := Matcher.new?_withBudget (b := b) hm
    rcases Matcher.findAll_error_cases hpattern.consistent hg.consistent hlimited hexceeded with
      hpinning | ⟨-, -, ⟨c, hc⟩, -⟩
    · -- only an unknown anchor fails while it is pinned
      obtain ⟨_, a, _, -, -, -, herr⟩ := (Matcher.pinAnchors_eq_error_iff hpattern.consistent
        hg.consistent hlimited (Matcher.partial_empty _)).1 hpinning
      cases herr
    · obtain ⟨found, n, hfinds, hn⟩ := hends c ((Matcher.pinAnchors_withBudget _).symm.trans hc)
      rw [(hfinds.withBudget (Nat.le_trans hn hb)).findAll_eq hpattern.consistent hg.consistent
        hlimited] at hexceeded
      cases hexceeded

/-- Two pattern vertices and three live ones: a search never takes more than 45 steps. -/
theorem Built.findAll_steps_le_edge :
    let pattern := (Graph.new "pattern" none).run
      [.updateEdge ⟨⟨"p", "q", "l"⟩, .empty, by decide⟩ true]
    let live := (Graph.new "live" none).run
      [.updateEdge ⟨⟨"a", "b", "l"⟩, .empty, by decide⟩ true,
        .updateEdge ⟨⟨"a", "c", "l"⟩, .empty, by decide⟩ true]
    ∃ m limited, Matcher.new? pattern.store live.store ⟨none, true, true⟩ = .ok m ∧
      (∃ found n, m.Explores (.start .empty) (.ok (found, n)) ∧ n ≤ 45 ∧
        m.findAll [] = .ok found) ∧
      Matcher.new? pattern.store live.store ⟨some 45, true, true⟩ = .ok limited ∧
      ∀ b, limited.findAll [] ≠ .error (.stepBudgetExceeded b) := by
  intro pattern live
  have hpattern : pattern.Built := .run (.new _ _) _
  have hlive : live.Built := .run (.new _ _) _
  obtain ⟨m, hm⟩ : ∃ m, Matcher.new? pattern.store live.store ⟨none, true, true⟩ = .ok m :=
    ⟨_, rfl⟩
  have hbound : pattern.store.searchBound live.store = 45 := rfl
  obtain ⟨hends, hbudget⟩ := Built.findAll_steps_le hlive hpattern rfl hm []
  obtain ⟨limited, hlimited, hnever⟩ := hbudget 45 (Nat.le_of_eq hbound)
  exact ⟨m, limited, hm, hbound ▸ hends .empty rfl, hlimited, hnever⟩

end Graph

end PropertyGraph
