import PropertyGraph.Proofs.Built
import PropertyGraph.Proofs.Matching.Queue

/-!
# The order of the embeddings

Nothing sorts the embeddings that are found. The order is that of the generations: a step makes
of each mapping the ones that pin one more vertex, in the order of the live vertices it is pinned
to, and leaves the generation in the order of the mappings they come from. So the embeddings
increase in the lexicographic order along the vertices that the plan pins. Which these are depends
on the pattern and on the anchored vertices alone.

## Main definitions

- `Mapping.Before` — lexicographic order along some pattern vertices
- `MatchPlan.pins` — the vertices that a plan pins, in order
- `Store.searchOrder` — the order in which a search pins the vertices that are not anchored
- `Matcher.Ordered` — a generation that increases along the vertices pinned so far
-/

namespace PropertyGraph

/-- A mapping comes before another one: they pin the same to some vertices, and the first one pins
the next vertex to less. -/
inductive Mapping.Before : List String → Mapping → Mapping → Prop
  | head {p : String} {order : List String} {f g : Mapping} {x y : String} :
      f.get? p = some x → g.get? p = some y → x < y → Before (p :: order) f g
  | tail {p : String} {order : List String} {f g : Mapping} {x : String} :
      f.get? p = some x → g.get? p = some x → Before order f g → Before (p :: order) f g

namespace Mapping

variable {order order' : List String} {f g h f' g' : Mapping}

/-! ## A strict order -/

theorem Before.trans (hfg : Before order f g) (hgh : Before order g h) : Before order f h := by
  induction hfg with
  | head hf hg hlt =>
    cases hgh with
    | head hg' hh hlt' =>
      obtain rfl := Option.some.inj (hg.symm.trans hg')
      exact .head hf hh (String.lt_trans hlt hlt')
    | tail hg' hh _ =>
      obtain rfl := Option.some.inj (hg.symm.trans hg')
      exact .head hf hh hlt
  | tail hf hg _ ih =>
    cases hgh with
    | head hg' hh hlt' =>
      obtain rfl := Option.some.inj (hg.symm.trans hg')
      exact .head hf hh hlt'
    | tail hg' hh hrest =>
      obtain rfl := Option.some.inj (hg.symm.trans hg')
      exact .tail hf hh (ih hrest)

/-! ## Longer orders and larger mappings -/

/-- Mappings stay in order when more is pinned. -/
theorem Before.within (hbefore : Before order f g) (hf : f.Within f') (hg : g.Within g') :
    Before order f' g' := by
  induction hbefore with
  | head hfp hgp hlt => exact .head (hf _ _ hfp) (hg _ _ hgp) hlt
  | tail hfp hgp _ ih => exact .tail (hf _ _ hfp) (hg _ _ hgp) (ih hf hg)

/-- What is looked at later does not matter. -/
theorem Before.append (hbefore : Before order f g) (order' : List String) :
    Before (order ++ order') f g := by
  induction hbefore with
  | head hf hg hlt => exact .head hf hg hlt
  | tail hf hg _ ih => exact .tail hf hg ih

/-- Mappings that agree at first are in the order that comes after that. -/
theorem Before.prepend (hbefore : Before order' f g)
    (hsame : ∀ p ∈ order, ∃ x, f.get? p = some x ∧ g.get? p = some x) :
    Before (order ++ order') f g := by
  induction order with
  | nil => exact hbefore
  | cons p order ih =>
    obtain ⟨⟨x, hf, hg⟩, hsame⟩ := List.forall_mem_cons.1 hsame
    exact .tail hf hg (ih hsame)

end Mapping

/-! ## The order of a plan -/

namespace MatchPlan

/-- The vertices that a plan pins, in order. -/
def pins : MatchPlan → List String
  | done | stuck => []
  | close rest => rest.pins
  | extend _ next rest | seed next rest => next :: rest.pins

variable {pattern : Store} {seeding : Bool} {unpinned opened : List String} {plan : MatchPlan}

/-- A plan that gets to the end pins the vertices that it is made for, each once. -/
theorem Covers.pins_perm (h : Covers pattern seeding unpinned plan)
    (hcompletes : plan.completes = true) : plan.pins.Perm unpinned := by
  induction h with
  | done => exact .nil
  | stuck => cases hcompletes
  | close _ ih => exact ih hcompletes
  | extend _ hnext _ _ ih | seed _ hnext _ ih =>
    exact ((ih hcompletes).cons _).trans (List.perm_cons_erase hnext).symm

/-- A plan that gets to the end without seeding is the one that is made if it may seed. -/
theorem make_seeding (h : make pattern false unpinned opened = .ok plan)
    (hcompletes : plan.completes = true) : make pattern true unpinned opened = .ok plan := by
  induction unpinned, opened using make.induct false generalizing plan with
  | case1 opened =>
    rw [make] at h ⊢
    exact h
  | case2 opened first others hfind hseeding ih => cases hseeding
  | case3 opened first others hfind hseeding =>
    rw [make_of_find?_eq_none hfind, if_neg hseeding] at h
    cases h
    cases hcompletes
  | case4 opened first others along hfind ihpin ihclose =>
    rw [make_of_find?_eq_some hfind] at h ⊢
    obtain ⟨r, hr, h⟩ := bind_eq_ok_iff.1 h
    rw [hr, bind_ok]
    cases r with
    | none =>
      obtain ⟨rest, hrest, h⟩ := bind_eq_ok_iff.1 h
      cases h
      exact bind_eq_ok_iff.2 ⟨rest, ihclose hrest hcompletes, rfl⟩
    | some next =>
      obtain ⟨rest, hrest, h⟩ := bind_eq_ok_iff.1 h
      cases h
      exact bind_eq_ok_iff.2 ⟨rest, ihpin next.val next.property hrest hcompletes, rfl⟩

end MatchPlan

/-- The order in which a search pins the vertices of a pattern that are not anchored, if it may
seed. If it may not, it pins them in the same order or gives up. -/
def Store.searchOrder (pattern : Store) (anchored : String → Prop) [DecidablePred anchored] :
    List String :=
  match MatchPlan.make pattern true (pattern.vertexIds.filter (¬anchored ·)) pattern.vertexIds with
  | .ok plan => plan.pins
  | .error _ => []

/-- A search order has the vertices that are not anchored, each once. -/
theorem Store.Consistent.searchOrder_perm {pattern : Store} (hpattern : pattern.Consistent)
    (anchored : String → Prop) [DecidablePred anchored] :
    (pattern.searchOrder anchored).Perm (pattern.vertexIds.filter (¬anchored ·)) := by
  obtain ⟨plan, hplan, hcovers⟩ :=
    MatchPlan.make_covers hpattern true (MatchPlan.frontier_vertexIds hpattern (¬anchored ·))
  rw [searchOrder, hplan]
  exact hcovers.pins_perm (hcovers.completes_iff.2 (.inl rfl))

namespace Matcher

/-- **What holds of a generation along the way**: it increases along the vertices that are pinned
so far. -/
structure Ordered (m : Matcher) (pinned unpinned : List String) (generation : List Mapping) :
    Prop extends m.Generation unpinned generation where
  pinned_stored : ∀ p ∈ pinned, m.pattern.hasVertex p = true
  pinned_before : ∀ p ∈ pinned, p ∉ unpinned
  increasing : generation.Pairwise (Mapping.Before pinned)

/-- Some mappings pin a vertex to more and more. -/
def Rising (next : String) (c : Mapping) (extensions : List Mapping) : Prop :=
  extensions.Pairwise fun f g => ∃ x y, f = c.insert next x ∧ g = c.insert next y ∧ x < y

section

variable {m : Matcher} {pinned unpinned : List String} {generation found cs : List Mapping}
  {c f : Mapping} {anchors : List Anchor} {along next : String} {plan : MatchPlan} {spent : Nat}

/-! ## One step -/

theorem rising_filterMap_pin? {xs : List String}
    (hxs : xs.Pairwise fun x y => compare x y = .lt) :
    Rising next c (xs.filterMap (m.pin? c next)) := by
  refine List.Pairwise.filterMap _ ?_ hxs
  intro x y hxy f hf g hg
  exact ⟨x, y, (pin?_eq_some_iff_rules.1 hf).1, (pin?_eq_some_iff_rules.1 hg).1,
    compareOfLessAndEq_eq_lt.1 hxy⟩

theorem rising_seeds (hlive : m.live.Consistent) (next : String) (c : Mapping) :
    Rising next c (m.seeds next c) := by
  have hids : (m.live.vertexList.map (·.id)).Pairwise fun x y => compare x y = .lt := by
    rw [hlive.map_id_vertexList]
    exact SortedMap.keys_increasing _
  exact rising_filterMap_pin? (hids.sublist (List.filter_sublist.map _))

theorem rising_extensions (h : m.extensions along next c = .ok cs) : Rising next c cs := by
  rw [extensions] at h
  cases hlive : c.get? along with
  | none =>
    rw [hlive] at h
    cases h
    exact .nil
  | some live =>
    rw [hlive] at h
    obtain ⟨xs, hxs, h⟩ := bind_eq_ok_iff.1 h
    cases h
    obtain ⟨around, -, h⟩ := bind_eq_ok_iff.1 hxs
    cases h
    exact rising_filterMap_pin? (SortedMap.keys_increasing _)

/-- **One step of the search** keeps the order, with one more vertex to look at. -/
theorem Ordered.flatMap (h : m.Ordered pinned unpinned generation) (hnext : next ∈ unpinned)
    {following : Mapping → List Mapping}
    (hfollowing : ∀ c ∈ generation, m.ExtendsTo next c (following c))
    (hrising : ∀ c ∈ generation, Rising next c (following c)) :
    m.Ordered (pinned ++ [next]) (unpinned.erase next) (generation.flatMap following) where
  toGeneration := h.toGeneration.flatMap hnext hfollowing
  pinned_stored p hp := by
    rw [List.mem_append, List.mem_singleton] at hp
    obtain hp | rfl := hp
    · exact h.pinned_stored p hp
    · exact h.unpinned_stored p hnext
  pinned_before p hp := by
    rw [List.mem_append, List.mem_singleton] at hp
    obtain hp | rfl := hp
    · exact fun hmem => h.pinned_before p hp (List.mem_of_mem_erase hmem)
    · exact fun hmem => (h.unpinned_nodup.mem_erase_iff.1 hmem).1 rfl
  increasing := by
    have hwithin : ∀ c ∈ generation, ∀ f ∈ following c, c.Within f := by
      intro c hc f hf
      obtain ⟨x, rfl, -⟩ := ((hfollowing c hc).2 f).1 hf
      exact SortedMap.within_insert (h.free hc hnext)
    rw [List.pairwise_flatMap]
    constructor
    · -- what comes of one mapping agrees on the vertices pinned before
      intro c hc
      refine (hrising c hc).imp_of_mem fun {f g} hf hg hfg => ?_
      have hsame : ∀ p ∈ pinned, ∃ x, f.get? p = some x ∧ g.get? p = some x := by
        intro p hp
        obtain ⟨x, hx⟩ := SortedMap.contains_iff_get?.1
          ((h.domain c hc p).2 ⟨h.pinned_stored p hp, h.pinned_before p hp⟩)
        exact ⟨x, hwithin c hc f hf p x hx, hwithin c hc g hg p x hx⟩
      obtain ⟨x, y, rfl, rfl, hlt⟩ := hfg
      exact .prepend (.head (SortedMap.get?_insert_self ..) (SortedMap.get?_insert_self ..) hlt)
        hsame
    · refine h.increasing.imp_of_mem fun {c d} hc hd hbefore f hf g hg => ?_
      exact (hbefore.within (hwithin c hc f hf) (hwithin d hd g hg)).append _

/-! ## The whole search -/

/-- A plan that does not get to the end finds nothing. -/
theorem run_of_not_completes (hplan : plan.completes = false)
    (h : m.run plan spent generation = .ok found) : found = [] := by
  induction plan generalizing spent generation with
  | done => cases hplan
  | stuck =>
    obtain ⟨_, -, h⟩ := bind_eq_ok_iff.1 h
    cases h
    rfl
  | close rest ih =>
    obtain ⟨_, -, h⟩ := bind_eq_ok_iff.1 h
    exact ih hplan h
  | extend along next rest ih =>
    obtain ⟨_, -, h⟩ := bind_eq_ok_iff.1 h
    obtain ⟨_, -, h⟩ := bind_eq_ok_iff.1 h
    exact ih hplan h
  | seed next rest ih =>
    obtain ⟨_, -, h⟩ := bind_eq_ok_iff.1 h
    exact ih hplan h

/-- **The order of what following a plan finds**: along the vertices pinned before, and then along
those that the plan pins. -/
theorem run_ordered (hm : m.Prepared)
    (hcovers : plan.Covers m.pattern m.options.seedUnanchored unpinned)
    (h : m.Ordered pinned unpinned generation) (hrun : m.run plan spent generation = .ok found) :
    found.Pairwise (Mapping.Before (pinned ++ plan.pins)) := by
  -- along the plan: each step hands on a generation in order
  induction hcovers generalizing pinned generation spent with
  | done =>
    obtain ⟨_, -, hrun⟩ := bind_eq_ok_iff.1 hrun
    cases hrun
    rw [MatchPlan.pins, List.append_nil]
    exact h.increasing
  | stuck =>
    rw [run_of_not_completes rfl hrun]
    exact .nil
  | close _ ih =>
    obtain ⟨_, -, hrun⟩ := bind_eq_ok_iff.1 hrun
    exact ih h hrun
  | @extend unpinned along next rest halong hnext hadjacent _ ih =>
    obtain ⟨_, -, hrun⟩ := bind_eq_ok_iff.1 hrun
    obtain ⟨following, hok, hfollowing⟩ := exists_map_of_mapM
      (P := fun c cs => m.ExtendsTo next c cs ∧ Rising next c cs) fun c hc => by
        obtain ⟨cs, hcs, hextends⟩ :=
          extensions_eq_ok hm h.toGeneration hc halong hnext hadjacent
        exact ⟨cs, hcs, hextends, rising_extensions hcs⟩
    rw [hok, bind_ok] at hrun
    have hstep := h.flatMap hnext (fun c hc => (hfollowing c hc).1)
      fun c hc => (hfollowing c hc).2
    rw [MatchPlan.pins, List.append_cons]
    exact ih hstep hrun
  | @seed unpinned next rest _ hnext _ ih =>
    obtain ⟨_, -, hrun⟩ := bind_eq_ok_iff.1 hrun
    have hstep := h.flatMap hnext
      (fun c hc => seeds_extendsTo hm h.toGeneration hc hnext)
      fun c _ => rising_seeds hm.live next c
    rw [MatchPlan.pins, List.append_cons]
    exact ih hstep hrun

/-- The mapping that the anchors fix is in order, as it is alone. -/
theorem ordered_singleton (hc : m.Partial c) :
    m.Ordered [] (m.pattern.vertexIds.filter (!c.contains ·)) [c] where
  toGeneration := generation_singleton hc
  pinned_stored _ hp := nomatch hp
  pinned_before _ hp := nomatch hp
  increasing := List.pairwise_singleton _ _

/-- **The embeddings increase along the search order.** -/
theorem search_ordered (hm : m.Prepared) (hc : m.Partial c) {anchored : String → Prop}
    [DecidablePred anchored] (hanchored : ∀ p, c.contains p = true ↔ anchored p)
    (hfound : (m.plan c >>= fun plan => m.run plan 0 [c]) = .ok found) :
    found.Pairwise (Mapping.Before (m.pattern.searchOrder anchored)) := by
  obtain ⟨plan, hplan, hrun⟩ := bind_eq_ok_iff.1 hfound
  obtain ⟨plan', hplan', hcovers⟩ := MatchPlan.make_covers hm.pattern m.options.seedUnanchored
    (MatchPlan.frontier_vertexIds hm.pattern _)
  rw [Matcher.plan, hplan'] at hplan
  cases hplan
  by_cases hcompletes : plan.completes = true
  · have hseeding : MatchPlan.make m.pattern true (m.pattern.vertexIds.filter (!c.contains ·))
        m.pattern.vertexIds = .ok plan := by
      cases hseed : m.options.seedUnanchored with
      | true => rwa [hseed] at hplan'
      | false =>
        rw [hseed] at hplan'
        exact MatchPlan.make_seeding hplan' hcompletes
    have hunpinned : m.pattern.vertexIds.filter (¬anchored ·) =
        m.pattern.vertexIds.filter (!c.contains ·) := by
      refine List.filter_congr fun p _ => ?_
      rw [Bool.eq_iff_iff]
      simp [← hanchored]
    rw [Store.searchOrder, hunpinned, hseeding]
    exact run_ordered hm hcovers (ordered_singleton hc) hrun
  · rw [run_of_not_completes (Bool.eq_false_iff.2 hcompletes) hrun]
    exact .nil

end

end Matcher

namespace Graph

/-- **The embeddings come in lexicographic order.** There is an order of the pattern vertices that
are not anchored, which the pattern and the anchored vertices determine, such that every search
that succeeds lists its embeddings in increasing order along it: whatever the graph, the live
vertices that the anchors ask for, and the options. -/
theorem Built.findAll_ordered {g pattern : Graph} (hg : g.Built) (hpattern : pattern.Built)
    {options : MatchOptions} {m : Matcher}
    (hm : Matcher.new? pattern.store g.store options = .ok m) {anchors : List Anchor}
    {found : List Mapping} (h : m.findAll anchors = .ok found) :
    let order := pattern.store.searchOrder fun p => ∃ a ∈ anchors, a.Pins p
    order.Nodup ∧
      (∀ p, p ∈ order ↔ pattern.store.hasVertex p = true ∧ ¬∃ a ∈ anchors, a.Pins p) ∧
      found.Pairwise (Mapping.Before order) ∧ ∃ n, m.Finds anchors (.ok (found, n)) := by
  intro order
  obtain ⟨hprepared, hp, -, -⟩ :=
    Matcher.prepared_of_new? hpattern.consistent hg.consistent hm
  have hperm := hpattern.consistent.searchOrder_perm fun p => ∃ a ∈ anchors, a.Pins p
  have hids : pattern.store.vertexIds.Nodup := SortedMap.nodup_keys _
  refine ⟨hperm.nodup_iff.2 (hids.filter _), fun p => ?_, ?_,
    Matcher.exists_finds_of_findAll hpattern.consistent hg.consistent hm h⟩
  · rw [hperm.mem_iff, List.mem_filter, Store.mem_vertexIds, decide_eq_true_iff]
  · rw [Matcher.findAll] at h
    obtain ⟨r, hr, h⟩ := bind_eq_ok_iff.1 h
    cases r with
    | none =>
      cases h
      exact .nil
    | some c =>
      obtain ⟨hknown, hc⟩ := Matcher.known_of_pinAnchors hpattern.consistent hg.consistent hm
        (Matcher.partial_empty m) hr
      obtain ⟨r, hr', hfixes⟩ :=
        Matcher.pinAnchors_fixes hprepared (hp ▸ hknown) (Matcher.partial_empty m)
      rw [hr] at hr'
      cases hr'
      obtain ⟨-, -, hdomain, -⟩ := hfixes
      change found.Pairwise (Mapping.Before (pattern.store.searchOrder _))
      rw [← hp]
      exact Matcher.search_ordered hprepared hc (by simpa using hdomain) h

/-- A pattern of one edge without anchors: its source is pinned before its target. -/
theorem Built.findAll_ordered_edge :
    let pattern := (Graph.new "pattern" none).run
      [.updateEdge ⟨⟨"p", "q", "l"⟩, .empty, by decide⟩ true]
    let live := (Graph.new "live" none).run
      [.updateEdge ⟨⟨"a", "c", "l"⟩, .empty, by decide⟩ true,
        .updateEdge ⟨⟨"a", "b", "l"⟩, .empty, by decide⟩ true]
    let found : List Mapping := [.ofList [("p", "a"), ("q", "b")], .ofList [("p", "a"), ("q", "c")]]
    ∃ m, Matcher.new? pattern.store live.store ⟨none, true, true⟩ = .ok m ∧
      m.findAll [] = .ok found ∧ found.Pairwise (Mapping.Before ["p", "q"]) := by
  intro pattern live found
  have hpattern : pattern.Built := .run (.new _ _) _
  have hlive : live.Built := .run (.new _ _) _
  obtain ⟨m, hm⟩ : ∃ m, Matcher.new? pattern.store live.store ⟨none, true, true⟩ = .ok m :=
    ⟨_, rfl⟩
  have hfinds : m.Finds [] (.ok (found, 6)) := by
    cases hm
    exact (Matcher.finds_of_pinned rfl).2 (.round rfl (.round rfl (.round rfl
      (.round rfl (.round rfl (.round rfl .done))))))
  have hfound := hfinds.findAll_eq hpattern.consistent hlive.consistent hm
  obtain ⟨-, -, hordered, -⟩ := Built.findAll_ordered hlive hpattern hm hfound
  have horder : (pattern.store.searchOrder fun p => ∃ a ∈ ([] : List Anchor), a.Pins p) =
      ["p", "q"] := by
    decide +kernel
  rw [horder] at hordered
  exact ⟨m, hm, hfound, hordered⟩

end Graph

end PropertyGraph
