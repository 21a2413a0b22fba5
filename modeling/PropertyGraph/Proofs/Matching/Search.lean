import PropertyGraph.Matching.Search
import PropertyGraph.Proofs.Matching.Anchors
import PropertyGraph.Proofs.Matching.Plan

/-!
# The search finds the embeddings

All mappings of a generation pin the same vertices. One step makes of each of them all partial
embeddings that pin one more vertex, so an embedding that extends some mapping of a generation
extends just one of the next generation. A plan that gets to the end has then found every
embedding that agrees with the anchors, each once; a plan that gives up has found none.

## Main definitions

- `Matcher.Complete` — partial embeddings of the whole pattern
- `Matcher.Generation` — the partial embeddings that a step of the search starts from
- `Matcher.ExtendsTo` — the mappings that pin one more vertex
-/

namespace PropertyGraph

namespace Matcher

/-- A partial embedding of the whole pattern. -/
def Complete (m : Matcher) (f : Mapping) : Prop :=
  m.Partial f ∧ ∀ p, m.pattern.hasVertex p = true → f.contains p = true

/-- **What holds of a generation**: different partial embeddings, all of which pin the pattern
vertices that are not listed. -/
structure Generation (m : Matcher) (unpinned : List String) (generation : List Mapping) :
    Prop where
  unpinned_nodup : unpinned.Nodup
  unpinned_stored : ∀ p ∈ unpinned, m.pattern.hasVertex p = true
  nodup : generation.Nodup
  isPartial : ∀ c ∈ generation, m.Partial c
  domain : ∀ c ∈ generation, ∀ p,
    c.contains p = true ↔ m.pattern.hasVertex p = true ∧ p ∉ unpinned

/-- Some mappings are, each once, the partial embeddings that pin one more vertex. -/
def ExtendsTo (m : Matcher) (next : String) (c : Mapping) (extensions : List Mapping) : Prop :=
  extensions.Nodup ∧ ∀ c', c' ∈ extensions ↔ ∃ x, c' = c.insert next x ∧ m.Partial c'

section

variable {m : Matcher} {unpinned : List String} {generation : List Mapping}
  {c f : Mapping} {anchors : List Anchor} {along next : String}

/-! ## Complete embeddings -/

theorem complete_of_embedding (hm : m.Prepared)
    (h : Embedding m.pattern m.live m.options anchors f) : m.Complete f := by
  refine ⟨⟨?_, ?_, ?_, ?_⟩, ?_⟩
  · exact fun hp => h.known _ (SortedMap.contains_of_get? hp)
  · intro p x hp
    obtain ⟨v, hv⟩ := Store.hasVertex_iff.1 (h.known p (SortedMap.contains_of_get? hp))
    obtain ⟨y, u, hy, hu, hpasses⟩ := h.vertex p v hv
    rw [hp] at hy
    cases hy
    exact ⟨u, hu, (hm.vertexFits_iff hv).2 hpasses⟩
  · intro k e he
    have hkey := (hm.pattern.edge he).key_eq
    subst hkey
    obtain ⟨s, t, d, hs, ht, hd, hpasses⟩ := h.edge _ e he
    rw [edgeHolds_iff]
    intro s' t' hs' ht'
    rw [hs] at hs'
    rw [ht] at ht'
    cases hs'
    cases ht'
    exact ⟨d, hd, (hm.edgeFits_iff he).2 hpasses⟩
  · exact fun hinjective p q x => h.injective hinjective p q x
  · intro p hp
    obtain ⟨v, hv⟩ := Store.hasVertex_iff.1 hp
    obtain ⟨x, _, hx, -⟩ := h.vertex p v hv
    exact SortedMap.contains_of_get? hx

theorem Complete.embedding (hm : m.Prepared) (hf : m.Complete f)
    (hagrees : ∀ a ∈ anchors, a.Agrees m.pattern m.live f) :
    Embedding m.pattern m.live m.options anchors f where
  known p hp := by
    obtain ⟨x, hx⟩ := SortedMap.contains_iff_get?.1 hp
    exact hf.1.known hx
  vertex p v hv := by
    obtain ⟨x, hx⟩ := SortedMap.contains_iff_get?.1 (hf.2 p (Store.hasVertex_of_vertex? hv))
    obtain ⟨u, hu, hfits⟩ := hf.1.fits hx
    exact ⟨x, u, hx, hu, (hm.vertexFits_iff hv).1 hfits⟩
  edge k e he := by
    have hkey := (hm.pattern.edge he).key_eq
    subst hkey
    have hstored := Store.containsEdge_of_edge? he
    obtain ⟨s, hs⟩ := SortedMap.contains_iff_get?.1 (hf.2 _ (hm.pattern.source_stored _ hstored))
    obtain ⟨t, ht⟩ := SortedMap.contains_iff_get?.1 (hf.2 _ (hm.pattern.target_stored _ hstored))
    obtain ⟨d, hd, hfits⟩ := edgeHolds_iff.1 (hf.1.edges he) s t hs ht
    exact ⟨s, t, d, hs, ht, hd, (hm.edgeFits_iff he).1 hfits⟩
  anchored := hagrees
  injective hinjective _ _ _ := hf.1.injective hinjective

/-- The embeddings are the complete partial embeddings that agree with the anchors. -/
theorem embedding_iff (hm : m.Prepared) :
    Embedding m.pattern m.live m.options anchors f ↔
      m.Complete f ∧ ∀ a ∈ anchors, a.Agrees m.pattern m.live f :=
  ⟨fun h => ⟨complete_of_embedding hm h, h.anchored⟩, fun h => h.1.embedding hm h.2⟩

/-! ## One step -/

theorem Generation.free (h : m.Generation unpinned generation) (hc : c ∈ generation)
    (hnext : next ∈ unpinned) : c.get? next = none := by
  rw [← SortedMap.contains_eq_false_iff, Bool.eq_false_iff]
  exact fun hpinned => ((h.domain c hc next).1 hpinned).2 hnext

/-- Trying all live vertices that may do is pinning one more vertex in every way. -/
theorem extendsTo_filterMap_pin? (hm : m.Prepared) (hc : m.Partial c)
    (hnext : m.pattern.hasVertex next = true) (hfree : c.get? next = none) {xs : List String}
    (hnodup : xs.Nodup) (hfits : ∀ x ∈ xs, m.Fits next x)
    (hall : ∀ x, m.Partial (c.insert next x) → x ∈ xs) :
    m.ExtendsTo next c (xs.filterMap (m.pin? c next)) := by
  constructor
  · refine List.Pairwise.filterMap _ ?_ hnodup
    rintro x y hne b hb _ hb' rfl
    refine hne ?_
    rw [pin?_eq_some_iff_rules] at hb hb'
    have hsame := congrArg (·.get? next) (hb.1.symm.trans hb'.1)
    simpa using hsame
  · intro c'
    rw [List.mem_filterMap]
    constructor
    · rintro ⟨x, hx, hpin⟩
      exact ⟨x, (pin?_eq_some_iff hm.pattern hc hnext hfree (hfits x hx)).1 hpin⟩
    · rintro ⟨x, rfl, hc'⟩
      have hx := hall x hc'
      exact ⟨x, hx, (pin?_eq_some_iff hm.pattern hc hnext hfree (hfits x hx)).2 ⟨rfl, hc'⟩⟩

theorem candidates_eq_ok (hm : m.Prepared) (live p : String) :
    ∃ xs, m.candidates live p = .ok xs ∧ xs.Nodup ∧
      ∀ x, x ∈ xs ↔ m.Fits p x ∧ m.live.Adjacent live x := by
  obtain ⟨around, hok, hmem⟩ := hm.live.checkedNeighbors_both live
  refine ⟨_, by rw [candidates, hok]; rfl, SortedMap.nodup_keys _, fun x => ?_⟩
  rw [SortedSet.mem_keys_ofList, List.mem_map]
  simp only [List.mem_filter, hmem]
  constructor
  · rintro ⟨u, ⟨⟨hu, hadjacent⟩, hfits⟩, rfl⟩
    exact ⟨⟨u, hu, hfits⟩, hadjacent⟩
  · rintro ⟨⟨u, hu, hfits⟩, hadjacent⟩
    have hid := (hm.live.vertex hu).id_eq
    subst hid
    exact ⟨u, ⟨⟨hu, hadjacent⟩, hfits⟩, rfl⟩

/-- A pattern edge between pinned vertices makes what they are pinned to adjacent. -/
theorem Partial.adjacent (hf : m.Partial f) {p q x y : String} (h : m.pattern.Adjacent p q)
    (hp : f.get? p = some x) (hq : f.get? q = some y) (hm : m.pattern.Consistent) :
    m.live.Adjacent x y := by
  obtain ⟨k, hk, hends⟩ := h
  obtain ⟨e, he⟩ := Store.containsEdge_iff.1 hk
  have hkey := (hm.edge he).key_eq
  subst hkey
  have hholds := edgeHolds_iff.1 (hf.edges he)
  rcases hends with ⟨hs, ht⟩ | ⟨hs, ht⟩
  · obtain ⟨d, hd, -⟩ := hholds x y (hs ▸ hp) (ht ▸ hq)
    exact ⟨_, Store.containsEdge_of_edge? hd, .inl ⟨rfl, rfl⟩⟩
  · obtain ⟨d, hd, -⟩ := hholds y x (hs ▸ hq) (ht ▸ hp)
    exact ⟨_, Store.containsEdge_of_edge? hd, .inr ⟨rfl, rfl⟩⟩

/-- Going on along a pattern edge loses nothing: whatever the next vertex can be pinned to is
adjacent to what the earlier one is pinned to. -/
theorem extensions_eq_ok (hm : m.Prepared) (h : m.Generation unpinned generation)
    (hc : c ∈ generation) (halong : along ∉ unpinned) (hnext : next ∈ unpinned)
    (hadjacent : m.pattern.Adjacent along next) :
    ∃ cs, m.extensions along next c = .ok cs ∧ m.ExtendsTo next c cs := by
  have hstored := hm.pattern.adjacent_stored hadjacent
  obtain ⟨live, hlive⟩ :=
    SortedMap.contains_iff_get?.1 ((h.domain c hc along).2 ⟨hstored.1, halong⟩)
  have hfree := h.free hc hnext
  -- the candidates are the live neighbours of what the earlier vertex is pinned to
  obtain ⟨xs, hxs, hnodup, hmem⟩ := candidates_eq_ok hm live next
  refine ⟨xs.filterMap (m.pin? c next), ?_, ?_⟩
  · rw [extensions, hlive]
    exact bind_eq_ok_iff.2 ⟨xs, hxs, rfl⟩
  refine extendsTo_filterMap_pin? hm (h.isPartial c hc) hstored.2 hfree hnodup
    (fun x hx => ((hmem x).1 hx).1) fun x hx => (hmem x).2 ?_
  have hself := SortedMap.get?_insert_self c next x
  have hearlier := SortedMap.within_insert (v := x) hfree along live hlive
  exact ⟨hx.fits hself, hx.adjacent hadjacent hearlier hself hm.pattern⟩

theorem seeds_extendsTo (hm : m.Prepared) (h : m.Generation unpinned generation)
    (hc : c ∈ generation) (hnext : next ∈ unpinned) :
    m.ExtendsTo next c (m.seeds next c) := by
  have hmem : ∀ x, x ∈ (m.live.vertexList.filter (m.vertexFits next)).map (·.id) ↔
      m.Fits next x := by
    intro x
    simp only [List.mem_map, List.mem_filter]
    constructor
    · rintro ⟨u, ⟨hu, hfits⟩, rfl⟩
      exact ⟨u, (hm.live.storedUnder_of_mem_vertexList hu).1, hfits⟩
    · rintro ⟨u, hu, hfits⟩
      exact ⟨u, ⟨Store.mem_vertexList.2 ⟨x, hu⟩, hfits⟩, (hm.live.vertex hu).id_eq⟩
  refine extendsTo_filterMap_pin? hm (h.isPartial c hc) (h.unpinned_stored next hnext)
    (h.free hc hnext) (hm.live.nodup_ids_vertexList.sublist (List.filter_sublist.map _))
    (fun x => (hmem x).1) ?_
  exact fun x hx => (hmem x).2 (hx.fits (SortedMap.get?_insert_self c next x))

/-- **One step of the search.** The extensions of a generation by one vertex are a generation. -/
theorem Generation.flatMap (h : m.Generation unpinned generation) (hnext : next ∈ unpinned)
    {following : Mapping → List Mapping}
    (hfollowing : ∀ c ∈ generation, m.ExtendsTo next c (following c)) :
    m.Generation (unpinned.erase next) (generation.flatMap following) where
  unpinned_nodup := h.unpinned_nodup.erase next
  unpinned_stored p hp := h.unpinned_stored p (List.mem_of_mem_erase hp)
  nodup := by
    rw [List.nodup_iff_pairwise_ne, List.pairwise_flatMap]
    refine ⟨fun c hc => (hfollowing c hc).1, h.nodup.imp_of_mem ?_⟩
    -- two mappings that pin the same are told apart by what they have pinned before
    rintro c d hc hd hne c' hc' d' hd' rfl
    obtain ⟨x, rfl, -⟩ := ((hfollowing c hc).2 _).1 hc'
    obtain ⟨y, heq, -⟩ := ((hfollowing d hd).2 _).1 hd'
    refine hne (SortedMap.ext_get? fun p => ?_)
    by_cases hp : p = next
    · rw [hp, h.free hc hnext, h.free hd hnext]
    · have hsame := congrArg (·.get? p) heq
      simpa [SortedMap.get?_insert, hp] using hsame
  isPartial c' hc' := by
    obtain ⟨c, hc, hc'⟩ := List.mem_flatMap.1 hc'
    obtain ⟨x, -, hpartial⟩ := ((hfollowing c hc).2 c').1 hc'
    exact hpartial
  domain c' hc' p := by
    obtain ⟨c, hc, hc'⟩ := List.mem_flatMap.1 hc'
    obtain ⟨x, rfl, -⟩ := ((hfollowing c hc).2 c').1 hc'
    rw [SortedMap.contains_insert, h.domain c hc, h.unpinned_nodup.mem_erase_iff]
    by_cases hp : p = next
    · simp [hp, h.unpinned_stored next hnext]
    · simp [hp]

/-- An embedding that extends a mapping of a generation extends one of the next generation. -/
theorem exists_flatMap_within_iff (h : m.Generation unpinned generation)
    (hnext : next ∈ unpinned) {following : Mapping → List Mapping}
    (hfollowing : ∀ c ∈ generation, m.ExtendsTo next c (following c)) (hf : m.Complete f) :
    (∃ c' ∈ generation.flatMap following, c'.Within f) ↔ ∃ c ∈ generation, c.Within f := by
  constructor
  · rintro ⟨c', hc', hwithin⟩
    obtain ⟨c, hc, hc'⟩ := List.mem_flatMap.1 hc'
    obtain ⟨x, rfl, -⟩ := ((hfollowing c hc).2 c').1 hc'
    exact ⟨c, hc, (SortedMap.within_insert (h.free hc hnext)).trans hwithin⟩
  · rintro ⟨c, hc, hwithin⟩
    obtain ⟨x, hx⟩ := SortedMap.contains_iff_get?.1 (hf.2 next (h.unpinned_stored next hnext))
    have hinsert := SortedMap.insert_within hwithin hx
    exact ⟨c.insert next x, List.mem_flatMap.2
      ⟨c, hc, ((hfollowing c hc).2 _).2 ⟨x, rfl, hf.1.within hinsert⟩⟩, hinsert⟩

/-! ## The whole search -/

theorem spend_eq_ok (hsteps : m.options.maxSteps = none) (spent looked : Nat) :
    m.spend spent looked = .ok (spent + looked) := by
  rw [spend, hsteps]

/-- **What following a plan finds**: if it gets to the end, the complete embeddings that extend
the generation it starts from, each once. -/
theorem run_eq_ok (hm : m.Prepared) (hsteps : m.options.maxSteps = none) {plan : MatchPlan}
    (hcovers : plan.Covers m.pattern m.options.seedUnanchored unpinned)
    (h : m.Generation unpinned generation) (spent : Nat) :
    ∃ found, m.run plan spent generation = .ok found ∧ found.Nodup ∧
      ∀ f, f ∈ found ↔ plan.completes = true ∧ m.Complete f ∧ ∃ c ∈ generation, c.Within f := by
  -- along the plan: each step hands on a generation, and the embeddings that extend it
  induction hcovers generalizing generation spent with
  | done =>
    refine ⟨generation, ?_, h.nodup, fun f => ?_⟩
    · rw [run, spend_eq_ok hsteps]
      rfl
    · -- complete embeddings, one of which is within the other, are the same
      constructor
      · intro hf
        refine ⟨rfl, ⟨h.isPartial f hf, fun p hp => ?_⟩, f, hf, .refl f⟩
        exact (h.domain f hf p).2 ⟨hp, List.not_mem_nil⟩
      · rintro ⟨-, ⟨hf, -⟩, c, hc, hwithin⟩
        have heq : c = f := hwithin.eq fun p hp => by
          obtain ⟨x, hx⟩ := SortedMap.contains_iff_get?.1 hp
          exact (h.domain c hc p).2 ⟨hf.known hx, List.not_mem_nil⟩
        exact heq ▸ hc
  | stuck =>
    refine ⟨[], ?_, List.nodup_nil, fun f => ?_⟩
    · rw [run, spend_eq_ok hsteps]
      rfl
    · simp [MatchPlan.completes]
  | close _ ih =>
    obtain ⟨found, hfound, hrest⟩ := ih h (spent + generation.length)
    refine ⟨found, ?_, hrest⟩
    rw [run, spend_eq_ok hsteps]
    exact hfound
  | @extend unpinned along next rest halong hnext hadjacent _ ih =>
    obtain ⟨following, hok, hfollowing⟩ := exists_map_of_mapM
      fun c hc => extensions_eq_ok hm h hc halong hnext hadjacent
    obtain ⟨found, hfound, hnodup, hmem⟩ :=
      ih (h.flatMap hnext hfollowing) (spent + generation.length)
    refine ⟨found, ?_, hnodup, fun f => ?_⟩
    · rw [run, spend_eq_ok hsteps]
      exact bind_eq_ok_iff.2 ⟨_, rfl, bind_eq_ok_iff.2 ⟨_, hok, hfound⟩⟩
    · rw [hmem f]
      exact and_congr_right fun _ => and_congr_right fun hf =>
        exists_flatMap_within_iff h hnext hfollowing hf
  | @seed unpinned next rest _ hnext _ ih =>
    have hfollowing : ∀ c ∈ generation, m.ExtendsTo next c (m.seeds next c) :=
      fun c hc => seeds_extendsTo hm h hc hnext
    obtain ⟨found, hfound, hnodup, hmem⟩ :=
      ih (h.flatMap hnext hfollowing) (spent + generation.length)
    refine ⟨found, ?_, hnodup, fun f => ?_⟩
    · rw [run, spend_eq_ok hsteps]
      exact hfound
    · rw [hmem f]
      exact and_congr_right fun _ => and_congr_right fun hf =>
        exists_flatMap_within_iff h hnext hfollowing hf

/-- The mapping that the anchors fix is the first generation. -/
theorem generation_singleton (hc : m.Partial c) :
    m.Generation (m.pattern.vertexIds.filter (!c.contains ·)) [c] where
  unpinned_nodup := (SortedMap.nodup_keys _).filter _
  unpinned_stored p hp := Store.mem_vertexIds.1 (List.mem_filter.1 hp).1
  nodup := by simp
  isPartial d hd := by
    rw [List.mem_singleton.1 hd]
    exact hc
  domain d hd p := by
    rw [List.mem_singleton.1 hd, List.mem_filter, Store.mem_vertexIds]
    constructor
    · intro hp
      obtain ⟨x, hx⟩ := SortedMap.contains_iff_get?.1 hp
      exact ⟨hc.known hx, by simp [hp]⟩
    · rintro ⟨hp, hnot⟩
      simpa [hp] using hnot

/-- Where the anchored vertices are the pinned ones, all others are joined to pinned vertices just
if the whole pattern is joined to anchored ones. -/
theorem joined_anchored_iff (hm : m.pattern.Consistent)
    (hdomain : ∀ p, c.contains p = true ↔ ∃ a ∈ anchors, a.Pins p) :
    (∀ p ∈ m.pattern.vertexIds.filter (!c.contains ·),
      m.pattern.Joined (· ∉ m.pattern.vertexIds.filter (!c.contains ·)) p) ↔
    ∀ p, m.pattern.hasVertex p = true →
      m.pattern.Joined (fun q => ∃ a ∈ anchors, a.Pins q) p := by
  have hunpinned : ∀ p, p ∈ m.pattern.vertexIds.filter (!c.contains ·) ↔
      m.pattern.hasVertex p = true ∧ ¬∃ a ∈ anchors, a.Pins p := by
    intro p
    rw [List.mem_filter, Store.mem_vertexIds, ← hdomain]
    simp
  constructor
  · intro h p hp
    by_cases hpinned : ∃ a ∈ anchors, a.Pins p
    · exact .base hpinned
    · have hjoined := h p ((hunpinned p).2 ⟨hp, hpinned⟩)
      -- only stored vertices are joined to others
      refine hjoined.subset (fun q => m.pattern.hasVertex q = true →
        m.pattern.Joined (fun q => ∃ a ∈ anchors, a.Pins q) q) ?_ ?_ hp
      · intro q hq hstored
        by_cases hq' : ∃ a ∈ anchors, a.Pins q
        · exact .base hq'
        · exact absurd ((hunpinned q).2 ⟨hstored, hq'⟩) hq
      · exact fun q r ih hadjacent _ => .step (ih (hm.adjacent_stored hadjacent).1) hadjacent
  · intro h p hp
    exact (h p ((hunpinned p).1 hp).1).mono fun q hq => .base fun hq' => ((hunpinned q).1 hq').2 hq

/-- **What the search finds**: without a bound on the steps, each embedding once, if it may seed or
the pattern is joined to the anchors; and nothing otherwise. -/
theorem findAll_eq_ok (hm : m.Prepared) (hsteps : m.options.maxSteps = none)
    (hknown : ∀ a ∈ anchors, a.Known m.pattern) :
    ∃ found, m.findAll anchors = .ok found ∧ found.Nodup ∧
      ∀ f, f ∈ found ↔ (m.options.seedUnanchored = true ∨ ∀ p, m.pattern.hasVertex p = true →
          m.pattern.Joined (fun q => ∃ a ∈ anchors, a.Pins q) p) ∧
        Embedding m.pattern m.live m.options anchors f := by
  have hempty : ∀ f : Mapping, SortedMap.Within .empty f := fun f p x h => nomatch h
  obtain ⟨r, hr, hfixes⟩ := pinAnchors_fixes hm hknown (partial_empty m)
  cases r with
  | none =>
    refine ⟨[], ?_, List.nodup_nil, fun f => ?_⟩
    · exact bind_eq_ok_iff.2 ⟨_, hr, rfl⟩
    · simp only [List.not_mem_nil, false_iff, embedding_iff hm]
      rintro ⟨-, hf, hagrees⟩
      exact hfixes f hf.1 (hempty f) hagrees
  | some c =>
    -- the anchored vertices are the pinned ones, and extending `c` is agreeing with the anchors
    obtain ⟨hc, -, hdomain, hleast⟩ := hfixes
    have hanchored : ∀ p, c.contains p = true ↔ ∃ a ∈ anchors, a.Pins p := by
      simpa using hdomain
    obtain ⟨plan, hplan, hcovers⟩ := MatchPlan.make_covers hm.pattern m.options.seedUnanchored
      (MatchPlan.frontier_vertexIds hm.pattern _)
    obtain ⟨found, hfound, hnodup, hmem⟩ :=
      run_eq_ok hm hsteps hcovers (generation_singleton hc) 0
    refine ⟨found, ?_, hnodup, fun f => ?_⟩
    · exact bind_eq_ok_iff.2 ⟨_, hr, bind_eq_ok_iff.2 ⟨plan, hplan, hfound⟩⟩
    · rw [hmem, hcovers.completes_iff, joined_anchored_iff hm.pattern hanchored,
        embedding_iff hm]
      refine and_congr_right fun _ => and_congr_right fun hf => ?_
      have hagrees : (∀ a ∈ anchors, a.Agrees m.pattern m.live f) ↔ c.Within f :=
        hleast f hf.1 (hempty f)
      rw [hagrees]
      simp

end

end Matcher

end PropertyGraph
