import PropertyGraph.Proofs.Built
import PropertyGraph.Proofs.Matching.Queue

/-!
# What a search gives

A search from anchors that name elements of the pattern gives the embeddings, or ends for its
budget. Both the plan and the queue are searches of that kind, and whatever is said of the result of
one of them holds of the other one too.
-/

namespace PropertyGraph

namespace Graph

/-- **Matching is sound, complete and without duplicates.** A matcher of two graphs, given anchors
that name elements of the pattern and no bound on the steps, gives a list in which no mapping is
repeated, and its queue of candidates ends with that list and with no other result. Where the
matcher may seed, and where pattern edges join every pattern vertex to an anchored one, the list has
just the embeddings; otherwise it is empty. -/
theorem Built.findAll_exact {g pattern : Graph} (hg : g.Built) (hpattern : pattern.Built)
    {options : MatchOptions} {m : Matcher}
    (hm : Matcher.new? pattern.store g.store options = .ok m)
    (hsteps : options.maxSteps = none) {anchors : List Anchor}
    (hknown : ∀ a ∈ anchors, a.Known pattern.store) :
    ∃ found, m.findAll anchors = .ok found ∧
      (∃ n, ∀ r, m.Finds anchors r ↔ r = .ok (found, n)) ∧ found.Nodup ∧
      ((options.seedUnanchored = true ∨ ∀ p, pattern.store.hasVertex p = true →
          pattern.store.Joined (fun q => ∃ a ∈ anchors, a.Pins q) p) →
        ∀ f, f ∈ found ↔ Embedding pattern.store g.store options anchors f) ∧
      (¬(options.seedUnanchored = true ∨ ∀ p, pattern.store.hasVertex p = true →
          pattern.store.Joined (fun q => ∃ a ∈ anchors, a.Pins q) p) →
        found = []) := by
  obtain ⟨hprepared, hp, hl, rfl⟩ :=
    Matcher.prepared_of_new? hpattern.consistent hg.consistent hm
  rw [← hp] at hknown
  rw [← hp, ← hl]
  obtain ⟨found, hfound, hnodup, hmem⟩ := Matcher.findAll_eq_ok hprepared hsteps hknown
  obtain ⟨n, hn⟩ :=
    Matcher.exists_finds_of_findAll hpattern.consistent hg.consistent hm hfound
  refine ⟨found, hfound, ⟨n, fun r => hn.iff⟩, hnodup, fun hjoined f => ?_, fun hcut => ?_⟩
  · rw [hmem, and_iff_right hjoined]
  · exact List.eq_nil_iff_forall_not_mem.2 fun f hf => hcut ((hmem f).1 hf).1

/-- A pattern of one edge, anchored at its source, is found along each of two live edges. -/
theorem Built.findAll_exact_edge :
    let pattern := (Graph.new "pattern" none).run
      [.updateEdge ⟨⟨"p", "q", "l"⟩, .empty, by decide⟩ true]
    let live := (Graph.new "live" none).run
      [.updateEdge ⟨⟨"a", "b", "l"⟩, .empty, by decide⟩ true,
        .updateEdge ⟨⟨"a", "c", "l"⟩, .empty, by decide⟩ true]
    ∃ m found, Matcher.new? pattern.store live.store ⟨none, true, false⟩ = .ok m ∧
      m.findAll [.vertex "p" "a"] = .ok found ∧ found.Nodup ∧
      .ofList [("p", "a"), ("q", "c")] ∈ found := by
  intro pattern live
  have hpattern : pattern.Built := .run (.new _ _) _
  have hlive : live.Built := .run (.new _ _) _
  obtain ⟨m, hm⟩ : ∃ m, Matcher.new? pattern.store live.store ⟨none, true, false⟩ = .ok m :=
    ⟨_, rfl⟩
  have hknown : ∀ a ∈ [Anchor.vertex "p" "a"], a.Known pattern.store := by
    rintro a ha
    rw [List.mem_singleton.1 ha]
    rfl
  obtain ⟨found, hfound, -, hnodup, hmem, -⟩ :=
    Built.findAll_exact hlive hpattern hm rfl hknown
  have hids : ∀ p, pattern.store.hasVertex p = true → p = "p" ∨ p = "q" := by
    intro p hp
    have hmem : p ∈ ["p", "q"] := Store.mem_vertexIds.2 hp
    simpa using hmem
  have hpinned : ∀ p, (SortedMap.ofList [("p", "a"), ("q", "c")]).contains p = true →
      p = "p" ∨ p = "q" := by
    intro p hp
    rw [SortedMap.contains_ofList] at hp
    simpa using hp
  have hkeys : ∀ k e, pattern.store.edge? k = some e → k = ⟨"p", "q", "l"⟩ := by
    intro k e he
    have hmem : k ∈ [⟨"p", "q", "l"⟩] := SortedMap.mem_keys_iff.2 (Store.containsEdge_of_edge? he)
    exact List.mem_singleton.1 hmem
  refine ⟨m, found, hm, hfound, hnodup, (hmem (.inr ?_) _).2 ⟨?_, ?_, ?_, ?_, ?_⟩⟩
  · have hp : pattern.store.Joined (fun q => ∃ a ∈ [Anchor.vertex "p" "a"], a.Pins q) "p" :=
      .base ⟨_, List.mem_singleton_self _, rfl⟩
    intro q hq
    obtain rfl | rfl := hids q hq
    · exact hp
    · exact hp.step ⟨⟨"p", "q", "l"⟩, rfl, .inl ⟨rfl, rfl⟩⟩
  · intro p hp
    obtain rfl | rfl := hpinned p hp
    · rfl
    · rfl
  · intro p v hv
    obtain rfl | rfl := hids p (Store.hasVertex_of_vertex? hv)
    · cases hv
      exact ⟨"a", _, rfl, rfl, _, rfl, rfl⟩
    · cases hv
      exact ⟨"c", _, rfl, rfl, _, rfl, rfl⟩
  · intro k e he
    obtain rfl := hkeys k e he
    cases he
    exact ⟨"a", "c", _, rfl, rfl, rfl, _, rfl, rfl⟩
  · intro a ha
    rw [List.mem_singleton.1 ha]
    rfl
  · intro _ p q x hp hq
    obtain rfl | rfl := hpinned p (SortedMap.contains_of_get? hp)
    · obtain rfl | rfl := hpinned q (SortedMap.contains_of_get? hq)
      · rfl
      · exact absurd (hp.trans hq.symm) (by decide)
    · obtain rfl | rfl := hpinned q (SortedMap.contains_of_get? hq)
      · exact absurd (hp.trans hq.symm) (by decide)
      · rfl

/-- **The failures of a search are the caller's.** The queue of candidates of a matcher of two graphs
ends, with the result of the search, be that a list or an error. The matcher never meets an edge
without an endpoint. It refuses an anchor that names nothing in the pattern, just if all anchors
before it are pinned. It runs out of steps only if they are limited, and all anchors are known
and pinned. It fails in no other way. -/
theorem Built.findAll_failures {g pattern : Graph} (hg : g.Built) (hpattern : pattern.Built)
    {options : MatchOptions} {m : Matcher}
    (hm : Matcher.new? pattern.store g.store options = .ok m) (anchors : List Anchor) :
    (∃ r, m.Finds anchors r) ∧
    (∀ r, m.Finds anchors r → m.findAll anchors = r.map (·.1)) ∧
    (∀ key missing, m.findAll anchors ≠ .error (.danglingEdge key missing)) ∧
    (∀ fault, m.findAll anchors = .error (.invalidArgument fault) ↔
      ∃ before a after, anchors = before ++ a :: after ∧ ¬a.Known pattern.store ∧
        m.Accepts before ∧ fault = a.unknown) ∧
    (∀ b, m.findAll anchors = .error (.stepBudgetExceeded b) →
      options.maxSteps = some b ∧ (∀ a ∈ anchors, a.Known pattern.store) ∧ m.Accepts anchors) ∧
    ((∀ fault, m.findAll anchors ≠ .error (.invalidArgument fault)) →
      (∀ b, m.findAll anchors ≠ .error (.stepBudgetExceeded b)) →
      ∃ found, m.findAll anchors = .ok found) := by
  have hp := hpattern.consistent
  have hl := hg.consistent
  obtain ⟨r, hr, -⟩ := Matcher.exists_finds hp hl hm anchors
  refine ⟨⟨r, hr⟩, fun r hr => hr.findAll_eq hp hl hm, fun key missing herr => ?_,
    fun fault => ⟨fun herr => ?_, ?_⟩, fun b herr => ?_, fun hargument hbudget => ?_⟩
  · rcases Matcher.findAll_eq_error hp hl hm herr with ⟨_, _, _, _, _, _, h⟩ | ⟨_, _, _, _, h⟩
    · cases h
    · cases h
  · rcases Matcher.findAll_eq_error hp hl hm herr with
      ⟨before, a, after, hsplit, ha, hbefore, h⟩ | ⟨_, _, _, _, h⟩
    · cases h
      exact ⟨before, a, after, hsplit, ha, hbefore, rfl⟩
    · cases h
  · rintro ⟨before, a, after, rfl, ha, hbefore, rfl⟩
    exact Matcher.findAll_of_unknown hp hl hm ha hbefore
  · rcases Matcher.findAll_eq_error hp hl hm herr with
      ⟨_, _, _, _, _, _, h⟩ | ⟨_, hsteps, hknown, haccepts, h⟩
    · cases h
    · cases h
      exact ⟨hsteps, hknown, haccepts⟩
  · cases hfound : m.findAll anchors with
    | ok found => exact ⟨found, rfl⟩
    | error err =>
      rcases Matcher.findAll_eq_error hp hl hm hfound with
        ⟨_, a, _, _, _, _, rfl⟩ | ⟨b, _, _, _, rfl⟩
      · exact absurd hfound (hargument _)
      · exact absurd hfound (hbudget b)

/-- An anchor that names no pattern vertex is refused after one that is pinned. -/
theorem Built.findAll_failures_unknown :
    let pattern := (Graph.new "pattern" none).run
      [.updateEdge ⟨⟨"p", "q", "l"⟩, .empty, by decide⟩ true]
    let live := (Graph.new "live" none).run
      [.updateEdge ⟨⟨"a", "b", "l"⟩, .empty, by decide⟩ true]
    ∃ m, Matcher.new? pattern.store live.store ⟨some 1, true, false⟩ = .ok m ∧
      m.findAll [.vertex "p" "a", .vertex "z" "a"] =
        .error (.invalidArgument (.unknownPatternVertex "z")) := by
  intro pattern live
  have hpattern : pattern.Built := .run (.new _ _) _
  have hlive : live.Built := .run (.new _ _) _
  have hunknown : ¬(Anchor.vertex "z" "a").Known pattern.store := by
    intro hz
    cases (show false = true from hz)
  refine ⟨_, rfl, ?_⟩
  exact ((Built.findAll_failures hlive hpattern rfl _).2.2.2.1 _).2
    ⟨[.vertex "p" "a"], .vertex "z" "a", [], rfl, hunknown, ⟨_, rfl⟩, rfl⟩

end Graph

end PropertyGraph
