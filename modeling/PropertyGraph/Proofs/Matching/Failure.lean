import PropertyGraph.Proofs.Matching.Search

/-!
# How a search fails

Anchors are pinned from left to right, up to the first one that is turned down or that names
nothing in the pattern. The former ends the search without embeddings, the latter with an error.
Once all anchors are pinned, every look at the edges of a vertex succeeds, as no stored edge lacks
an endpoint: only the budget can end the search early.

## Main definitions

- `Anchor.unknown` — what is wrong with an anchor that names nothing in the pattern
- `Matcher.Accepts` — some anchors can be pinned, one after the other
-/

namespace PropertyGraph

/-- What is wrong with an anchor that names nothing in the pattern. -/
def Anchor.unknown : Anchor → ArgumentFault
  | vertex p _ => .unknownPatternVertex p
  | edge p _ => .unknownPatternEdge p

namespace Matcher

/-- All of some anchors are pinned, from left to right. -/
def Accepts (m : Matcher) (anchors : List Anchor) : Prop :=
  ∃ c, m.pinAnchors .empty anchors = .ok (some c)

section

variable {m : Matcher} {c c' : Mapping} {anchors : List Anchor} {a : Anchor}
  {pattern live : Store} {options : MatchOptions}

/-! ## Filters stand for pattern elements -/

/-- What is computed for the members of a list is found under their keys only. -/
theorem contains_ofList_of_mapM {κ α β ε : Type} [Ord κ] [DecidableEq κ] [Std.TransOrd κ]
    [Std.LawfulEqOrd κ] {entry : α → Except ε (κ × β)} (key : α → κ)
    (hkey : ∀ a b, entry a = .ok b → b.1 = key a) {l : List α} {entries : List (κ × β)}
    (h : l.mapM entry = .ok entries) (k : κ) :
    (SortedMap.ofList entries).contains k = true ↔ k ∈ l.map key := by
  rw [SortedMap.contains_ofList, map_of_mapM hkey h]

/-- A matcher has filters for the pattern vertices, and for no other identities. -/
theorem contains_vertexFilters_of_new?
    (hpattern : pattern.Consistent) (h : new? pattern live options = .ok m) (p : String) :
    m.vertexFilters.contains p = true ↔ pattern.hasVertex p = true := by
  simp only [new?, bind_eq_ok_iff] at h
  obtain ⟨vertexFilters, hvertices, edgeFilters, hedges, h⟩ := h
  cases h
  have hkeys := contains_ofList_of_mapM Vertex.id (fun _ _ => fst_of_map_eq_ok) hvertices p
  rw [hpattern.map_id_vertexList, Store.mem_vertexIds] at hkeys
  exact hkeys

/-- A matcher has filters for the pattern edges, and for no other identities. -/
theorem contains_edgeFilters_of_new?
    (hpattern : pattern.Consistent) (h : new? pattern live options = .ok m) (k : EdgeKey) :
    m.edgeFilters.contains k = true ↔ pattern.edges.contains k = true := by
  simp only [new?, bind_eq_ok_iff] at h
  obtain ⟨vertexFilters, hvertices, edgeFilters, hedges, h⟩ := h
  cases h
  have hkeys := contains_ofList_of_mapM Edge.key (fun _ _ => fst_of_map_eq_ok) hedges k
  rw [hpattern.map_key_edgeList, SortedMap.mem_keys_iff] at hkeys
  exact hkeys

/-! ## Pinning anchors -/

theorem pinAnchor_unknown
    (hpattern : pattern.Consistent) (h : new? pattern live options = .ok m)
    (ha : ¬a.Known pattern) (c : Mapping) :
    m.pinAnchor c a = .error (.invalidArgument a.unknown) := by
  cases a with
  | vertex p x =>
    have hp : ¬m.vertexFilters.contains p = true := by
      rw [contains_vertexFilters_of_new? hpattern h]
      exact ha
    rw [pinAnchor, pinVertex, if_neg hp]
    rfl
  | edge p k =>
    have hp : ¬m.edgeFilters.contains p = true := by
      rw [contains_edgeFilters_of_new? hpattern h]
      exact ha
    rw [pinAnchor, pinEdge, if_neg hp]
    rfl

theorem pinAnchors_cons_of_ok (h : m.pinAnchor c a = .ok (some c')) :
    m.pinAnchors c (a :: anchors) = m.pinAnchors c' anchors := by
  rw [pinAnchors, h]
  rfl

theorem pinAnchors_cons_of_refused (h : m.pinAnchor c a = .ok none) :
    m.pinAnchors c (a :: anchors) = .ok none := by
  rw [pinAnchors, h]
  rfl

theorem pinAnchors_cons_of_error {err : GraphError} (h : m.pinAnchor c a = .error err) :
    m.pinAnchors c (a :: anchors) = .error err := by
  rw [pinAnchors, h]
  rfl

/-- **When pinning fails**: at an anchor that names nothing in the pattern, if all anchors before
it are pinned. -/
theorem pinAnchors_eq_error_iff
    (hpattern : pattern.Consistent) (hlive : live.Consistent)
    (h : new? pattern live options = .ok m) (hc : m.Partial c) {err : GraphError} :
    m.pinAnchors c anchors = .error err ↔
      ∃ before a after, anchors = before ++ a :: after ∧ ¬a.Known pattern ∧
        (∃ c', m.pinAnchors c before = .ok (some c')) ∧ err = .invalidArgument a.unknown := by
  obtain ⟨hm, hp, -, -⟩ := prepared_of_new? hpattern hlive h
  induction anchors generalizing c with
  | nil =>
    constructor
    · intro hnil
      cases hnil
    · rintro ⟨before, a, after, hsplit, -⟩
      simp at hsplit
  | cons a rest ih =>
    by_cases ha : a.Known pattern
    · obtain ⟨r, hr, hfixes⟩ := pinAnchor_fixes hm hc (hp.symm ▸ ha)
      cases r with
      | none =>
        -- the anchor is turned down, and what comes after it is not looked at
        rw [pinAnchors_cons_of_refused hr]
        constructor
        · intro hok
          cases hok
        · rintro ⟨before, b, after, hsplit, hb, ⟨c', hbefore⟩, -⟩
          cases before with
          | nil =>
            cases hsplit
            exact absurd ha hb
          | cons d before =>
            cases hsplit
            rw [pinAnchors_cons_of_refused hr] at hbefore
            cases hbefore
      | some c₁ =>
        rw [pinAnchors_cons_of_ok hr, ih hfixes.1]
        constructor
        · rintro ⟨before, b, after, rfl, hb, ⟨c', hbefore⟩, herr⟩
          exact ⟨a :: before, b, after, rfl, hb, ⟨c', (pinAnchors_cons_of_ok hr).trans hbefore⟩,
            herr⟩
        · rintro ⟨before, b, after, hsplit, hb, ⟨c', hbefore⟩, herr⟩
          cases before with
          | nil =>
            cases hsplit
            exact absurd ha hb
          | cons d before =>
            cases hsplit
            rw [pinAnchors_cons_of_ok hr] at hbefore
            exact ⟨before, b, after, rfl, hb, ⟨c', hbefore⟩, herr⟩
    · have hunknown := pinAnchor_unknown hpattern h ha c
      rw [pinAnchors_cons_of_error hunknown]
      constructor
      · intro herr
        cases herr
        exact ⟨[], a, rest, rfl, ha, ⟨c, rfl⟩, rfl⟩
      · rintro ⟨before, b, after, hsplit, -, ⟨c', hbefore⟩, rfl⟩
        cases before with
        | nil =>
          cases hsplit
          rfl
        | cons d before =>
          cases hsplit
          rw [pinAnchors_cons_of_error hunknown] at hbefore
          cases hbefore

/-- Pinned anchors name elements of the pattern, and pin a partial embedding. -/
theorem known_of_pinAnchors
    (hpattern : pattern.Consistent) (hlive : live.Consistent)
    (h : new? pattern live options = .ok m) (hc : m.Partial c)
    (hpinned : m.pinAnchors c anchors = .ok (some c')) :
    (∀ a ∈ anchors, a.Known pattern) ∧ m.Partial c' := by
  obtain ⟨hm, hp, -, -⟩ := prepared_of_new? hpattern hlive h
  induction anchors generalizing c with
  | nil =>
    cases hpinned
    exact ⟨by simp, hc⟩
  | cons a rest ih =>
    by_cases ha : a.Known pattern
    · obtain ⟨r, hr, hfixes⟩ := pinAnchor_fixes hm hc (hp.symm ▸ ha)
      cases r with
      | none =>
        rw [pinAnchors_cons_of_refused hr] at hpinned
        cases hpinned
      | some c₁ =>
        rw [pinAnchors_cons_of_ok hr] at hpinned
        obtain ⟨hrest, hc'⟩ := ih hfixes.1 hpinned
        exact ⟨List.forall_mem_cons.2 ⟨ha, hrest⟩, hc'⟩
    · rw [pinAnchors_cons_of_error (pinAnchor_unknown hpattern h ha c)] at hpinned
      cases hpinned

/-! ## Following a plan -/

/-- A computation succeeds, or it ends for its budget. -/
def SucceedsWithin {α : Type} (m : Matcher) (x : Except GraphError α) : Prop :=
  (∃ r, x = .ok r) ∨ ∃ b, m.options.maxSteps = some b ∧ x = .error (.stepBudgetExceeded b)

theorem spend_succeedsWithin (m : Matcher) (spent looked : Nat) :
    m.SucceedsWithin (m.spend spent looked) := by
  rw [spend]
  cases hsteps : m.options.maxSteps with
  | none => exact .inl ⟨_, rfl⟩
  | some b =>
    dsimp only
    split
    · exact .inl ⟨_, rfl⟩
    · exact .inr ⟨b, hsteps, rfl⟩

theorem SucceedsWithin.bind {α β : Type} {x : Except GraphError α} {f : α → Except GraphError β}
    (hx : m.SucceedsWithin x) (hf : ∀ r, m.SucceedsWithin (f r)) :
    m.SucceedsWithin (x >>= f) := by
  rcases hx with ⟨r, rfl⟩ | ⟨b, hsteps, rfl⟩
  · exact hf r
  · exact .inr ⟨b, hsteps, rfl⟩

/-- **Nothing but the budget** ends the following of a plan. -/
theorem run_succeedsWithin (hm : m.Prepared) {plan : MatchPlan} {unpinned : List String}
    {generation : List Mapping}
    (hcovers : plan.Covers m.pattern m.options.seedUnanchored unpinned)
    (h : m.Generation unpinned generation) (spent : Nat) :
    m.SucceedsWithin (m.run plan spent generation) := by
  -- along the plan: each step that is paid for hands on a generation
  induction hcovers generalizing generation spent with
  | done => exact (spend_succeedsWithin m _ _).bind fun _ => .inl ⟨_, rfl⟩
  | stuck => exact (spend_succeedsWithin m _ _).bind fun _ => .inl ⟨_, rfl⟩
  | close _ ih => exact (spend_succeedsWithin m _ _).bind fun spent => ih h spent
  | extend halong hnext hadjacent _ ih =>
    refine (spend_succeedsWithin m _ _).bind fun spent => ?_
    obtain ⟨following, hok, hfollowing⟩ := exists_map_of_mapM
      fun c hc => extensions_eq_ok hm h hc halong hnext hadjacent
    rw [hok]
    exact ih (h.flatMap hnext hfollowing) spent
  | seed _ hnext _ ih =>
    refine (spend_succeedsWithin m _ _).bind fun spent => ?_
    exact ih (h.flatMap hnext fun c hc => seeds_extendsTo hm h hc hnext) spent

/-- **The search from pinned anchors** succeeds, or ends for its budget. -/
theorem search_succeedsWithin (hm : m.Prepared) (hc : m.Partial c) :
    m.SucceedsWithin (m.plan c >>= fun plan => m.run plan 0 [c]) := by
  obtain ⟨plan, hplan, hcovers⟩ := MatchPlan.make_covers hm.pattern m.options.seedUnanchored
    (MatchPlan.frontier_vertexIds hm.pattern _)
  have hrun := run_succeedsWithin hm hcovers (generation_singleton hc) 0
  rw [show m.plan c = .ok plan from hplan]
  exact hrun

/-! ## The whole search -/

theorem findAll_of_pinAnchors_error {err : GraphError}
    (h : m.pinAnchors .empty anchors = .error err) : m.findAll anchors = .error err := by
  rw [findAll, h]
  rfl

/-- A search fails while pinning the anchors, or for its budget after that. -/
theorem findAll_error_cases (hpattern : pattern.Consistent) (hlive : live.Consistent)
    (h : new? pattern live options = .ok m) {err : GraphError}
    (herr : m.findAll anchors = .error err) :
    m.pinAnchors .empty anchors = .error err ∨
      ∃ b, options.maxSteps = some b ∧ m.Accepts anchors ∧ err = .stepBudgetExceeded b := by
  obtain ⟨hm, -, -, hoptions⟩ := prepared_of_new? hpattern hlive h
  cases hpinned : m.pinAnchors .empty anchors with
  | error err' =>
    rw [findAll_of_pinAnchors_error hpinned] at herr
    cases herr
    exact .inl rfl
  | ok r =>
    rw [findAll, hpinned] at herr
    cases r with
    | none => cases herr
    | some c =>
      have hc := (known_of_pinAnchors hpattern hlive h (partial_empty m) hpinned).2
      have hsearch : (m.plan c >>= fun plan => m.run plan 0 [c]) = .error err := herr
      rcases search_succeedsWithin hm hc with ⟨found, hfound⟩ | ⟨b, hsteps, hbudget⟩
      · rw [hsearch] at hfound
        cases hfound
      · rw [hsearch] at hbudget
        cases hbudget
        exact .inr ⟨b, hoptions ▸ hsteps, ⟨c, hpinned⟩, rfl⟩

/-- A search fails at an anchor behind others that were pinned. -/
theorem findAll_of_unknown (hpattern : pattern.Consistent) (hlive : live.Consistent)
    (h : new? pattern live options = .ok m) {before after : List Anchor} {a : Anchor}
    (ha : ¬a.Known pattern) (hbefore : m.Accepts before) :
    m.findAll (before ++ a :: after) = .error (.invalidArgument a.unknown) := by
  apply findAll_of_pinAnchors_error
  exact (pinAnchors_eq_error_iff hpattern hlive h (partial_empty m)).2
    ⟨before, a, after, rfl, ha, hbefore, rfl⟩

/-- Whatever a search fails with, it is an anchor that is not known or the budget. -/
theorem findAll_eq_error (hpattern : pattern.Consistent) (hlive : live.Consistent)
    (h : new? pattern live options = .ok m) {err : GraphError}
    (herr : m.findAll anchors = .error err) :
    (∃ before a after, anchors = before ++ a :: after ∧ ¬a.Known pattern ∧ m.Accepts before ∧
      err = .invalidArgument a.unknown) ∨
    ∃ b, options.maxSteps = some b ∧ (∀ a ∈ anchors, a.Known pattern) ∧ m.Accepts anchors ∧
      err = .stepBudgetExceeded b := by
  rcases findAll_error_cases hpattern hlive h herr with hpinning | ⟨b, hsteps, ⟨c, hc⟩, rfl⟩
  · exact .inl ((pinAnchors_eq_error_iff hpattern hlive h (partial_empty m)).1 hpinning)
  · have hknown := (known_of_pinAnchors hpattern hlive h (partial_empty m) hc).1
    exact .inr ⟨b, hsteps, hknown, ⟨c, hc⟩, rfl⟩

end

end Matcher

end PropertyGraph
