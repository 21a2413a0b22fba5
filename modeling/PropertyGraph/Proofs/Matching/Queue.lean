import PropertyGraph.Matching.Queue
import PropertyGraph.Proofs.Matching.Failure

/-!
# The queue and the plan

What the queue of candidates gives is what following a plan gives. At any point the candidates
of one generation pin the same pattern vertices and have the same ones closed, so all of them
are treated alike, and the queue turns one generation into the next one before it looks at that.

## Main definitions

- `Matcher.candidatesOf` — the mappings of a generation as candidates
-/

namespace PropertyGraph

namespace Matcher

section

variable {m : Matcher} {c : Mapping} {candidate : Candidate} {s rest : Exploration}
  {r r' : Except GraphError (List Mapping × Nat)} {spent spent' looked : Nat}
  {err : GraphError} {closed : SortedSet String} {generation : List Mapping}
  {unpinned opened : List String} {along next : String} {anchors : List Anchor}

/-! ## The budget -/

theorem spend_eq_ok_iff :
    m.spend spent looked = .ok spent' ↔
      spent' = spent + looked ∧ ∀ b, m.options.maxSteps = some b → spent + looked ≤ b.toNat := by
  rw [spend]
  cases m.options.maxSteps with
  | none => simp [eq_comm]
  | some b =>
    dsimp only
    split
    · simp [*, eq_comm]
    · simp [*]

theorem spend_eq_error_iff :
    m.spend spent looked = .error err ↔
      ∃ b, m.options.maxSteps = some b ∧ b.toNat < spent + looked ∧
        err = .stepBudgetExceeded b := by
  rw [spend]
  cases m.options.maxSteps with
  | none => simp
  | some b =>
    dsimp only
    split
    · simp
      omega
    · simp only [Except.error.injEq, Option.some.injEq, exists_eq_left']
      constructor
      · rintro rfl
        exact ⟨by omega, rfl⟩
      · exact fun h => h.2.symm

/-- Spending at once or one after the other is the same. -/
theorem spend_add (spent looked looked' : Nat) :
    m.spend spent (looked + looked') = m.spend spent looked >>= (m.spend · looked') := by
  cases hfirst : m.spend spent looked with
  | error err =>
    obtain ⟨b, hsteps, hlt, rfl⟩ := spend_eq_error_iff.1 hfirst
    exact spend_eq_error_iff.2 ⟨b, hsteps, by omega, rfl⟩
  | ok spent' =>
    obtain ⟨rfl, -⟩ := spend_eq_ok_iff.1 hfirst
    change _ = m.spend (spent + looked) looked'
    rw [spend, spend, Nat.add_assoc]

/-! ## Rounds -/

theorem pop_eq_ok_iff :
    m.pop candidate rest = .ok s ↔
      ∃ steps v, m.spend rest.steps 1 = .ok steps ∧ m.visit candidate = .ok v ∧
        s = rest.take steps v := by
  simp only [pop, bind_eq_ok_iff]
  constructor
  · rintro ⟨steps, hsteps, v, hv, h⟩
    cases h
    exact ⟨steps, v, hsteps, hv, rfl⟩
  · rintro ⟨steps, v, hsteps, hv, rfl⟩
    exact ⟨steps, hsteps, v, hv, rfl⟩

theorem pop_of_spend_error (h : m.spend rest.steps 1 = .error err) :
    m.pop candidate rest = .error err := by
  rw [pop, h]
  rfl

/-- The loop has one result. -/
theorem Explores.unique (h : m.Explores s r) (h' : m.Explores s r') : r = r' := by
  induction h with
  | done =>
    cases h'
    rfl
  | round hpop _ ih =>
    cases h' with
    | round hpop' hrest =>
      rw [hpop] at hpop'
      cases hpop'
      exact ih hrest
    | failed hpop' =>
      rw [hpop] at hpop'
      cases hpop'
  | failed hpop =>
    cases h' with
    | round hpop' =>
      rw [hpop] at hpop'
      cases hpop'
    | failed hpop' =>
      rw [hpop] at hpop'
      cases hpop'
      rfl

theorem finds_of_pinned (h : m.pinAnchors .empty anchors = .ok (some c)) :
    m.Finds anchors r ↔ m.Explores (.start c) r := by
  rw [Finds, h]

theorem finds_of_rejected (h : m.pinAnchors .empty anchors = .ok none) :
    m.Finds anchors r ↔ r = .ok ([], 0) := by
  rw [Finds, h]

theorem finds_of_failed (h : m.pinAnchors .empty anchors = .error err) :
    m.Finds anchors r ↔ r = .error err := by
  rw [Finds, h]

theorem Finds.unique (h : m.Finds anchors r) (h' : m.Finds anchors r') : r = r' := by
  rcases hpinned : m.pinAnchors .empty anchors with err | ⟨_ | c⟩
  · rw [finds_of_failed hpinned] at h h'
    exact h.trans h'.symm
  · rw [finds_of_rejected hpinned] at h h'
    exact h.trans h'.symm
  · rw [finds_of_pinned hpinned] at h h'
    exact h.unique h'

theorem Finds.iff (h : m.Finds anchors r) : m.Finds anchors r' ↔ r' = r :=
  ⟨fun h' => h'.unique h, fun heq => heq ▸ h⟩

/-- Rounds for candidates that are complete. -/
theorem explores_found {candidates : List Candidate} {found : List Mapping}
    (hvisit : ∀ c ∈ candidates, m.visit c = .ok (.found c.mapping))
    (hspend : m.spend spent candidates.length = .ok spent') :
    m.Explores ⟨candidates, found, spent⟩
      (.ok (found ++ candidates.map (·.mapping), spent')) := by
  induction candidates generalizing found spent with
  | nil =>
    obtain ⟨rfl, -⟩ := spend_eq_ok_iff.1 hspend
    simpa using Explores.done
  | cons c candidates ih =>
    rw [List.length_cons, Nat.add_comm, spend_add, bind_eq_ok_iff] at hspend
    obtain ⟨steps, hsteps, hspend⟩ := hspend
    refine .round (pop_eq_ok_iff.2 ⟨steps, _, hsteps, hvisit c List.mem_cons_self, rfl⟩) ?_
    rw [List.map_cons, List.append_cons]
    exact ih (fun d hd => hvisit d (List.mem_cons_of_mem _ hd)) hspend

/-- Rounds for candidates that are replaced by others: these wait for their turn behind all that
wait already. -/
theorem Explores.queued {candidates queue : List Candidate} {found : List Mapping}
    {following : Candidate → List Candidate}
    (hvisit : ∀ c ∈ candidates, m.visit c = .ok (.queued (following c)))
    (hspend : m.spend spent candidates.length = .ok spent')
    (h : m.Explores ⟨queue ++ candidates.flatMap following, found, spent'⟩ r) :
    m.Explores ⟨candidates ++ queue, found, spent⟩ r := by
  induction candidates generalizing queue spent with
  | nil =>
    obtain ⟨rfl, -⟩ := spend_eq_ok_iff.1 hspend
    simpa using h
  | cons c candidates ih =>
    rw [List.length_cons, Nat.add_comm, spend_add, bind_eq_ok_iff] at hspend
    obtain ⟨steps, hsteps, hspend⟩ := hspend
    refine .round (pop_eq_ok_iff.2 ⟨steps, _, hsteps, hvisit c List.mem_cons_self, rfl⟩) ?_
    rw [List.flatMap_cons, ← List.append_assoc] at h
    have hrest := ih (fun d hd => hvisit d (List.mem_cons_of_mem _ hd)) hspend h
    rwa [← List.append_assoc] at hrest

/-- Rounds that the budget does not last for. -/
theorem explores_overrun {candidates queue : List Candidate} {found : List Mapping}
    (hvisit : ∀ c ∈ candidates, ∃ v, m.visit c = .ok v)
    (hspent : m.spend spent 0 = .ok spent)
    (hspend : m.spend spent candidates.length = .error err) :
    m.Explores ⟨candidates ++ queue, found, spent⟩ (.error err) := by
  induction candidates generalizing queue found spent with
  | nil =>
    rw [List.length_nil, hspent] at hspend
    cases hspend
  | cons c candidates ih =>
    rw [List.length_cons, Nat.add_comm, spend_add] at hspend
    cases hone : m.spend spent 1 with
    | error err' =>
      rw [hone] at hspend
      cases hspend
      exact .failed (pop_of_spend_error hone)
    | ok steps =>
      rw [hone] at hspend
      obtain ⟨v, hv⟩ := hvisit c List.mem_cons_self
      have hsteps : m.spend steps 0 = .ok steps := by
        obtain ⟨rfl, hwithin⟩ := spend_eq_ok_iff.1 hone
        exact spend_eq_ok_iff.2 ⟨rfl, hwithin⟩
      have hrest : ∀ {queue : List Candidate} {found : List Mapping},
          m.Explores ⟨candidates ++ queue, found, steps⟩ (.error err) :=
        ih (fun d hd => hvisit d (List.mem_cons_of_mem _ hd)) hsteps hspend
      refine .round (pop_eq_ok_iff.2 ⟨steps, v, hone, hv, rfl⟩) ?_
      cases v with
      | found f => exact hrest
      | queued cs =>
        change m.Explores ⟨candidates ++ queue ++ cs, found, steps⟩ _
        rw [List.append_assoc]
        exact hrest

/-! ## Generations of candidates -/

/-- The unpinned vertices of any mapping of a generation, in order. -/
theorem Generation.filter_unpinned (h : m.Generation unpinned generation)
    (hsorted : unpinned.Pairwise fun p q => compare p q = .lt) (hc : c ∈ generation) :
    m.pattern.vertexIds.filter (!c.contains ·) = unpinned := by
  refine SortedMap.keys_ext ((SortedMap.keys_increasing _).filter _) hsorted fun p => ?_
  rw [List.mem_filter, Store.mem_vertexIds, Bool.not_eq_true', ← Bool.not_eq_true, h.domain c hc]
  constructor
  · rintro ⟨hp, hnot⟩
    exact Classical.not_not.1 fun hmem => hnot ⟨hp, hmem⟩
  · exact fun hmem => ⟨h.unpinned_stored p hmem, fun hpinned => hpinned.2 hmem⟩

theorem isComplete_iff : m.isComplete candidate = true ↔
    m.pattern.vertexIds.filter (!candidate.mapping.contains ·) = [] := by
  rw [isComplete, List.all_eq_true, List.filter_eq_nil_iff]
  simp

theorem firstUnpinned?_eq : m.firstUnpinned? candidate =
    (m.pattern.vertexIds.filter (!candidate.mapping.contains ·)).head? := by
  rw [firstUnpinned?, List.head?_filter]

/-- The frontier of a candidate is the first open vertex that is not to be pinned. -/
theorem frontier?_eq
    (hunpinned : m.pattern.vertexIds.filter (!candidate.mapping.contains ·) = unpinned)
    (hopened : m.pattern.vertexIds.filter (!candidate.closed.contains ·) = opened) :
    m.frontier? candidate = opened.find? (!unpinned.contains ·) := by
  rw [frontier?, ← hopened, List.find?_filter, ← List.head?_filter, ← List.head?_filter]
  refine congrArg List.head? (List.filter_congr fun p hp => ?_)
  rw [Bool.eq_iff_iff]
  simp [← hunpinned, hp, and_comm]

/-- The neighbours of a vertex that a candidate has not pinned. -/
theorem exists_unpinnedNeighbors (hm : m.pattern.Consistent) (candidate : Candidate)
    (along : String) :
    ∃ ids, m.unpinnedNeighbors candidate along = .ok ids ∧
      (ids.Pairwise fun p q => compare p q = .lt) ∧
      ∀ p, p ∈ ids ↔ m.pattern.Adjacent along p ∧ candidate.mapping.contains p = false := by
  obtain ⟨around, haround, -⟩ := hm.checkedNeighbors_both along
  refine ⟨_, by rw [unpinnedNeighbors, haround]; rfl, SortedMap.keys_increasing _, fun p => ?_⟩
  rw [SortedSet.mem_keys_ofList, List.mem_filter, ← MatchPlan.any_around_iff hm haround]
  simp

/-- The first of them is the one that the plan goes on with. -/
theorem head?_unpinnedNeighbors (hm : m.pattern.Consistent)
    (hunpinned : m.pattern.vertexIds.filter (!candidate.mapping.contains ·) = unpinned)
    {next : Option { next : String // next ∈ unpinned }}
    (hnext : MatchPlan.neighborAmong m.pattern unpinned along = .ok next) :
    ∃ ids, m.unpinnedNeighbors candidate along = .ok ids ∧ ids.head? = next.map (·.val) := by
  obtain ⟨ids, hids, hsorted, hmem⟩ := exists_unpinnedNeighbors hm candidate along
  obtain ⟨around, haround, -⟩ := hm.checkedNeighbors_both along
  rw [MatchPlan.neighborAmong, haround] at hnext
  cases hnext
  -- the neighbours that are left are the unpinned vertices that are found around
  have hfilter : ids = unpinned.filter fun p => around.any (·.2.id == p) := by
    subst hunpinned
    refine SortedMap.keys_ext hsorted (((SortedMap.keys_increasing _).filter _).filter _)
      fun p => ?_
    rw [hmem, List.mem_filter, List.mem_filter, Store.mem_vertexIds,
      MatchPlan.any_around_iff hm haround, Bool.not_eq_true']
    constructor
    · exact fun h => ⟨⟨(hm.adjacent_stored h.1).2, h.2⟩, h.1⟩
    · exact fun h => ⟨h.2, h.1.2⟩
  refine ⟨ids, hids, ?_⟩
  rw [hfilter, List.head?_filter]
  conv => lhs; rw [← List.attach_map_subtype_val unpinned, List.find?_map]
  rfl

/-! ## What becomes of a candidate -/

theorem visit_done
    (hunpinned : m.pattern.vertexIds.filter (!candidate.mapping.contains ·) = []) :
    m.visit candidate = .ok (.found candidate.mapping) := by
  rw [visit, if_pos (isComplete_iff.2 hunpinned)]

section

variable {first : String} {others : List String}
  (hunpinned : m.pattern.vertexIds.filter (!candidate.mapping.contains ·) = first :: others)
  (hopened : m.pattern.vertexIds.filter (!candidate.closed.contains ·) = opened)

include hunpinned hopened

/-- A candidate without a frontier is dropped, if it may not seed. -/
theorem visit_of_frontier?_eq_none (hfind : opened.find? (!(first :: others).contains ·) = none) :
    m.visit candidate = .ok (.queued (if m.options.seedUnanchored then
      (m.seeds first candidate.mapping).map candidate.branch else [])) := by
  have hincomplete : ¬m.isComplete candidate = true := by
    rw [isComplete_iff, hunpinned]
    exact List.cons_ne_nil _ _
  have hfirst : m.firstUnpinned? candidate = some first := by
    rw [firstUnpinned?_eq, hunpinned, List.head?_cons]
  rw [visit, if_neg hincomplete, (frontier?_eq hunpinned hopened).trans hfind, seedBranches, hfirst]

theorem visit_of_frontier?_eq_some
    (hfind : opened.find? (!(first :: others).contains ·) = some along) :
    m.visit candidate = (m.advance candidate along).map .queued := by
  have hincomplete : ¬m.isComplete candidate = true := by
    rw [isComplete_iff, hunpinned]
    exact List.cons_ne_nil _ _
  rw [visit, if_neg hincomplete, (frontier?_eq hunpinned hopened).trans hfind]

theorem visit_close (hm : m.pattern.Consistent)
    (hfind : opened.find? (!(first :: others).contains ·) = some along)
    (hnone : MatchPlan.neighborAmong m.pattern (first :: others) along = .ok none) :
    m.visit candidate = .ok (.queued [candidate.close along]) := by
  obtain ⟨ids, hids, hhead⟩ := head?_unpinnedNeighbors hm hunpinned hnone
  have hadvance : m.advance candidate along = .ok [candidate.close along] := by
    rw [advance, hids, bind_ok, hhead]
    rfl
  rw [visit_of_frontier?_eq_some hunpinned hopened hfind, hadvance]
  rfl

theorem visit_extend (hm : m.pattern.Consistent)
    (hfind : opened.find? (!(first :: others).contains ·) = some along)
    {next : { next : String // next ∈ first :: others }}
    (hsome : MatchPlan.neighborAmong m.pattern (first :: others) along = .ok (some next))
    {cs : List Mapping} (hcs : m.extensions along next.val candidate.mapping = .ok cs) :
    m.visit candidate = .ok (.queued (cs.map candidate.branch)) := by
  obtain ⟨ids, hids, hhead⟩ := head?_unpinnedNeighbors hm hunpinned hsome
  have hadvance : m.advance candidate along = .ok (cs.map candidate.branch) := by
    rw [advance, hids, bind_ok, hhead]
    exact bind_eq_ok_iff.2 ⟨cs, hcs, rfl⟩
  rw [visit_of_frontier?_eq_some hunpinned hopened hfind, hadvance]
  rfl

end

/-! ## The rounds of a plan -/

/-- The mappings of a generation as candidates, with the same vertices closed. -/
def candidatesOf (closed : SortedSet String) (generation : List Mapping) : List Candidate :=
  generation.map fun c => ⟨c, closed⟩

theorem candidatesOf_flatMap (closed : SortedSet String) (generation : List Mapping)
    (following : Mapping → List Mapping) :
    (candidatesOf closed generation).flatMap (fun c => (following c.mapping).map c.branch) =
      candidatesOf closed (generation.flatMap following) := by
  rw [candidatesOf, candidatesOf, List.flatMap_map, List.map_flatMap]
  rfl

theorem candidatesOf_close (closed : SortedSet String) (generation : List Mapping) (p : String) :
    (candidatesOf closed generation).flatMap (fun c => [c.close p]) =
      candidatesOf (closed.insert p ()) generation := by
  rw [candidatesOf, candidatesOf, List.flatMap_map]
  exact List.map_eq_flatMap.symm

theorem length_candidatesOf (closed : SortedSet String) (generation : List Mapping) :
    (candidatesOf closed generation).length = generation.length :=
  List.length_map _

theorem mapping_candidatesOf (closed : SortedSet String) (generation : List Mapping) :
    (candidatesOf closed generation).map (·.mapping) = generation := by
  rw [candidatesOf, List.map_map]
  exact List.map_id _

theorem forall_mem_candidatesOf {P : Candidate → Prop} :
    (∀ c ∈ candidatesOf closed generation, P c) ↔ ∀ c ∈ generation, P ⟨c, closed⟩ :=
  List.forall_mem_map

/-- The rounds for a generation, if what comes after them is right when the budget lasts for
them. -/
theorem exists_explores {result : Nat → Except GraphError (List Mapping)}
    (hvisit : ∀ c ∈ generation, ∃ v, m.visit ⟨c, closed⟩ = .ok v)
    (hspent : m.spend spent 0 = .ok spent)
    (h : ∀ spent', m.spend spent generation.length = .ok spent' →
      ∃ r, m.Explores ⟨candidatesOf closed generation, [], spent⟩ r ∧
        result spent' = r.map (·.1)) :
    ∃ r, m.Explores ⟨candidatesOf closed generation, [], spent⟩ r ∧
      (m.spend spent generation.length >>= result) = r.map (·.1) := by
  cases hspend : m.spend spent generation.length with
  | error err =>
    rw [← length_candidatesOf closed] at hspend
    have hoverrun : m.Explores ⟨candidatesOf closed generation ++ [], [], spent⟩ (.error err) :=
      explores_overrun (forall_mem_candidatesOf.2 hvisit) hspent hspend
    rw [List.append_nil] at hoverrun
    exact ⟨_, hoverrun, rfl⟩
  | ok spent' => exact h spent' hspend

/-- The rounds for a generation whose candidates are replaced by others. -/
theorem exists_explores_queued {result : Nat → Except GraphError (List Mapping)}
    {following : Candidate → List Candidate} {generation' : List Mapping}
    {closed' : SortedSet String}
    (hvisit : ∀ c ∈ generation, m.visit ⟨c, closed⟩ = .ok (.queued (following ⟨c, closed⟩)))
    (hfollowing : (candidatesOf closed generation).flatMap following =
      candidatesOf closed' generation')
    (hspent : m.spend spent 0 = .ok spent)
    (h : ∀ spent', m.spend spent' 0 = .ok spent' →
      ∃ r, m.Explores ⟨candidatesOf closed' generation', [], spent'⟩ r ∧
        result spent' = r.map (·.1)) :
    ∃ r, m.Explores ⟨candidatesOf closed generation, [], spent⟩ r ∧
      (m.spend spent generation.length >>= result) = r.map (·.1) := by
  refine exists_explores (fun c hc => ⟨_, hvisit c hc⟩) hspent fun spent' hspend => ?_
  have hspent' : m.spend spent' 0 = .ok spent' := by
    obtain ⟨rfl, hwithin⟩ := spend_eq_ok_iff.1 hspend
    exact spend_eq_ok_iff.2 ⟨rfl, hwithin⟩
  obtain ⟨r, hr, hresult⟩ := h spent' hspent'
  refine ⟨r, ?_, hresult⟩
  rw [← length_candidatesOf closed] at hspend
  have hqueued : m.Explores ⟨candidatesOf closed generation ++ [], [], spent⟩ r :=
    .queued (forall_mem_candidatesOf.2 hvisit) hspend (by rwa [hfollowing])
  rwa [List.append_nil] at hqueued

/-- **The queue while a plan is followed.** It has the candidates of a generation, and each round
takes, for its candidate, the step of the plan that comes next. -/
theorem explores_run (hm : m.Prepared) {plan : MatchPlan}
    (hplan : MatchPlan.make m.pattern m.options.seedUnanchored unpinned opened = .ok plan)
    (h : m.Generation unpinned generation)
    (hsorted : unpinned.Pairwise fun p q => compare p q = .lt)
    (hopened : m.pattern.vertexIds.filter (!closed.contains ·) = opened)
    (hspent : m.spend spent 0 = .ok spent) :
    ∃ r, m.Explores ⟨candidatesOf closed generation, [], spent⟩ r ∧
      m.run plan spent generation = r.map (·.1) := by
  induction unpinned, opened using MatchPlan.make.induct m.options.seedUnanchored
    generalizing plan generation closed spent with
  | case1 opened =>
    rw [MatchPlan.make] at hplan
    cases hplan
    have hvisit : ∀ c ∈ generation, m.visit ⟨c, closed⟩ = .ok (.found c) :=
      fun c hc => visit_done (h.filter_unpinned hsorted hc)
    rw [run]
    refine exists_explores (fun c hc => ⟨_, hvisit c hc⟩) hspent fun spent' hspend => ?_
    rw [← length_candidatesOf closed] at hspend
    refine ⟨_, explores_found (forall_mem_candidatesOf.2 hvisit) hspend, ?_⟩
    rw [mapping_candidatesOf]
    rfl
  | case2 opened first others hfind hseeding ih =>
    rw [MatchPlan.make_of_find?_eq_none hfind, if_pos hseeding, bind_eq_ok_iff] at hplan
    obtain ⟨rest, hrest, hplan⟩ := hplan
    cases hplan
    have hnext := h.flatMap (List.mem_cons_self (a := first))
      fun c hc => seeds_extendsTo hm h hc List.mem_cons_self
    rw [List.erase_cons_head] at hnext
    rw [run]
    refine exists_explores_queued (fun c hc => ?_) (candidatesOf_flatMap closed generation _)
      hspent fun spent' => ih hrest hnext hsorted.of_cons hopened
    rw [visit_of_frontier?_eq_none (h.filter_unpinned hsorted hc) hopened hfind, if_pos hseeding]
  | case3 opened first others hfind hseeding =>
    rw [MatchPlan.make_of_find?_eq_none hfind, if_neg hseeding] at hplan
    cases hplan
    rw [run]
    have hdropped : (candidatesOf closed generation).flatMap (fun _ => []) =
        candidatesOf closed [] := by
      simp [candidatesOf]
    refine exists_explores_queued (fun c hc => ?_) hdropped hspent
      fun spent' _ => ⟨_, .done, rfl⟩
    rw [visit_of_frontier?_eq_none (h.filter_unpinned hsorted hc) hopened hfind, if_neg hseeding]
  | case4 opened first others along hfind ihpin ihclose =>
    have halong : along ∉ first :: others := by
      simpa using List.find?_some hfind
    obtain ⟨r, hr, hadjacent, -⟩ :=
      MatchPlan.neighborAmong_eq_ok hm.pattern (first :: others) along
    rw [MatchPlan.make_of_find?_eq_some hfind, hr, bind_ok] at hplan
    cases r with
    | none =>
      obtain ⟨rest, hrest, hplan⟩ := bind_eq_ok_iff.1 hplan
      cases hplan
      have hclosed : m.pattern.vertexIds.filter (!(closed.insert along ()).contains ·) =
          opened.erase along := by
        rw [← hopened]
        exact SortedMap.filter_not_contains_insert (SortedMap.nodup_keys _) closed along ()
      rw [run]
      refine exists_explores_queued (fun c hc => ?_) (candidatesOf_close closed generation along)
        hspent fun spent' => ihclose hrest h hsorted hclosed
      exact visit_close (h.filter_unpinned hsorted hc) hopened hm.pattern hfind hr
    | some next =>
      obtain ⟨rest, hrest, hplan⟩ := bind_eq_ok_iff.1 hplan
      cases hplan
      obtain ⟨following, hok, hfollowing⟩ := exists_map_of_mapM
        (P := fun c cs => m.extensions along next.val c = .ok cs ∧ m.ExtendsTo next.val c cs)
        fun c hc => by
          obtain ⟨cs, hcs, hextends⟩ :=
            extensions_eq_ok hm h hc halong next.property (hadjacent next rfl)
          exact ⟨cs, hcs, hcs, hextends⟩
      rw [run]
      refine exists_explores_queued (fun c hc => ?_)
        (candidatesOf_flatMap closed generation following) hspent fun spent' hspent' => ?_
      · exact visit_extend (h.filter_unpinned hsorted hc) hopened hm.pattern hfind hr
          (hfollowing c hc).1
      · rw [hok, bind_ok]
        exact ihpin next.val next.property hrest
          (h.flatMap next.property fun c hc => (hfollowing c hc).2)
          (hsorted.sublist List.erase_sublist) hopened hspent'

/-! ## The whole search -/

section

variable {pattern live : Store} {options : MatchOptions} (hpattern : pattern.Consistent)
  (hlive : live.Consistent) (hm : new? pattern live options = .ok m)

include hpattern hlive hm

/-- **The queue ends, with the result of the search.** -/
theorem exists_finds (anchors : List Anchor) :
    ∃ r, m.Finds anchors r ∧ m.findAll anchors = r.map (·.1) := by
  obtain ⟨hprepared, -, -, -⟩ := prepared_of_new? hpattern hlive hm
  rcases hpinned : m.pinAnchors .empty anchors with err | ⟨_ | c⟩
  · exact ⟨_, (finds_of_failed hpinned).2 rfl, findAll_of_pinAnchors_error hpinned⟩
  · exact ⟨_, (finds_of_rejected hpinned).2 rfl, by rw [findAll, hpinned]; rfl⟩
  · obtain ⟨-, hc⟩ := known_of_pinAnchors hpattern hlive hm (partial_empty m) hpinned
    obtain ⟨plan, hplan, -⟩ := MatchPlan.make_covers hprepared.pattern m.options.seedUnanchored
      (MatchPlan.frontier_vertexIds hprepared.pattern _)
    have hsorted : (m.pattern.vertexIds.filter (!c.contains ·)).Pairwise
        fun p q => compare p q = .lt :=
      (SortedMap.keys_increasing _).filter _
    have hopened : m.pattern.vertexIds.filter (!(SortedMap.empty : SortedSet String).contains ·) =
        m.pattern.vertexIds :=
      List.filter_eq_self.2 fun _ _ => rfl
    obtain ⟨r, hr, hrun⟩ := explores_run hprepared hplan (generation_singleton hc) hsorted hopened
      (spend_eq_ok_iff.2 ⟨rfl, fun _ _ => Nat.zero_le _⟩)
    refine ⟨r, (finds_of_pinned hpinned).2 hr, ?_⟩
    rw [findAll, hpinned, bind_ok, ← hrun]
    exact congrArg (· >>= fun plan => m.run plan 0 [c]) hplan

theorem Finds.findAll_eq (h : m.Finds anchors r) : m.findAll anchors = r.map (·.1) := by
  obtain ⟨r', hr', hfound⟩ := exists_finds hpattern hlive hm anchors
  rw [hfound, h.unique hr']

theorem exists_finds_of_findAll {found : List Mapping} (h : m.findAll anchors = .ok found) :
    ∃ n, m.Finds anchors (.ok (found, n)) := by
  obtain ⟨r, hr, hfound⟩ := exists_finds hpattern hlive hm anchors
  rw [h] at hfound
  obtain ⟨⟨_, n⟩, rfl, rfl⟩ := map_eq_ok_iff.1 hfound.symm
  exact ⟨n, hr⟩

end

end

end Matcher

end PropertyGraph
