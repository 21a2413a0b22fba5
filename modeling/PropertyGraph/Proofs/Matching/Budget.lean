import PropertyGraph.Proofs.Built
import PropertyGraph.Proofs.Matching.Queue

/-!
# Searches with a budget

A budget changes nothing in a round but whether it may take place. So a search with a budget goes
the way of the search without one, up to the first candidate that the budget does not last for:
it gives all of its result, or none of it.

## Main definitions

- `Matcher.withBudget` — the same search, with a bound on the steps
-/

namespace PropertyGraph

namespace Matcher

/-- The same search, with a bound on the steps. -/
def withBudget (m : Matcher) (b : UInt64) : Matcher :=
  { m with options := { m.options with maxSteps := some b } }

section

variable {m : Matcher} {s : Exploration} {found : List Mapping} {n : Nat} {b : UInt64}
  {anchors : List Anchor}

theorem steps_take (rest : Exploration) (steps : Nat) (v : Visit) :
    (rest.take steps v).steps = steps := by
  cases v <;> rfl

theorem pinAnchors_withBudget (c : Mapping) :
    (m.withBudget b).pinAnchors c anchors = m.pinAnchors c anchors := by
  induction anchors generalizing c with
  | nil => rfl
  | cons a rest ih =>
    rw [pinAnchors, pinAnchors]
    have hpin : (m.withBudget b).pinAnchor c a = m.pinAnchor c a := rfl
    rw [hpin]
    simp only [ih]

theorem new?_withBudget {pattern live : Store} {options : MatchOptions}
    (h : new? pattern live options = .ok m) :
    new? pattern live { options with maxSteps := some b } = .ok (m.withBudget b) := by
  simp only [new?, bind_eq_ok_iff] at h ⊢
  obtain ⟨vertexFilters, hvertices, edgeFilters, hedges, h⟩ := h
  cases h
  exact ⟨vertexFilters, hvertices, edgeFilters, hedges, rfl⟩

/-! ## The loop -/

/-- The loop only adds to the steps, at least one for each candidate that waits. -/
theorem Explores.steps_le (h : m.Explores s (.ok (found, n))) :
    s.steps + s.queue.length ≤ n := by
  generalize hr : Except.ok (found, n) = r at h
  induction h with
  | done =>
    cases hr
    exact Nat.le_refl _
  | @round c queue found steps s r hpop _ ih =>
    obtain ⟨t, v, ht, -, rfl⟩ := pop_eq_ok_iff.1 hpop
    obtain ⟨rfl, -⟩ := spend_eq_ok_iff.1 ht
    have hrest := ih hr
    rw [steps_take] at hrest
    cases v with
    | found f =>
      simp only [Exploration.take, List.length_cons] at hrest ⊢
      omega
    | queued cs =>
      simp only [Exploration.take, List.length_cons, List.length_append] at hrest ⊢
      omega
  | failed => cases hr

/-- With a budget that lasts, every round takes place. -/
theorem Explores.withBudget (h : m.Explores s (.ok (found, n))) (hn : n ≤ b.toNat) :
    (m.withBudget b).Explores s (.ok (found, n)) := by
  generalize hr : Except.ok (found, n) = r at h ⊢
  induction h with
  | done => exact .done
  | @round c queue found steps s r hpop hrest ih =>
    subst hr
    obtain ⟨t, v, ht, hv, rfl⟩ := pop_eq_ok_iff.1 hpop
    obtain ⟨rfl, -⟩ := spend_eq_ok_iff.1 ht
    have hsteps : steps + 1 ≤ n := by
      have hle := hrest.steps_le
      rw [steps_take] at hle
      exact Nat.le_of_add_right_le hle
    refine .round (pop_eq_ok_iff.2 ⟨steps + 1, v, spend_eq_ok_iff.2 ⟨rfl, ?_⟩, hv, rfl⟩) (ih rfl)
    rintro _ ⟨⟩
    exact Nat.le_trans hsteps hn
  | failed => cases hr

/-- With a budget that does not last, the loop ends at the candidate that it does not last for. -/
theorem Explores.exceeds (h : m.Explores s (.ok (found, n))) (hs : s.steps ≤ b.toNat)
    (hn : b.toNat < n) : (m.withBudget b).Explores s (.error (.stepBudgetExceeded b)) := by
  generalize hr : Except.ok (found, n) = r at h
  induction h with
  | done =>
    cases hr
    exact absurd hs (Nat.not_le.2 hn)
  | @round c queue found steps s r hpop _ ih =>
    obtain ⟨t, v, ht, hv, rfl⟩ := pop_eq_ok_iff.1 hpop
    obtain ⟨rfl, -⟩ := spend_eq_ok_iff.1 ht
    by_cases hlast : steps + 1 ≤ b.toNat
    · refine .round (pop_eq_ok_iff.2 ⟨steps + 1, v, spend_eq_ok_iff.2 ⟨rfl, ?_⟩, hv, rfl⟩)
        (ih (by rwa [steps_take]) hr)
      rintro _ ⟨⟩
      exact hlast
    · exact .failed (pop_of_spend_error
        (spend_eq_error_iff.2 ⟨b, rfl, Nat.not_le.1 hlast, rfl⟩))
  | failed => cases hr

/-! ## The whole search -/

theorem Finds.withBudget (h : m.Finds anchors (.ok (found, n))) (hn : n ≤ b.toNat) :
    (m.withBudget b).Finds anchors (.ok (found, n)) := by
  rcases hpinned : m.pinAnchors .empty anchors with err | ⟨_ | c⟩
  · rw [finds_of_failed hpinned] at h
    cases h
  · rw [finds_of_rejected hpinned] at h
    rwa [finds_of_rejected ((pinAnchors_withBudget _).trans hpinned)]
  · rw [finds_of_pinned hpinned] at h
    rw [finds_of_pinned ((pinAnchors_withBudget _).trans hpinned)]
    exact h.withBudget hn

theorem Finds.exceeds (h : m.Finds anchors (.ok (found, n))) (hn : b.toNat < n) :
    (m.withBudget b).Finds anchors (.error (.stepBudgetExceeded b)) := by
  rcases hpinned : m.pinAnchors .empty anchors with err | ⟨_ | c⟩
  · rw [finds_of_failed hpinned] at h
    cases h
  · rw [finds_of_rejected hpinned] at h
    cases h
    exact absurd hn (Nat.not_lt_zero _)
  · rw [finds_of_pinned hpinned] at h
    rw [finds_of_pinned ((pinAnchors_withBudget _).trans hpinned)]
    exact h.exceeds (Nat.zero_le _) hn

end

end Matcher

namespace Graph

/-- **A budget is all or nothing.** A search that succeeds looks at a number of candidates: none
if an anchor is rejected, and otherwise at least one. With a budget that is no less, it gives the
same list; with any other budget it fails, and gives nothing of the list. -/
theorem Built.findAll_withBudget {g pattern : Graph} (hg : g.Built) (hpattern : pattern.Built)
    {options : MatchOptions} {m : Matcher}
    (hm : Matcher.new? pattern.store g.store options = .ok m) {anchors : List Anchor}
    {found : List Mapping} (h : m.findAll anchors = .ok found) :
    ∃ n, m.Finds anchors (.ok (found, n)) ∧
      (m.pinAnchors .empty anchors = .ok none → n = 0) ∧
      (m.Accepts anchors → 1 ≤ n) ∧
      ∀ b, ∃ limited,
        Matcher.new? pattern.store g.store { options with maxSteps := some b } = .ok limited ∧
        (n ≤ b.toNat → limited.Finds anchors (.ok (found, n)) ∧
          limited.findAll anchors = .ok found) ∧
        (b.toNat < n → limited.Finds anchors (.error (.stepBudgetExceeded b)) ∧
          limited.findAll anchors = .error (.stepBudgetExceeded b)) := by
  obtain ⟨n, hn⟩ := Matcher.exists_finds_of_findAll hpattern.consistent hg.consistent hm h
  refine ⟨n, hn, fun hrejected => ?_, ?_, fun b => ?_⟩
  · rw [Matcher.finds_of_rejected hrejected] at hn
    cases hn
    rfl
  · rintro ⟨c, hc⟩
    rw [Matcher.finds_of_pinned hc] at hn
    exact hn.steps_le
  · have hlimited := Matcher.new?_withBudget (b := b) hm
    refine ⟨_, hlimited, fun hle => ?_, fun hlt => ?_⟩
    · have hfinds := hn.withBudget hle
      exact ⟨hfinds, hfinds.findAll_eq hpattern.consistent hg.consistent hlimited⟩
    · have hfinds := hn.exceeds hlt
      exact ⟨hfinds, hfinds.findAll_eq hpattern.consistent hg.consistent hlimited⟩

/-- A pattern of one edge, anchored at its source, that is found along two live edges: three
candidates are looked at, and two steps are not enough. -/
theorem Built.findAll_withBudget_edge :
    let pattern := (Graph.new "pattern" none).run
      [.updateEdge ⟨⟨"p", "q", "l"⟩, .empty, by decide⟩ true]
    let live := (Graph.new "live" none).run
      [.updateEdge ⟨⟨"a", "b", "l"⟩, .empty, by decide⟩ true,
        .updateEdge ⟨⟨"a", "c", "l"⟩, .empty, by decide⟩ true]
    let found : List Mapping := [.ofList [("p", "a"), ("q", "b")], .ofList [("p", "a"), ("q", "c")]]
    ∃ m limited, Matcher.new? pattern.store live.store ⟨none, true, false⟩ = .ok m ∧
      m.findAll [.vertex "p" "a"] = .ok found ∧
      Matcher.new? pattern.store live.store ⟨some 2, true, false⟩ = .ok limited ∧
      limited.findAll [.vertex "p" "a"] = .error (.stepBudgetExceeded 2) := by
  intro pattern live found
  have hpattern : pattern.Built := .run (.new _ _) _
  have hlive : live.Built := .run (.new _ _) _
  obtain ⟨m, hm⟩ : ∃ m, Matcher.new? pattern.store live.store ⟨none, true, false⟩ = .ok m :=
    ⟨_, rfl⟩
  have hfinds : m.Finds [.vertex "p" "a"] (.ok (found, 3)) := by
    cases hm
    exact (Matcher.finds_of_pinned rfl).2 (.round rfl (.round rfl (.round rfl .done)))
  have hfound := hfinds.findAll_eq hpattern.consistent hlive.consistent hm
  obtain ⟨n, hn, -, -, hbudget⟩ := Built.findAll_withBudget hlive hpattern hm hfound
  cases hn.unique hfinds
  obtain ⟨limited, hlimited, -, hexceeds⟩ := hbudget 2
  exact ⟨m, limited, hm, hfound, hlimited, (hexceeds (by decide)).2⟩

end Graph

end PropertyGraph
