import PropertyGraph.Proofs.Built
import PropertyGraph.Proofs.Matching.Queue

/-!
# Anchors are a set

Anchors are pinned one after the other, and each of them is checked against those before it only.
Still the result does not depend on their order, nor on repetitions: whatever the order, what is
pinned is the least partial embedding that agrees with all of them, and that there is only one of.
A search looks at the anchors in no other way. For the same reason an edge anchor asks for no more
than the two vertex anchors of its endpoints: a partial embedding that agrees with these has found
the edge.
-/

namespace PropertyGraph

namespace Matcher

section

variable {m : Matcher} {c c₁ f : Mapping} {agrees agrees' : Mapping → Prop}
  {pins pins' : String → Prop} {r r' : Option Mapping} {anchors anchors' : List Anchor}

/-! ## The least partial embedding -/

/-- What asks for less leaves less. -/
theorem Fixes.exists_within (h : m.Fixes c agrees pins (some c₁)) (h' : m.Fixes c agrees' pins' r)
    (hagrees : ∀ f, m.Partial f → c.Within f → agrees f → agrees' f) :
    ∃ c₂, r = some c₂ ∧ c₂.Within c₁ := by
  obtain ⟨hpartial, hwithin, -, hleast⟩ := h
  have hasked : agrees' c₁ :=
    hagrees c₁ hpartial hwithin ((hleast c₁ hpartial hwithin).2 (.refl c₁))
  cases r with
  | none => exact absurd hasked (h' c₁ hpartial hwithin)
  | some c₂ => exact ⟨c₂, rfl, (h'.2.2.2 c₁ hpartial hwithin).1 hasked⟩

/-- **What is asked for settles what is left**, where partial embeddings cannot tell the
difference. -/
theorem Fixes.unique (h : m.Fixes c agrees pins r) (h' : m.Fixes c agrees' pins' r')
    (hagrees : ∀ f, m.Partial f → c.Within f → (agrees f ↔ agrees' f)) : r = r' := by
  have hforth := fun f hf hcf => (hagrees f hf hcf).1
  have hback := fun f hf hcf => (hagrees f hf hcf).2
  cases r with
  | none =>
    cases r' with
    | none => rfl
    | some c₂ =>
      obtain ⟨c₁, hnone, -⟩ := h'.exists_within h hback
      cases hnone
  | some c₁ =>
    obtain ⟨c₂, rfl, hsmaller⟩ := h.exists_within h' hforth
    obtain ⟨c₃, hsame, hlarger⟩ := h'.exists_within h hback
    cases hsame
    rw [hsmaller.eq fun _ => hlarger.contains]

/-! ## Lists of anchors -/

/-- Known anchors are pinned alike if the same partial embeddings agree with them. -/
theorem pinAnchors_congr (hm : m.Prepared) (hc : m.Partial c)
    (hknown : ∀ a ∈ anchors, a.Known m.pattern) (hknown' : ∀ a ∈ anchors', a.Known m.pattern)
    (hagree : ∀ f, m.Partial f →
      ((∀ a ∈ anchors, a.Agrees m.pattern m.live f) ↔
        ∀ a ∈ anchors', a.Agrees m.pattern m.live f)) :
    m.pinAnchors c anchors = m.pinAnchors c anchors' := by
  obtain ⟨r, hr, hfixes⟩ := pinAnchors_fixes hm hknown hc
  obtain ⟨r', hr', hfixes'⟩ := pinAnchors_fixes hm hknown' hc
  rw [hr, hr', hfixes.unique hfixes' fun f hf _ => hagree f hf]

/-- Anchors are pinned on top of what those before them have pinned. -/
theorem pinAnchors_append (m : Matcher) (c : Mapping) (anchors rest : List Anchor) :
    m.pinAnchors c (anchors ++ rest) = (do
      match ← m.pinAnchors c anchors with
      | some c => m.pinAnchors c rest
      | none => return none) := by
  induction anchors generalizing c with
  | nil => rfl
  | cons a anchors ih =>
    rw [List.cons_append]
    cases ha : m.pinAnchor c a with
    | error err =>
      rw [pinAnchors_cons_of_error ha, pinAnchors_cons_of_error ha]
      rfl
    | ok r =>
      cases r with
      | none =>
        rw [pinAnchors_cons_of_refused ha, pinAnchors_cons_of_refused ha]
        rfl
      | some c' => rw [pinAnchors_cons_of_ok ha, pinAnchors_cons_of_ok ha, ih]

theorem findAll_congr (h : m.pinAnchors .empty anchors = m.pinAnchors .empty anchors') :
    m.findAll anchors = m.findAll anchors' := by
  rw [findAll, findAll, h]

theorem finds_congr (h : m.pinAnchors .empty anchors = m.pinAnchors .empty anchors')
    (result : Except GraphError (List Mapping × Nat)) :
    m.Finds anchors result ↔ m.Finds anchors' result := by
  rw [Finds, Finds, h]

/-! ## Edge anchors -/

/-- A partial embedding that maps both endpoints of a pattern edge has found a live edge for
it. -/
theorem Partial.edge_agrees_iff (hm : m.Prepared) (hf : m.Partial f) {s t l x y : String}
    (hknown : (Anchor.edge ⟨s, t, l⟩ ⟨x, y, l⟩).Known m.pattern) :
    (Anchor.edge ⟨s, t, l⟩ ⟨x, y, l⟩).Agrees m.pattern m.live f ↔
      (Anchor.vertex s x).Agrees m.pattern m.live f ∧
        (Anchor.vertex t y).Agrees m.pattern m.live f := by
  constructor
  · rintro ⟨-, -, hs, ht⟩
    exact ⟨hs, ht⟩
  · rintro ⟨hs, ht⟩
    obtain ⟨e, he⟩ := Store.containsEdge_iff.1 hknown
    have hkey : e.key = ⟨s, t, l⟩ := (hm.pattern.edge he).key_eq
    have hholds := edgeHolds_iff.1 (hf.edges he)
    rw [hkey] at hholds
    obtain ⟨d, hd, hfits⟩ := hholds x y hs ht
    exact ⟨rfl, ⟨e, d, he, hd, (hm.edgeFits_iff he).1 hfits⟩, hs, ht⟩

/-- An edge anchor and the vertex anchors of its endpoints pin the same. -/
theorem pinAnchors_edge (hm : m.Prepared) (hc : m.Partial c) {s t l x y : String}
    (hknown : (Anchor.edge ⟨s, t, l⟩ ⟨x, y, l⟩).Known m.pattern) :
    m.pinAnchors c [.edge ⟨s, t, l⟩ ⟨x, y, l⟩] = m.pinAnchors c [.vertex s x, .vertex t y] := by
  refine pinAnchors_congr hm hc (by simpa using hknown) ?_ fun f hf => ?_
  · have hs : (Anchor.vertex s x).Known m.pattern := hm.pattern.source_stored _ hknown
    have ht : (Anchor.vertex t y).Known m.pattern := hm.pattern.target_stored _ hknown
    simp [hs, ht]
  · simpa using hf.edge_agrees_iff hm hknown

/-- An edge anchor among others can be replaced by the vertex anchors of its endpoints: both go on
from the same partial embedding. -/
theorem pinAnchors_edge_among {pattern live : Store} {options : MatchOptions}
    (hpattern : pattern.Consistent) (hlive : live.Consistent)
    (h : new? pattern live options = .ok m) {s t l x y : String}
    (hknown : (Anchor.edge ⟨s, t, l⟩ ⟨x, y, l⟩).Known pattern) (before after : List Anchor) :
    m.pinAnchors .empty (before ++ .edge ⟨s, t, l⟩ ⟨x, y, l⟩ :: after) =
      m.pinAnchors .empty (before ++ .vertex s x :: .vertex t y :: after) := by
  obtain ⟨hm, hp, -, -⟩ := prepared_of_new? hpattern hlive h
  rw [pinAnchors_append, pinAnchors_append]
  cases hbefore : m.pinAnchors .empty before with
  | error err => rfl
  | ok r =>
    cases r with
    | none => rfl
    | some c =>
      have hc := (known_of_pinAnchors hpattern hlive h (partial_empty m) hbefore).2
      have hsame := pinAnchors_edge hm hc (hp.symm ▸ hknown)
      rw [bind_ok, bind_ok]
      show m.pinAnchors c ([.edge ⟨s, t, l⟩ ⟨x, y, l⟩] ++ after) =
        m.pinAnchors c ([.vertex s x, .vertex t y] ++ after)
      rw [pinAnchors_append, hsame, ← pinAnchors_append]

end

end Matcher

namespace Graph

/-- **Anchors are a set.** Two lists of known anchors with the same members have the same search,
whatever the options: the same embeddings in the same order, or the same end for the budget. And
a known edge anchor to a live edge of the same label can be replaced by the vertex anchors of its
endpoints, whatever stands before and after it. In both cases the queue of candidates ends alike
too, after as many rounds. -/
theorem Built.findAll_anchorSet {g pattern : Graph} (hg : g.Built) (hpattern : pattern.Built)
    {options : MatchOptions} {m : Matcher}
    (hm : Matcher.new? pattern.store g.store options = .ok m) :
    (∀ anchors anchors' : List Anchor, (∀ a ∈ anchors, a.Known pattern.store) →
      (∀ a, a ∈ anchors ↔ a ∈ anchors') → m.findAll anchors = m.findAll anchors' ∧
        ∀ r, m.Finds anchors r ↔ m.Finds anchors' r) ∧
    (∀ (before after : List Anchor) (s t l x y : String),
      (Anchor.edge ⟨s, t, l⟩ ⟨x, y, l⟩).Known pattern.store →
      m.findAll (before ++ .edge ⟨s, t, l⟩ ⟨x, y, l⟩ :: after) =
          m.findAll (before ++ .vertex s x :: .vertex t y :: after) ∧
        ∀ r, m.Finds (before ++ .edge ⟨s, t, l⟩ ⟨x, y, l⟩ :: after) r ↔
          m.Finds (before ++ .vertex s x :: .vertex t y :: after) r) := by
  constructor
  · intro anchors anchors' hknown hmem
    obtain ⟨hprepared, hp, -, -⟩ :=
      Matcher.prepared_of_new? hpattern.consistent hg.consistent hm
    have hempty := Matcher.partial_empty m
    rw [← hp] at hknown
    have hknown' : ∀ a ∈ anchors', a.Known m.pattern := fun a ha => hknown a ((hmem a).2 ha)
    have hpinned : m.pinAnchors .empty anchors = m.pinAnchors .empty anchors' :=
      Matcher.pinAnchors_congr hprepared hempty hknown hknown'
        fun f _ => forall_congr' fun a => imp_congr_left (hmem a)
    exact ⟨Matcher.findAll_congr hpinned, Matcher.finds_congr hpinned⟩
  · intro before after s t l x y hknown
    have hpinned := Matcher.pinAnchors_edge_among hpattern.consistent hg.consistent hm hknown
      before after
    exact ⟨Matcher.findAll_congr hpinned, Matcher.finds_congr hpinned⟩

/-- A pattern edge is anchored before, after and in place of its endpoints; the search keeps within
its budget of one round. -/
theorem Built.findAll_anchorSet_edge :
    let pattern := (Graph.new "pattern" none).run
      [.updateEdge ⟨⟨"p", "q", "l"⟩, .empty, by decide⟩ true]
    let live := (Graph.new "live" none).run
      [.updateEdge ⟨⟨"a", "b", "l"⟩, .empty, by decide⟩ true,
        .updateEdge ⟨⟨"a", "c", "l"⟩, .empty, by decide⟩ true]
    let edge := Anchor.edge ⟨"p", "q", "l"⟩ ⟨"a", "c", "l"⟩
    let found := [SortedMap.ofList [("p", "a"), ("q", "c")]]
    ∃ m, Matcher.new? pattern.store live.store ⟨some 1, true, false⟩ = .ok m ∧
      m.findAll [edge, .vertex "p" "a"] = .ok found ∧
      m.findAll [.vertex "p" "a", edge, edge] = .ok found ∧
      m.findAll [.vertex "p" "a", .vertex "q" "c", .vertex "p" "a"] = .ok found := by
  intro pattern live edge found
  have hpattern : pattern.Built := .run (.new _ _) _
  have hlive : live.Built := .run (.new _ _) _
  obtain ⟨m, hm⟩ : ∃ m, Matcher.new? pattern.store live.store ⟨some 1, true, false⟩ = .ok m :=
    ⟨_, rfl⟩
  have hknown : ∀ a ∈ [edge, .vertex "p" "a"], a.Known pattern.store := by
    simp only [List.forall_mem_cons]
    exact ⟨rfl, rfl, fun _ h => nomatch h⟩
  have hfinds : m.Finds [edge, .vertex "p" "a"] (.ok (found, 1)) := by
    cases hm
    exact (Matcher.finds_of_pinned rfl).2 (.round rfl .done)
  have hfound := hfinds.findAll_eq hpattern.consistent hlive.consistent hm
  obtain ⟨hmembers, hreplaced⟩ := Built.findAll_anchorSet hlive hpattern hm
  refine ⟨m, hm, hfound, ?_, ?_⟩
  · have hsame := hmembers [edge, .vertex "p" "a"] [.vertex "p" "a", edge, edge] hknown
      fun a => by simp [or_comm]
    exact hsame.1.symm.trans hfound
  · have hsame := hreplaced [] [.vertex "p" "a"] "p" "q" "l" "a" "c" rfl
    exact hsame.1.symm.trans hfound

end Graph

end PropertyGraph
