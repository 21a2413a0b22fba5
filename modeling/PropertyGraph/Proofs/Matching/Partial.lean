import PropertyGraph.Proofs.Matching.Embedding

/-!
# Partial embeddings

What the search keeps of every mapping: pinned vertices pass the filters, and the edges between
pinned vertices hold. One more vertex can be pinned just if the result is a partial embedding
again, and a mapping within a partial embedding is one itself. So nothing that is extended to an
embedding is ever turned down.

## Main definitions

- `Matcher.Fits` — a pattern vertex may be pinned to a live vertex
- `Matcher.Partial` — the partial embeddings
-/

namespace PropertyGraph

namespace Matcher

/-- A live vertex is stored and passes the filter of a pattern vertex. -/
def Fits (m : Matcher) (p x : String) : Prop :=
  ∃ v, m.live.vertex? x = some v ∧ m.vertexFits p v = true

/-- **The invariant of the search.** -/
structure Partial (m : Matcher) (c : Mapping) : Prop where
  known : ∀ {p x}, c.get? p = some x → m.pattern.hasVertex p = true
  fits : ∀ {p x}, c.get? p = some x → m.Fits p x
  edges : ∀ {k e}, m.pattern.edge? k = some e → m.edgeHolds c e = true
  injective : m.options.injective = true →
    ∀ {p q x}, c.get? p = some x → c.get? q = some x → p = q

section

variable {m : Matcher} {c c' f : Mapping} {p x : String}

theorem edgeHolds_iff {e : Edge} :
    m.edgeHolds c e = true ↔
      ∀ s t, c.get? e.key.source = some s → c.get? e.key.target = some t →
        ∃ d, m.live.edge? ⟨s, t, e.key.label⟩ = some d ∧ m.edgeFits e.key d = true := by
  rw [edgeHolds]
  cases c.get? e.key.source with
  | none => simp
  | some s =>
    cases c.get? e.key.target with
    | none => simp
    | some t => simp [Option.any_eq_true]

theorem edgesHold_iff (hm : m.pattern.Consistent) :
    m.edgesHold c p = true ↔
      ∀ k e, m.pattern.edge? k = some e → (k.source = p ∨ k.target = p) →
        m.edgeHolds c e = true := by
  simp only [edgesHold, List.all_eq_true, hm.mem_incident, Direction.includesOut,
    Direction.includesIn, true_and]
  constructor
  · intro h k e he hside
    have hkey := (hm.edge he).key_eq
    subst hkey
    exact h e ⟨he, hside⟩
  · rintro h e ⟨he, hside⟩
    exact h _ e he hside

theorem partial_empty (m : Matcher) : m.Partial .empty where
  known h := nomatch h
  fits h := nomatch h
  edges _ := rfl
  injective _ _ _ _ h := nomatch h

/-- A mapping within a partial embedding is one itself. -/
theorem Partial.within (h : m.Partial f) (hc : c.Within f) : m.Partial c where
  known hp := h.known (hc _ _ hp)
  fits hp := h.fits (hc _ _ hp)
  edges he := by
    have hf := edgeHolds_iff.1 (h.edges he)
    exact edgeHolds_iff.2 fun s t hs ht => hf s t (hc _ _ hs) (hc _ _ ht)
  injective hinj _ _ _ hp hq := h.injective hinj (hc _ _ hp) (hc _ _ hq)

theorem pin?_eq_some_iff_rules :
    m.pin? c p x = some c' ↔
      c' = c.insert p x ∧ (m.options.injective = true → x ∉ c.values) ∧
        m.edgesHold (c.insert p x) p = true := by
  rw [pin?]
  split
  · rename_i hused
    simp only [Bool.and_eq_true, List.contains_iff_mem] at hused
    simp only [false_iff, reduceCtorEq]
    rintro ⟨-, hinj, -⟩
    exact hinj hused.1 hused.2
  · rename_i hunused
    simp only [Bool.and_eq_true, List.contains_iff_mem, not_and] at hunused
    split
    · rename_i hedges
      simp only [Option.some.injEq, hedges, and_true]
      exact ⟨fun h => ⟨h.symm, hunused⟩, fun h => h.1.symm⟩
    · rename_i hedges
      simp [hedges]

/-- A vertex can be pinned if it fits, the edges at it hold, and its live vertex is free in case
none may be shared. -/
theorem Partial.insert (hc : m.Partial c) (hm : m.pattern.Consistent)
    (hp : m.pattern.hasVertex p = true) (hfits : m.Fits p x)
    (hunused : m.options.injective = true → x ∉ c.values)
    (hedges : m.edgesHold (c.insert p x) p = true) : m.Partial (c.insert p x) where
  known {q y} hq := by
    rw [SortedMap.get?_insert] at hq
    split at hq
    · rename_i hqp
      exact hqp ▸ hp
    · exact hc.known hq
  fits {q y} hq := by
    rw [SortedMap.get?_insert] at hq
    split at hq
    · rename_i hqp
      cases hq
      exact hqp ▸ hfits
    · exact hc.fits hq
  edges {k e} he := by
    by_cases hside : k.source = p ∨ k.target = p
    · exact (edgesHold_iff hm).1 hedges k e he hside
    · -- an edge that does not touch the new vertex held before
      rw [not_or] at hside
      have hkey := (hm.edge he).key_eq
      have hold := hc.edges he
      rw [edgeHolds, hkey] at hold ⊢
      rwa [SortedMap.get?_insert, if_neg hside.1, SortedMap.get?_insert, if_neg hside.2]
  injective hinjective {q r y} hq hr := by
    rw [SortedMap.get?_insert] at hq hr
    split at hq <;> split at hr
    · rename_i hqp hrp
      rw [hqp, hrp]
    · cases hq
      exact absurd (SortedMap.mem_values_iff.2 ⟨_, hr⟩) (hunused hinjective)
    · cases hr
      exact absurd (SortedMap.mem_values_iff.2 ⟨_, hq⟩) (hunused hinjective)
    · exact hc.injective hinjective hq hr

/-- **Pinning one more vertex** gives a mapping just if that is a partial embedding. -/
theorem pin?_eq_some_iff (hm : m.pattern.Consistent) (hc : m.Partial c)
    (hp : m.pattern.hasVertex p = true) (hfree : c.get? p = none) (hfits : m.Fits p x) :
    m.pin? c p x = some c' ↔ c' = c.insert p x ∧ m.Partial c' := by
  rw [pin?_eq_some_iff_rules]
  constructor
  · rintro ⟨rfl, hunused, hedges⟩
    exact ⟨rfl, hc.insert hm hp hfits hunused hedges⟩
  · rintro ⟨rfl, hc'⟩
    refine ⟨rfl, fun hinjective hused => ?_, ?_⟩
    · -- what is used already is used by another vertex, as this one was free
      obtain ⟨q, hq⟩ := SortedMap.mem_values_iff.1 hused
      have hqp := hc'.injective hinjective (SortedMap.within_insert hfree q x hq)
        (SortedMap.get?_insert_self c p x)
      rw [hqp, hfree] at hq
      cases hq
    · exact (edgesHold_iff hm).2 fun k e he _ => hc'.edges he

end

end Matcher

end PropertyGraph
