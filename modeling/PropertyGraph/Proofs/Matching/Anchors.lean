import PropertyGraph.Proofs.Matching.Partial

/-!
# What anchors fix

Anchors that name elements of the pattern never fail. Pinning them gives the least partial
embedding that agrees with all of them, or nothing, if no partial embedding does. That the order
of the anchors does not matter follows: what they ask for is settled before anything is searched.

## Main definitions

- `Matcher.Fixes` — what pinning leaves of a mapping, for what is asked for
-/

namespace PropertyGraph

namespace Matcher

/-- What pinning some vertices leaves of a mapping. The partial embeddings that extend the mapping
and agree are those that extend the result; without a result there are none. -/
def Fixes (m : Matcher) (c : Mapping) (agrees : Mapping → Prop) (pins : String → Prop) :
    Option Mapping → Prop
  | some c' => m.Partial c' ∧ c.Within c' ∧
      (∀ p, c'.contains p = true ↔ c.contains p = true ∨ pins p) ∧
      ∀ f, m.Partial f → c.Within f → (agrees f ↔ c'.Within f)
  | none => ∀ f, m.Partial f → c.Within f → ¬agrees f

section

variable {m : Matcher} {c c' : Mapping} {agrees agrees' : Mapping → Prop}
  {pins pins' : String → Prop} {r : Option Mapping} {p x : String}

theorem Fixes.congr (h : m.Fixes c agrees pins r) (hagrees : ∀ f, agrees' f ↔ agrees f)
    (hpins : ∀ q, pins' q ↔ pins q) : m.Fixes c agrees' pins' r := by
  cases r with
  | none => exact fun f hf hcf hasked => h f hf hcf ((hagrees f).1 hasked)
  | some c' =>
    obtain ⟨hc', hwithin, hdomain, hleast⟩ := h
    refine ⟨hc', hwithin, fun q => ?_, fun f hf hcf => ?_⟩
    · rw [hdomain, hpins]
    · rw [hagrees, hleast f hf hcf]

/-- What is turned down stays so when more is asked for. -/
theorem Fixes.refuse (h : m.Fixes c agrees pins none) (hagrees : ∀ f, agrees' f → agrees f) :
    m.Fixes c agrees' pins' none :=
  fun f hf hcf hasked => h f hf hcf (hagrees f hasked)

/-- What is left after pinning twice. -/
theorem Fixes.trans (h : m.Fixes c agrees pins (some c')) (h' : m.Fixes c' agrees' pins' r) :
    m.Fixes c (fun f => agrees f ∧ agrees' f) (fun q => pins q ∨ pins' q) r := by
  obtain ⟨-, hwithin, hdomain, hleast⟩ := h
  cases r with
  | none =>
    rintro f hf hcf ⟨hagrees, hagrees'⟩
    exact h' f hf ((hleast f hf hcf).1 hagrees) hagrees'
  | some c'' =>
    obtain ⟨hc'', hwithin', hdomain', hleast'⟩ := h'
    refine ⟨hc'', hwithin.trans hwithin', fun q => ?_, fun f hf hcf => ?_⟩
    · rw [hdomain', hdomain, or_assoc]
    · constructor
      · rintro ⟨hagrees, hagrees'⟩
        exact (hleast' f hf ((hleast f hf hcf).1 hagrees)).1 hagrees'
      · intro hwf
        have hwf' := hwithin'.trans hwf
        exact ⟨(hleast f hf hcf).2 hwf', (hleast' f hf hwf').2 hwf⟩

/-- A vertex that is free gets pinned just if some partial embedding maps it so. -/
theorem fixes_pin (hm : m.Prepared) (hc : m.Partial c) (hp : m.pattern.hasVertex p = true)
    (hfree : c.get? p = none) :
    m.Fixes c (fun f => f.get? p = some x) (fun q => q = p)
      (((m.live.vertex? x).filter (m.vertexFits p)).bind fun _ => m.pin? c p x) := by
  have hpin : ∀ c', (((m.live.vertex? x).filter (m.vertexFits p)).bind fun _ => m.pin? c p x)
      = some c' ↔ c' = c.insert p x ∧ m.Partial c' := by
    intro c'
    simp only [Option.bind_eq_some_iff, Option.filter_eq_some_iff]
    constructor
    · rintro ⟨v, hv, hpin⟩
      exact (pin?_eq_some_iff hm.pattern hc hp hfree ⟨v, hv⟩).1 hpin
    · rintro ⟨rfl, hc'⟩
      obtain ⟨v, hv⟩ := hc'.fits (SortedMap.get?_insert_self c p x)
      exact ⟨v, hv, (pin?_eq_some_iff hm.pattern hc hp hfree ⟨v, hv⟩).2 ⟨rfl, hc'⟩⟩
  cases hr : ((m.live.vertex? x).filter (m.vertexFits p)).bind fun _ => m.pin? c p x with
  | some c' =>
    obtain ⟨rfl, hc'⟩ := (hpin c').1 hr
    refine ⟨hc', SortedMap.within_insert hfree, fun q => ?_, fun f hf hcf => ?_⟩
    · rw [SortedMap.contains_insert, or_comm]
    · exact ⟨SortedMap.insert_within hcf, fun hwf => hwf p x (SortedMap.get?_insert_self c p x)⟩
  | none =>
    -- an embedding that maps the vertex so would have let it be pinned
    intro f hf hcf hfp
    have hpinned := (hpin _).2 ⟨rfl, hf.within (SortedMap.insert_within hcf hfp)⟩
    rw [hr] at hpinned
    cases hpinned

theorem pinVertex_fixes (hm : m.Prepared) (hc : m.Partial c)
    (hp : m.pattern.hasVertex p = true) (x : String) :
    ∃ r, m.pinVertex c p x = .ok r ∧
      m.Fixes c (fun f => f.get? p = some x) (fun q => q = p) r := by
  rw [pinVertex, if_pos (hm.contains_vertexFilters hp)]
  cases hcp : c.get? p with
  | none => exact ⟨_, rfl, fixes_pin hm hc hp hcp⟩
  | some y =>
    -- an earlier anchor has pinned the vertex
    refine ⟨_, rfl, ?_⟩
    split
    · rename_i hyx
      subst hyx
      refine ⟨hc, .refl c, fun q => ?_, fun f _ hcf => ?_⟩
      · refine ⟨.inl, ?_⟩
        rintro (hq | rfl)
        · exact hq
        · exact SortedMap.contains_of_get? hcp
      · exact ⟨fun _ => hcf, fun _ => hcf p y hcp⟩
    · rename_i hyx
      intro f _ hcf hfp
      rw [hcf p y hcp] at hfp
      cases hfp
      exact hyx rfl

theorem pinEdge_fixes (hm : m.Prepared) (hc : m.Partial c) {p : EdgeKey}
    (hp : m.pattern.edges.contains p = true) (k : EdgeKey) :
    ∃ r, m.pinEdge c p k = .ok r ∧
      m.Fixes c ((Anchor.edge p k).Agrees m.pattern m.live) (Anchor.edge p k).Pins r := by
  obtain ⟨e, he⟩ := Store.containsEdge_iff.1 hp
  have hfits : (m.live.edge? k).any (m.edgeFits p) = true ↔
      ∃ e d, m.pattern.edge? p = some e ∧ m.live.edge? k = some d ∧
        Passes e.properties d.properties := by
    simp [Option.any_eq_true, hm.edgeFits_iff he, he]
  rw [pinEdge, if_pos (hm.contains_edgeFilters hp)]
  split
  · rename_i hasked
    rw [hfits] at hasked
    obtain ⟨r, hr, hsource⟩ := pinVertex_fixes hm hc (hm.pattern.source_stored p hp) k.source
    have hagrees : ∀ f, (Anchor.edge p k).Agrees m.pattern m.live f ↔
        f.get? p.source = some k.source ∧ f.get? p.target = some k.target := by
      intro f
      simp only [Anchor.Agrees, hasked.1, hasked.2, true_and]
    rw [hr]
    cases r with
    | none => exact ⟨_, rfl, hsource.refuse fun f h => ((hagrees f).1 h).1⟩
    | some c' =>
      obtain ⟨r', hr', htarget⟩ :=
        pinVertex_fixes hm hsource.1 (hm.pattern.target_stored p hp) k.target
      exact ⟨r', hr', (hsource.trans htarget).congr hagrees fun _ => Iff.rfl⟩
  · rename_i hrefused
    exact ⟨_, rfl, fun f _ _ hagrees => hrefused ⟨hagrees.1, hfits.2 hagrees.2.1⟩⟩

theorem pinAnchor_fixes (hm : m.Prepared) (hc : m.Partial c) {a : Anchor}
    (ha : a.Known m.pattern) :
    ∃ r, m.pinAnchor c a = .ok r ∧ m.Fixes c (a.Agrees m.pattern m.live) a.Pins r := by
  cases a with
  | vertex p x => exact pinVertex_fixes hm hc ha x
  | edge p k => exact pinEdge_fixes hm hc ha k

/-- **What a list of anchors fixes**: the least partial embedding that agrees with all of them. -/
theorem pinAnchors_fixes (hm : m.Prepared) {anchors : List Anchor}
    (hknown : ∀ a ∈ anchors, a.Known m.pattern) (hc : m.Partial c) :
    ∃ r, m.pinAnchors c anchors = .ok r ∧
      m.Fixes c (fun f => ∀ a ∈ anchors, a.Agrees m.pattern m.live f)
        (fun q => ∃ a ∈ anchors, a.Pins q) r := by
  induction anchors generalizing c with
  | nil =>
    refine ⟨_, rfl, hc, .refl c, fun q => ?_, fun f _ hcf => ?_⟩
    · simp
    · simp [hcf]
  | cons a rest ih =>
    obtain ⟨r, hr, hfirst⟩ := pinAnchor_fixes hm hc (hknown a List.mem_cons_self)
    rw [pinAnchors, hr]
    cases r with
    | none => exact ⟨_, rfl, hfirst.refuse fun f h => h a List.mem_cons_self⟩
    | some c' =>
      obtain ⟨r', hr', hrest⟩ := ih (fun b hb => hknown b (List.mem_cons_of_mem _ hb)) hfirst.1
      refine ⟨r', hr', (hfirst.trans hrest).congr (fun f => List.forall_mem_cons) fun q => ?_⟩
      simp only [List.mem_cons, exists_eq_or_imp]

end

end Matcher

end PropertyGraph
