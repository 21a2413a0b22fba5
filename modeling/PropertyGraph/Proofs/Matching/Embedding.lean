import PropertyGraph.Matching.Basic
import PropertyGraph.Proofs.Except
import PropertyGraph.Proofs.Store.Consistent

/-!
# Embeddings

What an embedding of a pattern is, said of the stores and the filters that the bags of the pattern
state, without a word about the search. A matcher has these filters at hand by the identities of
the pattern elements.

## Main definitions

- `Passes` — a bag passes the filter that another one states
- `Anchor.Known`, `Anchor.Agrees`, `Anchor.Pins` — what an anchor names, asks for and fixes
- `Embedding` — the embeddings that agree with some anchors
- `Matcher.Prepared` — a matcher over consistent stores, with the filters of its pattern
-/

namespace PropertyGraph

/-- Where what is stored for the members of a list is computed under distinct keys, every member
finds its own. -/
theorem get?_ofList_of_mapM {κ α β ε : Type} [Ord κ] [DecidableEq κ] [Std.TransOrd κ]
    [Std.LawfulEqOrd κ] {entry : α → Except ε (κ × β)} (key : α → κ)
    (hkey : ∀ a b, entry a = .ok b → b.1 = key a) {l : List α} (hl : (l.map key).Nodup)
    {entries : List (κ × β)} (h : l.mapM entry = .ok entries) {a : α} (ha : a ∈ l) :
    ∃ b, entry a = .ok (key a, b) ∧ (SortedMap.ofList entries).get? (key a) = some b := by
  obtain ⟨⟨k, b⟩, hmem, hb⟩ := exists_of_mem_mapM h ha
  obtain rfl : k = key a := hkey a _ hb
  refine ⟨b, hb, SortedMap.get?_ofList_of_mem ?_ hmem⟩
  rwa [map_of_mapM hkey h]

/-- A bag passes the filter that another one states. -/
def Passes (stated bag : Properties) : Prop :=
  ∃ f, AttributeFilter.ofProperties stated = .ok f ∧ f.accepts bag = true

namespace Anchor

/-- The anchor names an element of the pattern. -/
def Known (pattern : Store) : Anchor → Prop
  | vertex p _ => pattern.hasVertex p = true
  | edge p _ => pattern.edges.contains p = true

/-- A mapping does what the anchor asks for. An edge anchor also asks for its live edge, which has
to have the same label and to pass the filter of the pattern edge. -/
def Agrees (pattern live : Store) (f : Mapping) : Anchor → Prop
  | vertex p x => f.get? p = some x
  | edge p k => p.label = k.label ∧
      (∃ e d, pattern.edge? p = some e ∧ live.edge? k = some d ∧
        Passes e.properties d.properties) ∧
      f.get? p.source = some k.source ∧ f.get? p.target = some k.target

/-- The pattern vertices that the anchor fixes. -/
def Pins : Anchor → String → Prop
  | vertex p _, q => q = p
  | edge p _, q => q = p.source ∨ q = p.target

instance (p : String) : (a : Anchor) → Decidable (a.Pins p)
  | vertex q _ => inferInstanceAs (Decidable (p = q))
  | edge k _ => inferInstanceAs (Decidable (p = k.source ∨ p = k.target))

end Anchor

/-- **An embedding** of a pattern that agrees with some anchors. -/
structure Embedding (pattern live : Store) (options : MatchOptions) (anchors : List Anchor)
    (f : Mapping) : Prop where
  /-- Nothing but pattern vertices is mapped. -/
  known : ∀ p, f.contains p = true → pattern.hasVertex p = true
  vertex : ∀ p v, pattern.vertex? p = some v →
    ∃ x u, f.get? p = some x ∧ live.vertex? x = some u ∧ Passes v.properties u.properties
  edge : ∀ k e, pattern.edge? k = some e →
    ∃ s t d, f.get? k.source = some s ∧ f.get? k.target = some t ∧
      live.edge? ⟨s, t, k.label⟩ = some d ∧ Passes e.properties d.properties
  anchored : ∀ a ∈ anchors, a.Agrees pattern live f
  injective : options.injective = true →
    ∀ p q x, f.get? p = some x → f.get? q = some x → p = q

namespace Matcher

/-- A matcher over consistent stores, with the filters that the bags of its pattern state. -/
structure Prepared (m : Matcher) : Prop where
  pattern : m.pattern.Consistent
  live : m.live.Consistent
  vertexFilter : ∀ {p v}, m.pattern.vertex? p = some v →
    ∃ f, AttributeFilter.ofProperties v.properties = .ok f ∧ m.vertexFilters.get? p = some f
  edgeFilter : ∀ {k e}, m.pattern.edge? k = some e →
    ∃ f, AttributeFilter.ofProperties e.properties = .ok f ∧ m.edgeFilters.get? k = some f

section

variable {m : Matcher}

theorem Prepared.contains_vertexFilters (hm : m.Prepared) {p : String}
    (hp : m.pattern.hasVertex p = true) : m.vertexFilters.contains p = true := by
  obtain ⟨v, hv⟩ := Store.hasVertex_iff.1 hp
  obtain ⟨f, -, hf⟩ := hm.vertexFilter hv
  exact SortedMap.contains_of_get? hf

theorem Prepared.contains_edgeFilters (hm : m.Prepared) {k : EdgeKey}
    (hk : m.pattern.edges.contains k = true) : m.edgeFilters.contains k = true := by
  obtain ⟨e, he⟩ := Store.containsEdge_iff.1 hk
  obtain ⟨f, -, hf⟩ := hm.edgeFilter he
  exact SortedMap.contains_of_get? hf

theorem Prepared.vertexFits_iff (hm : m.Prepared) {p : String} {v u : Vertex}
    (hv : m.pattern.vertex? p = some v) :
    m.vertexFits p u = true ↔ Passes v.properties u.properties := by
  obtain ⟨f, hstated, hf⟩ := hm.vertexFilter hv
  simp [vertexFits, hf, admits, Passes, hstated]

theorem Prepared.edgeFits_iff (hm : m.Prepared) {k : EdgeKey} {e d : Edge}
    (he : m.pattern.edge? k = some e) :
    m.edgeFits k d = true ↔ Passes e.properties d.properties := by
  obtain ⟨f, hstated, hf⟩ := hm.edgeFilter he
  simp [edgeFits, hf, admits, Passes, hstated]

/-- A matcher that is built has the filters of its pattern. -/
theorem prepared_of_new? {pattern live : Store} {options : MatchOptions}
    (hpattern : pattern.Consistent) (hlive : live.Consistent)
    (h : new? pattern live options = .ok m) :
    m.Prepared ∧ m.pattern = pattern ∧ m.live = live ∧ m.options = options := by
  simp only [new?, bind_eq_ok_iff] at h
  obtain ⟨vertexFilters, hvertices, edgeFilters, hedges, h⟩ := h
  cases h
  refine ⟨⟨hpattern, hlive, ?_, ?_⟩, rfl, rfl, rfl⟩
  · intro p v hv
    obtain ⟨f, hfilter, hf⟩ :=
      get?_ofList_of_mapM Vertex.id (fun _ _ => fst_of_map_eq_ok) hpattern.nodup_ids_vertexList
        hvertices (Store.mem_vertexList.2 ⟨p, hv⟩)
    obtain ⟨_, hstated, heq⟩ := map_eq_ok_iff.1 hfilter
    cases heq
    exact ⟨f, hstated, (hpattern.vertex hv).id_eq ▸ hf⟩
  · intro k e he
    obtain ⟨f, hfilter, hf⟩ :=
      get?_ofList_of_mapM Edge.key (fun _ _ => fst_of_map_eq_ok) hpattern.nodup_keys_edgeList
        hedges (Store.mem_edgeList.2 ⟨k, he⟩)
    obtain ⟨_, hstated, heq⟩ := map_eq_ok_iff.1 hfilter
    cases heq
    exact ⟨f, hstated, (hpattern.edge he).key_eq ▸ hf⟩

end

end Matcher

end PropertyGraph
