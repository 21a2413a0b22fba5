import PropertyGraph.Matching.Plan
import PropertyGraph.Proofs.Except
import PropertyGraph.Proofs.Store.Consistent

/-!
# Where a plan leads

A plan pins one vertex after the other. It gets to the end if it may seed, and otherwise just if
the vertices to pin are joined to pinned ones by pattern edges: a closed vertex has no neighbour
that is still to be pinned, so where no vertex is open the pinned ones are cut off from the rest.

## Main definitions

- `Store.Adjacent`, `Store.Joined` — pattern edges, without their direction
- `MatchPlan.Covers` — a plan pins just the given vertices, one after the other
- `MatchPlan.completes` — a plan gets to the end
-/

namespace PropertyGraph

namespace Store

/-- An edge runs between two vertices, in either direction. -/
def Adjacent (s : Store) (v w : String) : Prop :=
  ∃ k, s.edges.contains k = true ∧
    (k.source = v ∧ k.target = w ∨ k.source = w ∧ k.target = v)

/-- The vertices that edges join to those of a base, whatever the directions. -/
inductive Joined (s : Store) (base : String → Prop) : String → Prop
  | base {v : String} : base v → Joined s base v
  | step {v w : String} : Joined s base v → s.Adjacent v w → Joined s base w

section

variable {s : Store} {base base' : String → Prop} {v w : String}

/-- What has the base and is closed under edges has all vertices that are joined to the base. -/
theorem Joined.subset (h : s.Joined base v) (closed : String → Prop)
    (hbase : ∀ u, base u → closed u)
    (hstep : ∀ u w, closed u → s.Adjacent u w → closed w) : closed v := by
  induction h with
  | base hv => exact hbase _ hv
  | step _ hadjacent ih => exact hstep _ _ ih hadjacent

theorem Joined.mono (h : s.Joined base v) (hbase : ∀ u, base u → s.Joined base' u) :
    s.Joined base' v :=
  h.subset _ hbase fun _ _ => .step

theorem Consistent.adjacent_stored (hs : s.Consistent) (h : s.Adjacent v w) :
    s.hasVertex v = true ∧ s.hasVertex w = true := by
  obtain ⟨k, hk, ⟨rfl, rfl⟩ | ⟨rfl, rfl⟩⟩ := h
  · exact ⟨hs.source_stored k hk, hs.target_stored k hk⟩
  · exact ⟨hs.target_stored k hk, hs.source_stored k hk⟩

/-- The other end of an edge at a vertex. -/
theorem adjacent_iff_other :
    s.Adjacent v w ↔ ∃ k, s.edges.contains k = true ∧ (k.source = v ∨ k.target = v) ∧
      k.other v = w := by
  refine exists_congr fun k => and_congr_right fun _ => ?_
  constructor
  · intro hends
    have hside := hends.imp And.left And.right
    exact ⟨hside, (EdgeKey.other_eq_iff hside).2 hends⟩
  · rintro ⟨hside, hother⟩
    exact (EdgeKey.other_eq_iff hside).1 hother

/-- **Looking at the edges of a vertex** finds the adjacent vertices, and no edge that leads
nowhere. -/
theorem Consistent.checkedNeighbors_both (hs : s.Consistent) (id : String) :
    ∃ around, s.checkedNeighbors id .both = .ok around ∧
      ∀ u, u ∈ around.map (·.2) ↔ s.vertex? u.id = some u ∧ s.Adjacent id u.id := by
  have hother : ∀ e ∈ s.incident id .both, s.edges.contains e.key = true ∧
      (e.key.source = id ∨ e.key.target = id) := by
    intro e he
    obtain ⟨he, hside⟩ := hs.mem_incident.1 he
    exact ⟨containsEdge_of_edge? he, hside.imp And.right And.right⟩
  have hchecked : ∀ e ∈ s.incident id .both, ∃ r, s.checkedNeighbor id e = .ok r := by
    -- both ends of a stored edge are stored
    intro e he
    obtain ⟨hstored, hside⟩ := hother e he
    have hadjacent := adjacent_iff_other.2 ⟨e.key, hstored, hside, rfl⟩
    obtain ⟨u, hu⟩ := hasVertex_iff.1 (hs.adjacent_stored hadjacent).2
    exact ⟨_, checkedNeighbor_eq_ok_iff.2 ⟨u, hu, rfl⟩⟩
  obtain ⟨around, hok, hmem⟩ := exists_mapM_eq_ok hchecked
  refine ⟨around, hok, fun u => ?_⟩
  rw [List.mem_map]
  constructor
  · rintro ⟨r, hr, rfl⟩
    obtain ⟨e, he, hr⟩ := (hmem r).1 hr
    obtain ⟨u, hu, rfl⟩ := checkedNeighbor_eq_ok_iff.1 hr
    obtain ⟨hstored, hside⟩ := hother e he
    have hid := (hs.vertex hu).id_eq
    exact ⟨hid.symm ▸ hu, adjacent_iff_other.2 ⟨e.key, hstored, hside, hid.symm⟩⟩
  · rintro ⟨hu, hadjacent⟩
    obtain ⟨k, hk, hside, hid⟩ := adjacent_iff_other.1 hadjacent
    obtain ⟨e, he⟩ := containsEdge_iff.1 hk
    have hkey := (hs.edge he).key_eq
    subst hkey
    have hincident : e ∈ s.incident id .both :=
      hs.mem_incident.2 ⟨he, hside.imp (⟨rfl, ·⟩) (⟨rfl, ·⟩)⟩
    exact ⟨(e, u), (hmem _).2 ⟨e, hincident, checkedNeighbor_eq_ok_iff.2 ⟨u, hid ▸ hu, rfl⟩⟩, rfl⟩

end

end Store

namespace MatchPlan

variable {pattern : Store} {seeding : Bool} {unpinned opened : List String}

/-- A plan pins just the given vertices, one after the other: along a pattern edge from a pinned
one, or by seeding if it may. It gives up only where the pinned vertices are cut off from the
others and it may not seed. -/
inductive Covers (pattern : Store) (seeding : Bool) : List String → MatchPlan → Prop
  | done : Covers pattern seeding [] .done
  | stuck {unpinned : List String} : seeding = false → unpinned ≠ [] →
      (∀ v, v ∉ unpinned → ∀ w ∈ unpinned, ¬pattern.Adjacent v w) →
      Covers pattern seeding unpinned .stuck
  | close {unpinned : List String} {rest : MatchPlan} :
      Covers pattern seeding unpinned rest → Covers pattern seeding unpinned (.close rest)
  | extend {unpinned : List String} {along next : String} {rest : MatchPlan} :
      along ∉ unpinned → next ∈ unpinned → pattern.Adjacent along next →
      Covers pattern seeding (unpinned.erase next) rest →
      Covers pattern seeding unpinned (.extend along next rest)
  | seed {unpinned : List String} {next : String} {rest : MatchPlan} :
      seeding = true → next ∈ unpinned → Covers pattern seeding (unpinned.erase next) rest →
      Covers pattern seeding unpinned (.seed next rest)

/-- A plan gets to the end. -/
def completes : MatchPlan → Bool
  | done => true
  | stuck => false
  | close rest | extend _ _ rest | seed _ rest => rest.completes

/-! ## Making a plan -/

/-- The vertices that are found around another one are the adjacent ones. -/
theorem any_around_iff (h : pattern.Consistent) {id : String} {around : List (Edge × Vertex)}
    (haround : pattern.checkedNeighbors id .both = .ok around) (w : String) :
    around.any (·.2.id == w) = true ↔ pattern.Adjacent id w := by
  obtain ⟨around', hok, hmem⟩ := h.checkedNeighbors_both id
  rw [haround] at hok
  cases hok
  rw [List.any_eq_true]
  constructor
  · rintro ⟨r, hr, hid⟩
    rw [beq_iff_eq] at hid
    exact hid ▸ ((hmem r.2).1 (List.mem_map_of_mem hr)).2
  · intro hadjacent
    obtain ⟨u, hu⟩ := Store.hasVertex_iff.1 (h.adjacent_stored hadjacent).2
    have hid := (h.vertex hu).id_eq
    obtain ⟨r, hr, hru⟩ := List.mem_map.1 ((hmem u).2 ⟨hid.symm ▸ hu, hid.symm ▸ hadjacent⟩)
    exact ⟨r, hr, by rw [beq_iff_eq, hru, hid]⟩

theorem neighborAmong_eq_ok (h : pattern.Consistent) (unpinned : List String) (id : String) :
    ∃ r, neighborAmong pattern unpinned id = .ok r ∧
      (∀ next, r = some next → pattern.Adjacent id next.val) ∧
      (r = none → ∀ w ∈ unpinned, ¬pattern.Adjacent id w) := by
  obtain ⟨around, hok, -⟩ := h.checkedNeighbors_both id
  have hany := any_around_iff h hok
  refine ⟨unpinned.attach.find? fun next => around.any (·.2.id == next.val), ?_, ?_, ?_⟩
  · rw [neighborAmong, hok]
    rfl
  · intro next hnext
    have hfound := List.find?_some hnext
    exact (hany next.val).1 hfound
  · intro hnone w hw hadjacent
    exact List.find?_eq_none.1 hnone ⟨w, hw⟩ (List.mem_attach _ _) ((hany w).2 hadjacent)

/-- What holds while a plan is made: vertices to pin are open, and a vertex that is closed has no
neighbour among them. -/
structure Frontier (pattern : Store) (unpinned opened : List String) : Prop where
  isOpen : ∀ p ∈ unpinned, p ∈ opened
  closed : ∀ v, v ∉ opened → ∀ w ∈ unpinned, ¬pattern.Adjacent v w

/-- Before anything is closed, all vertices are open. -/
theorem frontier_vertexIds (hpattern : pattern.Consistent) (isUnpinned : String → Bool) :
    Frontier pattern (pattern.vertexIds.filter isUnpinned) pattern.vertexIds where
  isOpen _ hp := (List.mem_filter.1 hp).1
  closed _ hv _ _ hadjacent :=
    hv (Store.mem_vertexIds.2 (hpattern.adjacent_stored hadjacent).1)

theorem Frontier.pin (h : Frontier pattern unpinned opened) (next : String) :
    Frontier pattern (unpinned.erase next) opened where
  isOpen p hp := h.isOpen p (List.mem_of_mem_erase hp)
  closed v hv w hw := h.closed v hv w (List.mem_of_mem_erase hw)

theorem Frontier.close (h : Frontier pattern unpinned opened) {along : String}
    (halong : along ∉ unpinned) (hnone : ∀ w ∈ unpinned, ¬pattern.Adjacent along w) :
    Frontier pattern unpinned (opened.erase along) where
  isOpen p hp := by
    have hne : p ≠ along := by
      rintro rfl
      exact halong hp
    exact (List.mem_erase_of_ne hne).2 (h.isOpen p hp)
  closed v hv := by
    by_cases heq : v = along
    · subst heq
      exact hnone
    · exact h.closed v fun hopen => hv ((List.mem_erase_of_ne heq).2 hopen)

theorem make_of_find?_eq_none {first : String} {others : List String}
    (h : opened.find? (!(first :: others).contains ·) = none) :
    make pattern seeding (first :: others) opened =
      if seeding then do return .seed first (← make pattern seeding others opened)
      else .ok .stuck := by
  rw [make]
  split
  · rfl
  · rename_i heq
    rw [h] at heq
    cases heq

theorem make_of_find?_eq_some {first along : String} {others : List String}
    (h : opened.find? (!(first :: others).contains ·) = some along) :
    make pattern seeding (first :: others) opened = do
      match ← neighborAmong pattern (first :: others) along with
      | some ⟨next, _⟩ =>
        return .extend along next (← make pattern seeding ((first :: others).erase next) opened)
      | none => return .close (← make pattern seeding (first :: others) (opened.erase along)) := by
  rw [make]
  split
  · rename_i heq
    rw [h] at heq
    cases heq
  · rename_i heq
    rw [h] at heq
    cases heq
    rfl

/-- **A plan can be made**, and it pins the vertices that it is made for. -/
theorem make_covers (hpattern : pattern.Consistent) (seeding : Bool)
    (h : Frontier pattern unpinned opened) :
    ∃ plan, make pattern seeding unpinned opened = .ok plan ∧
      Covers pattern seeding unpinned plan := by
  induction unpinned, opened using make.induct seeding with
  | case1 opened => exact ⟨.done, by rw [make], .done⟩
  | case2 opened first others hfind hseeding ih =>
    have hothers : (first :: others).erase first = others := List.erase_cons_head ..
    obtain ⟨rest, hrest, hcovers⟩ := ih (hothers ▸ h.pin first)
    refine ⟨.seed first rest, ?_, .seed hseeding List.mem_cons_self (hothers.symm ▸ hcovers)⟩
    rw [make_of_find?_eq_none hfind, if_pos hseeding, hrest]
    rfl
  | case3 opened first others hfind hseeding =>
    refine ⟨.stuck, ?_, .stuck (Bool.eq_false_iff.2 hseeding) (List.cons_ne_nil _ _) ?_⟩
    · rw [make_of_find?_eq_none hfind, if_neg hseeding]
    · -- every open vertex is still to be pinned, so the others are closed
      intro v hv
      refine h.closed v fun hopen => hv ?_
      have hpinned := List.find?_eq_none.1 hfind v hopen
      rwa [Bool.not_eq_true', Bool.not_eq_false, List.contains_iff_mem] at hpinned
  | case4 opened first others along hfind ihpin ihclose =>
    have halong : along ∉ first :: others := by
      simpa using List.find?_some hfind
    obtain ⟨r, hr, hsome, hnone⟩ := neighborAmong_eq_ok hpattern (first :: others) along
    rw [make_of_find?_eq_some hfind]
    cases r with
    | none =>
      obtain ⟨rest, hrest, hcovers⟩ := ihclose (h.close halong (hnone rfl))
      exact ⟨.close rest, bind_eq_ok_iff.2 ⟨_, hr, bind_eq_ok_iff.2 ⟨rest, hrest, rfl⟩⟩,
        .close hcovers⟩
    | some next =>
      obtain ⟨rest, hrest, hcovers⟩ := ihpin next.val next.property (h.pin next.val)
      exact ⟨.extend along next.val rest,
        bind_eq_ok_iff.2 ⟨_, hr, bind_eq_ok_iff.2 ⟨rest, hrest, rfl⟩⟩,
        .extend halong next.property (hsome _ rfl) hcovers⟩

/-- The vertices that are to be pinned besides one that is joined to a pinned vertex. -/
theorem joined_erase_iff {along next : String} (halong : along ∉ unpinned)
    (hadjacent : pattern.Adjacent along next) :
    (∀ p ∈ unpinned.erase next, pattern.Joined (· ∉ unpinned.erase next) p) ↔
      ∀ p ∈ unpinned, pattern.Joined (· ∉ unpinned) p := by
  have hnext : pattern.Joined (· ∉ unpinned) next := .step (.base halong) hadjacent
  have hbase : ∀ u, u ∉ unpinned.erase next → pattern.Joined (· ∉ unpinned) u := by
    intro u hu
    by_cases heq : u = next
    · exact heq ▸ hnext
    · exact .base fun hmem => hu ((List.mem_erase_of_ne heq).2 hmem)
  constructor
  · intro h p hp
    by_cases herase : p ∈ unpinned.erase next
    · exact (h p herase).mono hbase
    · exact hbase p herase
  · intro h p hp
    exact (h p (List.mem_of_mem_erase hp)).mono fun u hu =>
      .base fun hmem => hu (List.mem_of_mem_erase hmem)

/-- **A plan gets to the end** if it may seed, and otherwise just if pattern edges join all
vertices to pinned ones. -/
theorem Covers.completes_iff {plan : MatchPlan} (h : Covers pattern seeding unpinned plan) :
    plan.completes = true ↔
      seeding = true ∨ ∀ p ∈ unpinned, pattern.Joined (· ∉ unpinned) p := by
  induction h with
  | done => simp [completes]
  | @stuck unpinned hseeding hne hcut =>
    -- the pinned vertices are closed under edges, so none of the others is joined to them
    obtain ⟨p, hp⟩ := List.exists_mem_of_ne_nil _ hne
    simp only [completes, hseeding, Bool.false_eq_true, false_or, false_iff]
    intro hjoined
    exact (hjoined p hp).subset (· ∉ unpinned) (fun _ hu => hu)
      (fun u w hu hadjacent hw => hcut u hu w hw hadjacent) hp
  | close _ ih => exact ih
  | extend halong _ hadjacent _ ih => rw [completes, ih, joined_erase_iff halong hadjacent]
  | seed hseeding _ _ ih => simp [completes, ih, hseeding]

end MatchPlan

end PropertyGraph
