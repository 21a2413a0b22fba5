import Mathlib.Data.List.Perm.Subperm
import PropertyGraph.Proofs.Properties
import PropertyGraph.Proofs.SelfEquality
import PropertyGraph.Element

/-!
# Equality of bags is equality of readings

Bags are compared by the number of their values and by looking up the values of the left one in the right
one. As no key is listed twice, equal numbers leave no room for another key on the right, and so the
readings of all keys are compared. From this follows what equality of bags has in common with equality of
values: the order of the two sides makes no difference, and a bag may differ from itself.

## Main definitions

- `BagEquality` — the laws of equality, for things that carry a bag

## Main results

- `Properties.beq_iff` — equal bags are those that read alike
- `Properties.equality_extensional` — the laws of equality of bags, vertices and edges
-/

namespace PropertyGraph

/-! ## Doubles -/

section

open Float.Model

/-- Doubles that compare as equal are the same, zeros of two signs apart. -/
theorem unpackedFloat_eq_or_zero {x y : UnpackedFloat} (h : x.compare y = some .eq) :
    x = y ∨ ∃ s t, x = .zero s ∧ y = .zero t := by
  cases x with
  | notANumber => cases y <;> cases h
  | infinity s =>
    cases y with
    | infinity t =>
      cases s with
      | positive =>
        cases t with
        | positive => exact .inl rfl
        | negative => cases h
      | negative =>
        cases t with
        | positive => cases h
        | negative => exact .inl rfl
    | notANumber => cases h
    | zero | finite => cases s <;> cases h
  | zero s =>
    cases y with
    | infinity t | finite t => cases t <;> cases h
    | notANumber => cases h
    | zero t => exact .inr ⟨s, t, rfl, rfl⟩
  | finite s m e =>
    cases y with
    | infinity t => cases s <;> cases t <;> cases h
    | notANumber => cases h
    | zero => cases s <;> cases h
    | finite t n f =>
      have hsame (hthen : (compare e f).then (compare m n) = .eq) : e = f ∧ m = n :=
        (Ordering.then_eq_eq.1 hthen).imp Std.LawfulEqOrd.eq_of_compare Std.LawfulEqOrd.eq_of_compare
      cases s with
      | positive =>
        cases t with
        | positive =>
          obtain ⟨rfl, rfl⟩ := hsame (Option.some.inj h)
          exact .inl rfl
        | negative => cases h
      | negative =>
        cases t with
        | positive => cases h
        | negative =>
          obtain ⟨rfl, rfl⟩ := hsame (Ordering.swap_eq_eq.1 (Option.some.inj h))
          exact .inl rfl

theorem float_beq_trans {x y z : Float} (h : (x == y) = true) (h' : (y == z) = true) :
    (x == z) = true := by
  rw [float_beq_iff_compare] at h h' ⊢
  obtain heq | ⟨s, t, hx, hy⟩ := unpackedFloat_eq_or_zero h
  · rwa [heq]
  · obtain heq | ⟨t', u, -, hz⟩ := unpackedFloat_eq_or_zero h'
    · rwa [← heq]
    · rw [hx, hz]
      rfl

end

/-! ## Values -/

namespace Value

mutual

theorem beq_trans : ∀ u v w : Value, beq u v = true → beq v w = true → beq u w = true
  | .string a, v, w => by
    intro h h'
    cases v with
    | string b =>
      cases w with
      | string c => exact BEq.trans h h'
      | _ => cases h'
    | _ => cases h
  | .integer a, v, w => by
    intro h h'
    cases v with
    | integer b =>
      cases w with
      | integer c => exact BEq.trans h h'
      | _ => cases h'
    | _ => cases h
  | .float a, v, w => by
    intro h h'
    cases v with
    | float b =>
      cases w with
      | float c => exact float_beq_trans h h'
      | _ => cases h'
    | _ => cases h
  | .boolean a, v, w => by
    intro h h'
    cases v with
    | boolean b =>
      cases w with
      | boolean c => exact BEq.trans h h'
      | _ => cases h'
    | _ => cases h
  | .timestamp a, v, w => by
    intro h h'
    cases v with
    | timestamp b =>
      cases w with
      | timestamp c => exact BEq.trans h h'
      | _ => cases h'
    | _ => cases h
  | .list as, v, w => by
    intro h h'
    cases v with
    | list bs =>
      cases w with
      | list cs => exact beqItems_trans as bs cs h h'
      | _ => cases h'
    | _ => cases h
  | .map as, v, w => by
    intro h h'
    cases v with
    | map bs =>
      cases w with
      | map cs => exact beqEntries_trans as bs cs h h'
      | _ => cases h'
    | _ => cases h
  | .unset, v, w => by
    intro h h'
    cases v with
    | unset => exact h'
    | _ => cases h

theorem beqItems_trans : ∀ as bs cs : List Value,
    beqItems as bs = true → beqItems bs cs = true → beqItems as cs = true
  | [], bs, cs => by
    intro h h'
    cases bs with
    | nil => exact h'
    | cons => cases h
  | a :: as, bs, cs => by
    intro h h'
    cases bs with
    | nil => cases h
    | cons b bs =>
      cases cs with
      | nil => cases h'
      | cons c cs =>
        rw [beqItems, Bool.and_eq_true] at h h' ⊢
        exact ⟨beq_trans a b c h.1 h'.1, beqItems_trans as bs cs h.2 h'.2⟩

theorem beqEntries_trans : ∀ as bs cs : List (String × Value),
    beqEntries as bs = true → beqEntries bs cs = true → beqEntries as cs = true
  | [], bs, cs => by
    intro h h'
    cases bs with
    | nil => exact h'
    | cons => cases h
  | (k, a) :: as, bs, cs => by
    intro h h'
    cases bs with
    | nil => cases h
    | cons b bs =>
      cases cs with
      | nil => cases h'
      | cons c cs =>
        rw [beqEntries, Bool.and_eq_true, Bool.and_eq_true] at h h' ⊢
        exact ⟨⟨BEq.trans h.1.1 h'.1.1, beq_trans a b.2 c.2 h.1.2 h'.1.2⟩,
          beqEntries_trans as bs cs h.2 h'.2⟩

end

instance : PartialEquivBEq Value where
  symm {v w} h := (beq_comm w v).trans h
  trans {u v w} := beq_trans u v w

end Value

/-! ## Bags -/

namespace Properties

variable {p q r : Properties}

/-- The bags read alike: under each key both have no value, or both have values that are equal. -/
def ReadAlike (p q : Properties) : Prop :=
  ∀ k, Option.Rel (fun v w => (v == w) = true) (p.get? k) (q.get? k)

theorem ReadAlike.symm (h : p.ReadAlike q) : q.ReadAlike p := by
  intro k
  generalize p.get? k = v, q.get? k = w, h k = hk
  cases hk with
  | none => exact .none
  | some hvw => exact .some (BEq.symm hvw)

theorem ReadAlike.trans (h : p.ReadAlike q) (h' : q.ReadAlike r) : p.ReadAlike r := by
  intro k
  have hk := h k
  have hk' := h' k
  revert hk hk'
  generalize p.get? k = u, q.get? k = v, r.get? k = w
  rintro (huv | -) (hvw | -)
  · exact .some (BEq.trans huv hvw)
  · exact .none

/-- Bags that read alike have values under the same keys. -/
theorem ReadAlike.mem_keys_iff (h : p.ReadAlike q) {k : String} :
    k ∈ p.toList.map (·.1) ↔ k ∈ q.toList.map (·.1) := by
  rw [mem_keys_toList_iff, mem_keys_toList_iff]
  have hk := h k
  revert hk
  generalize p.get? k = v, q.get? k = w
  rintro (- | -)
  · simp
  · simp

/-- The values on the left are found on the right. -/
theorem all_toList_iff : (p.toList.all fun e => q.get? e.1 == some e.2) = true ↔
    ∀ k v, p.get? k = some v → ∃ w, q.get? k = some w ∧ (v == w) = true := by
  rw [List.all_eq_true]
  constructor
  · intro h k v hv
    have hfound := h (k, v) (mem_toList_iff.2 hv)
    dsimp only at hfound
    cases hw : q.get? k with
    | none =>
      rw [hw] at hfound
      cases hfound
    | some w =>
      have hwv : (w == v) = true := by rwa [hw] at hfound
      exact ⟨w, rfl, BEq.symm hwv⟩
  · rintro h ⟨k, v⟩ he
    obtain ⟨w, hw, hvw⟩ := h k v (mem_toList_iff.1 he)
    have hwv : (w == v) = true := BEq.symm hvw
    dsimp only
    rwa [hw]

/-- A bag has as many values as keys. -/
theorem size_eq_length_keys (p : Properties) : p.size = (p.toList.map (·.1)).length :=
  (List.length_map _).symm

/-- **Equal bags are those that read alike.** -/
theorem beq_iff_readAlike : (p == q) = true ↔ p.ReadAlike q := by
  change (p.size == q.size && p.toList.all fun e => q.get? e.1 == some e.2) = true ↔ _
  rw [Bool.and_eq_true, all_toList_iff, beq_iff_eq, size_eq_length_keys, size_eq_length_keys]
  constructor
  · rintro ⟨hsize, hfound⟩ k
    have hsub : p.toList.map (·.1) ⊆ q.toList.map (·.1) := by
      intro k hk
      obtain ⟨v, hv⟩ := mem_keys_toList_iff.1 hk
      obtain ⟨w, hw, -⟩ := hfound k v hv
      exact mem_keys_toList_iff.2 ⟨w, hw⟩
    cases hv : p.get? k with
    | some v =>
      obtain ⟨w, hw, hvw⟩ := hfound k v hv
      rw [hw]
      exact .some hvw
    | none =>
      -- a key on the right only would be one too many
      have hperm := (List.subperm_of_subset p.nodup_keys_toList hsub).perm_of_length_le hsize.ge
      have hnone : q.get? k = none := by
        refine Option.eq_none_iff_forall_ne_some.2 fun w hw => ?_
        obtain ⟨v, hv'⟩ := mem_keys_toList_iff.1 (hperm.mem_iff.2 (mem_keys_toList_iff.2 ⟨w, hw⟩))
        exact nomatch hv.symm.trans hv'
      rw [hnone]
      exact .none
  · intro h
    constructor
    · exact ((List.perm_ext_iff_of_nodup p.nodup_keys_toList q.nodup_keys_toList).2
        fun k => h.mem_keys_iff).length_eq
    · intro k v hv
      have hk := h k
      rw [hv] at hk
      cases hw : q.get? k with
      | none =>
        rw [hw] at hk
        cases hk
      | some w =>
        rw [hw] at hk
        cases hk with
        | some hvw => exact ⟨w, rfl, hvw⟩

instance : PartialEquivBEq Properties where
  symm h := beq_iff_readAlike.2 (beq_iff_readAlike.1 h).symm
  trans h h' := beq_iff_readAlike.2 ((beq_iff_readAlike.1 h).trans (beq_iff_readAlike.1 h'))

/-- Bags with the same readings are equal to the same bags. -/
theorem beq_congr_left (h : ∀ k, p.get? k = q.get? k) : (p == r) = (q == r) := by
  rw [Bool.eq_iff_iff, beq_iff_readAlike, beq_iff_readAlike]
  simp only [ReadAlike, h]

/-- A bag differs from itself if a value does. -/
theorem beq_self_iff : (p == p) = true ↔ ∀ k v, p.get? k = some v → v.Numeric := by
  rw [beq_iff_readAlike]
  refine forall_congr' fun k => ?_
  cases p.get? k with
  | none => exact iff_of_true .none fun _ h => nomatch h
  | some v =>
    rw [Option.rel_some_some]
    exact (Value.beq_self_iff v).trans (by simp)

end Properties

/-! ## What carries a bag -/

/-- **The laws of equality** for things that carry a bag. The order of the two sides makes no difference,
equality passes on, only the readings of the bag are seen, and a thing differs from itself just if there is
a double inside a value of its bag that is not a number. -/
structure BagEquality (α : Type) [BEq α] (bag : α → Properties) (withBag : α → Properties → α) :
    Prop where
  comm : ∀ a b : α, (a == b) = (b == a)
  trans : ∀ a b c : α, (a == b) = true → (b == c) = true → (a == c) = true
  set_unset : ∀ (a b : α) k, (bag a).get? k = none →
    (withBag a ((bag a).set k .unset) == b) = (a == b)
  normalize : ∀ a b : α, (withBag a (bag a).normalize == b) = (a == b)
  self_iff : ∀ a : α, (a == a) = true ↔ ∀ k v, (bag a).get? k = some v → v.Numeric

/-- Things that are equal if their identities are the same and their bags are equal obey the laws. -/
theorem BagEquality.of_identity {α ι : Type} [BEq α] {bag : α → Properties}
    {withBag : α → Properties → α} (identity : α → ι)
    (hbeq : ∀ a b : α, (a == b) = true ↔ identity a = identity b ∧ (bag a == bag b) = true)
    (hidentity : ∀ a p, identity (withBag a p) = identity a)
    (hbag : ∀ a p, bag (withBag a p) = p) : BagEquality α bag withBag := by
  have hcongr {a : α} {p : Properties} (h : ∀ k, p.get? k = (bag a).get? k) (b : α) :
      (withBag a p == b) = (a == b) := by
    rw [Bool.eq_iff_iff, hbeq, hbeq, hidentity, hbag, Properties.beq_congr_left h]
  constructor
  · intro a b
    rw [Bool.eq_iff_iff, hbeq, hbeq, eq_comm, BEq.comm (a := bag a)]
  · intro a b c hab hbc
    rw [hbeq] at hab hbc ⊢
    exact ⟨hab.1.trans hbc.1, BEq.trans hab.2 hbc.2⟩
  · exact fun a b k hk => hcongr (Properties.get?_set_unset hk) b
  · exact fun a b => hcongr (bag a).get?_normalize b
  · intro a
    rw [hbeq, Properties.beq_self_iff]
    exact and_iff_right rfl

theorem Vertex.beq_iff {v w : Vertex} :
    (v == w) = true ↔ v.id = w.id ∧ (v.properties == w.properties) = true := by
  change (v.id == w.id && v.properties == w.properties) = true ↔ _
  rw [Bool.and_eq_true, beq_iff_eq]

theorem Edge.beq_iff {e f : Edge} :
    (e == f) = true ↔ e.key = f.key ∧ (e.properties == f.properties) = true := by
  change (e.key == f.key && e.properties == f.properties) = true ↔ _
  rw [Bool.and_eq_true, beq_iff_eq]

namespace Properties

/-- **Equality of bags is equality of readings.** Bags are equal just if under each key both have no value
or both have values that are equal. So equality of bags obeys the laws, and so does equality of vertices
and of edges, which have an identity besides. -/
theorem equality_extensional :
    (∀ p q : Properties, (p == q) = true ↔
      ∀ k, Option.Rel (fun v w => (v == w) = true) (p.get? k) (q.get? k)) ∧
    BagEquality Properties id (fun _ p => p) ∧
    BagEquality Vertex Vertex.properties Vertex.withProperties ∧
    BagEquality Edge Edge.properties Edge.withProperties :=
  ⟨fun _ _ => beq_iff_readAlike,
    .of_identity (fun _ => ()) (fun _ _ => (and_iff_right rfl).symm) (fun _ _ => rfl) fun _ _ => rfl,
    .of_identity Vertex.id (fun _ _ => Vertex.beq_iff) (fun _ _ => rfl) fun _ _ => rfl,
    .of_identity Edge.key (fun _ _ => Edge.beq_iff) (fun _ _ => rfl) fun _ _ => rfl⟩

/-- A marker is not seen, zeros of two signs are equal, and a double inside a map is seen that is not a
number. -/
theorem equality_extensional_markers :
    let p := Properties.ofList [("a", .list [.float 0.0])]
    let q := (Properties.ofList [("a", .list [.float (-0.0)])]).set "gone" .unset
    let r := p.set "b" (.map [("x", .float (0.0 / 0.0))])
    (q == p) = true ∧ (r == r) = false := by
  intro p q r
  obtain ⟨-, hlaws, -, -⟩ := equality_extensional
  constructor
  · have hmarker := hlaws.set_unset (.ofList [("a", .list [.float (-0.0)])]) p "gone" rfl
    exact hmarker.trans (by decide +kernel)
  · refine Bool.eq_false_iff.2 fun h => ?_
    have hnumber : (0.0 / 0.0 : Float).isNaN = false :=
      (hlaws.self_iff r).1 h "b" (.map [("x", .float (0.0 / 0.0))]) rfl _
        (.entry List.mem_cons_self .self)
    exact absurd hnumber (by decide +kernel)

end Properties

end PropertyGraph
