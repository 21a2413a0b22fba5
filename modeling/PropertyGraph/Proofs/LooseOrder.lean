import PropertyGraph.Proofs.LooseEquality

/-!
# Loose order and loose equality

The two comparisons across representations are stated by different case distinctions: the order
knows nothing of maps and deletion markers, and gives up on a list at the first pair of items that
have no order. Still they never contradict each other. Values that have an order are loosely equal
just if the order says so, and compared the other way round they have the opposite order.
-/

namespace PropertyGraph

/-! ## Doubles -/

theorem float_lt_iff {x y : Float} :
    x < y ↔ x.toModel.unpack.compare y.toModel.unpack = some .lt := by
  change decide (x.toModel < y.toModel) = true ↔ _
  rw [decide_eq_true_iff]
  change (x.toModel.unpack.compare y.toModel.unpack == some .lt) = true ↔ _
  rw [beq_iff_eq]

theorem float_beq_iff_compare {x y : Float} :
    (x == y) = true ↔ x.toModel.unpack.compare y.toModel.unpack = some .eq := by
  change (x.toModel.unpack.compare y.toModel.unpack == some .eq) = true ↔ _
  rw [beq_iff_eq]

/-- The order of doubles is the comparison of what they stand for. -/
theorem compareFloat_eq_compare (x y : Float) :
    compareFloat x y = x.toModel.unpack.compare y.toModel.unpack := by
  rw [compareFloat]
  simp only [float_lt_iff, float_beq_iff_compare,
    unpackedFloat_compare_swap x.toModel.unpack y.toModel.unpack]
  rcases x.toModel.unpack.compare y.toModel.unpack with _ | ⟨_ | _ | _⟩ <;> rfl

theorem compareFloat_swap (x y : Float) :
    compareFloat y x = (compareFloat x y).map Ordering.swap := by
  rw [compareFloat_eq_compare, compareFloat_eq_compare, unpackedFloat_compare_swap]

/-- Doubles are equal just if their order says so; values that are not numbers have none. -/
theorem float_beq_iff {x y : Float} : (x == y) = true ↔ compareFloat x y = some .eq := by
  rw [compareFloat_eq_compare, float_beq_iff_compare]

/-! ## Instants -/

namespace Instant

instance : Std.OrientedOrd Instant where
  eq_swap {a b} := by
    change (compare a.seconds b.seconds).then (compare a.nanos b.nanos) =
      ((compare b.seconds a.seconds).then (compare b.nanos a.nanos)).swap
    rw [Ordering.swap_then, ← Std.OrientedCmp.eq_swap, ← Std.OrientedCmp.eq_swap]

instance : Std.LawfulEqOrd Instant where
  compare_self {a} := by
    change (compare a.seconds a.seconds).then (compare a.nanos a.nanos) = .eq
    rw [Std.ReflOrd.compare_self, Std.ReflOrd.compare_self]
    rfl
  eq_of_compare {a b} h := by
    have hparts : compare a.seconds b.seconds = .eq ∧ compare a.nanos b.nanos = .eq :=
      Ordering.then_eq_eq.1 h
    cases a
    cases b
    rw [Std.LawfulEqOrd.compare_eq_iff_eq, Std.LawfulEqOrd.compare_eq_iff_eq] at hparts
    rw [mk.injEq]
    exact hparts

end Instant

/-! ## Values -/

theorem beq_iff_compare_eq {α : Type} [BEq α] [LawfulBEq α] [Ord α] [Std.LawfulEqOrd α] (a b : α) :
    (a == b) = true ↔ compare a b = .eq := by
  rw [beq_iff_eq, Std.LawfulEqOrd.compare_eq_iff_eq]

namespace Value

mutual

/-- **The order is reversed** when two values change places. -/
theorem looseCompare_swap : ∀ v w : Value, looseCompare w v = (looseCompare v w).map .swap
  | .string a, w => by
    cases w with
    | string b => exact congrArg some Std.OrientedCmp.eq_swap
    | timestamp b =>
      rw [looseCompare, looseCompare, Option.map_map]
      exact congrArg (Option.map · (Instant.parse? a)) (funext fun _ => Std.OrientedCmp.eq_swap)
    | _ => rfl
  | .integer a, w => by
    cases w with
    | integer b => exact congrArg some Std.OrientedCmp.eq_swap
    | float b => exact compareFloat_swap _ _
    | _ => rfl
  | .float a, w => by
    cases w with
    | integer b | float b => exact compareFloat_swap _ _
    | _ => rfl
  | .boolean a, w => by
    cases w with
    | boolean b => exact congrArg some Std.OrientedCmp.eq_swap
    | _ => rfl
  | .timestamp a, w => by
    cases w with
    | string b =>
      rw [looseCompare, looseCompare, Option.map_map]
      exact congrArg (Option.map · (Instant.parse? b)) (funext fun _ => Std.OrientedCmp.eq_swap)
    | timestamp b => exact congrArg some Std.OrientedCmp.eq_swap
    | _ => rfl
  | .list as, w => by
    cases w with
    | list bs => exact looseCompareItems_swap as bs
    | _ => rfl
  | .map _, w | .unset, w => by cases w <;> rfl

theorem looseCompareItems_swap :
    ∀ as bs : List Value, looseCompareItems bs as = (looseCompareItems as bs).map .swap
  | [], bs => by cases bs <;> rfl
  | a :: as, bs => by
    cases bs with
    | nil => rfl
    | cons b bs =>
      rw [looseCompareItems, looseCompareItems, looseCompare_swap a b,
        looseCompareItems_swap as bs]
      rcases looseCompare a b with _ | ⟨_ | _ | _⟩ <;> rfl

end

mutual

/-- **Where there is an order, equality is part of it.** -/
theorem looseEq_iff : ∀ (v w : Value) {o : Ordering}, looseCompare v w = some o →
    (looseEq v w = true ↔ o = .eq)
  | .string a, w, o, h => by
    cases w with
    | string b =>
      cases h
      exact beq_iff_compare_eq a b
    | timestamp b =>
      obtain ⟨t, ht, rfl⟩ := Option.map_eq_some_iff.1 h
      rw [looseEq, ht, beq_iff_eq, Option.some.injEq, Std.LawfulEqOrd.compare_eq_iff_eq]
    | _ => cases h
  | .integer a, w, o, h => by
    cases w with
    | integer b =>
      cases h
      have hint : (a == b) = true ↔ compare a.toInt b.toInt = .eq := by
        rw [beq_iff_eq, Std.LawfulEqOrd.compare_eq_iff_eq, Int64.toInt_inj]
      exact hint
    | float b => rw [looseEq, float_beq_iff, show compareFloat _ _ = some o from h, Option.some.injEq]
    | _ => cases h
  | .float a, w, o, h => by
    cases w with
    | integer b =>
      rw [looseEq, float_beq_comm, float_beq_iff, show compareFloat _ _ = some o from h,
        Option.some.injEq]
    | float b =>
      have hcompare : compareFloat a b = some o := h
      refine float_beq_iff.trans ?_
      rw [hcompare, Option.some.injEq]
    | _ => cases h
  | .boolean a, w, o, h => by
    cases w with
    | boolean b =>
      cases h
      exact beq_iff_compare_eq a b
    | _ => cases h
  | .timestamp a, w, o, h => by
    cases w with
    | string b =>
      obtain ⟨t, ht, rfl⟩ := Option.map_eq_some_iff.1 h
      rw [looseEq, ht, beq_iff_eq, Option.some.injEq, Std.LawfulEqOrd.compare_eq_iff_eq, eq_comm]
    | timestamp b =>
      cases h
      exact beq_iff_compare_eq a b
    | _ => cases h
  | .list as, w, o, h => by
    cases w with
    | list bs => exact looseEqItems_iff as bs h
    | _ => cases h
  | .map _, _, _, h | .unset, _, _, h => by cases h

theorem looseEqItems_iff : ∀ (as bs : List Value) {o : Ordering},
    looseCompareItems as bs = some o → (looseEqItems as bs = true ↔ o = .eq)
  | [], bs, o, h => by cases bs <;> cases h <;> simp [looseEqItems]
  | a :: as, bs, o, h => by
    cases bs with
    | nil =>
      cases h
      simp [looseEqItems]
    | cons b bs =>
      rw [looseCompareItems] at h
      rw [looseEqItems, Bool.and_eq_true]
      split at h
      · -- equal items leave it to the rest
        rename_i hfirst
        rw [looseEq_iff a b hfirst, looseEqItems_iff as bs h]
        simp
      · rename_i hfirst
        rw [looseEq_iff a b h]
        constructor
        · exact And.left
        · rintro rfl
          exact absurd h hfirst

end

end Value

end PropertyGraph
