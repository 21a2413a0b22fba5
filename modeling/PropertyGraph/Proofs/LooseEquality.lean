import PropertyGraph.Value.Loose

/-!
# Loose equality is symmetric

A filter compares what it allows with the value that it reads, a query the other way round. Both
get the same answer: doubles are equal in either order, zeros of both signs and values that are
not numbers included, and the comparisons across representations are stated alike for both orders.
-/

namespace PropertyGraph

/-! ## Doubles -/

section

open Float.Model

/-- Two doubles compared in the other order: the order is swapped, if there is one. -/
theorem unpackedFloat_compare_swap (x y : UnpackedFloat) :
    y.compare x = (x.compare y).map Ordering.swap := by
  cases x with
  | notANumber => cases y <;> rfl
  | infinity s =>
    cases y with
    | infinity t => cases s <;> cases t <;> rfl
    | notANumber => rfl
    | zero | finite => cases s <;> rfl
  | zero s =>
    cases y with
    | infinity t | finite t => cases t <;> rfl
    | notANumber | zero => rfl
  | finite s m e =>
    cases y with
    | infinity t => cases s <;> cases t <;> rfl
    | notANumber => rfl
    | zero => cases s <;> rfl
    | finite t n f =>
      -- magnitudes are compared by exponent and then by mantissa
      have hswap : (compare f e).then (compare n m) =
          ((compare e f).then (compare m n)).swap := by
        rw [Ordering.swap_then, ← Std.OrientedCmp.eq_swap, ← Std.OrientedCmp.eq_swap]
      cases s with
      | positive =>
        cases t with
        | positive => exact congrArg some hswap
        | negative => rfl
      | negative =>
        cases t with
        | positive => rfl
        | negative => exact congrArg (some ·.swap) hswap

theorem float_beq_comm (x y : Float) : (x == y) = (y == x) := by
  change (x.toModel.unpack.compare y.toModel.unpack == some .eq) =
    (y.toModel.unpack.compare x.toModel.unpack == some .eq)
  rw [unpackedFloat_compare_swap x.toModel.unpack]
  rcases x.toModel.unpack.compare y.toModel.unpack with _ | ⟨_ | _ | _⟩ <;> rfl

end

/-! ## Values -/

namespace Value

mutual

theorem beq_comm : ∀ v w : Value, beq v w = beq w v
  | .string a, w => by
    cases w with
    | string b => exact BEq.comm
    | _ => rfl
  | .integer a, w => by
    cases w with
    | integer b => exact BEq.comm
    | _ => rfl
  | .float a, w => by
    cases w with
    | float b => exact float_beq_comm a b
    | _ => rfl
  | .boolean a, w => by
    cases w with
    | boolean b => exact BEq.comm
    | _ => rfl
  | .timestamp a, w => by
    cases w with
    | timestamp b => exact BEq.comm
    | _ => rfl
  | .list as, w => by
    cases w with
    | list bs => exact beqItems_comm as bs
    | _ => rfl
  | .map as, w => by
    cases w with
    | map bs => exact beqEntries_comm as bs
    | _ => rfl
  | .unset, w => by cases w <;> rfl

theorem beqItems_comm : ∀ as bs : List Value, beqItems as bs = beqItems bs as
  | [], bs => by cases bs <;> rfl
  | a :: as, bs => by
    cases bs with
    | nil => rfl
    | cons b bs => rw [beqItems, beqItems, beq_comm a b, beqItems_comm as bs]

theorem beqEntries_comm : ∀ as bs : List (String × Value), beqEntries as bs = beqEntries bs as
  | [], bs => by cases bs <;> rfl
  | (k, a) :: as, bs => by
    cases bs with
    | nil => rfl
    | cons b bs =>
      rw [beqEntries, beqEntries, beq_comm a b.2, beqEntries_comm as bs, BEq.comm (a := k)]

end

mutual

/-- **Loose equality is symmetric.** -/
theorem looseEq_comm : ∀ v w : Value, looseEq v w = looseEq w v
  | .string a, w => by
    cases w with
    | timestamp b => rfl
    | _ => exact beq_comm _ _
  | .integer a, w => by
    cases w with
    | float b => rfl
    | _ => exact beq_comm _ _
  | .float a, w => by
    cases w with
    | integer b => rfl
    | _ => exact beq_comm _ _
  | .timestamp a, w => by
    cases w with
    | string b => rfl
    | _ => exact beq_comm _ _
  | .list as, w => by
    cases w with
    | list bs => exact looseEqItems_comm as bs
    | _ => rfl
  | .boolean _, w | .map _, w | .unset, w => by cases w <;> exact beq_comm _ _

theorem looseEqItems_comm : ∀ as bs : List Value, looseEqItems as bs = looseEqItems bs as
  | [], bs => by cases bs <;> rfl
  | a :: as, bs => by
    cases bs with
    | nil => rfl
    | cons b bs => rw [looseEqItems, looseEqItems, looseEq_comm a b, looseEqItems_comm as bs]

end

end Value

end PropertyGraph
