import Mathlib
import PropertyGraph.Proofs.LooseOrder
import PropertyGraph.Proofs.Value

/-!
# Values that equal themselves

A double that is not a number differs from itself, and so does everything that has one inside, at any
depth of lists and maps. Loose equality does not look through lists: equal values are lists of lists to
the same depth, so a list equals none of its items.

## Main definitions

- `Value.Numeric` — no double inside a value is not a number
- `Value.listDepth` — how deep lists stand in lists

## Main results

- `Value.looseEq_self_iff`
- `Value.looseEq_item` — a list does not equal an item of its own
-/

namespace PropertyGraph

theorem float_beq_self_iff (x : Float) : (x == x) = true ↔ x.isNaN = false := by
  rw [Float.beq_self_iff, Float.isNaN_eq_decide_eq_nan, decide_eq_false_iff_not]

theorem isNaN_of_isFinite {x : Float} (h : x.isFinite = true) : x.isNaN = false := by
  change x.toModel.unpack.isFinite = true at h
  change x.toModel.unpack.isNaN = false
  cases hx : x.toModel.unpack with
  | notANumber =>
    rw [hx] at h
    cases h
  | _ => rfl

namespace Value

/-- No double inside the value is not a number. -/
def Numeric (v : Value) : Prop := ∀ x, Inside (.float x) v → x.isNaN = false

theorem numeric_list_iff {items : List Value} : (list items).Numeric ↔ ∀ v ∈ items, v.Numeric := by
  constructor
  · exact fun h v hv x hx => h x (.item hv hx)
  · intro h x hx
    cases hx with
    | item hv hx => exact h _ hv x hx

theorem numeric_map_iff {entries : List (String × Value)} :
    (map entries).Numeric ↔ ∀ e ∈ entries, e.2.Numeric := by
  constructor
  · exact fun h e he x hx => h x (.entry he hx)
  · intro h x hx
    cases hx with
    | entry he hx => exact h _ he x hx

theorem numeric_of_atom {v : Value} (h : ∀ x, ¬Inside (.float x) v) : v.Numeric :=
  fun x hx => absurd hx (h x)

mutual

theorem beq_self_iff : ∀ v : Value, beq v v = true ↔ v.Numeric
  | .string s => iff_of_true BEq.rfl (numeric_of_atom fun _ h => nomatch h)
  | .integer n => iff_of_true BEq.rfl (numeric_of_atom fun _ h => nomatch h)
  | .boolean b => iff_of_true BEq.rfl (numeric_of_atom fun _ h => nomatch h)
  | .timestamp t => iff_of_true BEq.rfl (numeric_of_atom fun _ h => nomatch h)
  | .unset => iff_of_true rfl (numeric_of_atom fun _ h => nomatch h)
  | .float x => by
    rw [beq, float_beq_self_iff]
    constructor
    · intro h y hy
      cases hy
      exact h
    · exact fun h => h x .self
  | .list items => by rw [beq, beqItems_self_iff items, numeric_list_iff]
  | .map entries => by rw [beq, beqEntries_self_iff entries, numeric_map_iff]

theorem beqItems_self_iff : ∀ items : List Value,
    beqItems items items = true ↔ ∀ v ∈ items, v.Numeric
  | [] => iff_of_true rfl fun _ h => nomatch h
  | v :: items => by
    rw [beqItems, Bool.and_eq_true, beq_self_iff v, beqItems_self_iff items, List.forall_mem_cons]

theorem beqEntries_self_iff : ∀ entries : List (String × Value),
    beqEntries entries entries = true ↔ ∀ e ∈ entries, e.2.Numeric
  | [] => iff_of_true rfl fun _ h => nomatch h
  | (k, v) :: entries => by
    rw [beqEntries, Bool.and_eq_true, Bool.and_eq_true, beq_self_iff v, beqEntries_self_iff entries,
      List.forall_mem_cons]
    exact and_congr_left fun _ => and_iff_right BEq.rfl

end

mutual

/-- **A value equals itself just if no double inside it is not a number.** -/
theorem looseEq_self_iff : ∀ v : Value, v.looseEq v = true ↔ v.Numeric
  | .list items => by rw [looseEq, looseEqItems_self_iff items, numeric_list_iff]
  | .string s => beq_self_iff (.string s)
  | .integer n => beq_self_iff (.integer n)
  | .boolean b => beq_self_iff (.boolean b)
  | .timestamp t => beq_self_iff (.timestamp t)
  | .unset => beq_self_iff .unset
  | .float x => beq_self_iff (.float x)
  | .map entries => beq_self_iff (.map entries)

theorem looseEqItems_self_iff : ∀ items : List Value,
    looseEqItems items items = true ↔ ∀ v ∈ items, v.Numeric
  | [] => iff_of_true rfl fun _ h => nomatch h
  | v :: items => by
    rw [looseEqItems, Bool.and_eq_true, looseEq_self_iff v, looseEqItems_self_iff items,
      List.forall_mem_cons]

end

/-! ## Lists in lists -/

mutual

/-- How deep lists stand in lists. -/
def listDepth : Value → Nat
  | .list items => listDepths items + 1
  | _ => 0
termination_by structural v => v

/-- The deepest of some values. -/
def listDepths : List Value → Nat
  | [] => 0
  | v :: items => max (listDepth v) (listDepths items)
termination_by structural items => items

end

theorem listDepth_le_of_mem {v : Value} {items : List Value} (h : v ∈ items) :
    v.listDepth ≤ listDepths items := by
  induction items with
  | nil => cases h
  | cons w items ih =>
    rw [listDepths]
    obtain rfl | h := List.mem_cons.1 h
    · exact Nat.le_max_left _ _
    · exact Nat.le_trans (ih h) (Nat.le_max_right _ _)

mutual

/-- Equal values are nested to the same depth. -/
theorem listDepth_eq_of_looseEq : ∀ v w : Value, v.looseEq w = true → v.listDepth = w.listDepth
  | .list as, w => by
    intro h
    cases w with
    | list bs => rw [listDepth, listDepth, listDepths_eq_of_looseEqItems as bs h]
    | _ => cases h
  | .string _, w | .integer _, w | .float _, w | .boolean _, w | .timestamp _, w | .map _, w
  | .unset, w => by
    intro h
    cases w with
    | list bs => cases h
    | _ => rfl

theorem listDepths_eq_of_looseEqItems : ∀ as bs : List Value,
    looseEqItems as bs = true → listDepths as = listDepths bs
  | [], bs => by
    intro h
    cases bs with
    | nil => rfl
    | cons => cases h
  | a :: as, bs => by
    intro h
    cases bs with
    | nil => cases h
    | cons b bs =>
      rw [looseEqItems, Bool.and_eq_true] at h
      rw [listDepths, listDepths, listDepth_eq_of_looseEq a b h.1,
        listDepths_eq_of_looseEqItems as bs h.2]

end

/-- **A list equals none of its items.** -/
theorem looseEq_item {v : Value} {items : List Value} (h : v ∈ items) :
    v.looseEq (.list items) = false := by
  rw [← Bool.not_eq_true]
  intro heq
  have hdepth := listDepth_eq_of_looseEq v (.list items) heq
  have hle := listDepth_le_of_mem h
  rw [listDepth] at hdepth
  omega

end Value

end PropertyGraph
