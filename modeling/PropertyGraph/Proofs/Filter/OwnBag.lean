import PropertyGraph.Proofs.Filter.Construction
import PropertyGraph.Proofs.SelfEquality

/-!
# Bags as filters for themselves

A bag states a filter: each of its values is a condition. The bag need not satisfy them itself. A list
states its items as allowed values, and a list equals none of its items; and a value with a double inside
that is not a number does not equal itself.

## Main results

- `AttributeFilter.ofProperties_accepts_self` — the bags that satisfy the filter that they state
-/

namespace PropertyGraph

/-- A value is among the values that it allows, unless it is a list or differs from itself. -/
theorem Value.exists_choice_looseEq_iff (v : Value) :
    (∃ a ∈ v.choices, a.looseEq v = true) ↔ (∀ items, v ≠ .list items) ∧ v.Numeric := by
  have hatom (h : v.choices = [v]) : (∃ a ∈ v.choices, a.looseEq v = true) ↔ v.Numeric := by
    rw [h, ← looseEq_self_iff]
    simp
  cases v with
  | list items =>
    constructor
    · rintro ⟨a, ha, hequal⟩
      exact absurd hequal (Bool.eq_false_iff.1 (looseEq_item ha))
    · exact fun h => absurd rfl (h.1 items)
  | _ => exact (hatom rfl).trans (and_iff_right fun _ h => nomatch h).symm

namespace AttributeFilter

variable {p : Properties}

/-- Without pattern keys, a bag states a filter, and satisfies what each of its values asks. -/
theorem exists_ofProperties (hplain : ∀ k v, p.get? k = some v → isPatternKey k = false) :
    ∃ f, ofProperties p = .ok f ∧ f.Holds p.toList := by
  have hsuccess : ∃ f, empty.insertAll p.toList = .ok f := insertAll_isOk_iff.2 fun e he =>
    ⟨_, Condition.ofValue_of_plain (hplain e.1 e.2 (Properties.mem_toList_iff.1 he))⟩
  obtain ⟨f, hf⟩ := hsuccess
  exact ⟨f, hf, holds_insertAll hf⟩

/-- **A bag satisfies the filter that it states** just if no value of it is a list and no double inside
one is not a number. Where no key is a pattern key, there always is such a filter. -/
theorem ofProperties_accepts_self (hplain : ∀ k v, p.get? k = some v → isPatternKey k = false) :
    ∃ f, ofProperties p = .ok f ∧
      (f.accepts p = true ↔
        ∀ k v, p.get? k = some v → (∀ items, v ≠ .list items) ∧ v.Numeric) := by
  obtain ⟨f, hf, hholds⟩ := exists_ofProperties hplain
  refine ⟨f, hf, ?_⟩
  rw [accepts, acceptsIgnoring_iff hholds]
  refine forall_congr' fun k => forall_congr' fun v => ?_
  -- no key is stated twice, so every value of the bag counts
  rw [lastCall_iff_mem p.nodup_keys_toList, Properties.mem_toList_iff]
  refine imp_congr_right fun hv => ?_
  rw [Properties.satisfies_plain_iff (hplain k v hv), hv, ← v.exists_choice_looseEq_iff]
  exact ⟨fun h => h List.not_mem_nil, fun h _ => h⟩

/-- A list inside a map does no harm, and a list of its own does. -/
theorem ofProperties_accepts_self_nested :
    let own : Properties := .ofList [("gone", .unset), ("size", .map [("x", .list [.integer 1, .unset])])]
    let listed := own.set "tags" (.list [.string "a"])
    (∃ f, ofProperties own = .ok f ∧ f.accepts own = true) ∧
      ∃ f, ofProperties listed = .ok f ∧ f.accepts listed = false := by
  intro own listed
  have hplain {p : Properties} (h : p.toList.all (!isPatternKey ·.1) = true) :
      ∀ k v, p.get? k = some v → isPatternKey k = false := by
    intro k v hv
    simpa using List.all_eq_true.1 h _ (Properties.mem_toList_iff.2 hv)
  constructor
  · obtain ⟨f, hf, haccepts⟩ := ofProperties_accepts_self (p := own) (hplain (by decide +kernel))
    refine ⟨f, hf, haccepts.2 fun k v hv => ?_⟩
    have hlist : own.toList = [("size", .map [("x", .list [.integer 1, .unset])])] := rfl
    rw [← Properties.mem_toList_iff, hlist] at hv
    cases List.mem_singleton.1 hv
    exact ⟨fun _ h => (nomatch h), (Value.looseEq_self_iff _).1 (by decide +kernel)⟩
  · obtain ⟨f, hf, haccepts⟩ := ofProperties_accepts_self (p := listed) (hplain (by decide +kernel))
    refine ⟨f, hf, Bool.eq_false_iff.2 fun h => ?_⟩
    exact (haccepts.1 h "tags" (.list [.string "a"]) rfl).1 _ rfl

end AttributeFilter

end PropertyGraph
