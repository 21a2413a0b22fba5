import PropertyGraph.Properties
import PropertyGraph.Proofs.SortedMap

/-!
# Merging property bags

A change acts on a bag key by key: a marker deletes, a value replaces what is there or fills a
gap, and a key that the change does not name stays. `Properties.merge` visits the entries of the
change one after another; since no key is visited twice, the visits do not interfere.

## Main definitions

- `mergedValue` — what a change makes of the reading of one key
- `Properties.MarkerFree` — no entry of a bag is a deletion marker
-/

namespace PropertyGraph

/-- What a change makes of the reading of one key. -/
def mergedValue (stored : Option Value) (change : Option Value) (overwrite : Bool) : Option Value :=
  match change with
  | none => stored
  | some v =>
    if v.isUnset then none
    else if overwrite || stored.isNone then some v
    else stored

namespace Value

theorem isUnset_iff {v : Value} : v.isUnset = true ↔ v = .unset := by
  cases v <;> simp [isUnset]

end Value

namespace Properties

variable {p patch : Properties} {k : String}

/-- No entry is a deletion marker. -/
def MarkerFree (p : Properties) : Prop := ∀ k, p.entries.get? k ≠ some .unset

theorem get?_eq_some_iff {v : Value} :
    p.get? k = some v ↔ p.entries.get? k = some v ∧ v.isUnset = false := by
  rw [get?, Option.filter_eq_some_iff]
  simp

@[simp] theorem get?_empty (k : String) : empty.get? k = none := rfl

theorem markerFree_empty : empty.MarkerFree := fun _ h => nomatch h

/-- Without markers, a bag reads as its entries. -/
theorem MarkerFree.get?_eq (h : p.MarkerFree) (k : String) : p.get? k = p.entries.get? k := by
  rw [get?]
  cases hk : p.entries.get? k with
  | none => rfl
  | some v =>
    have hv : v.isUnset = false := by
      rw [Bool.eq_false_iff]
      intro hu
      exact h k (hk.trans (congrArg some (Value.isUnset_iff.1 hu)))
    simp [Option.filter, hv]

/-- Bags without markers are the same if they read as the same. -/
theorem MarkerFree.ext {p q : Properties} (hp : p.MarkerFree) (hq : q.MarkerFree)
    (h : ∀ k, p.get? k = q.get? k) : p = q := by
  have hentries : p.entries = q.entries := by
    refine SortedMap.ext_get? fun k => ?_
    rw [← hp.get?_eq, ← hq.get?_eq, h]
  cases p
  cases q
  exact congrArg mk hentries

/-! ## Normalizing -/

theorem entries_get?_normalize (p : Properties) (k : String) :
    p.normalize.entries.get? k = p.get? k := by
  rw [normalize, SortedMap.get?_filter, get?]

theorem markerFree_normalize (p : Properties) : p.normalize.MarkerFree := by
  intro k h
  rw [entries_get?_normalize, get?_eq_some_iff] at h
  exact absurd h.2 (by simp [Value.isUnset])

/-- Taking the markers out of a bag changes nothing that it reads as. -/
theorem get?_normalize (p : Properties) (k : String) : p.normalize.get? k = p.get? k := by
  rw [(markerFree_normalize p).get?_eq, entries_get?_normalize]

/-- The listed entries are the readings. -/
theorem mem_toList_iff {v : Value} : (k, v) ∈ p.toList ↔ p.get? k = some v := by
  rw [toList, ← SortedMap.get?_eq_some_iff, entries_get?_normalize]

theorem mem_keys_toList_iff : k ∈ p.toList.map (·.1) ↔ ∃ v, p.get? k = some v := by
  rw [List.mem_map]
  constructor
  · rintro ⟨⟨k, v⟩, hmem, rfl⟩
    exact ⟨v, mem_toList_iff.1 hmem⟩
  · rintro ⟨v, hv⟩
    exact ⟨(k, v), mem_toList_iff.2 hv, rfl⟩

theorem nodup_keys_toList (p : Properties) : (p.toList.map (·.1)).Nodup :=
  p.normalize.entries.nodup_keys

/-! ## Setting and erasing -/

theorem get?_set {v : Value} (hv : v.isUnset = false) (j : String) :
    (p.set k v).get? j = if j = k then some v else p.get? j := by
  rw [get?, set, SortedMap.get?_insert]
  by_cases h : j = k
  · simp [h, Option.filter, hv]
  · simp [h, get?]

/-- A marker under a key without a value is not seen. -/
theorem get?_set_unset (h : p.get? k = none) (j : String) :
    (p.set k .unset).get? j = p.get? j := by
  rw [get?, set, SortedMap.get?_insert]
  by_cases hj : j = k
  · rw [if_pos hj, hj, h]
    rfl
  · rw [if_neg hj, get?]

theorem get?_erase (j : String) : (p.erase k).get? j = if j = k then none else p.get? j := by
  rw [get?, erase, SortedMap.get?_erase]
  by_cases h : j = k
  · simp [h]
  · simp [h, get?]

theorem MarkerFree.set (h : p.MarkerFree) {v : Value} (hv : v.isUnset = false) :
    (p.set k v).MarkerFree := by
  intro j
  rw [Properties.set, SortedMap.get?_insert]
  split
  · rintro heq
    cases heq
    exact absurd hv (by simp [Value.isUnset])
  · exact h j

/-! ## Merging -/

theorem get?_mergeEntry (overwrite : Bool) (p : Properties) (e : String × Value) (k : String) :
    (mergeEntry overwrite p e).get? k =
      if k = e.1 then mergedValue (p.get? k) (some e.2) overwrite else p.get? k := by
  obtain ⟨j, v⟩ := e
  unfold mergeEntry mergedValue
  by_cases hv : v.isUnset = true
  · simp only [hv, if_true, get?_erase]
  · have hv : v.isUnset = false := by simpa using hv
    by_cases hk : k = j
    · subst hk
      by_cases ho : (overwrite || (p.get? k).isNone) = true
      · have hc : (overwrite || !p.contains k) = true := by
          simpa [contains, Option.not_isSome] using ho
        simp only [hv, hc, ho, Bool.false_eq_true, if_false, if_true, get?_set hv]
      · have hc : ¬(overwrite || !p.contains k) = true := by
          simpa [contains, Option.not_isSome] using ho
        simp only [hv, hc, ho, Bool.false_eq_true, if_false, if_true]
    · simp only [hv, Bool.false_eq_true, if_false, hk]
      split
      · rw [get?_set hv, if_neg hk]
      · rfl

/-- A change whose entries are visited in any order acts key by key, if no key is visited
twice. -/
theorem get?_foldl_mergeEntry (overwrite : Bool) {l : List (String × Value)}
    (hl : (l.map (·.1)).Nodup) (p : Properties) (k : String) :
    (l.foldl (mergeEntry overwrite) p).get? k =
      mergedValue (p.get? k) (SortedMap.lookupIn k l) overwrite := by
  induction l generalizing p with
  | nil => rfl
  | cons e rest ih =>
    obtain ⟨he, hrest⟩ := List.nodup_cons.1 hl
    -- the later entries say nothing of this key, so the visits do not interfere
    rw [List.foldl_cons, ih hrest, get?_mergeEntry, SortedMap.lookupIn]
    by_cases hk : k = e.1
    · have hnone : SortedMap.lookupIn k rest = none := by
        rw [hk]
        exact SortedMap.lookupIn_eq_none he
      rw [if_pos hk, if_pos hk, hnone]
      rfl
    · rw [if_neg hk, if_neg hk]

/-- **Merging acts key by key**, and leaves no marker behind. -/
theorem entries_get?_merge (p patch : Properties) (overwrite : Bool) (k : String) :
    (p.merge patch overwrite).entries.get? k =
      mergedValue (p.get? k) (patch.entries.get? k) overwrite := by
  rw [merge, entries_get?_normalize,
    get?_foldl_mergeEntry overwrite (SortedMap.nodup_keys patch.entries)]
  rfl

theorem markerFree_merge (p patch : Properties) (overwrite : Bool) :
    (p.merge patch overwrite).MarkerFree :=
  markerFree_normalize _

theorem get?_merge (p patch : Properties) (overwrite : Bool) (k : String) :
    (p.merge patch overwrite).get? k =
      mergedValue (p.get? k) (patch.entries.get? k) overwrite := by
  rw [(markerFree_merge p patch overwrite).get?_eq, entries_get?_merge]

/-- A change without markers that may overwrite lies over what is there. -/
theorem MarkerFree.mergedValue_eq_or (h : patch.MarkerFree) {stored : Option Value} (k : String) :
    mergedValue stored (patch.entries.get? k) true = (patch.get? k).or stored := by
  rw [h.get?_eq]
  cases hk : patch.entries.get? k with
  | none => rfl
  | some v =>
    have hv : v.isUnset = false := by
      rw [← h.get?_eq, get?_eq_some_iff] at hk
      exact hk.2
    simp [mergedValue, hv]

/-- A bag without markers is the merge of itself into the empty bag. -/
theorem entries_get?_normalize_eq_merged (p : Properties) (overwrite : Bool) (k : String) :
    p.normalize.entries.get? k = mergedValue none (p.entries.get? k) overwrite := by
  rw [entries_get?_normalize, get?]
  cases hk : p.entries.get? k with
  | none => rfl
  | some v => cases hv : v.isUnset <;> simp [mergedValue, Option.filter, hv]

end Properties

end PropertyGraph
