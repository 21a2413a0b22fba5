import PropertyGraph.SortedMap

/-!
# Keys and values of sorted maps

Membership in a map, in its keys and in its values, after each way of building a map. A map is
seen through its lookups; the listings `keys` and `values` are brought back to them here.
-/

namespace PropertyGraph

namespace SortedMap

variable {κ α β : Type} [Ord κ] [DecidableEq κ]

/-! ## Membership -/

theorem contains_iff_get? {m : SortedMap κ α} {k : κ} :
    m.contains k = true ↔ ∃ v, m.get? k = some v := by
  rw [contains, Option.isSome_iff_exists]

theorem contains_of_get? {m : SortedMap κ α} {k : κ} {v : α} (h : m.get? k = some v) :
    m.contains k = true :=
  contains_iff_get?.2 ⟨v, h⟩

theorem contains_eq_false_iff {m : SortedMap κ α} {k : κ} :
    m.contains k = false ↔ m.get? k = none := by
  rw [contains, Option.isSome_eq_false_iff, Option.isNone_iff_eq_none]

@[simp] theorem contains_empty (k : κ) : (empty : SortedMap κ α).contains k = false := rfl

theorem contains_insert [Std.TransOrd κ] [Std.LawfulEqOrd κ] {m : SortedMap κ α} {k j : κ}
    {v : α} : (m.insert k v).contains j = true ↔ j = k ∨ m.contains j = true := by
  rw [contains, contains, get?_insert]
  by_cases h : j = k <;> simp [h]

theorem contains_erase [Std.ReflOrd κ] {m : SortedMap κ α} {k j : κ} :
    (m.erase k).contains j = true ↔ j ≠ k ∧ m.contains j = true := by
  rw [contains, contains, get?_erase]
  by_cases h : j = k <;> simp [h]

/-- Storing under a key that is there already changes no membership. -/
theorem contains_insert_of_contains [Std.TransOrd κ] [Std.LawfulEqOrd κ] {m : SortedMap κ α}
    {k j : κ} {v : α} (h : m.contains k = true) :
    (m.insert k v).contains j = true ↔ m.contains j = true := by
  rw [contains_insert]
  constructor
  · rintro (rfl | hj)
    · exact h
    · exact hj
  · exact .inr

theorem contains_map (f : κ → α → β) (m : SortedMap κ α) (k : κ) :
    (m.map f).contains k = m.contains k := by
  rw [contains, get?_map, Option.isSome_map, contains]

omit [Ord κ] in
theorem lookupIn_eq_none {l : List (κ × α)} {k : κ} (h : k ∉ l.map (·.1)) :
    lookupIn k l = none := by
  induction l with
  | nil => rfl
  | cons d rest ih =>
    rw [List.map_cons, List.mem_cons, not_or] at h
    rw [lookupIn, if_neg h.1, ih h.2]

omit [Ord κ] in
theorem lookupIn_eq_some_of_nodup {l : List (κ × α)} (hl : (l.map (·.1)).Nodup) {k : κ} {v : α} :
    lookupIn k l = some v ↔ (k, v) ∈ l := by
  induction l with
  | nil => simp [lookupIn]
  | cons d rest ih =>
    obtain ⟨i, w⟩ := d
    obtain ⟨hi, hrest⟩ := List.nodup_cons.1 hl
    rw [lookupIn, List.mem_cons, Prod.mk.injEq]
    by_cases hk : k = i
    · subst hk
      have hnot : (k, v) ∉ rest := fun hmem => hi (List.mem_map.2 ⟨_, hmem, rfl⟩)
      simp [hnot, eq_comm]
    · simp [hk, ih hrest]

omit [Ord κ] in
/-- Where no key is listed twice, lookups do not depend on the order of the list. -/
theorem lookupIn_perm {l l' : List (κ × α)} (hl : (l.map (·.1)).Nodup) (h : l'.Perm l) (k : κ) :
    lookupIn k l' = lookupIn k l := by
  have hl' : (l'.map (·.1)).Nodup := (h.map _).nodup_iff.2 hl
  refine Option.ext fun v => ?_
  rw [lookupIn_eq_some_of_nodup hl', lookupIn_eq_some_of_nodup hl, h.mem_iff]

/-! ## Listings -/

omit [DecidableEq κ] in
theorem keys_map (f : κ → α → β) (m : SortedMap κ α) : (m.map f).keys = m.keys := by
  rw [keys, map, List.map_map, keys]
  rfl

omit [DecidableEq κ] in
theorem nodup_keys [Std.ReflOrd κ] (m : SortedMap κ α) : m.keys.Nodup := by
  rw [keys, List.nodup_iff_pairwise_ne, List.pairwise_map]
  refine m.increasing.imp fun {a b} hab heq => ?_
  rw [heq, Std.ReflOrd.compare_self] at hab
  cases hab

omit [DecidableEq κ] in
theorem size_eq_length_keys (m : SortedMap κ α) : m.size = m.keys.length := by
  rw [size, keys, List.length_map]

theorem keys_erase [Std.ReflOrd κ] (m : SortedMap κ α) (k : κ) :
    (m.erase k).keys = m.keys.erase k := by
  rw [List.Nodup.erase_eq_filter m.nodup_keys, keys, keys, List.filter_map]
  refine congrArg (List.map Prod.fst) (List.filter_congr fun e _ => ?_)
  rw [Bool.eq_iff_iff]
  simp

theorem erase_of_get?_eq_none [Std.TransOrd κ] {m : SortedMap κ α} {k : κ}
    (h : m.get? k = none) : m.erase k = m := by
  refine ext_get? fun j => ?_
  rw [get?_erase]
  split
  · rename_i hj
    rw [hj, h]
  · rfl

theorem size_erase_add_one [Std.ReflOrd κ] {m : SortedMap κ α} {k : κ} (h : m.contains k = true) :
    (m.erase k).size + 1 = m.size := by
  have hk : k ∈ m.keys := mem_keys_iff.2 h
  have hpos := List.length_pos_of_mem hk
  rw [size_eq_length_keys, size_eq_length_keys, keys_erase, List.length_erase_of_mem hk]
  omega

omit [DecidableEq κ] in
theorem keys_increasing (m : SortedMap κ α) :
    m.keys.Pairwise fun a b => compare a b = .lt :=
  List.pairwise_map.2 m.increasing

omit [DecidableEq κ] in
/-- Increasing lists of keys with the same members are the same. -/
theorem keys_ext [Std.TransOrd κ] {l₁ l₂ : List κ}
    (h₁ : l₁.Pairwise fun a b => compare a b = .lt)
    (h₂ : l₂.Pairwise fun a b => compare a b = .lt)
    (h : ∀ k, k ∈ l₁ ↔ k ∈ l₂) : l₁ = l₂ := by
  have hentries : l₁.map (·, ()) = l₂.map (·, ()) := by
    refine entries_ext (List.pairwise_map.2 h₁) (List.pairwise_map.2 h₂) fun e => ?_
    simp [h]
  exact (List.map_inj_right fun a b hab => congrArg Prod.fst hab).1 hentries

/-- Storing under a new key adds an entry. -/
theorem size_insert [Std.TransOrd κ] [Std.LawfulEqOrd κ] (m : SortedMap κ α) (k : κ) (v : α) :
    (m.insert k v).size = m.size + if m.contains k then 0 else 1 := by
  rw [size_eq_length_keys, size_eq_length_keys]
  by_cases hk : m.contains k = true
  · have hkeys : (m.insert k v).keys = m.keys := by
      refine keys_ext (keys_increasing _) (keys_increasing _) fun j => ?_
      rw [mem_keys_iff, mem_keys_iff, contains_insert_of_contains hk]
    rw [hkeys, if_pos hk, Nat.add_zero]
  · have hkeys : (m.insert k v).keys.Perm (k :: m.keys) := by
      refine (List.perm_ext_iff_of_nodup (nodup_keys _)
        (List.nodup_cons.2 ⟨mt mem_keys_iff.1 hk, m.nodup_keys⟩)).2 fun j => ?_
      rw [List.mem_cons, mem_keys_iff, mem_keys_iff, contains_insert]
    rw [hkeys.length_eq, if_neg hk, List.length_cons]

/-- The keys that a map lacks, after one is added to it. -/
theorem filter_not_contains_insert [Std.TransOrd κ] [Std.LawfulEqOrd κ] {l : List κ}
    (hl : l.Nodup) (m : SortedMap κ α) (k : κ) (v : α) :
    l.filter (!(m.insert k v).contains ·) = (l.filter (!m.contains ·)).erase k := by
  rw [List.Nodup.erase_eq_filter (hl.filter _), List.filter_filter]
  refine List.filter_congr fun j _ => ?_
  rw [Bool.eq_iff_iff]
  simp [contains_insert, ← Bool.not_eq_true]

theorem mem_values_iff [Std.ReflOrd κ] {m : SortedMap κ α} {v : α} :
    v ∈ m.values ↔ ∃ k, m.get? k = some v := by
  simp only [values, List.mem_map, get?_eq_some_iff]
  constructor
  · rintro ⟨⟨k, w⟩, hmem, rfl⟩
    exact ⟨k, hmem⟩
  · rintro ⟨k, hmem⟩
    exact ⟨(k, v), hmem, rfl⟩

/-! ## Maps built from lists -/

section Lists

variable [Std.TransOrd κ] [Std.LawfulEqOrd κ]

theorem contains_foldl_insert {l : List (κ × α)} {m : SortedMap κ α} {k : κ} :
    (l.foldl (fun m e => m.insert e.1 e.2) m).contains k = true ↔
      m.contains k = true ∨ k ∈ l.map (·.1) := by
  induction l generalizing m with
  | nil => simp
  | cons d rest ih =>
    rw [List.foldl_cons, ih, contains_insert, List.map_cons, List.mem_cons, or_assoc,
      or_left_comm]

theorem contains_ofList {l : List (κ × α)} {k : κ} :
    (ofList l).contains k = true ↔ k ∈ l.map (·.1) := by
  rw [ofList, contains_foldl_insert, contains_empty]
  simp

theorem get?_foldl_insert_of_notMem {l : List (κ × α)} {m : SortedMap κ α} {k : κ}
    (h : k ∉ l.map (·.1)) : (l.foldl (fun m e => m.insert e.1 e.2) m).get? k = m.get? k := by
  induction l generalizing m with
  | nil => rfl
  | cons d rest ih =>
    rw [List.map_cons, List.mem_cons, not_or] at h
    rw [List.foldl_cons, ih h.2, get?_insert, if_neg h.1]

/-- Entries that are stored over a map hide what it had under their keys. -/
theorem get?_foldl_insert {l : List (κ × α)} (hl : (l.map (·.1)).Nodup) (m : SortedMap κ α)
    (k : κ) :
    (l.foldl (fun m e => m.insert e.1 e.2) m).get? k = (lookupIn k l).or (m.get? k) := by
  induction l generalizing m with
  | nil => rfl
  | cons d rest ih =>
    obtain ⟨hd, hrest⟩ := List.nodup_cons.1 hl
    rw [List.foldl_cons, ih hrest, get?_insert, lookupIn]
    by_cases hk : k = d.1
    · rw [if_pos hk, if_pos hk, lookupIn_eq_none (hk ▸ hd)]
      rfl
    · rw [if_neg hk, if_neg hk]

/-- Where no key is listed twice, every listed entry is found. -/
theorem get?_ofList_of_mem {l : List (κ × α)} (hl : (l.map (·.1)).Nodup) {k : κ} {v : α}
    (h : (k, v) ∈ l) : (ofList l).get? k = some v := by
  rw [ofList]
  generalize (empty : SortedMap κ α) = m
  induction l generalizing m with
  | nil => cases h
  | cons d rest ih =>
    obtain ⟨hd, hrest⟩ := List.nodup_cons.1 hl
    rw [List.foldl_cons]
    rcases List.mem_cons.1 h with rfl | h
    · rw [get?_foldl_insert_of_notMem hd, get?_insert_self]
    · exact ih hrest h _

end Lists

/-! ## Comparing maps -/

/-- Every entry of one map is an entry of the other one. -/
def Within (m n : SortedMap κ α) : Prop := ∀ k v, m.get? k = some v → n.get? k = some v

section Within

variable {l m n : SortedMap κ α} {k : κ} {v : α}

theorem Within.refl (m : SortedMap κ α) : m.Within m := fun _ _ h => h

theorem Within.trans (h : l.Within m) (h' : m.Within n) : l.Within n :=
  fun k v hv => h' k v (h k v hv)

theorem Within.contains (h : m.Within n) (hk : m.contains k = true) : n.contains k = true := by
  obtain ⟨v, hv⟩ := contains_iff_get?.1 hk
  exact contains_of_get? (h k v hv)

theorem within_insert [Std.TransOrd κ] [Std.LawfulEqOrd κ] (hk : m.get? k = none) :
    m.Within (m.insert k v) := by
  intro j w hw
  rw [get?_insert, if_neg, hw]
  rintro rfl
  rw [hk] at hw
  cases hw

theorem insert_within [Std.TransOrd κ] [Std.LawfulEqOrd κ] (h : m.Within n)
    (hk : n.get? k = some v) : (m.insert k v).Within n := by
  intro j w hw
  rw [get?_insert] at hw
  split at hw
  · rename_i hj
    rw [hj, hk, hw]
  · exact h j w hw

/-- A map within another one that has no other keys is the same map. -/
theorem Within.eq [Std.TransOrd κ] (h : m.Within n)
    (hkeys : ∀ k, n.contains k = true → m.contains k = true) : m = n := by
  refine ext_get? fun k => ?_
  cases hn : n.get? k with
  | none =>
    rw [← contains_eq_false_iff, Bool.eq_false_iff] at hn ⊢
    exact fun hm => hn (h.contains hm)
  | some v =>
    obtain ⟨w, hw⟩ := contains_iff_get?.1 (hkeys k (contains_of_get? hn))
    rw [hw, ← hn, h k w hw]

end Within

end SortedMap

/-! ## Sets of keys -/

namespace SortedSet

variable {κ : Type} [Ord κ] [DecidableEq κ] [Std.TransOrd κ] [Std.LawfulEqOrd κ]

omit [Std.LawfulEqOrd κ] in
/-- Sets with the same members are the same. -/
theorem ext_contains {s t : SortedSet κ} (h : ∀ k, s.contains k = true ↔ t.contains k = true) :
    s = t := by
  refine SortedMap.ext_get? fun k => ?_
  have hk := h k
  rw [SortedMap.contains, SortedMap.contains] at hk
  cases hs : s.get? k with
  | none =>
    cases ht : t.get? k with
    | none => rfl
    | some => simp [hs, ht] at hk
  | some =>
    cases ht : t.get? k with
    | none => simp [hs, ht] at hk
    | some => rfl

theorem mem_keys_ofList {l : List κ} {k : κ} : k ∈ (SortedSet.ofList l).keys ↔ k ∈ l := by
  rw [SortedMap.mem_keys_iff, SortedSet.ofList, SortedMap.contains_ofList, List.map_map]
  simp

end SortedSet

end PropertyGraph
