/-!
# Sorted finite maps

A finite map is kept as the list of its entries in strictly increasing key order.
The order is part of the type, so that every listing is in key order, and a map is
determined by its lookups (`SortedMap.ext_get?`).

## Main definitions

- `SortedMap` — entries in strictly increasing key order
- `SortedMap.get?`, `insert`, `erase`, `filter`, `map` — one lookup law each
- `SortedSet` — a set of keys, as a map to `Unit`
-/

namespace PropertyGraph

/-- A finite map: its entries, in strictly increasing key order. -/
structure SortedMap (κ α : Type) [Ord κ] where
  entries : List (κ × α)
  increasing : entries.Pairwise fun a b => compare a.1 b.1 = .lt

namespace SortedMap

variable {κ α β : Type} [Ord κ]

/-- The map without entries. -/
def empty : SortedMap κ α := ⟨[], List.Pairwise.nil⟩

instance : EmptyCollection (SortedMap κ α) := ⟨empty⟩

instance : Inhabited (SortedMap κ α) := ⟨empty⟩

/-- The value a list of entries gives to a key. -/
def lookupIn [DecidableEq κ] (k : κ) : List (κ × α) → Option α
  | [] => none
  | (j, v) :: rest => if k = j then some v else lookupIn k rest

/-- The value stored under `k`, if there is one. -/
def get? [DecidableEq κ] (m : SortedMap κ α) (k : κ) : Option α := lookupIn k m.entries

/-- Whether `k` is a key. -/
def contains [DecidableEq κ] (m : SortedMap κ α) (k : κ) : Bool := (m.get? k).isSome

/-- The keys, in increasing order. -/
def keys (m : SortedMap κ α) : List κ := m.entries.map (·.1)

/-- The values, in key order. -/
def values (m : SortedMap κ α) : List α := m.entries.map (·.2)

/-- The number of entries. -/
def size (m : SortedMap κ α) : Nat := m.entries.length

/-- Whether the map has no entries. -/
def isEmpty (m : SortedMap κ α) : Bool := m.entries.isEmpty

/-- Put an entry at its place in a sorted list, in place of one with the same key. -/
def insertIn (k : κ) (v : α) : List (κ × α) → List (κ × α)
  | [] => [(k, v)]
  | (j, w) :: rest =>
    match compare k j with
    | .lt => (k, v) :: (j, w) :: rest
    | .eq => (k, v) :: rest
    | .gt => (j, w) :: insertIn k v rest

theorem mem_insertIn {k : κ} {v : α} {l : List (κ × α)} {e : κ × α}
    (h : e ∈ insertIn k v l) : e = (k, v) ∨ e ∈ l := by
  induction l with
  | nil => simpa [insertIn] using h
  | cons d rest ih =>
    obtain ⟨j, w⟩ := d
    unfold insertIn at h
    split at h
    · simpa using h
    · rcases List.mem_cons.1 h with h | h
      · exact .inl h
      · exact .inr (List.mem_cons_of_mem _ h)
    · rcases List.mem_cons.1 h with h | h
      · exact .inr (h ▸ List.mem_cons_self)
      · exact (ih h).imp_right (List.mem_cons_of_mem _)

theorem increasing_insertIn [Std.TransOrd κ] [Std.LawfulEqOrd κ] {k : κ} {v : α}
    {l : List (κ × α)} (h : l.Pairwise fun a b => compare a.1 b.1 = .lt) :
    (insertIn k v l).Pairwise fun a b => compare a.1 b.1 = .lt := by
  induction l with
  | nil => simp [insertIn]
  | cons d rest ih =>
    obtain ⟨j, w⟩ := d
    obtain ⟨hj, hrest⟩ := List.pairwise_cons.1 h
    unfold insertIn
    split
    · rename_i hlt
      refine List.pairwise_cons.2 ⟨fun e he => ?_, h⟩
      rcases List.mem_cons.1 he with he | he
      · exact he ▸ hlt
      · exact Std.TransCmp.lt_trans hlt (hj e he)
    · rename_i heq
      have hkj : k = j := Std.LawfulEqOrd.eq_of_compare heq
      exact List.pairwise_cons.2 ⟨fun e he => hkj ▸ hj e he, hrest⟩
    · rename_i hgt
      refine List.pairwise_cons.2 ⟨fun e he => ?_, ih hrest⟩
      rcases mem_insertIn he with he | he
      · exact he ▸ Std.OrientedCmp.lt_of_gt hgt
      · exact hj e he

/-- Store `v` under `k`, replacing what was there. -/
def insert [Std.TransOrd κ] [Std.LawfulEqOrd κ] (m : SortedMap κ α) (k : κ) (v : α) :
    SortedMap κ α :=
  ⟨insertIn k v m.entries, increasing_insertIn m.increasing⟩

/-- Keep the entries that satisfy `p`. -/
def filter (p : κ → α → Bool) (m : SortedMap κ α) : SortedMap κ α :=
  ⟨m.entries.filter fun e => p e.1 e.2, m.increasing.filter _⟩

/-- Drop the entry of `k`, if there is one. -/
def erase [DecidableEq κ] (m : SortedMap κ α) (k : κ) : SortedMap κ α :=
  m.filter fun j _ => j ≠ k

/-- Replace each value by a function of key and value. -/
def map (f : κ → α → β) (m : SortedMap κ α) : SortedMap κ β :=
  ⟨m.entries.map fun e => (e.1, f e.1 e.2), List.pairwise_map.2 m.increasing⟩

/-- The map of a list of entries; of two entries with one key the later counts. -/
def ofList [Std.TransOrd κ] [Std.LawfulEqOrd κ] (l : List (κ × α)) : SortedMap κ α :=
  l.foldl (fun m e => m.insert e.1 e.2) empty

/-! ## Lookups -/

section Lookups

variable [DecidableEq κ]

@[simp] theorem get?_empty (k : κ) : (empty : SortedMap κ α).get? k = none := rfl

theorem lookupIn_insertIn [Std.TransOrd κ] [Std.LawfulEqOrd κ] (k j : κ) (v : α)
    (l : List (κ × α)) :
    lookupIn j (insertIn k v l) = if j = k then some v else lookupIn j l := by
  induction l with
  | nil => simp [insertIn, lookupIn]
  | cons d rest ih =>
    obtain ⟨i, w⟩ := d
    unfold insertIn
    split
    · simp [lookupIn]
    · rename_i heq
      have hki : k = i := Std.LawfulEqOrd.eq_of_compare heq
      subst hki
      by_cases h : j = k <;> simp [lookupIn, h]
    · rename_i hgt
      have hne : k ≠ i := fun h => by simp [h] at hgt
      by_cases h : j = i
      · subst h
        simp [lookupIn, Ne.symm hne]
      · simp [lookupIn, h, ih]

theorem get?_insert [Std.TransOrd κ] [Std.LawfulEqOrd κ] (m : SortedMap κ α) (k j : κ) (v : α) :
    (m.insert k v).get? j = if j = k then some v else m.get? j :=
  lookupIn_insertIn k j v m.entries

@[simp] theorem get?_insert_self [Std.TransOrd κ] [Std.LawfulEqOrd κ] (m : SortedMap κ α)
    (k : κ) (v : α) : (m.insert k v).get? k = some v := by
  simp [get?_insert]

theorem lookupIn_eq_some [Std.ReflOrd κ] {l : List (κ × α)}
    (h : l.Pairwise fun a b => compare a.1 b.1 = .lt) {k : κ} {v : α} :
    lookupIn k l = some v ↔ (k, v) ∈ l := by
  induction l with
  | nil => simp [lookupIn]
  | cons d rest ih =>
    obtain ⟨i, w⟩ := d
    obtain ⟨hi, hrest⟩ := List.pairwise_cons.1 h
    unfold lookupIn
    by_cases hk : k = i
    · subst hk
      simp only [if_true, Option.some.injEq, List.mem_cons, Prod.mk.injEq, true_and]
      constructor
      · exact fun h => .inl h.symm
      · rintro (h | h)
        · exact h.symm
        · simpa using hi _ h
    · simp [hk, ih hrest]

/-- A lookup finds exactly the listed entries. -/
theorem get?_eq_some_iff [Std.ReflOrd κ] {m : SortedMap κ α} {k : κ} {v : α} :
    m.get? k = some v ↔ (k, v) ∈ m.entries :=
  lookupIn_eq_some m.increasing

theorem mem_keys_iff [Std.ReflOrd κ] {m : SortedMap κ α} {k : κ} :
    k ∈ m.keys ↔ m.contains k = true := by
  simp only [keys, List.mem_map, contains, Option.isSome_iff_exists, get?_eq_some_iff]
  constructor
  · rintro ⟨⟨j, v⟩, h, rfl⟩
    exact ⟨v, h⟩
  · rintro ⟨v, h⟩
    exact ⟨(k, v), h, rfl⟩

theorem get?_filter [Std.ReflOrd κ] (p : κ → α → Bool) (m : SortedMap κ α) (k : κ) :
    (m.filter p).get? k = (m.get? k).filter (p k) := by
  apply Option.ext
  intro v
  rw [get?_eq_some_iff, Option.filter_eq_some_iff, get?_eq_some_iff]
  simp [filter]

theorem get?_erase [Std.ReflOrd κ] (m : SortedMap κ α) (k j : κ) :
    (m.erase k).get? j = if j = k then none else m.get? j := by
  rw [erase, get?_filter]
  by_cases h : j = k
  · cases m.get? j <;> simp [h, Option.filter]
  · cases m.get? j <;> simp [h, Option.filter]

omit [Ord κ] in
theorem lookupIn_map (f : κ → α → β) (k : κ) (l : List (κ × α)) :
    lookupIn k (l.map fun e => (e.1, f e.1 e.2)) = (lookupIn k l).map (f k) := by
  induction l with
  | nil => rfl
  | cons d rest ih =>
    obtain ⟨i, w⟩ := d
    by_cases hk : k = i
    · subst hk
      simp [lookupIn]
    · simp [lookupIn, hk, ih]

theorem get?_map (f : κ → α → β) (m : SortedMap κ α) (k : κ) :
    (m.map f).get? k = (m.get? k).map (f k) :=
  lookupIn_map f k m.entries

end Lookups

/-! ## Extensionality -/

theorem entries_ext [Std.TransOrd κ] {l₁ l₂ : List (κ × α)}
    (h₁ : l₁.Pairwise fun a b => compare a.1 b.1 = .lt)
    (h₂ : l₂.Pairwise fun a b => compare a.1 b.1 = .lt)
    (h : ∀ e, e ∈ l₁ ↔ e ∈ l₂) : l₁ = l₂ := by
  induction l₁ generalizing l₂ with
  | nil => exact (List.eq_nil_iff_forall_not_mem.2 fun e he => by simpa using (h e).2 he).symm
  | cons a as ih =>
    cases l₂ with
    | nil => exact absurd ((h a).1 List.mem_cons_self) (by simp)
    | cons b bs =>
      obtain ⟨ha, has⟩ := List.pairwise_cons.1 h₁
      obtain ⟨hb, hbs⟩ := List.pairwise_cons.1 h₂
      have hab : a = b := by
        rcases List.mem_cons.1 ((h a).1 List.mem_cons_self) with hab | hab
        · exact hab
        · rcases List.mem_cons.1 ((h b).2 List.mem_cons_self) with hba | hba
          · exact hba.symm
          · have := Std.TransCmp.lt_trans (hb a hab) (ha b hba)
            simp at this
      subst hab
      congr 1
      refine ih has hbs fun e => ?_
      have hne : ∀ {l : List (κ × α)}, (∀ d ∈ l, compare a.1 d.1 = .lt) → a ∉ l := by
        intro l hl hmem
        simpa using hl a hmem
      constructor
      · intro he
        rcases List.mem_cons.1 ((h e).1 (List.mem_cons_of_mem _ he)) with h' | h'
        · exact absurd (h' ▸ he) (hne ha)
        · exact h'
      · intro he
        rcases List.mem_cons.1 ((h e).2 (List.mem_cons_of_mem _ he)) with h' | h'
        · exact absurd (h' ▸ he) (hne hb)
        · exact h'

/-- **Extensionality**: two maps with the same lookups are the same map. -/
theorem ext_get? [DecidableEq κ] [Std.TransOrd κ] {m₁ m₂ : SortedMap κ α}
    (h : ∀ k, m₁.get? k = m₂.get? k) : m₁ = m₂ := by
  obtain ⟨l₁, h₁⟩ := m₁
  obtain ⟨l₂, h₂⟩ := m₂
  have : l₁ = l₂ := by
    refine entries_ext h₁ h₂ fun e => ?_
    have := h e.1
    rw [← lookupIn_eq_some h₁ (k := e.1) (v := e.2), ← lookupIn_eq_some h₂]
    exact iff_of_eq (congrArg (· = some e.2) this)
  subst this
  rfl

/-! ## Lists of entries -/

section Lists

variable [Std.TransOrd κ] [Std.LawfulEqOrd κ]

omit [Std.LawfulEqOrd κ] in
theorem insertIn_append {k : κ} {v : α} {l : List (κ × α)} (h : ∀ e ∈ l, compare e.1 k = .lt) :
    insertIn k v l = l ++ [(k, v)] := by
  induction l with
  | nil => rfl
  | cons d rest ih =>
    have hd : compare k d.1 = .gt := Std.OrientedCmp.gt_of_lt (h d List.mem_cons_self)
    simp [insertIn, hd, ih fun e he => h e (List.mem_cons_of_mem _ he)]

theorem entries_foldl_insert {l : List (κ × α)} {m : SortedMap κ α}
    (h : (m.entries ++ l).Pairwise fun a b => compare a.1 b.1 = .lt) :
    (l.foldl (fun m e => m.insert e.1 e.2) m).entries = m.entries ++ l := by
  induction l generalizing m with
  | nil => simp
  | cons d rest ih =>
    have hd : (m.insert d.1 d.2).entries = m.entries ++ [d] :=
      insertIn_append fun e he => (List.pairwise_append.1 h).2.2 e he d List.mem_cons_self
    rw [List.foldl_cons, ih (by simpa [hd] using h), hd, List.append_assoc]
    rfl

/-- A map is the map of its entries. -/
theorem ofList_entries (m : SortedMap κ α) : ofList m.entries = m := by
  have h : (ofList m.entries).entries = m.entries :=
    entries_foldl_insert (m := SortedMap.empty) m.increasing
  obtain ⟨l, hl⟩ := m
  generalize ofList l = n at h
  cases n
  cases h
  rfl

theorem mem_foldl_insert {l : List (κ × α)} {m : SortedMap κ α} {e : κ × α}
    (h : e ∈ (l.foldl (fun m e => m.insert e.1 e.2) m).entries) : e ∈ m.entries ∨ e ∈ l := by
  induction l generalizing m with
  | nil => exact .inl h
  | cons d rest ih =>
    rcases ih h with h | h
    · rcases mem_insertIn h with h | h
      · exact .inr (h ▸ List.mem_cons_self)
      · exact .inl h
    · exact .inr (List.mem_cons_of_mem _ h)

theorem mem_of_mem_ofList {l : List (κ × α)} {e : κ × α} (h : e ∈ (ofList l).entries) : e ∈ l := by
  simpa [empty] using mem_foldl_insert h

end Lists

end SortedMap

/-! ## Sets of keys -/

/-- A finite set of keys, listed in increasing order. -/
abbrev SortedSet (κ : Type) [Ord κ] := SortedMap κ Unit

/-- The set of the members of a list. -/
def SortedSet.ofList {κ : Type} [Ord κ] [Std.TransOrd κ] [Std.LawfulEqOrd κ] (l : List κ) :
    SortedSet κ :=
  SortedMap.ofList (l.map (·, ()))

end PropertyGraph
