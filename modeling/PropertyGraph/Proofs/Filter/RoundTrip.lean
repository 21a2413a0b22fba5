import PropertyGraph.Proofs.Conversion
import PropertyGraph.Proofs.Filter.Construction

/-!
# Filters through JSON

A filter is written as an object and read back with the same keys. A single allowed value is written
in place of the list of it. That changes nothing unless the value is itself a list: then its items are
read back as the allowed values, and the list is none of them.

## Main results

- `AttributeFilter.reread_exact` — the filters that are read back with another meaning
-/

namespace PropertyGraph

/-! ## Conditions -/

/-- A list with another list as its only item. -/
def Json.Doubled (j : Json) : Prop := ∃ items, j = .array [.array items]

theorem Json.doubled_of_choices {j : Json} {items : List Json} (h : j.choices = [.array items]) :
    j.Doubled := by
  cases j with
  | array js => exact ⟨items, congrArg Json.array h⟩
  | _ => cases h

theorem Value.exists_of_ofJson_eq_list {j : Json} {vs : List Value} (h : ofJson j = .list vs) :
    ∃ items, j = .array items := by
  cases j with
  | array items => exact ⟨items, rfl⟩
  | number n => cases n <;> cases h
  | _ => cases h

/-- The allowed values that are read back for those that are written: a single one is a value. -/
def Value.unwrap : List Value → List Value
  | [v] => v.choices
  | vs => vs

section

variable {d : FilterEntry} {j : Json}

theorem FilterEntry.States.plain (hkey : isPatternKey d.key = false) {value : Value}
    (h : d.States value) : d.condition = .oneOf value.choices := by
  have hcondition := h.condition
  rw [Condition.ofValue_of_plain hkey] at hcondition
  exact (Except.ok.inj hcondition).symm

/-- A pattern is written as it is. -/
theorem FilterEntry.States.ofJson_pattern (hkey : isPatternKey d.key = true) {value : Value}
    (h : d.States value) : Value.ofJson d.condition.toJson = value := by
  obtain ⟨pattern, r, rfl, -, hcondition⟩ := (Condition.ofValue_of_pattern hkey).1 h.condition
  rw [hcondition]
  rfl

/-- Allowed values are read back as they were written, if there are none or several. A single one is
read back as a value. -/
theorem Condition.ofJson_toJson_oneOf {vs : List Value} (h : ∀ v ∈ vs, Value.ofJson v.toJson = v) :
    (Value.ofJson (Condition.oneOf vs).toJson).choices = Value.unwrap vs := by
  have hitems : Value.ofJsonItems (Value.toJsonItems vs) = vs := by
    induction vs with
    | nil => rfl
    | cons v vs ih =>
      obtain ⟨hv, hvs⟩ := List.forall_mem_cons.1 h
      rw [Value.toJsonItems, Value.ofJsonItems, hv, ih hvs]
  match vs with
  | [] => rfl
  | [v] => exact congrArg Value.choices (h v (List.mem_singleton_self v))
  | v :: w :: vs => exact hitems

theorem Value.ofJson_toJson_choices (hj : j.canonical = j) :
    ∀ v ∈ (Value.ofJson j).choices, Value.ofJson v.toJson = v := by
  intro v hv
  rw [choices_ofJson] at hv
  obtain ⟨i, hi, rfl⟩ := List.mem_map.1 hv
  refine ofJson_toJson_ofJson ?_
  cases j with
  | array items => exact Json.canonical_of_mem_array hj hi
  | _ =>
    obtain rfl := List.mem_singleton.1 hi
    exact hj

/-- The allowed values that are read back are those that were stated, unless they are the items of a
doubled list. -/
theorem FilterEntry.States.choices_reread (hkey : isPatternKey d.key = false) (hj : j.canonical = j)
    (h : d.States (.ofJson j)) (hdoubled : ¬j.Doubled) :
    (Value.ofJson d.condition.toJson).choices = (Value.ofJson j).choices := by
  rw [h.plain hkey, Condition.ofJson_toJson_oneOf (Value.ofJson_toJson_choices hj)]
  match hvs : (Value.ofJson j).choices with
  | [.list vs] =>
    rw [Value.choices_ofJson, List.map_eq_singleton_iff] at hvs
    obtain ⟨i, hchoices, hi⟩ := hvs
    obtain ⟨items, rfl⟩ := Value.exists_of_ofJson_eq_list hi
    exact absurd (Json.doubled_of_choices hchoices) hdoubled
  -- a value that is no list allows itself alone, and none or several are left in their list
  | [.string _] | [.integer _] | [.float _] | [.boolean _] | [.timestamp _] | [.map _] | [.unset] =>
    rfl
  | [] | _ :: _ :: _ => rfl

theorem FilterEntry.States.reread_doubled {items : List Json} (hkey : isPatternKey d.key = false)
    (hitems : (Json.array items).canonical = .array items)
    (h : d.States (.ofJson (.array [.array items]))) :
    Value.ofJson d.condition.toJson = .ofJson (.array items) := by
  rw [h.plain hkey]
  exact Value.ofJson_toJson_ofJson hitems

end

/-! ## Filters -/

namespace AttributeFilter

variable {f : AttributeFilter} {o : JsonObject}

theorem ofJson_holds (h : ofJson o.toJson = .ok f) :
    f.Holds (o.members.map fun e => (e.1, Value.ofJson e.2)) := by
  rw [JsonObject.toJson, ofJson, Value.ofJsonMembers_eq_map] at h
  exact holds_insertAll h

theorem lastCall_member {key : String} {j : Json} (he : (key, j) ∈ o.members) :
    LastCall (o.members.map fun e => (e.1, Value.ofJson e.2)) key (.ofJson j) := by
  have hnodup : (o.members.map (·.1)).Nodup :=
    SortedMap.nodup_keys ⟨o.members, Json.increasing_of_canonical o.canonical⟩
  exact (lastCall_iff_mem (by rwa [List.map_map])).2 (List.mem_map.2 ⟨_, he, rfl⟩)

/-- Every entry is stated by a member. -/
theorem exists_member (h : ofJson o.toJson = .ok f) {d : FilterEntry} (hd : d ∈ f.entries) :
    ∃ j, (d.key, j) ∈ o.members ∧ d.States (.ofJson j) := by
  obtain ⟨value, hlast, hstates⟩ := (ofJson_holds h).last d hd
  obtain ⟨e, he, heq⟩ := List.mem_map.1 hlast.mem
  obtain ⟨hkey, rfl⟩ := Prod.mk.inj heq
  exact ⟨e.2, hkey ▸ he, hstates⟩

theorem nodup_keys (h : ofJson o.toJson = .ok f) : f.keys.Nodup := by
  rw [(ofJson_holds h).keys]
  exact List.nodup_dedup _

/-- The keys and values that are read back from what is written. -/
def rereadEntries (f : AttributeFilter) : List (String × Value) :=
  (SortedMap.ofList (f.entries.map fun d => (d.key, d.condition.toJson))).entries.map fun e =>
    (e.1, Value.ofJson e.2)

theorem ofJson_toJson (f : AttributeFilter) : ofJson f.toJson = empty.insertAll f.rereadEntries := by
  rw [toJson, ofJson, Value.ofJsonMembers_eq_map]
  rfl

theorem nodup_rereadEntries (f : AttributeFilter) : (f.rereadEntries.map (·.1)).Nodup := by
  rw [rereadEntries, List.map_map]
  exact SortedMap.nodup_keys _

theorem mem_rereadEntries_iff (h : f.keys.Nodup) {key : String} {value : Value} :
    (key, value) ∈ f.rereadEntries ↔
      ∃ d ∈ f.entries, d.key = key ∧ Value.ofJson d.condition.toJson = value := by
  have hkeys : ((f.entries.map fun d => (d.key, d.condition.toJson)).map (·.1)).Nodup := by
    rwa [List.map_map]
  rw [rereadEntries, List.mem_map]
  constructor
  · rintro ⟨e, he, heq⟩
    obtain ⟨d, hd, rfl⟩ := List.mem_map.1 (SortedMap.mem_of_mem_ofList he)
    exact ⟨d, hd, Prod.mk.inj heq⟩
  · -- the object has one member for each key, and no two entries share one
    rintro ⟨d, hd, rfl, rfl⟩
    have hwritten := List.mem_map_of_mem (f := fun d => (d.key, d.condition.toJson)) hd
    exact ⟨_, SortedMap.get?_eq_some_iff.1 (SortedMap.get?_ofList_of_mem hkeys hwritten), rfl⟩

theorem exists_ofValue_reread (h : ofJson o.toJson = .ok f) {d : FilterEntry} (hd : d ∈ f.entries) :
    ∃ c, Condition.ofValue d.key (.ofJson d.condition.toJson) = .ok c := by
  obtain ⟨j, -, hstates⟩ := exists_member h hd
  cases hkey : isPatternKey d.key with
  | true =>
    rw [hstates.ofJson_pattern hkey]
    exact ⟨_, hstates.condition⟩
  | false => exact ⟨_, Condition.ofValue_of_plain hkey⟩

/-- What is written is read back as a filter, which asks of a bag what the written values ask. -/
theorem exists_reread (h : ofJson o.toJson = .ok f) :
    ∃ g, ofJson f.toJson = .ok g ∧ g.Holds f.rereadEntries := by
  have hsuccess := insertAll_isOk_iff (f := empty).2 fun e he => by
    obtain ⟨d, hd, hkey, hvalue⟩ := (mem_rereadEntries_iff (nodup_keys h)).1 he
    rw [← hkey, ← hvalue]
    exact exists_ofValue_reread h hd
  obtain ⟨g, hg⟩ := hsuccess
  exact ⟨g, (ofJson_toJson f).trans hg, holds_insertAll hg⟩

/-- An entry asks for the same after it is read back, unless its value is a doubled list. -/
theorem satisfies_reread_iff {d : FilterEntry} {j : Json} {bag : Properties} (hj : j.canonical = j)
    (hstates : d.States (.ofJson j)) (hdoubled : isPatternKey d.key = false → ¬j.Doubled) :
    bag.Satisfies d.key (.ofJson d.condition.toJson) ↔ bag.Satisfies d.key (.ofJson j) := by
  cases hkey : isPatternKey d.key with
  | true => rw [hstates.ofJson_pattern hkey]
  | false =>
    rw [Properties.satisfies_plain_iff hkey, Properties.satisfies_plain_iff hkey,
      hstates.choices_reread hkey hj (hdoubled hkey)]

/-- A bag with a list as its only value satisfies the condition to have this list, and not the
condition to have one of its items. -/
theorem satisfies_doubled {key : String} {items : List Json} (hkey : isPatternKey key = false)
    (hitems : (Json.array items).canonical = .array items) :
    let bag := Properties.ofList [(key, Value.ofJson (.array items))]
    bag.Satisfies key (.ofJson (.array [.array items])) ∧ ¬bag.Satisfies key (.ofJson (.array items)) := by
  intro bag
  have hget : bag.get? key = some (Value.ofJson (.array items)) := by
    have hentry : (SortedMap.ofList [(key, Value.ofJson (.array items))]).get? key = some _ :=
      SortedMap.get?_insert_self ..
    show ((SortedMap.ofList [(key, Value.ofJson (.array items))]).get? key).filter _ = _
    rw [hentry]
    rfl
  rw [Properties.satisfies_plain_iff hkey, Properties.satisfies_plain_iff hkey, hget]
  constructor
  · exact ⟨_, List.mem_singleton_self _, (Value.looseEq_self_iff _).2 (Value.numeric_ofJson hitems)⟩
  · rintro ⟨a, ha, hequal⟩
    have hne : a.looseEq (.ofJson (.array items)) = false := Value.looseEq_item ha
    exact Bool.false_ne_true (hne.symm.trans hequal)

theorem canonical_of_mem_members {e : String × Json} (he : e ∈ o.members) : e.2.canonical = e.2 :=
  Json.canonical_of_mem_object o.canonical he

/-- Without doubled lists the filter that is read back accepts the same bags. -/
theorem acceptsIgnoring_reread {g : AttributeFilter} (h : ofJson o.toJson = .ok f)
    (hg : g.Holds f.rereadEntries)
    (hdoubled : ∀ e ∈ o.members, isPatternKey e.1 = false → ¬e.2.Doubled) (bag : Properties)
    (ignored : List String) : g.acceptsIgnoring bag ignored = f.acceptsIgnoring bag ignored := by
  have hentry {d : FilterEntry} (hd : d ∈ f.entries) :
      bag.Satisfies d.key (.ofJson d.condition.toJson) ↔ d.accepts bag = true := by
    obtain ⟨j, he, hstates⟩ := exists_member h hd
    have hplain : isPatternKey d.key = false → ¬j.Doubled := hdoubled (d.key, j) he
    rw [satisfies_reread_iff (canonical_of_mem_members he) hstates hplain,
      FilterEntry.accepts_iff hstates]
  rw [Bool.eq_iff_iff, acceptsIgnoring_iff hg, acceptsIgnoring_iff_entries]
  simp only [lastCall_iff_mem f.nodup_rereadEntries, mem_rereadEntries_iff (nodup_keys h)]
  constructor
  · exact fun hall d hd hignored => (hentry hd).1 (hall _ _ ⟨d, hd, rfl, rfl⟩ hignored)
  · rintro hall _ _ ⟨d, hd, rfl, rfl⟩ hignored
    exact (hentry hd).2 (hall d hd hignored)

/-- A doubled list tells the two filters apart: where all other keys are ignored, one of them accepts
the bag that has the inner list, and the other one does not. -/
theorem exists_apart {g : AttributeFilter} {key : String} {items : List Json}
    (h : ofJson o.toJson = .ok f) (hg : g.Holds f.rereadEntries) (hkey : isPatternKey key = false)
    (he : (key, .array [.array items]) ∈ o.members) :
    ∃ bag ignored, f.acceptsIgnoring bag ignored = true ∧ ¬g.acceptsIgnoring bag ignored = true := by
  have hitems : (Json.array items).canonical = .array items :=
    Json.canonical_of_mem_array (canonical_of_mem_members he) (List.mem_singleton_self _)
  have hlast := lastCall_member he
  have hlast' : LastCall f.rereadEntries key (.ofJson (.array items)) := by
    obtain ⟨d, hd, rfl, hstates⟩ := (ofJson_holds h).stated _ _ hlast
    rw [lastCall_iff_mem f.nodup_rereadEntries, mem_rereadEntries_iff (nodup_keys h)]
    exact ⟨d, hd, rfl, hstates.reread_doubled hkey hitems⟩
  -- where the other keys are ignored, the two filters ask for the list and for an item of it
  let others := (o.members.map (·.1)).filter (· ≠ key)
  have hignored : key ∉ others := by simp [others]
  have hothers {e : String × Json} (he : e ∈ o.members) (hne : e.1 ≠ key) : e.1 ∈ others :=
    List.mem_filter.2 ⟨List.mem_map_of_mem he, decide_eq_true hne⟩
  obtain ⟨hlist, hitem⟩ := satisfies_doubled hkey hitems
  refine ⟨_, others, (acceptsIgnoring_others (ofJson_holds h) hlast hignored ?_ _).2 hlist,
    fun haccepts => hitem ((acceptsIgnoring_others hg hlast' hignored ?_ _).1 haccepts)⟩
  · intro _ hmem
    obtain ⟨e, he, rfl⟩ := List.mem_map.1 hmem
    exact hothers he
  · intro _ hmem
    obtain ⟨d, hd, hkey, -⟩ := (mem_rereadEntries_iff (nodup_keys h)).1 hmem
    obtain ⟨j, he, -⟩ := exists_member h hd
    rw [← hkey]
    exact hothers he

/-- **Filters that are read back from JSON.** The object of a filter is always read back, and the
filter accepts the same bags, whatever is ignored, just if no key but a pattern key has a single
allowed value that is itself a list. -/
theorem reread_exact (h : ofJson o.toJson = .ok f) :
    ∃ g, ofJson f.toJson = .ok g ∧
      ((∀ bag ignored, g.acceptsIgnoring bag ignored = f.acceptsIgnoring bag ignored) ↔
        ∀ e ∈ o.members, isPatternKey e.1 = false → ¬e.2.Doubled) := by
  obtain ⟨g, hg, hholds⟩ := exists_reread h
  refine ⟨g, hg, fun hsame e he hkey hdoubled => ?_, acceptsIgnoring_reread h hholds⟩
  obtain ⟨key, j⟩ := e
  obtain ⟨items, rfl⟩ := hdoubled
  obtain ⟨bag, ignored, haccepts, hrefuses⟩ := exists_apart h hholds hkey he
  exact hrefuses ((hsame bag ignored).trans haccepts)

/-- A list of two lists, a number above the integers, and a pattern. -/
theorem reread_exact_nested :
    let members : List (String × Json) :=
      [("id", .number (.large 9223372036854775808 (by decide))), ("name.regex", .string "vm|db"),
        ("zones", .array [.array [.string "a"], .array [.null]])]
    ∃ f g, ofJson (.object members) = .ok f ∧ ofJson f.toJson = .ok g ∧
      ∀ bag ignored, g.acceptsIgnoring bag ignored = f.acceptsIgnoring bag ignored := by
  intro members
  let o : JsonObject := ⟨members, rfl⟩
  obtain ⟨f, hf⟩ : ∃ f, ofJson o.toJson = .ok f :=
    exists_ok_of_isSome (by decide +kernel)
  obtain ⟨g, hg, hsame⟩ := reread_exact hf
  refine ⟨f, g, hf, hg, hsame.2 ?_⟩
  simp [o, members, Json.Doubled]

/-- A single allowed value that is a list is read back as its items. -/
theorem reread_collapsed :
    ∃ f g, ofJson (.object [("k", .array [.array [.string "a"]])]) = .ok f ∧
      ofJson f.toJson = .ok g ∧
      f.accepts (.ofList [("k", .list [.string "a"])]) = true ∧
      g.accepts (.ofList [("k", .list [.string "a"])]) = false :=
  ⟨_, _, rfl, rfl, rfl, rfl⟩

end AttributeFilter

end PropertyGraph
