import PropertyGraph.AttributeFilter
import PropertyGraph.Proofs.LooseEquality
import PropertyGraph.Proofs.Query.Compile
import PropertyGraph.Proofs.Value

/-!
# Filters as queries

A selection is a JSON object that lists allowed values for each key. Read as a filter, it accepts
the same bags as the query that asks, for each key, for one of these values. A key without a value
is no exception: to the filter it reads as a deletion marker, which no allowed value equals, and to
the query it equals nothing.

## Main definitions

- `Json.choices` — the values that a member of a selection allows
- `Json.Selection` — the objects that both languages can state
- `Json.selectionQuery` — the query of a selection
-/

namespace PropertyGraph

namespace Json

/-- The values that are allowed: the items of a list, or a single value. -/
def choices : Json → List Json
  | .array items => items
  | j => [j]

/-- **The selections**: for each key there are allowed values, none of which is null or has an
object inside, and no key holds a pattern. -/
structure Selection (members : List (String × Json)) : Prop where
  nonempty : members ≠ []
  keys_nodup : (members.map (·.1)).Nodup
  /-- A key may be the ending of pattern keys, but may not have it after something else. -/
  keys_plain : ∀ e ∈ members, ∀ name ending : String,
    e.1 = name ++ ending → ending.toLower = patternSuffix → name = ""
  choices_nonempty : ∀ e ∈ members, e.2.choices ≠ []
  choices_literal : ∀ e ∈ members, ∀ x ∈ e.2.choices, x ≠ .null ∧ x.Literal

/-- The query for a property that equals a value. -/
def equalityQuery (key : String) (x : Json) : Json := .object [("==", .object [(key, x)])]

/-- The query for bags with an allowed value under each key. -/
def selectionQuery (members : List (String × Json)) : Json :=
  .object [("and", .array (members.map fun e =>
    .object [("or", .array (e.2.choices.map (equalityQuery e.1)))]))]

end Json

/-- The allowed values that a value states: the items of a list, or itself. -/
def Value.choices : Value → List Value
  | .list items => items
  | v => [v]

section

variable {members : List (String × Json)} {bag : Properties} {key : String} {x : Json}

/-! ## One key and one value -/

theorem Value.choices_ofJson (j : Json) : (ofJson j).choices = j.choices.map ofJson := by
  cases j with
  | array items => exact ofJsonItems_eq_map items
  | number n => cases n <;> rfl
  | _ => rfl

/-- A pattern key has the ending of pattern keys after something else. -/
theorem isPatternKey_iff :
    isPatternKey key = true ↔
      ∃ name ending : String,
        key = name ++ ending ∧ name ≠ "" ∧ ending.toLower = patternSuffix := by
  have hlower : ∀ ending : String, ending.toLower = patternSuffix ↔
      ending.toList.map Char.toLower = patternSuffix.toList := by
    intro ending
    have hmap : ending.toLower.toList = ending.toList.map Char.toLower := String.toList_map
    rw [← String.toList_inj, hmap]
  simp only [hlower]
  have hsuffix : patternSuffix.toList.length = patternSuffix.length := String.length_toList
  rw [isPatternKey, Bool.and_eq_true, decide_eq_true_iff, beq_iff_eq]
  constructor
  · rintro ⟨hlength, hending⟩
    refine ⟨String.ofList (key.toList.take (key.toList.length - patternSuffix.length)),
      String.ofList (key.toList.drop (key.toList.length - patternSuffix.length)), ?_, ?_, ?_⟩
    · rw [← String.ofList_append, List.take_append_drop, String.ofList_toList]
    · intro hname
      have htake := congrArg (·.toList.length) hname
      simp only [String.toList_ofList, List.length_take] at htake
      have hempty : ("" : String).toList.length = 0 := rfl
      omega
    · rw [String.toList_ofList]
      exact hending
  · rintro ⟨name, ending, rfl, hname, hending⟩
    have hlength : ending.toList.length = patternSuffix.length := by
      rw [← hsuffix, ← hending, List.length_map]
    have hpos : 0 < name.toList.length := by
      rw [List.length_pos_iff]
      exact fun h => hname (String.toList_inj.1 h)
    rw [String.toList_append, List.length_append, ← hlength, Nat.add_sub_cancel,
      List.drop_left]
    exact ⟨by omega, hending⟩

theorem Json.Selection.not_isPatternKey (h : Json.Selection members) {e : String × Json}
    (he : e ∈ members) : isPatternKey e.1 = false := by
  rw [← Bool.not_eq_true, isPatternKey_iff]
  rintro ⟨name, ending, hkey, hname, hending⟩
  exact hname (h.keys_plain e he name ending hkey hending)

/-- An allowed value equals what a key reads as just if the bag compares so. -/
theorem looseEq_ofOption_iff (hx : x ≠ .null) (hliteral : x.Literal) :
    (Value.ofJson x).looseEq (Value.ofOption (bag.get? key)) = true ↔
      bag.Compares key .eq (.ofJson x) := by
  rw [← Properties.holds_iff_compares]
  cases bag.get? key with
  | some v =>
    rw [Value.looseEq_comm]
    exact Iff.rfl
  | none =>
    -- no allowed value is the deletion marker
    have hunset : (Value.ofJson x).looseEq .unset = false := by
      cases x with
      | null => exact absurd rfl hx
      | number n => cases n <;> rfl
      | bool | string | array => rfl
      | object members => exact absurd .self (hliteral members)
    rw [Value.ofOption, hunset]
    exact iff_of_false Bool.false_ne_true Bool.false_ne_true

/-! ## The filter -/

namespace AttributeFilter

/-- The entry of a key that holds no pattern. -/
def plainEntry (e : String × Value) : FilterEntry := ⟨e.1, e.1, .oneOf e.2.choices⟩

theorem insert_of_plain {f : AttributeFilter} {e : String × Value}
    (hplain : isPatternKey e.1 = false) (hnew : ∀ d ∈ f.entries, d.key ≠ e.1) :
    f.insert e.1 e.2 = .ok ⟨f.entries ++ [plainEntry e]⟩ := by
  obtain ⟨k, v⟩ := e
  have hcondition : Condition.ofValue k v = .ok (.oneOf v.choices) := by
    unfold Condition.ofValue
    rw [if_neg (Bool.eq_false_iff.1 hplain)]
    cases v <;> rfl
  have hkept : f.entries.filter (·.key ≠ k) = f.entries :=
    List.filter_eq_self.2 fun d hd => decide_eq_true (hnew d hd)
  rw [insert, hcondition, bind_ok, hkept, propertyOfKey, if_neg (Bool.eq_false_iff.1 hplain)]
  rfl

/-- Conditions for different keys, none of which holds a pattern, are stated one after the other. -/
theorem insertAll_of_plain {entries : List (String × Value)} {f : AttributeFilter}
    (hplain : ∀ e ∈ entries, isPatternKey e.1 = false) (hnodup : (entries.map (·.1)).Nodup)
    (hnew : ∀ e ∈ entries, ∀ d ∈ f.entries, d.key ≠ e.1) :
    f.insertAll entries = .ok ⟨f.entries ++ entries.map plainEntry⟩ := by
  induction entries generalizing f with
  | nil => rw [insertAll, List.map_nil, List.append_nil]
  | cons e rest ih =>
    obtain ⟨hfirst, hrest⟩ := List.nodup_cons.1 hnodup
    have hrestnew : ∀ e' ∈ rest, ∀ d ∈ f.entries ++ [plainEntry e], d.key ≠ e'.1 := by
      intro e' he' d hd
      rw [List.mem_append, List.mem_singleton] at hd
      obtain hd | rfl := hd
      · exact hnew e' (List.mem_cons_of_mem _ he') d hd
      · exact fun hsame => hfirst (List.mem_map.2 ⟨e', he', hsame.symm⟩)
    rw [insertAll, insert_of_plain (hplain e List.mem_cons_self) (hnew e List.mem_cons_self),
      bind_ok, ih (fun e' he' => hplain e' (List.mem_cons_of_mem _ he')) hrest hrestnew,
      List.append_assoc]
    rfl

/-- The filter of a selection has a condition for each key. -/
theorem ofJson_of_selection (h : Json.Selection members) :
    ofJson (.object members) =
      .ok ⟨members.map fun e => plainEntry (e.1, Value.ofJson e.2)⟩ := by
  rw [ofJson, Value.ofJsonMembers_eq_map]
  have hkeys : (members.map fun e => (e.1, Value.ofJson e.2)).map (·.1) = members.map (·.1) :=
    List.map_map
  have hplain : ∀ e ∈ members.map fun e => (e.1, Value.ofJson e.2), isPatternKey e.1 = false :=
    List.forall_mem_map.2 fun e he => h.not_isPatternKey he
  have hall := insertAll_of_plain (f := empty) hplain (hkeys ▸ h.keys_nodup)
    fun _ _ _ hd => (List.not_mem_nil hd).elim
  rw [hall, List.map_map]
  rfl

/-- Where no key is ignored, all conditions count. -/
theorem accepts_eq_all (f : AttributeFilter) (bag : Properties) :
    f.accepts bag = f.entries.all (·.accepts bag) := by
  have hall : f.entries.filter (fun e => !([] : List String).contains e.key) = f.entries :=
    List.filter_eq_self.2 fun _ _ => rfl
  rw [accepts, acceptsIgnoring, hall]

theorem accepts_selection_iff (h : Json.Selection members) (bag : Properties) :
    accepts ⟨members.map fun e => plainEntry (e.1, Value.ofJson e.2)⟩ bag = true ↔
      ∀ e ∈ members, ∃ x ∈ e.2.choices, bag.Compares e.1 .eq (.ofJson x) := by
  have hentry : ∀ e ∈ members,
      (plainEntry (e.1, Value.ofJson e.2)).accepts bag = true ↔
        ∃ x ∈ e.2.choices, bag.Compares e.1 .eq (.ofJson x) := by
    intro e he
    rw [FilterEntry.accepts, plainEntry, Condition.accepts, Value.choices_ofJson, List.any_map,
      List.any_eq_true]
    refine exists_congr fun x => and_congr_right fun hx => ?_
    exact looseEq_ofOption_iff (h.choices_literal e he x hx).1 (h.choices_literal e he x hx).2
  rw [accepts_eq_all, List.all_map, List.all_eq_true]
  exact forall_congr' fun e => imp_congr_right fun he => hentry e he

end AttributeFilter

/-! ## The query -/

namespace Json

theorem Selection.isExpression (h : Selection members) : IsExpression (selectionQuery members) := by
  refine .all (by simpa using h.nonempty) fun i hi => ?_
  obtain ⟨e, he, rfl⟩ := List.mem_map.1 hi
  refine .any (by simpa using h.choices_nonempty e he) fun i hi => ?_
  obtain ⟨x, hx, rfl⟩ := List.mem_map.1 hi
  exact .comparison .eq (h.choices_literal e he x hx).2

theorem describes_selectionQuery_iff :
    Describes bag (selectionQuery members) ↔
      ∀ e ∈ members, ∃ x ∈ e.2.choices, bag.Compares e.1 .eq (.ofJson x) := by
  have hequality : ∀ key x, Describes bag (equalityQuery key x) ↔
      bag.Compares key .eq (.ofJson x) :=
    fun key x => @describes_comparison_iff bag .eq key x
  rw [selectionQuery, describes_all_iff, List.forall_mem_map]
  refine forall_congr' fun e => imp_congr_right fun _ => ?_
  rw [describes_any_iff]
  constructor
  · rintro ⟨i, hi, hdescribes⟩
    obtain ⟨x, hx, rfl⟩ := List.mem_map.1 hi
    exact ⟨x, hx, (hequality e.1 x).1 hdescribes⟩
  · rintro ⟨x, hx, hcompares⟩
    exact ⟨_, List.mem_map_of_mem hx, (hequality e.1 x).2 hcompares⟩

end Json

/-! ## Both languages -/

namespace AttributeFilter

/-- **The two languages agree on selections.** A selection is a filter, the query for its allowed
values is compiled, and both accept the same bags: those that have, under each key, a value that
equals an allowed one. -/
theorem accepts_selection (h : Json.Selection members) :
    ∃ f q, ofJson (.object members) = .ok f ∧
      Query.compile (Json.selectionQuery members) = .ok q ∧
      ∀ bag, f.accepts bag = q.accepts bag ∧ (f.accepts bag = true ↔
        ∀ e ∈ members, ∃ x ∈ e.2.choices, bag.Compares e.1 .eq (.ofJson x)) := by
  obtain ⟨p, hp⟩ := Predicate.exists_ofJson_of_isQuery (.expression h.isExpression)
  refine ⟨_, _, ofJson_of_selection h, map_eq_ok_iff.2 ⟨p, hp, rfl⟩, fun bag => ?_⟩
  have hasks := (Predicate.asks_of_ofJson hp).2 bag
  rw [h.isExpression.asks_iff, Json.describes_selectionQuery_iff] at hasks
  have haccepts := accepts_selection_iff h bag
  exact ⟨Bool.eq_iff_iff.2 (haccepts.trans hasks.symm), haccepts⟩

/-- A key that is the ending of pattern keys and nothing else, and a key with two allowed values. -/
theorem accepts_selection_ending :
    let members := [(".regex", .string "x"), ("state", .array [.number (.integer 1), .string "up"])]
    let bag := Properties.ofList [(".regex", .string "x"), ("state", .string "up")]
    ∃ f q, ofJson (.object members) = .ok f ∧
      Query.compile (Json.selectionQuery members) = .ok q ∧
      f.accepts bag = true ∧ q.accepts bag = true := by
  intro members bag
  have hkeys : ∀ e ∈ members, isPatternKey e.1 = false := by
    simp only [members, List.forall_mem_cons]
    exact ⟨rfl, rfl, fun _ h => nomatch h⟩
  have hselection : Json.Selection members := {
    nonempty := List.cons_ne_nil _ _
    keys_nodup := by decide
    keys_plain := by
      intro e he name ending hkey hending
      refine Classical.byContradiction fun hname => ?_
      have hpattern := isPatternKey_iff.2 ⟨name, ending, hkey, hname, hending⟩
      rw [hkeys e he] at hpattern
      cases hpattern
    choices_nonempty := by simp [members, Json.choices]
    choices_literal := by simp [members, Json.choices, ← Json.isLiteral_iff, Json.isLiteral] }
  obtain ⟨f, q, hf, hq, hagree⟩ := accepts_selection hselection
  have haccepts : f.accepts bag = true := by
    cases hf
    rfl
  exact ⟨f, q, hf, hq, haccepts, (hagree bag).1 ▸ haccepts⟩

end AttributeFilter

end

end PropertyGraph
