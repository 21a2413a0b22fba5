import PropertyGraph.Proofs.Query.Selection
import PropertyGraph.Proofs.Regex.Anchored

/-!
# Conditions

What a key and its value ask of a bag, and that an entry accepts the bags that have it. A pattern is
put into a group after the mark of the start. That anchors every pattern that is an expression by
itself; a pattern that closes the group early is accepted as well, and its later alternatives are not
anchored.

## Main definitions

- `Properties.Satisfies` — what a key and a value ask of a bag
- `FilterEntry.States` — the condition of an entry is the one that its key and a value state

## Main results

- `FilterEntry.accepts_iff` — entries accept what their key and value ask
- `AttributeFilter.insert_pattern` — where patterns are anchored
-/

namespace PropertyGraph

/-- **What a key and a value ask of a bag**: with a pattern key, that the property before the ending is
set and the anchored pattern matches its text; else that an allowed value is loosely equal to the
property, which reads as unset where it is missing. -/
inductive Properties.Satisfies (bag : Properties) : String → Value → Prop where
  | pattern {name ending pattern : String} {r : Regex} {v : Value} (hname : name ≠ "")
      (hending : ending.toLower = patternSuffix) (hr : anchoredRegex? pattern = some r)
      (hset : bag.get? name = some v) (hmatch : r.isMatch v.plainText = true) :
      Satisfies bag (name ++ ending) (.string pattern)
  | oneOf {key : String} {value a : Value} (hplain : isPatternKey key = false)
      (ha : a ∈ value.choices) (hequal : a.looseEq (.ofOption (bag.get? key)) = true) :
      Satisfies bag key value

/-! ## What a call states -/

section

variable {key name ending pattern : String} {value v : Value} {c : Condition} {bag : Properties}
  {err : GraphError}

/-- Pattern keys end with the same number of characters, so the property is cut from the key. -/
theorem propertyOfKey_append (hname : name ≠ "") (hending : ending.toLower = patternSuffix) :
    propertyOfKey (name ++ ending) = name := by
  have hlength : ending.toList.length = patternSuffix.length := by
    have hlower : ending.toLower.toList = ending.toList.map Char.toLower := String.toList_map
    rw [← String.length_toList, ← hending, hlower, List.length_map]
  rw [propertyOfKey, if_pos (isPatternKey_iff.2 ⟨name, ending, rfl, hname, hending⟩),
    ← String.length_toList, String.toList_append, List.length_append, hlength, Nat.add_sub_cancel,
    List.take_left, String.ofList_toList]

/-- The condition of a pattern key is a pattern that can be anchored. -/
theorem Condition.ofValue_of_pattern (hkey : isPatternKey key = true) :
    ofValue key value = .ok c ↔
      ∃ pattern r, value = .string pattern ∧ anchoredRegex? pattern = some r ∧
        c = .textMatches pattern r := by
  unfold ofValue
  rw [if_pos hkey]
  split
  · rename_i pattern
    split <;> rename_i hr <;> simp [hr, eq_comm]
  · rename_i hvalue
    simpa using fun pattern h => (hvalue pattern h).elim

theorem Condition.ofValue_of_plain (hkey : isPatternKey key = false) :
    ofValue key value = .ok (.oneOf value.choices) := by
  unfold ofValue
  rw [if_neg (Bool.eq_false_iff.1 hkey)]
  cases value <;> rfl

/-- An entry holds the condition that its key and a value state. -/
structure FilterEntry.States (e : FilterEntry) (value : Value) : Prop where
  property : e.property = propertyOfKey e.key
  condition : Condition.ofValue e.key value = .ok e.condition

/-- A pattern key asks that the property before the ending is set and matched. -/
theorem Properties.satisfies_pattern_iff {r : Regex} (hname : name ≠ "")
    (hending : ending.toLower = patternSuffix) (hr : anchoredRegex? pattern = some r) :
    bag.Satisfies (name ++ ending) (.string pattern) ↔
      ∃ v, bag.get? name = some v ∧ r.isMatch v.plainText = true := by
  constructor
  · intro h
    generalize hsame : name ++ ending = written at h
    obtain ⟨hname', hending', hr', hset, hmatch⟩ | ⟨hplain, -, -⟩ := h
    · have hnames := congrArg propertyOfKey hsame
      rw [propertyOfKey_append hname hending, propertyOfKey_append hname' hending'] at hnames
      obtain rfl := Option.some.inj (hr.symm.trans hr')
      exact ⟨_, hnames ▸ hset, hmatch⟩
    · rw [← hsame, isPatternKey_iff.2 ⟨name, ending, rfl, hname, hending⟩] at hplain
      cases hplain
  · rintro ⟨v, hset, hmatch⟩
    exact .pattern hname hending hr hset hmatch

/-- Another key asks for an allowed value. -/
theorem Properties.satisfies_plain_iff (hkey : isPatternKey key = false) :
    bag.Satisfies key value ↔
      ∃ a ∈ value.choices, a.looseEq (.ofOption (bag.get? key)) = true := by
  constructor
  · rintro (⟨hname, hending⟩ | ⟨-, ha, hequal⟩)
    · rw [isPatternKey_iff.2 ⟨_, _, rfl, hname, hending⟩] at hkey
      cases hkey
    · exact ⟨_, ha, hequal⟩
  · rintro ⟨a, ha, hequal⟩
    exact .oneOf hkey ha hequal

/-- An entry accepts the bags that have what its key and value ask. -/
theorem FilterEntry.accepts_iff {e : FilterEntry} (h : e.States value) :
    e.accepts bag = true ↔ bag.Satisfies e.key value := by
  obtain ⟨key, property, c⟩ := e
  obtain ⟨hproperty, h⟩ := h
  dsimp only at hproperty h ⊢
  subst hproperty
  cases hkey : isPatternKey key with
  | true =>
    obtain ⟨pattern, r, rfl, hr, rfl⟩ := (Condition.ofValue_of_pattern hkey).1 h
    obtain ⟨name, ending, rfl, hname, hending⟩ := isPatternKey_iff.1 hkey
    rw [accepts, propertyOfKey_append hname hending, Condition.accepts, Option.any_eq_true,
      Properties.satisfies_pattern_iff hname hending hr]
  | false =>
    rw [Condition.ofValue_of_plain hkey] at h
    cases h
    have hproperty : propertyOfKey key = key := by
      rw [propertyOfKey, if_neg (Bool.eq_false_iff.1 hkey)]
    rw [accepts, hproperty, Condition.accepts, List.any_eq_true, Properties.satisfies_plain_iff hkey]

end

/-! ## One call -/

namespace AttributeFilter

variable {f g : AttributeFilter} {k : String} {v : Value}

theorem insert_eq_ok_iff : f.insert k v = .ok g ↔
    ∃ e : FilterEntry, e.key = k ∧ e.States v ∧ g = ⟨f.entries.filter (·.key ≠ k) ++ [e]⟩ := by
  rw [insert, bind_eq_ok_iff]
  constructor
  · rintro ⟨c, hc, h⟩
    cases h
    exact ⟨⟨k, propertyOfKey k, c⟩, rfl, ⟨rfl, hc⟩, rfl⟩
  · rintro ⟨⟨key, property, c⟩, rfl, ⟨hproperty, hc⟩, rfl⟩
    dsimp only at hproperty hc ⊢
    subst hproperty
    exact ⟨c, hc, rfl⟩

/-- A pattern is accepted if it can be anchored. -/
theorem exists_insert_pattern {name ending pattern : String} {r : Regex} (hname : name ≠ "")
    (hending : ending.toLower = patternSuffix) (hr : anchoredRegex? pattern = some r) :
    ∃ g, f.insert (name ++ ending) (.string pattern) = .ok g := by
  have hpattern := isPatternKey_iff.2 ⟨name, ending, rfl, hname, hending⟩
  exact ⟨_, bind_eq_ok_iff.2
    ⟨_, (Condition.ofValue_of_pattern hpattern).2 ⟨pattern, r, rfl, hr, rfl⟩, rfl⟩⟩

/-- **Patterns match from the start.** A pattern is accepted if it can be anchored, and its entry then
asks for a property that is set and that the anchored pattern matches. A pattern that is an expression
by itself has to match from the start of the text. -/
theorem insert_pattern {name ending pattern : String} (hname : name ≠ "")
    (hending : ending.toLower = patternSuffix)
    (h : f.insert (name ++ ending) (.string pattern) = .ok g) :
    ∃ e r, g.entries = f.entries.filter (·.key ≠ name ++ ending) ++ [e] ∧ e.key = name ++ ending ∧
      anchoredRegex? pattern = some r ∧
      (∀ bag, e.accepts bag = true ↔
        ∃ v, bag.get? name = some v ∧ r.isMatch v.plainText = true) ∧
      ∀ p, Regex.parse? pattern = some p → ∀ bag, e.accepts bag = true ↔
        ∃ v, bag.get? name = some v ∧ p.matchesFrom 0 v.plainText = true := by
  obtain ⟨e, hkey, hstates, rfl⟩ := insert_eq_ok_iff.1 h
  have hpattern : isPatternKey e.key = true :=
    isPatternKey_iff.2 ⟨name, ending, hkey, hname, hending⟩
  obtain ⟨_, r, hvalue, hr, -⟩ := (Condition.ofValue_of_pattern hpattern).1 hstates.condition
  cases hvalue
  have haccepts (bag : Properties) : e.accepts bag = true ↔
      ∃ v, bag.get? name = some v ∧ r.isMatch v.plainText = true := by
    rw [FilterEntry.accepts_iff hstates, hkey, Properties.satisfies_pattern_iff hname hending hr]
  refine ⟨e, r, rfl, hkey, hr, haccepts, fun p hp bag => ?_⟩
  rw [haccepts]
  simp only [anchoredRegex?_isMatch hp hr]

/-- A pattern with an alternative that begins a line; the line has to begin the text as well. -/
theorem insert_pattern_lines :
    let pattern := "db|(?m)^vm"
    ∃ g p, empty.insert ("name" ++ ".REGEX") (.string pattern) = .ok g ∧
      Regex.parse? pattern = some p ∧
      (∀ bag, g.accepts bag = true ↔
        ∃ v, bag.get? "name" = some v ∧ p.matchesFrom 0 v.plainText = true) ∧
      p.matchesFrom 0 "vm-1" = true ∧ p.matchesFrom 0 "a\nvm-1" = false := by
  intro pattern
  have hending : ".REGEX".toLower = patternSuffix := by decide +kernel
  obtain ⟨r, hr⟩ : ∃ r, anchoredRegex? pattern = some r :=
    Option.isSome_iff_exists.1 (by decide +kernel)
  obtain ⟨g, hg⟩ := exists_insert_pattern (f := empty) (by decide : "name" ≠ "") hending hr
  obtain ⟨e, -, hentries, -, -, -, hown⟩ := insert_pattern (by decide) hending hg
  have hmatches : (Regex.parse? pattern).any
      (fun p => p.matchesFrom 0 "vm-1" && !p.matchesFrom 0 "a\nvm-1") = true := by
    decide +kernel
  obtain ⟨p, hp, hmatches⟩ := (Option.any_eq_true ..).1 hmatches
  refine ⟨g, p, hg, hp, fun bag => ?_, by simpa using hmatches⟩
  rw [accepts_eq_all, hentries]
  simpa [empty] using hown p hp bag

/-- A pattern may close the group that it is put into. It is no expression by itself, and it accepts a
text that begins with neither of its alternatives. -/
theorem insert_pattern_early_close :
    let pattern := "x)|(?:0"
    Regex.parse? pattern = none ∧
      ∃ g, empty.insert ("name" ++ ".regex") (.string pattern) = .ok g ∧
        g.accepts (.ofList [("name", .string "a0")]) = true := by
  intro pattern
  refine ⟨by decide +kernel, ?_⟩
  exact exists_ok_of_any (by decide +kernel)

end AttributeFilter

end PropertyGraph
