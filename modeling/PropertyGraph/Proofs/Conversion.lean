import PropertyGraph.Proofs.Double
import PropertyGraph.Proofs.SelfEquality

/-!
# Where conversion loses nothing

Values and JSON are converted into each other by two recursions over lists and maps. Some leaves are
changed on the way: a timestamp becomes a string, a double that is not finite becomes null, and an
integer that fits 64 bits only without a sign becomes a double. A changed leaf makes a difference to
everything that it stands in, so conversion there and back changes nothing just where no such leaf is
inside.

## Main definitions

- `Json.Inside` — a JSON value stands inside another one
- `Json.Signed` — all integers of a JSON value fit 64 bits with a sign

## Main results

- `Value.ofJson_toJson_ofJson` — the value of JSON is read back as it was written
- `Value.conversion_exact` — what is the same after conversion there and back
-/

namespace PropertyGraph

/-! ## Values of JSON -/

namespace Json

variable {items : List Json} {members : List (String × Json)}

theorem canonical_of_mem_array (h : canonical (.array items) = .array items) {j : Json} (hj : j ∈ items) :
    j.canonical = j := by
  have hall : ∀ js : List Json, canonicalItems js = js → ∀ j ∈ js, j.canonical = j := by
    intro js
    induction js with
    | nil => exact fun _ _ h => nomatch h
    | cons i rest ih =>
      intro h
      rw [canonicalItems] at h
      injection h with hi hrest
      exact List.forall_mem_cons.2 ⟨hi, ih hrest⟩
  injection h with h
  exact hall items h j hj

theorem canonical_of_mem_object (h : canonical (.object members) = .object members) {e : String × Json}
    (he : e ∈ members) : e.2.canonical = e.2 := by
  injection h with h
  rw [← h] at he
  exact canonical_of_mem_canonicalMembers members e (SortedMap.mem_of_mem_ofList he)

theorem increasing_of_canonical (h : canonical (.object members) = .object members) :
    members.Pairwise fun a b => compare a.1 b.1 = .lt := by
  injection h with h
  rw [← h]
  exact (SortedMap.ofList _).increasing

end Json

namespace Value

/-- What stands inside the value of canonical JSON is such a value as well. -/
theorem exists_ofJson_of_inside {x v : Value} (h : Inside x v) {j : Json} (hv : v = ofJson j)
    (hj : j.canonical = j) : ∃ i, x = ofJson i ∧ i.canonical = i := by
  induction h generalizing j with
  | self => exact ⟨j, hv, hj⟩
  | item hmem _ ih =>
    cases j with
    | array js =>
      rw [ofJson, ofJsonItems_eq_map, list.injEq] at hv
      subst hv
      obtain ⟨i, hi, rfl⟩ := List.mem_map.1 hmem
      exact ih rfl (Json.canonical_of_mem_array hj hi)
    | number n => cases n <;> cases hv
    | _ => cases hv
  | entry hmem _ ih =>
    cases j with
    | object members =>
      rw [ofJson, ofJsonMembers_eq_map, map.injEq] at hv
      subst hv
      obtain ⟨e, he, heq⟩ := List.mem_map.1 hmem
      cases heq
      exact ih rfl (Json.canonical_of_mem_object hj he)
    | number n => cases n <;> cases hv
    | _ => cases hv

variable {j : Json}

/-- JSON has no timestamps, and its numbers are finite doubles if they do not fit an integer. -/
theorem plain_ofJson (hj : j.canonical = j) : (ofJson j).Plain where
  noTimestamp t ht := by
    obtain ⟨i, hi, -⟩ := exists_ofJson_of_inside ht rfl hj
    cases i with
    | number n => cases n <;> cases hi
    | _ => cases hi
  finite x hx := by
    obtain ⟨i, hi, -⟩ := exists_ofJson_of_inside hx rfl hj
    cases i with
    | number n =>
      cases n with
      | integer n => cases hi
      | large n hlarge =>
        cases hi
        exact isFinite_ofNat_of_large hlarge n.toNat_lt
      | float y hfinite =>
        cases hi
        exact hfinite
    | _ => cases hi

theorem ordered_ofJson (hj : j.canonical = j) : (ofJson j).Ordered := by
  intro entries hentries
  obtain ⟨i, hi, hcanonical⟩ := exists_ofJson_of_inside hentries rfl hj
  cases i with
  | object members =>
    rw [ofJson, ofJsonMembers_eq_map, map.injEq] at hi
    subst hi
    exact List.pairwise_map.2 (Json.increasing_of_canonical hcanonical)
  | number n => cases n <;> cases hi
  | _ => cases hi

/-- **The value of JSON is read back as it was written**, numbers outside the integers included. -/
theorem ofJson_toJson_ofJson (hj : j.canonical = j) : ofJson (ofJson j).toJson = ofJson j :=
  ofJson_toJson _ (plain_ofJson hj) (ordered_ofJson hj)

theorem numeric_ofJson (hj : j.canonical = j) : (ofJson j).Numeric :=
  fun x hx => isNaN_of_isFinite ((plain_ofJson hj).finite x hx)

end Value

/-! ## From values to JSON and back -/

namespace Value

theorem plain_of_atom {v : Value} (htimestamp : ∀ t, ¬Inside (.timestamp t) v)
    (hfloat : ∀ x, ¬Inside (.float x) v) : v.Plain :=
  ⟨htimestamp, fun x hx => absurd hx (hfloat x)⟩

theorem plain_float_iff {x : Float} : (float x).Plain ↔ x.isFinite = true := by
  constructor
  · exact fun h => h.finite x .self
  · refine fun h => ⟨fun t ht => (nomatch ht), fun y hy => ?_⟩
    cases hy
    exact h

theorem plain_list_iff {items : List Value} : (list items).Plain ↔ ∀ v ∈ items, v.Plain := by
  constructor
  · exact fun h v hv => h.of_inside (.item hv)
  · refine fun h => ⟨fun t ht => ?_, fun x hx => ?_⟩
    · cases ht with
      | item hv ht => exact (h _ hv).noTimestamp t ht
    · cases hx with
      | item hv hx => exact (h _ hv).finite x hx

theorem plain_map_iff {entries : List (String × Value)} :
    (map entries).Plain ↔ ∀ e ∈ entries, e.2.Plain := by
  constructor
  · exact fun h e he => h.of_inside (.entry he)
  · refine fun h => ⟨fun t ht => ?_, fun x hx => ?_⟩
    · cases ht with
      | entry he ht => exact (h _ he).noTimestamp t ht
    · cases hx with
      | entry he hx => exact (h _ he).finite x hx

/-- A finite double comes back, and null is no double. -/
theorem beq_ofJson_floatJson_iff (x : Float) :
    beq (ofJson (floatJson x)) (.float x) = true ↔ x.isFinite = true := by
  rw [floatJson]
  split
  · rename_i hfinite
    exact iff_of_true ((float_beq_self_iff x).2 (isNaN_of_isFinite hfinite)) hfinite
  · rename_i hfinite
    exact iff_of_false (fun h => nomatch h) hfinite

mutual

/-- **A value equals what is read back of it** just if it is plain. -/
theorem beq_ofJson_toJson_iff : ∀ v : Value, v.Ordered → (beq (ofJson v.toJson) v = true ↔ v.Plain)
  | .string s, _ => iff_of_true BEq.rfl (plain_of_atom (fun _ h => nomatch h) fun _ h => nomatch h)
  | .integer n, _ => iff_of_true BEq.rfl (plain_of_atom (fun _ h => nomatch h) fun _ h => nomatch h)
  | .boolean b, _ => iff_of_true BEq.rfl (plain_of_atom (fun _ h => nomatch h) fun _ h => nomatch h)
  | .unset, _ => iff_of_true rfl (plain_of_atom (fun _ h => nomatch h) fun _ h => nomatch h)
  | .timestamp t, _ => iff_of_false (fun h => nomatch h) fun h => h.noTimestamp t .self
  | .float x, _ => (beq_ofJson_floatJson_iff x).trans plain_float_iff.symm
  | .list items, ho => by
    rw [toJson, ofJson, beq, plain_list_iff]
    exact beqItems_ofJsonItems_iff items fun v hv => ho.of_inside (.item hv)
  | .map entries, ho => by
    rw [toJson, ofJson, ofList_toJsonEntries (ho entries .self), beq, plain_map_iff]
    exact beqEntries_ofJsonMembers_iff entries fun e he => ho.of_inside (.entry he)

theorem beqItems_ofJsonItems_iff : ∀ items : List Value, (∀ v ∈ items, v.Ordered) →
    (beqItems (ofJsonItems (toJsonItems items)) items = true ↔ ∀ v ∈ items, v.Plain)
  | [], _ => iff_of_true rfl (List.forall_mem_nil _)
  | v :: items, ho => by
    obtain ⟨hov, hoitems⟩ := List.forall_mem_cons.1 ho
    rw [toJsonItems, ofJsonItems, beqItems, Bool.and_eq_true, beq_ofJson_toJson_iff v hov,
      beqItems_ofJsonItems_iff items hoitems, List.forall_mem_cons]

theorem beqEntries_ofJsonMembers_iff : ∀ entries : List (String × Value),
    (∀ e ∈ entries, e.2.Ordered) →
    (beqEntries (ofJsonMembers (toJsonEntries entries)) entries = true ↔ ∀ e ∈ entries, e.2.Plain)
  | [], _ => iff_of_true rfl (List.forall_mem_nil _)
  | (k, v) :: entries, ho => by
    obtain ⟨hov, hoentries⟩ := List.forall_mem_cons.1 ho
    rw [toJsonEntries, ofJsonMembers, beqEntries, Bool.and_eq_true, Bool.and_eq_true,
      beq_ofJson_toJson_iff v hov, beqEntries_ofJsonMembers_iff entries hoentries,
      List.forall_mem_cons]
    exact and_congr_left fun _ => and_iff_right BEq.rfl

end

end Value

/-! ## From JSON to values and back -/

namespace Json

/-- A JSON value stands inside another one, at any depth of arrays and objects. -/
inductive Inside (i : Json) : Json → Prop
  | self : Inside i i
  | item {j : Json} {items : List Json} : j ∈ items → Inside i j → Inside i (.array items)
  | member {k : String} {j : Json} {members : List (String × Json)} :
      (k, j) ∈ members → Inside i j → Inside i (.object members)

/-- No integer inside the value fits 64 bits only without a sign. -/
def Signed (j : Json) : Prop := ∀ n h, ¬Inside (.number (.large n h)) j

theorem signed_array_iff {items : List Json} : (array items).Signed ↔ ∀ j ∈ items, j.Signed := by
  constructor
  · exact fun h j hj n hn hin => h n hn (.item hj hin)
  · intro h n hn hin
    cases hin with
    | item hj hin => exact h _ hj n hn hin

theorem signed_object_iff {members : List (String × Json)} :
    (object members).Signed ↔ ∀ e ∈ members, e.2.Signed := by
  constructor
  · exact fun h e he n hn hin => h n hn (.member he hin)
  · intro h n hn hin
    cases hin with
    | member he hin => exact h _ he n hn hin

mutual

/-- No double inside JSON differs from itself, as all of them are finite. -/
theorem beq_self : ∀ j : Json, beq j j = true
  | .null => rfl
  | .bool b => BEq.refl b
  | .number (.integer n) => BEq.refl n
  | .number (.large n _) => BEq.refl n
  | .number (.float x hfinite) => (float_beq_self_iff x).2 (isNaN_of_isFinite hfinite)
  | .string s => BEq.refl s
  | .array items => by rw [beq, beqItems_self items]
  | .object members => by rw [beq, beqMembers_self members]

theorem beqItems_self : ∀ items : List Json, beqItems items items = true
  | [] => rfl
  | j :: items => by rw [beqItems, beq_self j, beqItems_self items, Bool.and_self]

theorem beqMembers_self : ∀ members : List (String × Json), beqMembers members members = true
  | [] => rfl
  | (k, j) :: members => by
    rw [beqMembers, beq_self j, beqMembers_self members, BEq.refl, Bool.and_self, Bool.and_self]

end

end Json

namespace Value

/-- The values of canonical members are written in the order of the members. -/
theorem toJson_ofJson_object {members : List (String × Json)}
    (h : Json.canonical (.object members) = .object members) :
    (ofJson (.object members)).toJson = .object (toJsonEntries (ofJsonMembers members)) := by
  have hincreasing : (ofJsonMembers members).Pairwise fun a b => compare a.1 b.1 = .lt := by
    rw [ofJsonMembers_eq_map]
    exact List.pairwise_map.2 (Json.increasing_of_canonical h)
  rw [ofJson, toJson, ofList_toJsonEntries hincreasing]

mutual

/-- **JSON is written as it was read** if all its integers fit 64 bits with a sign. -/
theorem toJson_ofJson : ∀ j : Json, j.canonical = j → j.Signed → (ofJson j).toJson = j
  | .null, _, _ | .bool _, _, _ | .string _, _, _ | .number (.integer _), _, _ => rfl
  | .number (.large n hn), _, h => absurd .self (h n hn)
  | .number (.float x hfinite), _, _ => dif_pos hfinite
  | .array items, hc, h => by
    rw [ofJson, toJson, toJsonItems_ofJsonItems items (fun j => Json.canonical_of_mem_array hc)
      (Json.signed_array_iff.1 h)]
  | .object members, hc, h => by
    rw [toJson_ofJson_object hc, toJsonEntries_ofJsonMembers members
      (fun e => Json.canonical_of_mem_object hc) (Json.signed_object_iff.1 h)]

theorem toJsonItems_ofJsonItems : ∀ items : List Json, (∀ j ∈ items, j.canonical = j) →
    (∀ j ∈ items, j.Signed) → toJsonItems (ofJsonItems items) = items
  | [], _, _ => rfl
  | j :: items, hc, h => by
    obtain ⟨hcj, hcitems⟩ := List.forall_mem_cons.1 hc
    obtain ⟨hj, hitems⟩ := List.forall_mem_cons.1 h
    rw [ofJsonItems, toJsonItems, toJson_ofJson j hcj hj,
      toJsonItems_ofJsonItems items hcitems hitems]

theorem toJsonEntries_ofJsonMembers : ∀ members : List (String × Json),
    (∀ e ∈ members, e.2.canonical = e.2) → (∀ e ∈ members, e.2.Signed) →
    toJsonEntries (ofJsonMembers members) = members
  | [], _, _ => rfl
  | (k, j) :: members, hc, h => by
    obtain ⟨hcj, hcmembers⟩ := List.forall_mem_cons.1 hc
    obtain ⟨hj, hmembers⟩ := List.forall_mem_cons.1 h
    rw [ofJsonMembers, toJsonEntries, toJson_ofJson j hcj hj,
      toJsonEntries_ofJsonMembers members hcmembers hmembers]

end

/-- Neither a double nor null equals an integer. -/
theorem beq_floatJson_large (x : Float) {n : UInt64} (hn : int64Bound ≤ n.toNat) :
    Json.beq (floatJson x) (.number (.large n hn)) = false := by
  rw [floatJson]
  split <;> rfl

mutual

/-- A larger integer makes a difference, wherever it stands. -/
theorem signed_of_beq_toJson_ofJson : ∀ j : Json, j.canonical = j →
    Json.beq (ofJson j).toJson j = true → j.Signed
  | .null, _, _ | .bool _, _, _ | .string _, _, _ | .number (.integer _), _, _
  | .number (.float _ _), _, _ => fun _ _ h => nomatch h
  | .number (.large n hn), _, h => absurd h (Bool.eq_false_iff.1 (beq_floatJson_large _ hn))
  | .array items, hc, h => by
    rw [ofJson, toJson, Json.beq] at h
    exact Json.signed_array_iff.2
      (signed_of_beqItems items (fun j => Json.canonical_of_mem_array hc) h)
  | .object members, hc, h => by
    rw [toJson_ofJson_object hc, Json.beq] at h
    exact Json.signed_object_iff.2
      (signed_of_beqMembers members (fun e => Json.canonical_of_mem_object hc) h)

theorem signed_of_beqItems : ∀ items : List Json, (∀ j ∈ items, j.canonical = j) →
    Json.beqItems (toJsonItems (ofJsonItems items)) items = true → ∀ j ∈ items, j.Signed
  | [], _, _ => List.forall_mem_nil _
  | j :: items, hc, h => by
    obtain ⟨hcj, hcitems⟩ := List.forall_mem_cons.1 hc
    rw [ofJsonItems, toJsonItems, Json.beqItems, Bool.and_eq_true] at h
    exact List.forall_mem_cons.2
      ⟨signed_of_beq_toJson_ofJson j hcj h.1, signed_of_beqItems items hcitems h.2⟩

theorem signed_of_beqMembers : ∀ members : List (String × Json),
    (∀ e ∈ members, e.2.canonical = e.2) →
    Json.beqMembers (toJsonEntries (ofJsonMembers members)) members = true →
    ∀ e ∈ members, e.2.Signed
  | [], _, _ => List.forall_mem_nil _
  | (k, j) :: members, hc, h => by
    obtain ⟨hcj, hcmembers⟩ := List.forall_mem_cons.1 hc
    rw [ofJsonMembers, toJsonEntries, Json.beqMembers, Bool.and_eq_true, Bool.and_eq_true] at h
    exact List.forall_mem_cons.2
      ⟨signed_of_beq_toJson_ofJson j hcj h.1.2, signed_of_beqMembers members hcmembers h.2⟩

end

/-- **Where conversion loses nothing.** A value equals what is read back of its JSON just if no timestamp
stands inside it and no double that is not finite. Canonical JSON is written as it was read, with the same
numbers and members, just if no integer inside it is too large for 64 bits with a sign; otherwise the two
differ also where doubles are compared as doubles. The entries of maps are to be in key order, as they
are in all values that are read from JSON. -/
theorem conversion_exact :
    (∀ v : Value, v.Ordered → ((ofJson v.toJson == v) = true ↔ v.Plain)) ∧
    ∀ j : Json, j.canonical = j →
      ((ofJson j).toJson = j ↔ j.Signed) ∧ (((ofJson j).toJson == j) = true ↔ j.Signed) := by
  refine ⟨beq_ofJson_toJson_iff, fun j hj => ?_⟩
  have hsame (h : (ofJson j).toJson = j) : ((ofJson j).toJson == j) = true := by
    rw [h]
    exact j.beq_self
  have hsigned : ((ofJson j).toJson == j) = true → j.Signed := signed_of_beq_toJson_ofJson j hj
  exact ⟨⟨fun h => hsigned (hsame h), toJson_ofJson j hj⟩, ⟨hsigned, fun h => hsame (toJson_ofJson j hj h)⟩⟩

/-- Both ends of the integers, a zero with a sign and null come through. A timestamp and an integer that is
too large for a sign are not hidden by what they stand in. -/
theorem conversion_exact_corners :
    let j : Json := .object
      [("ends", .array [.number (.integer Int64.minValue), .number (.integer Int64.maxValue)]),
        ("none", .null), ("zero", .number (.float (-0.0) (by decide)))]
    let stamped : Value := .list [.map [("at", .timestamp ⟨0, 0⟩)], .unset]
    let large : Json := .array [.object [("n", .number (.large 9223372036854775808 (by decide)))]]
    ((ofJson (ofJson j).toJson == ofJson j) = true ∧ (ofJson j).toJson = j) ∧
      (ofJson stamped.toJson == stamped) = false ∧ ((ofJson large).toJson == large) = false := by
  intro j stamped large
  have hj : j.canonical = j := rfl
  have hsigned : j.Signed := by
    refine Json.signed_object_iff.2 ?_
    simp only [List.forall_mem_cons, Json.signed_array_iff]
    exact ⟨⟨nofun, nofun, nofun⟩, nofun, nofun, nofun⟩
  have hstamped : stamped.Ordered := by
    intro entries (hentries : Inside _ (list [_, _]))
    cases hentries with
    | item hmem hin =>
      obtain rfl | hmem := List.mem_cons.1 hmem
      · cases hin with
        | self => exact List.pairwise_singleton _ _
        | entry hmem hin =>
          cases List.mem_singleton.1 hmem
          cases hin
      · cases List.mem_singleton.1 hmem
        cases hin
  refine ⟨⟨(conversion_exact.1 _ (ordered_ofJson hj)).2 (plain_ofJson hj),
    (conversion_exact.2 j hj).1.2 hsigned⟩, Bool.eq_false_iff.2 fun h => ?_,
    Bool.eq_false_iff.2 fun h => ?_⟩
  · refine ((conversion_exact.1 stamped hstamped).1 h).noTimestamp ⟨0, 0⟩ ?_
    exact .item List.mem_cons_self (.entry List.mem_cons_self .self)
  · refine (conversion_exact.2 large rfl).2.1 h 9223372036854775808 (by decide) ?_
    exact .item List.mem_cons_self (.member List.mem_cons_self .self)

end Value

end PropertyGraph
