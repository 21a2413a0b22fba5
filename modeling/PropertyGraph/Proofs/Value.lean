import PropertyGraph.Json.Record
import PropertyGraph.Value.Json

/-!
# Values through JSON

A value that is written as JSON is read back as it was, unless a timestamp or a double that is
not finite stands somewhere inside it: these have no JSON of their own. What is written is in
canonical form at once.

## Main definitions

- `Value.Inside` — a value stands inside another one
- `Value.Plain`, `Value.Ordered` — JSON has everything that a value holds, and its maps are
  listed in key order
-/

namespace PropertyGraph

namespace Value

/-- A value stands inside another one, at any depth of lists and maps. -/
inductive Inside (x : Value) : Value → Prop
  | self : Inside x x
  | item {v : Value} {items : List Value} : v ∈ items → Inside x v → Inside x (.list items)
  | entry {k : String} {v : Value} {entries : List (String × Value)} :
      (k, v) ∈ entries → Inside x v → Inside x (.map entries)

/-- No timestamp stands inside the value, and no double that is not finite. -/
structure Plain (v : Value) : Prop where
  noTimestamp : ∀ t, ¬Inside (.timestamp t) v
  finite : ∀ x, Inside (.float x) v → x.isFinite = true

/-- The maps inside the value are listed in key order, each key once, as all maps are. -/
def Ordered (v : Value) : Prop :=
  ∀ entries, Inside (.map entries) v → entries.Pairwise fun a b => compare a.1 b.1 = .lt

theorem Plain.of_inside {v w : Value} (h : w.Plain) (hin : ∀ {x}, Inside x v → Inside x w) :
    v.Plain where
  noTimestamp t ht := h.noTimestamp t (hin ht)
  finite x hx := h.finite x (hin hx)

theorem Ordered.of_inside {v w : Value} (h : w.Ordered) (hin : ∀ {x}, Inside x v → Inside x w) :
    v.Ordered :=
  fun entries he => h entries (hin he)

/-! ## Lists of values -/

theorem toJsonEntries_eq_map (entries : List (String × Value)) :
    toJsonEntries entries = entries.map fun e => (e.1, e.2.toJson) := by
  induction entries with
  | nil => rfl
  | cons e rest ih => rw [toJsonEntries, ih, List.map_cons]

theorem ofJsonItems_eq_map (items : List Json) : ofJsonItems items = items.map ofJson := by
  induction items with
  | nil => rfl
  | cons j rest ih => rw [ofJsonItems, ih, List.map_cons]

theorem ofJsonMembers_eq_map (members : List (String × Json)) :
    ofJsonMembers members = members.map fun e => (e.1, ofJson e.2) := by
  induction members with
  | nil => rfl
  | cons e rest ih => rw [ofJsonMembers, ih, List.map_cons]

/-- The JSON of entries in key order is in key order. -/
theorem ofList_toJsonEntries {entries : List (String × Value)}
    (h : entries.Pairwise fun a b => compare a.1 b.1 = .lt) :
    (SortedMap.ofList (toJsonEntries entries)).entries = toJsonEntries entries := by
  have hsorted : (toJsonEntries entries).Pairwise fun a b => compare a.1 b.1 = .lt := by
    rw [toJsonEntries_eq_map]
    exact List.pairwise_map.2 h
  have hsame := SortedMap.ofList_entries ⟨toJsonEntries entries, hsorted⟩
  exact congrArg SortedMap.entries hsame

/-! ## Writing -/

mutual

/-- **What is written is canonical.** -/
theorem canonical_toJson : ∀ v : Value, v.toJson.canonical = v.toJson
  | .string _ | .integer _ | .boolean _ | .timestamp _ | .unset => rfl
  | .float x => by
    rw [toJson, floatJson]
    split <;> rfl
  | .list items => by rw [toJson, Json.canonical, canonicalItems_toJsonItems items]
  | .map entries => by rw [toJson, Json.canonical_sorted (canonical_of_mem_toJsonEntries entries)]

theorem canonicalItems_toJsonItems :
    ∀ items : List Value, Json.canonicalItems (toJsonItems items) = toJsonItems items
  | [] => rfl
  | v :: items => by
    rw [toJsonItems, Json.canonicalItems, canonical_toJson v, canonicalItems_toJsonItems items]

theorem canonical_of_mem_toJsonEntries :
    ∀ entries : List (String × Value), ∀ e ∈ toJsonEntries entries, e.2.canonical = e.2
  | [], _, h => by simp [toJsonEntries] at h
  | (k, v) :: entries, e, h => by
    rw [toJsonEntries] at h
    rcases List.mem_cons.1 h with h | h
    · exact h ▸ canonical_toJson v
    · exact canonical_of_mem_toJsonEntries entries e h

end

/-! ## Reading back -/

/-- What is read back as a deletion marker. -/
theorem isUnset_ofJson_toJson {v : Value} :
    (ofJson v.toJson).isUnset = true ↔ v = .unset ∨ ∃ x, v = .float x ∧ x.isFinite = false := by
  cases v with
  | float x =>
    rw [toJson, floatJson]
    split
    · rename_i hx
      simp [ofJson, ofJsonNumber, isUnset, hx]
    · rename_i hx
      simp [ofJson, isUnset, hx]
  | unset => simp [toJson, ofJson, isUnset]
  | _ => simp [toJson, ofJson, ofJsonNumber, isUnset]

mutual

/-- **A plain value is read back as it was written.** -/
theorem ofJson_toJson : ∀ v : Value, v.Plain → v.Ordered → ofJson v.toJson = v
  | .string _, _, _ | .integer _, _, _ | .boolean _, _, _ | .unset, _, _ => rfl
  | .float x, h, _ => by
    rw [toJson, floatJson, dif_pos (h.finite x .self)]
    rfl
  | .timestamp t, h, _ => absurd .self (h.noTimestamp t)
  | .list items, h, ho => by
    rw [toJson, ofJson, ofJsonItems_toJsonItems items]
    · exact fun v hv => h.of_inside (.item hv)
    · exact fun v hv => ho.of_inside (.item hv)
  | .map entries, h, ho => by
    rw [toJson, ofJson, ofList_toJsonEntries (ho entries .self),
      ofJsonMembers_toJsonEntries entries]
    · exact fun e he => h.of_inside (.entry he)
    · exact fun e he => ho.of_inside (.entry he)

theorem ofJsonItems_toJsonItems : ∀ items : List Value, (∀ v ∈ items, v.Plain) →
    (∀ v ∈ items, v.Ordered) → ofJsonItems (toJsonItems items) = items
  | [], _, _ => rfl
  | v :: items, h, ho => by
    obtain ⟨hv, hitems⟩ := List.forall_mem_cons.1 h
    obtain ⟨hov, hoitems⟩ := List.forall_mem_cons.1 ho
    rw [toJsonItems, ofJsonItems, ofJson_toJson v hv hov,
      ofJsonItems_toJsonItems items hitems hoitems]

theorem ofJsonMembers_toJsonEntries : ∀ entries : List (String × Value),
    (∀ e ∈ entries, e.2.Plain) → (∀ e ∈ entries, e.2.Ordered) →
    ofJsonMembers (toJsonEntries entries) = entries
  | [], _, _ => rfl
  | (k, v) :: entries, h, ho => by
    obtain ⟨hv, hentries⟩ := List.forall_mem_cons.1 h
    obtain ⟨hov, hoentries⟩ := List.forall_mem_cons.1 ho
    rw [toJsonEntries, ofJsonMembers, ofJson_toJson v hv hov,
      ofJsonMembers_toJsonEntries entries hentries hoentries]

end

end Value

end PropertyGraph
