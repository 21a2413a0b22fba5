import PropertyGraph.Json.Basic

/-!
# Objects and records

An object with canonical members is a finite map. A record has named fields in a fixed order; it
is written as an object with a member for each field, or as an array of the fields.

## Main definitions

- `JsonObject` — canonical members
- `Json.recordFields?` — the fields of a record

## Main statements

- `Json.canonical_canonical` — canonical values stay as they are
- `JsonObject.ofMembers_members` — so do canonical members
-/

namespace PropertyGraph

namespace Json

/-! ## Canonical members -/

theorem canonicalMembers_eq_self {members : List (String × Json)}
    (h : ∀ e ∈ members, e.2.canonical = e.2) : canonicalMembers members = members := by
  induction members with
  | nil => rfl
  | cons e rest ih =>
    obtain ⟨k, j⟩ := e
    rw [canonicalMembers, ih fun e he => h e (List.mem_cons_of_mem _ he),
      show j.canonical = j from h (k, j) List.mem_cons_self]

theorem canonical_sorted {members : List (String × Json)} (h : ∀ e ∈ members, e.2.canonical = e.2) :
    canonical (.object (SortedMap.ofList members).entries) = .object (SortedMap.ofList members).entries := by
  rw [canonical, canonicalMembers_eq_self fun e he => h e (SortedMap.mem_of_mem_ofList he),
    SortedMap.ofList_entries]

mutual

/-- A canonical value is its own canonical form. -/
theorem canonical_canonical : ∀ j : Json, j.canonical.canonical = j.canonical
  | .null | .bool _ | .number _ | .string _ => rfl
  | .array items => by rw [canonical, canonical, canonicalItems_canonicalItems items]
  | .object members => by rw [canonical, canonical_sorted (canonical_of_mem_canonicalMembers members)]

theorem canonicalItems_canonicalItems :
    ∀ items : List Json, canonicalItems (canonicalItems items) = canonicalItems items
  | [] => rfl
  | j :: items => by
    rw [canonicalItems, canonicalItems, canonical_canonical j, canonicalItems_canonicalItems items]

theorem canonical_of_mem_canonicalMembers :
    ∀ members : List (String × Json), ∀ e ∈ canonicalMembers members, e.2.canonical = e.2
  | [], _, h => by simp [canonicalMembers] at h
  | (k, j) :: members, e, h => by
    rw [canonicalMembers] at h
    rcases List.mem_cons.1 h with h | h
    · exact h ▸ canonical_canonical j
    · exact canonical_of_mem_canonicalMembers members e h

end

end Json

/-- Members of an object in canonical form. -/
structure JsonObject where
  members : List (String × Json)
  canonical : Json.canonical (.object members) = .object members

namespace JsonObject

/-- The object without members. -/
def empty : JsonObject := ⟨[], rfl⟩

instance : EmptyCollection JsonObject := ⟨empty⟩

instance : Inhabited JsonObject := ⟨empty⟩

/-- The canonical form of members. -/
def ofMembers (members : List (String × Json)) : JsonObject :=
  ⟨(SortedMap.ofList (Json.canonicalMembers members)).entries,
    Json.canonical_sorted (Json.canonical_of_mem_canonicalMembers members)⟩

/-- Canonical members stay as they are. -/
theorem ofMembers_members (o : JsonObject) : ofMembers o.members = o := by
  have h := o.canonical
  rw [Json.canonical] at h
  cases o
  simpa [ofMembers] using h

/-- The object as a JSON value. -/
def toJson (o : JsonObject) : Json := .object o.members

/-- Equality member by member. -/
def beq (a b : JsonObject) : Bool := a.toJson == b.toJson

instance : BEq JsonObject := ⟨beq⟩

end JsonObject

namespace Json

/-! ## Records -/

variable {α : Type}

/-- The only value given to a field under any of its names: none if it is left out, and no
reading at all if it is given more than once. -/
def field? (names : List String) (members : List (String × Json)) : Option (Option Json) :=
  match members.filter (names.contains ·.1) with
  | [] => some none
  | [(_, j)] => some (some j)
  | _ => none

/-- The fields of a record, each of which has some names. Other members are ignored; an array may
leave out the last fields. -/
def recordFields? (fields : List (List String)) : Json → Option (List (Option Json))
  | .object members => fields.mapM (field? · members)
  | .array items =>
    if items.length ≤ fields.length then
      some (items.map some ++ List.replicate (fields.length - items.length) none)
    else none
  | _ => none

/-- A field that must be given. -/
def required? (read : Json → Option α) (given : Option Json) : Option α := given.bind read

/-- A field with a default. -/
def withDefault? (default : α) (read : Json → Option α) : Option Json → Option α
  | some j => read j
  | none => some default

/-- A truth value. -/
def bool? : Json → Option Bool
  | .bool b => some b
  | _ => none

/-- A string. -/
def string? : Json → Option String
  | .string s => some s
  | _ => none

/-- A string, or null for nothing. -/
def optionalString? : Json → Option (Option String)
  | .null => some none
  | .string s => some (some s)
  | _ => none

/-- An integer of 64 bits without a sign. -/
def word? : Json → Option UInt64
  | .number (.integer n) => if 0 ≤ n then some n.toUInt64 else none
  | .number (.large n _) => some n
  | _ => none

/-- An integer of 64 bits without a sign as JSON. -/
def ofWord (n : UInt64) : Json :=
  if h : int64Bound ≤ n.toNat then .number (.large n h) else .number (.integer n.toInt64)

/-- An object. -/
def object? : Json → Option JsonObject
  | .object members => some (.ofMembers members)
  | _ => none

/-- A list, all of whose items can be read. -/
def list? (read : Json → Option α) : Json → Option (List α)
  | .array items => items.mapM read
  | _ => none

end Json

end PropertyGraph
