import PropertyGraph.SortedMap
import PropertyGraph.Value.Json

/-!
# Property bags

A bag maps keys to values. An entry that holds the deletion marker reads as missing; it is
kept so that a bag can describe a change, "delete this key", and is acted on by `merge`.

## Main definitions

- `Properties` — entries, deletion markers included
- `Properties.get?` — the value that a key reads as
- `Properties.merge`, `Properties.normalize` — apply a change, drop all markers
-/

namespace PropertyGraph

/-- A bag of properties. -/
structure Properties where
  entries : SortedMap String Value

namespace Properties

/-- The bag without entries. -/
def empty : Properties := ⟨.empty⟩

instance : EmptyCollection Properties := ⟨empty⟩

instance : Inhabited Properties := ⟨empty⟩

/-- The bag of a list of entries; of equal keys the last counts. -/
def ofList (l : List (String × Value)) : Properties := ⟨SortedMap.ofList l⟩

/-- The value that a key reads as; a deletion marker reads as missing. -/
def get? (p : Properties) (k : String) : Option Value := (p.entries.get? k).filter (!·.isUnset)

/-- Whether a key has a value. -/
def contains (p : Properties) (k : String) : Bool := (p.get? k).isSome

/-- Store a value, or a deletion marker. -/
def set (p : Properties) (k : String) (v : Value) : Properties := ⟨p.entries.insert k v⟩

/-- Drop the entry of a key, a deletion marker too. -/
def erase (p : Properties) (k : String) : Properties := ⟨p.entries.erase k⟩

/-- Drop every deletion marker. -/
def normalize (p : Properties) : Properties := ⟨p.entries.filter fun _ v => !v.isUnset⟩

/-- The entries that have a value, in key order. -/
def toList (p : Properties) : List (String × Value) := p.normalize.entries.entries

/-- The number of keys that have a value. -/
def size (p : Properties) : Nat := p.toList.length

/-- Whether no key has a value. -/
def isEmpty (p : Properties) : Bool := p.size == 0

/-- Apply one entry of a change. A marker deletes; a value is stored if it may overwrite or the
key reads as missing. -/
def mergeEntry (overwrite : Bool) (p : Properties) (e : String × Value) : Properties :=
  if e.2.isUnset then p.erase e.1
  else if overwrite || !p.contains e.1 then p.set e.1 e.2
  else p

/-- Apply a change. The result has no markers. -/
def merge (p patch : Properties) (overwrite : Bool) : Properties :=
  (patch.entries.entries.foldl (mergeEntry overwrite) p).normalize

/-- Equality of the readings of all keys: as many values on both sides, and the values on the
left are found on the right. -/
def beq (p q : Properties) : Bool :=
  p.size == q.size && p.toList.all fun e => q.get? e.1 == some e.2

instance : BEq Properties := ⟨beq⟩

/-- The values as members of a JSON object. -/
def toJson (p : Properties) : List (String × Json) := Value.toJsonEntries p.toList

/-- The bag of the members of a JSON object; null is a deletion marker. -/
def ofJson (members : List (String × Json)) : Properties := ofList (Value.ofJsonMembers members)

end Properties

end PropertyGraph
