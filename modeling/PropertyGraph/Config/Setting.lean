import PropertyGraph.Json.Basic
import PropertyGraph.Toml.Basic

/-!
# Settings as a tree

A configuration is written as a settings file or as JSON. Both are read as a tree of settings,
with a few rules in which they differ.

## Main definitions

- `Setting` — the tree
- `Setting.ofJson`, `Setting.ofToml` — what is read from the two formats
- `SettingRules` — the rules in which they differ
- `Setting.fields?` — the fields of a record
-/

namespace PropertyGraph

/-- A tree of settings. -/
inductive Setting where
  | nothing
  | text (s : String)
  | whole (n : Int)
  | flag (b : Bool)
  | list (items : List Setting)
  | record (entries : List (String × Setting))
  /-- A date or a time of day, which is a record without any of the fields that are asked for. -/
  | moment
  /-- A number that is not whole. -/
  | fractional

/-- The rules of a format. -/
structure SettingRules where
  /-- A list that stands for a record may be longer than the record. -/
  surplus : Bool
  /-- What stands beside the name of a choice that is written as a record. -/
  isEmptyPayload : Setting → Bool

namespace Setting

/-- The setting that a number of a JSON document is. -/
def ofJsonNumber : JsonNumber → Setting
  | .integer n => .whole n.toInt
  | .large n _ => .whole n.toNat
  | .float _ _ => .fractional

mutual

/-- The settings that a JSON value is. -/
def ofJson : Json → Setting
  | .null => .nothing
  | .bool b => .flag b
  | .number n => ofJsonNumber n
  | .string s => .text s
  | .array items => .list (ofJsonItems items)
  | .object members => .record (ofJsonMembers members)
termination_by structural j => j

/-- The settings that items are. -/
def ofJsonItems : List Json → List Setting
  | [] => []
  | j :: items => ofJson j :: ofJsonItems items
termination_by structural items => items

/-- The settings that members are. -/
def ofJsonMembers : List (String × Json) → List (String × Setting)
  | [] => []
  | (k, j) :: members => (k, ofJson j) :: ofJsonMembers members
termination_by structural members => members

end

mutual

/-- The settings that a value of a settings file is. -/
def ofToml : Toml → Setting
  | .string s => .text s
  | .integer n => .whole n.toInt
  | .float _ => .fractional
  | .boolean b => .flag b
  | .moment _ => .moment
  | .array items => .list (ofTomlItems items)
  | .table _ entries => .record (ofTomlEntries entries)
  | .tables items => .list (ofTomlTables items)
termination_by structural v => v

/-- The settings that items are. -/
def ofTomlItems : List Toml → List Setting
  | [] => []
  | v :: items => ofToml v :: ofTomlItems items
termination_by structural items => items

/-- The settings that entries are. -/
def ofTomlEntries : List (String × Toml) → List (String × Setting)
  | [] => []
  | (k, v) :: entries => (k, ofToml v) :: ofTomlEntries entries
termination_by structural entries => entries

/-- The settings that several tables are. -/
def ofTomlTables : List (List (String × Toml)) → List Setting
  | [] => []
  | entries :: tables => .record (ofTomlEntries entries) :: ofTomlTables tables
termination_by structural tables => tables

end

/-- The fields of a record: its entries of these names, or the items of a list in this order.
Other entries are ignored. -/
def fields? (rules : SettingRules) (names : List String) : Setting → Option (List (Option Setting))
  | .record entries => some (names.map fun n => SortedMap.lookupIn n entries)
  | .list items =>
    if rules.surplus ∨ items.length ≤ names.length then
      some ((items.map some ++ List.replicate names.length none).take names.length)
    else none
  | .moment => some (names.map fun _ => none)
  | _ => none

/-- A text. -/
def text? : Setting → Option String
  | .text s => some s
  | _ => none

/-- A truth value. -/
def flag? : Setting → Option Bool
  | .flag b => some b
  | _ => none

/-- A whole number of 64 bits without a sign. -/
def word? : Setting → Option UInt64
  | .whole n => if 0 ≤ n ∧ n < UInt64.size then some (UInt64.ofNat n.toNat) else none
  | _ => none

/-- Something that may be left out. -/
def optional? {α : Type} (read : Setting → Option α) : Setting → Option (Option α)
  | .nothing => some none
  | s => (read s).map some

/-- The name of a choice: a text, or a record of the name alone. -/
def choice? (rules : SettingRules) : Setting → Option String
  | .text s => some s
  | .record [(name, payload)] => if rules.isEmptyPayload payload then some name else none
  | _ => none

/-- The rules for JSON. -/
def jsonRules : SettingRules where
  surplus := false
  isEmptyPayload
    | .nothing => true
    | _ => false

/-- The rules for settings files. -/
def tomlRules : SettingRules where
  surplus := true
  isEmptyPayload
    | .list [] => true
    | .record [] => true
    | _ => false

end Setting

end PropertyGraph
