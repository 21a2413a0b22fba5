/-!
# Trees of a settings file

A file defines a table. Its entries are defined by keys, which may be dotted, and under headers;
a table keeps in mind how it was defined, because that decides what may still be added to it.

## Main definitions

- `Toml` — values and tables
- `Toml.define` — define an entry by a dotted key
- `Toml.enter` — define the table of a header
-/

namespace PropertyGraph

/-- How a table was defined. -/
inductive TableKind where
  /-- Between braces; nothing can be added. -/
  | inline
  /-- Under a header of its own. -/
  | header
  /-- On the way to the table of another header. -/
  | implied
  /-- On the way to the entry of a dotted key. -/
  | dotted
deriving Repr, DecidableEq

/-- A value or a table. -/
inductive Toml where
  | string (s : String)
  | integer (n : Int64)
  | float (x : Float)
  | boolean (b : Bool)
  /-- A date, a time of day, or both, as it was written. -/
  | moment (text : String)
  | array (items : List Toml)
  | table (kind : TableKind) (entries : List (String × Toml))
  /-- The tables of several headers of one name. -/
  | tables (items : List (List (String × Toml)))

namespace Toml

/-- The entries of a table, in the order of their definition. -/
abbrev Entries := List (String × Toml)

instance : Inhabited Toml := ⟨.array []⟩

/-- Change the entry of a key, or define it. -/
def alter (key : String) (f : Option Toml → Option Toml) : Entries → Option Entries
  | [] => (f none).map fun v => [(key, v)]
  | (k, v) :: rest =>
    if k = key then (f (some v)).map fun w => (k, w) :: rest else (alter key f rest).map ((k, v) :: ·)

/-- Change the last one of several tables. -/
def alterLast (f : Entries → Option Entries) : List Entries → Option (List Entries)
  | [] => none
  | [last] => (f last).map ([·])
  | first :: rest => (alterLast f rest).map (first :: ·)

/-- Define an entry at the end of a dotted path. Tables on the way must not be complete, and the one
that receives the entry must have been defined by dotted keys as well. -/
def define (key : String) (v : Toml) : List String → Entries → Option Entries
  | [] => alter key fun
    | none => some v
    | some _ => none
  | k :: path => alter k fun
    | none => (define key v path []).map (.table .dotted)
    | some (.table .dotted inner) => (define key v path inner).map (.table .dotted)
    | some (.table .implied inner) =>
      if path.isEmpty then none else (define key v path inner).map (.table .implied)
    | some (.tables items) =>
      if path.isEmpty then none else (alterLast (define key v path) items).map .tables
    | some _ => none

/-- Define the table at the end of the path of a header. -/
def enter (key : String) (place : Option Toml → Option Toml) : List String → Entries → Option Entries
  | [] => alter key place
  | k :: path => alter k fun
    | none => (enter key place path []).map (.table .implied)
    | some (.table .inline _) => none
    | some (.table kind inner) => (enter key place path inner).map (.table kind)
    | some (.tables items) => (alterLast (enter key place path) items).map .tables
    | some _ => none

/-- Fill the table of a header. A table that is only implied is taken over. -/
def placeTable (fill : Entries → Option Entries) : Option Toml → Option Toml
  | none => (fill []).map (.table .header)
  | some (.table .implied inner) => (fill inner).map (.table .header)
  | some _ => none

/-- Fill one more table of a header that may be repeated. -/
def placeAnother (fill : Entries → Option Entries) : Option Toml → Option Toml
  | none => (fill []).map (.tables [·])
  | some (.tables items) => (fill []).map fun entries => .tables (items ++ [entries])
  | some _ => none

end Toml

end PropertyGraph
