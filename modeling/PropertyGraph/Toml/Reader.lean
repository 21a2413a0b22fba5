import PropertyGraph.Toml.Scalar

/-!
# Reading a settings file

A file is a list of lines with an entry each, and of sections: a header with such lines after it.

## Main definitions

- `Toml.dottedKey` — keys
- `Toml.value` — values, arrays and tables between braces
- `Toml.parse?` — the table that a text defines
-/

namespace PropertyGraph

namespace Toml

open TextReader

/-- Arrays, tables between braces and dotted keys are at most this deep. -/
def maxDepth : Nat := 79

/-- A dotted key: the way to an entry, and the last part. -/
structure DottedKey where
  path : List String
  key : String

/-- A part of a key without quotes. -/
def bareKey : TextReader String := do
  let cs ← run fun c => c.isAlphanum || c == '-' || c == '_'
  if cs.isEmpty then failure else return String.ofList cs

/-- A part of a key. -/
def simpleKey : TextReader String := do
  blanks
  let key ← bareKey <|> basicString <|> literalString
  blanks
  return key

/-- A key of at most as many parts. -/
def dottedKey : Nat → TextReader DottedKey
  | 0 => failure
  | n + 1 => do
    let first ← simpleKey
    (do
      character '.'
      let rest ← dottedKey n
      return ⟨first :: rest.path, rest.key⟩) <|> pure ⟨[], first⟩

/-- An entry as it is written: a key and its value. -/
structure Assignment where
  target : DottedKey
  value : Toml

/-- Add an entry to a table. -/
def assign (entries : Entries) (a : Assignment) : Option Entries :=
  define a.target.key a.value a.target.path entries

/-! ## Values -/

/-- White space, line breaks and comments between the items of an array. -/
def gap : TextReader Unit := do
  let _ ← many ((do let _ ← satisfying isGap) <|> newline <|> do comment; newline)

/-- Items separated by commas, the last of which may follow the last item. -/
def itemsOf (item : TextReader Toml) : TextReader (List Toml) := do
  let first ← item
  let rest ← many do
    gap
    character ','
    gap
    item
  gap
  let _ ← optional (character ',')
  return first :: rest

/-- An array of values. -/
def arrayOf (item : TextReader Toml) : TextReader Toml := do
  character '['
  gap
  let items ← itemsOf item <|> pure []
  gap
  character ']'
  return .array items

/-- A key, the mark after it, and a value. -/
def assignmentOf (item : TextReader Toml) : TextReader Assignment := do
  let target ← dottedKey maxDepth
  character '='
  blanks
  let v ← item
  blanks
  return ⟨target, v⟩

/-- Assignments separated by commas. -/
def assignmentsOf (item : TextReader Toml) : TextReader (List Assignment) := do
  let first ← assignmentOf item
  let rest ← many do
    character ','
    assignmentOf item
  return first :: rest

/-- A table between braces, on one line. -/
def inlineTableOf (item : TextReader Toml) : TextReader Toml := do
  character '\x7b'
  blanks
  let assignments ← assignmentsOf item <|> pure []
  blanks
  character '\x7d'
  match assignments.foldlM assign [] with
  | some entries => return .table .inline entries
  | none => failure

/-- A value of at most a given depth. -/
def value : Nat → TextReader Toml
  | 0 => scalar
  | n + 1 => scalar <|> arrayOf (value n) <|> inlineTableOf (value n)

/-! ## Lines -/

/-- The rest of a line without content. -/
def lineEnd : TextReader Unit := do
  blanks
  let _ ← optional comment
  newline <|> ended

/-- A line without content. -/
def emptyLine : TextReader Unit := do
  blanks
  let _ ← optional comment
  newline

/-- A line with an entry. -/
def entryLine : TextReader Assignment := do
  let a ← assignmentOf (value maxDepth)
  lineEnd
  return a

/-- All lines up to a header. -/
def entryLines : TextReader (List Assignment) := do
  let lines ← many ((do return some (← entryLine)) <|> do emptyLine; return none)
  return lines.filterMap id

/-- A header with the lines after it. -/
structure Section where
  /-- The header may be repeated. -/
  repeatable : Bool
  target : DottedKey
  assignments : List Assignment

/-- The key of a header, between brackets. -/
def headerBetween (opening closing : List Char) : TextReader DottedKey := do
  blanks
  word opening
  let target ← dottedKey maxDepth
  word closing
  lineEnd
  return target

/-- A header with the lines after it, as it is written. -/
def headed : TextReader Section :=
  (do
    let target ← headerBetween ['[', '['] [']', ']']
    return ⟨true, target, ← entryLines⟩) <|> do
    let target ← headerBetween ['['] [']']
    return ⟨false, target, ← entryLines⟩

/-- Add a section to a table. -/
def addSection (root : Entries) (s : Section) : Option Entries :=
  let fill (entries : Entries) := s.assignments.foldlM assign entries
  enter s.target.key (if s.repeatable then placeAnother fill else placeTable fill) s.target.path root

/-- The lines and sections of a file. A mark of byte order is left out. -/
def file : TextReader (List Assignment × List Section) := do
  let _ ← optional (character '\uFEFF')
  let assignments ← entryLines
  let sections ← many headed
  blanks
  let _ ← optional comment
  return (assignments, sections)

/-- The table that a text defines. -/
def parse? (text : String) : Option Entries := do
  let (assignments, sections) ← whole? file text
  sections.foldlM addSection (← assignments.foldlM assign [])

end Toml

end PropertyGraph
