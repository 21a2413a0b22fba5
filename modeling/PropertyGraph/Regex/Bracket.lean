import PropertyGraph.Regex.Escape

/-!
# Sets between brackets

A set is written between brackets as a list of characters, ranges, escapes, named sets and further
sets between brackets; such lists are combined by operators, from left to right.

## Main definitions

- `Regex.namedSet?` — the sets that have a name between colons
- `Regex.Nested` — a set, and how deep its writing is nested
- `Regex.OpenSet` — a set whose closing bracket is still to come
- `Regex.readSet` — a set, after its opening bracket
-/

namespace PropertyGraph

namespace Regex

/-! ## Named sets -/

/-- A set by the name that is written between colons. -/
def namedSet? (name : List Char) : Option CharSet :=
  let table : List (String × List (Nat × Nat)) :=
    [("alnum", [(48, 57), (65, 90), (97, 122)]), ("alpha", [(65, 90), (97, 122)]), ("ascii", [(0, 127)]),
      ("blank", [(9, 9), (32, 32)]), ("cntrl", [(0, 31), (127, 127)]), ("digit", [(48, 57)]),
      ("graph", [(33, 126)]), ("lower", [(97, 122)]), ("print", [(32, 126)]),
      ("punct", [(33, 47), (58, 64), (91, 96), (123, 126)]), ("space", [(9, 13), (32, 32)]),
      ("upper", [(65, 90)]), ("word", [(48, 57), (65, 90), (95, 95), (97, 122)]),
      ("xdigit", [(48, 57), (65, 70), (97, 102)])]
  (table.find? fun e => e.1.toList = name).map fun e => ⟨e.2⟩

/-- The name in `[:name:]` or `[:^name:]` after its bracket, and whether it is negated. -/
def readSetName : List Char → Option (Bool × CharSet × List Char)
  | ':' :: cs =>
    let (negated, cs) : Bool × List Char :=
      match cs with
      | '^' :: rest => (true, rest)
      | cs => (false, cs)
    match cs.span (· ≠ ':') with
    | (name, ':' :: ']' :: rest) => (namedSet? name).map fun s => (negated, s, rest)
    | _ => none
  | _ => none

/-! ## Open sets -/

/-- A set of characters, and how deep its writing is nested. -/
structure Nested where
  set : CharSet
  nest : Nat

/-- How two parts of a set are combined. -/
inductive SetOp where
  | intersection | difference | symmetricDifference

/-- Combine two parts of a set. -/
def SetOp.apply : SetOp → CharSet → CharSet → CharSet
  | .intersection => CharSet.inter
  | .difference => CharSet.diff
  | .symmetricDifference => CharSet.symmDiff

/-- A set that is still open. -/
structure OpenSet where
  negated : Bool
  /-- What stands before the latest operator. -/
  left : Option (SetOp × Nested)
  /-- The union of the items after it. -/
  items : CharSet
  /-- How many items these are. -/
  count : Nat
  /-- The deepest nesting among them. -/
  deepest : Nat

/-- A set without items. -/
def OpenSet.start (negated : Bool) (left : Option (SetOp × Nested)) : OpenSet := ⟨negated, left, ∅, 0, 0⟩

/-- Add an item. -/
def OpenSet.add (s : OpenSet) (item : Nested) : OpenSet :=
  { s with items := s.items.union item.set, count := s.count + 1, deepest := max s.deepest item.nest }

/-- Add a character that stands for itself. -/
def OpenSet.addChar (s : OpenSet) (c : Char) : OpenSet := s.add ⟨.single c, 0⟩

/-- What has been written up to here. Several items are nested in their union, and the sides of an
operator in its result. -/
def OpenSet.content (mode : RegexMode) (s : OpenSet) : Nested :=
  let right : Nested := ⟨s.items, if s.count < 2 then s.deepest else s.deepest + 1⟩
  match s.left with
  | none => right
  | some (op, left) => ⟨op.apply (mode.fold left.set) (mode.fold right.set), max left.nest right.nest + 1⟩

/-- Go on after an operator. -/
def OpenSet.combine (mode : RegexMode) (op : SetOp) (s : OpenSet) : OpenSet :=
  .start s.negated (some (op, s.content mode))

/-- The set that is closed here. -/
def OpenSet.close? (mode : RegexMode) (s : OpenSet) : Option Nested := do
  let content := s.content mode
  return ⟨← mode.negate? s.negated (mode.fold content.set), content.nest + 1⟩

/-! ## Reading -/

/-- The hyphens at the start of a set stand for themselves. -/
def readHyphens (mode : RegexMode) : Nat → OpenSet → List Char → OpenSet × List Char
  | n + 1, s, '-' :: cs => readHyphens mode n (s.addChar '-') (mode.skip cs)
  | _, s, cs => (s, cs)

/-- Begin a set after its bracket; a closing bracket that comes first stands for itself. -/
def openSet (mode : RegexMode) (cs : List Char) : OpenSet × List Char :=
  let (negated, cs) : Bool × List Char :=
    match mode.skip cs with
    | '^' :: rest => (true, mode.skip rest)
    | rest => (false, rest)
  match readHyphens mode cs.length (.start negated none) cs with
  | (s, ']' :: rest) => if s.count = 0 then (s.addChar ']', mode.skip rest) else (s, ']' :: rest)
  | r => r

/-- A character or an escape in a set. -/
def readAtom (mode : RegexMode) : TextReader Escape := do
  match ← TextReader.satisfying fun _ => true with
  | '\\' => readEscape mode
  | c => return .char c

/-- The code point of a character that may stand in a set. -/
def charIn? (mode : RegexMode) : Escape → Option Nat
  | .char c => if mode.unicode || c.toNat < 0x80 then some c.toNat else none
  | _ => none

/-- An item that is no range. -/
def itemOf? (mode : RegexMode) : Escape → Option CharSet
  | .set s => some s
  | e => (charIn? mode e).map fun n => .range n n

/-- The character after a hyphen, past what does not count there. A mark of a comment is passed, and
its text is not. -/
def pastHyphen (mode : RegexMode) (cs : List Char) : Option Char :=
  if mode.extended then
    match cs.dropWhile isBlank with
    | '#' :: rest => (rest.dropWhile isBlank).head?
    | rest => rest.head?
  else cs.head?

/-- An item of a set: a range, a character or an escape. -/
def readItem (mode : RegexMode) : TextReader CharSet := do
  let first ← readAtom mode
  mode.space
  match ← get with
  | '-' :: rest =>
    if pastHyphen mode rest = some ']' ∨ pastHyphen mode rest = some '-' then itemOf? mode first
    else
      set (mode.skip rest)
      let last ← readAtom mode
      let a ← charIn? mode first
      let b ← charIn? mode last
      if a ≤ b then return .range a b else failure
  | _ => itemOf? mode first

/-- A set after its bracket, at most `fuel` items and brackets long; `outer` are the sets around the
innermost open one. -/
def readSet (mode : RegexMode) : Nat → OpenSet → List OpenSet → List Char → Option (Nested × List Char)
  | 0, _, _, _ => none
  | fuel + 1, s, outer, cs =>
    match mode.skip cs with
    | [] => none
    | '[' :: rest =>
      match readSetName rest with
      | some (negated, named, rest) => do
        let item ← mode.negate? negated (mode.fold named)
        readSet mode fuel (s.add ⟨item, 0⟩) outer rest
      | none =>
        let (inner, rest) := openSet mode rest
        readSet mode fuel inner (s :: outer) rest
    | ']' :: rest => do
      let closed ← s.close? mode
      match outer with
      | [] => return (closed, rest)
      | parent :: outer => readSet mode fuel (parent.add closed) outer rest
    | '&' :: '&' :: rest => readSet mode fuel (s.combine mode .intersection) outer rest
    | '-' :: '-' :: rest => readSet mode fuel (s.combine mode .difference) outer rest
    | '~' :: '~' :: rest => readSet mode fuel (s.combine mode .symmetricDifference) outer rest
    | cs => do
      let (item, rest) ← readItem mode cs
      readSet mode fuel (s.add ⟨item, 0⟩) outer rest

end Regex

end PropertyGraph
