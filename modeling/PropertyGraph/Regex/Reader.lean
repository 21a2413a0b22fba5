import PropertyGraph.Regex.Automaton
import PropertyGraph.Regex.Bracket

/-!
# Reading regular expressions

A stack machine reads an expression from left to right; its frames are the groups still open. There is
no look-around and no reference to a group. What is read is refused if it is nested too deep or if its
automaton is too large.

## Main definitions

- `Regex.Item`, `Regex.Frame`, `Regex.Reading` — what has been read, an open group, the machine
- `Regex.Reading.step` — read one item or mark
- `Regex.read?`, `Regex.parse?` — the expression that a text writes, of any size or of a limited one
-/

namespace PropertyGraph

namespace Regex

/-! ## Items -/

/-- How deep the writing of an expression may be nested. -/
def nestLimit : Nat := 250

/-- An expression as a part of a written one. -/
structure Item where
  regex : Regex
  /-- How deep its writing is nested. -/
  nest : Nat
  /-- A change of flags cannot be repeated. -/
  repeatable : Bool

/-- An item whose writing is not nested. -/
def Item.plain (r : Regex) : Item := ⟨r, 0, true⟩

/-- A change of flags. -/
def Item.flags : Item := ⟨.empty, 0, false⟩

/-- The deepest nesting among items. -/
def deepest (items : List Item) : Nat := items.foldl (fun n item => max n item.nest) 0

/-- Items one after the other. -/
def Item.ofSequence : List Item → Item
  | [] => .plain .empty
  | [item] => item
  | items => ⟨seq (items.map (·.regex)), deepest items + 1, true⟩

/-- A choice of items. -/
def Item.ofChoice : List Item → Item
  | [item] => item
  | items => ⟨anyOf (items.map (·.regex)), deepest items + 1, true⟩

/-- The item that holds another, unless that makes it too deep. -/
def Item.wrap? (item : Item) (f : Regex → Regex) : Option Item :=
  if item.nest < nestLimit then some ⟨f item.regex, item.nest + 1, true⟩ else none

/-! ## Groups -/

/-- The flags of a group, each once; `on` until a hyphen turns the rest off. -/
def readFlags (mode : RegexMode) (on : Bool) (seen : List Char) : List Char →
    Option (RegexMode × Char × List Char)
  | [] => none
  | c :: cs =>
    if c = ':' ∨ c = ')' then if seen.head? = some '-' then none else some (mode, c, cs)
    else if seen.contains c then none
    else
      match c with
      | '-' => readFlags mode false (c :: seen) cs
      | 'i' => readFlags { mode with ignoreCase := on } on (c :: seen) cs
      | 'm' => readFlags { mode with multiLine := on } on (c :: seen) cs
      | 's' => readFlags { mode with dotAll := on } on (c :: seen) cs
      | 'U' => readFlags { mode with lazyFirst := on } on (c :: seen) cs
      | 'R' => readFlags { mode with carriage := on } on (c :: seen) cs
      | 'x' => readFlags { mode with extended := on } on (c :: seen) cs
      | 'u' => readFlags { mode with unicode := on } on (c :: seen) cs
      | _ => none

/-- Whether a character may stand in the name of a group. -/
def isNameChar (first : Bool) (c : Char) : Bool :=
  if first then c == '_' || isAlphabetic c
  else c == '_' || c == '.' || c == '[' || c == ']' || isAlphanumeric c

/-- The name of a group, up to its closing angle. -/
def readName (cs : List Char) : Option (List Char × List Char) :=
  match cs.span (· ≠ '>') with
  | (c :: name, _ :: rest) =>
    if isNameChar true c && name.all (isNameChar false) then some (c :: name, rest) else none
  | _ => none

/-- A group that is still open. -/
structure Frame where
  /-- The flags around the group. -/
  outerMode : RegexMode
  /-- The number of the group, if it has one. -/
  number : Option Nat
  /-- The finished alternatives, latest first. -/
  branches : List Item
  /-- The items of the current alternative, latest first. -/
  items : List Item

/-- The current alternative of a frame. -/
def Frame.branch (f : Frame) : Item := .ofSequence f.items.reverse

/-- What a frame holds once it is closed. -/
def Frame.content (f : Frame) : Item := .ofChoice (f.branch :: f.branches).reverse

/-- Add an item. -/
def Frame.add (f : Frame) (item : Item) : Frame := { f with items := item :: f.items }

/-- The groups that are open, innermost first, the flags in force, how many groups have a number, and
the names of groups. -/
structure Reading where
  frame : Frame
  outer : List Frame
  mode : RegexMode
  groups : Nat
  names : List (List Char)

/-- The state before an expression, under the flags in force. -/
def Reading.start (mode : RegexMode) : Reading := ⟨⟨mode, none, [], []⟩, [], mode, 0, []⟩

/-- Add an item to the innermost group. -/
def Reading.add (s : Reading) (item : Item) : Reading := { s with frame := s.frame.add item }

/-- Open a group. -/
def Reading.openGroup (s : Reading) (number : Option Nat) (mode : RegexMode) : Reading :=
  { s with frame := ⟨s.mode, number, [], []⟩, outer := s.frame :: s.outer, mode := mode }

/-- Open a group with the next number. -/
def Reading.openNumbered (s : Reading) : Reading :=
  { s.openGroup (some (s.groups + 1)) s.mode with groups := s.groups + 1 }

/-- Open a group with a number and a name. -/
def Reading.openNamed (s : Reading) (cs : List Char) : Option (Reading × List Char) := do
  let (name, rest) ← readName cs
  if s.names.contains name then none
  else some ({ s.openNumbered with names := name :: s.names }, rest)

/-- What follows an opening parenthesis. -/
def Reading.readGroup (s : Reading) (cs : List Char) : Option (Reading × List Char) :=
  match s.mode.skip cs with
  | '?' :: '=' :: _ => none
  | '?' :: '!' :: _ => none
  | '?' :: '<' :: '=' :: _ => none
  | '?' :: '<' :: '!' :: _ => none
  | '?' :: 'P' :: '<' :: cs => s.openNamed cs
  | '?' :: '<' :: cs => s.openNamed cs
  | '?' :: ')' :: _ => none
  | '?' :: cs => do
    let (mode, mark, rest) ← readFlags s.mode true [] cs
    if mark = ':' then some (s.openGroup none mode, rest)
    else some ({ s with mode := mode, frame := s.frame.add .flags }, rest)
  | cs => some (s.openNumbered, cs)

/-- Close the innermost group. A group without a number is what it holds. -/
def Reading.closeGroup (s : Reading) : Option Reading :=
  match s.outer with
  | [] => none
  | parent :: outer => do
    let f : Regex → Regex :=
      match s.frame.number with
      | some n => .group n
      | none => id
    let item ← s.frame.content.wrap? f
    return { s with frame := parent.add item, outer := outer, mode := s.frame.outerMode }

/-- Begin the next alternative of the innermost group. -/
def Reading.alternate (s : Reading) : Reading :=
  { s with frame := { s.frame with branches := s.frame.branch :: s.frame.branches, items := [] } }

/-! ## Repetitions -/

/-- Repeat the latest item. A question mark after a repetition turns its greed around, and so does the
flag. -/
def Reading.repeatLast (s : Reading) (least : Nat) (most : Option Nat) (cs : List Char) :
    Option (Reading × List Char) := do
  let (marked, rest) : Bool × List Char :=
    match cs with
    | '?' :: rest => (true, rest)
    | rest => (false, rest)
  match s.frame.items with
  | item :: items =>
    if !item.repeatable then none
    else
      let item ← item.wrap? fun r => r.times least most (marked == s.mode.lazyFirst)
      return ({ s with frame := { s.frame with items := item :: items } }, rest)
  | [] => none

/-- A digit and what does not count after it. -/
def readDigit (mode : RegexMode) : TextReader Nat := do
  let d ← TextReader.seen digitValue?
  mode.space
  return d

/-- A count, which may stand between blanks. -/
def readCount (mode : RegexMode) : TextReader Nat := do
  discard (TextReader.run isBlank)
  match ← TextReader.many (readDigit mode) with
  | [] => failure
  | digits =>
    discard (TextReader.run isBlank)
    let n := digits.foldl (fun n d => n * 10 + d) 0
    if n < UInt32.size then return n else failure

/-- Counts between braces, after the opening one. -/
def readCounts (mode : RegexMode) : TextReader (Nat × Option Nat) := do
  mode.space
  let least ← readCount mode
  match ← TextReader.satisfying fun _ => true with
  | '\x7d' => return (least, some least)
  | ',' =>
    mode.space
    match ← get with
    | '\x7d' :: rest =>
      set rest
      return (least, none)
    | _ =>
      let most ← readCount mode
      TextReader.character '\x7d'
      if least ≤ most then return (least, some most) else failure
  | _ => failure

/-! ## Expressions -/

/-- The expression of a character that stands for itself. -/
def literal (mode : RegexMode) (c : Char) : Regex := ofSet (mode.fold (.single c))

/-- The set of all characters that the dot stands for. -/
def dot? (mode : RegexMode) : Option CharSet :=
  let excluded : CharSet :=
    if mode.dotAll then ∅ else if mode.carriage then .ofRanges [(10, 10), (13, 13)] else .single '\n'
  mode.negate? true excluded

/-- Read one item or mark. -/
def Reading.step (s : Reading) (c : Char) (cs : List Char) : Option (Reading × List Char) :=
  match c with
  | '(' => s.readGroup cs
  | ')' => s.closeGroup.map (·, cs)
  | '|' => some (s.alternate, cs)
  | '[' => do
    let (first, rest) := openSet s.mode cs
    let (read, rest) ← readSet s.mode (rest.length + 1) first [] rest
    some (s.add ⟨ofSet read.set, read.nest, true⟩, rest)
  | '*' => s.repeatLast 0 none cs
  | '+' => s.repeatLast 1 none cs
  | '?' => s.repeatLast 0 (some 1) cs
  | '\x7b' => do
    let ((least, most), rest) ← readCounts s.mode cs
    s.repeatLast least most (s.mode.skip rest)
  | '.' => (dot? s.mode).map fun set => (s.add (.plain (ofSet set)), cs)
  | '^' =>
    some (s.add (.plain (.look (if s.mode.multiLine then .lineStart s.mode.carriage else .textStart))), cs)
  | '$' =>
    some (s.add (.plain (.look (if s.mode.multiLine then .lineEnd s.mode.carriage else .textEnd))), cs)
  | '\\' => do
    let (escape, rest) ← readEscape s.mode cs
    match escape with
    | .char c => some (s.add (.plain (literal s.mode c)), rest)
    | .set set => some (s.add (.plain (ofSet set)), rest)
    | .look a => some (s.add (.plain (.look a)), rest)
  | c => some (s.add (.plain (literal s.mode c)), cs)

/-- Read at most `fuel` items and marks. -/
def Reading.run : Nat → Reading → List Char → Option Reading
  | 0, s, cs => if (s.mode.skip cs).isEmpty then some s else none
  | fuel + 1, s, cs =>
    match s.mode.skip cs with
    | [] => some s
    | c :: cs => do
      let (s, rest) ← s.step c cs
      run fuel s rest

/-- The flags in force at the start of an expression. -/
def plainMode : RegexMode := ⟨false, false, false, false, false, false, true⟩

/-- The expression that a text writes; none if it is malformed or nested too deep. -/
def read? (text : String) : Option Regex := do
  let cs := text.toList
  let s ← Reading.run cs.length (.start plainMode) cs
  let item := s.frame.content
  if s.outer.isEmpty && item.nest ≤ nestLimit then some item.regex else none

/-- **The expression that a text writes**, unless its automaton is too large. -/
def parse? (text : String) : Option Regex := do
  let r ← read? text
  if r.fits then some r else none

end Regex

end PropertyGraph
