import PropertyGraph.Regex.Basic
import PropertyGraph.Text.ByteRanges
import Std.Data.HashMap

/-!
# The automaton of a regular expression

An expression is worth matching only if its automaton is not too large. The automaton works on bytes
and is built twice, for reading a text forward and backward; here its states and arrows are counted
without keeping them. A state takes 32 bytes, an arrow that is labelled with a range of bytes 8, and a
silent branch 4. The counts are followed exactly: how much of a set can be shared depends on what is
still remembered of it, and that on the numbers of states.

## Main definitions

- `AutomatonSize`, `Growth` — the size so far, and what adds to it
- `Regex.growWords` — alternatives that are all texts share their beginnings
- `Regex.growSet` — a set shares the ends, or the beginnings, of its byte sequences
- `Regex.grow` — the automaton of an expression
- `Regex.fits` — whether both automata stay within the limit
-/

namespace PropertyGraph

/-- The order in which an automaton reads a text. -/
inductive ScanOrder where
  | forward | backward
deriving Repr, DecidableEq

/-- How many states an automaton has, and how many bytes they take with what leaves them. -/
structure AutomatonSize where
  states : Nat
  bytes : Nat

/-- The largest size of an automaton: ten mebibytes. -/
def automatonLimit : Nat := 10485760

/-- Steps that add to an automaton, until it passes the limit. -/
abbrev Growth := StateT AutomatonSize Option

namespace Growth

/-- Add states, and further bytes. -/
def add (states bytes : Nat) : Growth Unit := fun s =>
  let bytes := s.bytes + 32 * states + bytes
  if bytes ≤ automatonLimit then some ((), ⟨s.states + states, bytes⟩) else none

/-- Add states that one arrow leaves, whose label is part of the state, or none. -/
def states (n : Nat) : Growth Unit := add n 0

/-- Add silent branches to states. -/
def branches (n : Nat) : Growth Unit := add 0 (4 * n)

/-- Add a state with labelled arrows; its number. -/
def arrows (n : Nat) : Growth Nat := fun s => (add 1 (8 * n) s).map fun r => (s.states, r.2)

/-- Do something several times. -/
def times (step : Growth Unit) : Nat → Growth Unit
  | 0 => pure ()
  | n + 1 => do
    step
    times step n

/-- Two steps, in the order of a direction. -/
def inOrder (d : ScanOrder) (first second : Growth Unit) : Growth Unit :=
  match d with
  | .forward => do
    first
    second
  | .backward => do
    second
    first

end Growth

namespace Regex

/-! ## Texts -/

/-- The bytes of a text in the order in which they are read. -/
def bytesIn (d : ScanOrder) (cs : List Char) : List UInt8 :=
  let bytes := cs.flatMap String.utf8EncodeChar
  match d with
  | .forward => bytes
  | .backward => bytes.reverse

/-- Put the rest of a word under its first byte. -/
def addUnder (b : UInt8) (rest : List UInt8) : List (UInt8 × List (List UInt8)) →
    List (UInt8 × List (List UInt8))
  | [] => [(b, [rest])]
  | (a, words) :: others =>
    if a = b then (a, rest :: words) :: others else (a, words) :: addUnder b rest others

/-- Cut a list of words at its empty words. -/
def cutWords : List (List UInt8) → List (List (List UInt8))
  | [] => [[]]
  | [] :: words => [] :: cutWords words
  | word :: words =>
    match cutWords words with
    | part :: parts => (word :: part) :: parts
    | [] => [[word]]

/-- The parts of a list of words between its empty words. Empty words that come first, before
anything else, count once. -/
def wordParts (words : List (List UInt8)) : List (List (List UInt8)) :=
  match cutWords words with
  | [] :: parts => [] :: parts.dropWhile List.isEmpty
  | parts => parts

/-- The words of a part by their first byte. -/
def byFirst (words : List (List UInt8)) : List (UInt8 × List (List UInt8)) :=
  words.foldr (fun word groups =>
    match word with
    | [] => groups
    | b :: rest => addUnder b rest groups) []

/-- A tree of words: a state for each part of a node, and one that branches into the parts and, where
a word ends between them, to the end. Words that have ended need no node. -/
def growWords : Nat → List (List UInt8) → Growth Unit
  | 0, _ => pure ()
  | depth + 1, words => do
    let parts := wordParts words
    let groups := parts.map byFirst
    for group in groups do
      for (_, rest) in group do
        if !rest.all List.isEmpty then growWords depth rest
      if group.length = 1 then Growth.states 1
      else if !group.isEmpty then Growth.add 1 (8 * group.length)
    Growth.add 1 (4 * ((groups.filter (!·.isEmpty)).length + (parts.length - 1)))

/-! ## Sets -/

/-- What is remembered of the states of a set: one state in each of a fixed number of slots. -/
abbrev Memory (κ : Type) := Std.HashMap UInt64 (κ × Nat)

/-- A hash of numbers: each is mixed in, and the result is multiplied by a prime. -/
def mixed (ns : List UInt64) : UInt64 :=
  ns.foldl (fun h n => (h ^^^ n) * 1099511628211) 14695981039346656037

/-- The state that is remembered under a key, or a new one in its slot. -/
def remembered {κ : Type} [BEq κ] (slot : UInt64) (key : κ) (make : Growth Nat) :
    StateT (Memory κ) Growth Nat := do
  match (← get)[slot]? with
  | some (k, state) => if k == key then return state else fresh
  | none => fresh
where
  /-- A new state. -/
  fresh : StateT (Memory κ) Growth Nat := do
    let state ← make
    modify fun memory => memory.insert slot (key, state)
    return state

/-- An arrow: a range of bytes, and the number of the state that it leads to. -/
abbrev Arrow := ByteRange × Nat

/-- The slot of a state with the given arrows. -/
def arrowSlot (arrows : List Arrow) : UInt64 :=
  mixed (arrows.flatMap fun a => [a.1.first.toUInt64, a.1.last.toUInt64, a.2.toUInt64]) % 10000

/-- A tree of byte sequences, from its leaves; what has the same arrows as a remembered state is that
state. -/
def growTree (finish : Nat) : Nat → List (List ByteRange) → StateT (Memory (List Arrow)) Growth Nat
  | 0, _ => return finish
  | depth + 1, sequences => do
    let arrows ← (ByteRange.groups sequences).mapM fun (range, rests) => do
      let next ← if rests.all List.isEmpty then pure finish else growTree finish depth rests
      return (range, next)
    remembered (arrowSlot arrows) arrows (Growth.arrows arrows.length)

/-- The slot of a state with one arrow. -/
def stepSlot (range : ByteRange) (next : Nat) : UInt64 :=
  mixed [next.toUInt64, range.first.toUInt64, range.last.toUInt64] % 1000

/-- A byte sequence from its end, after which comes `next`; steps that are remembered are not taken
twice. -/
def growSteps (next : Nat) : List ByteRange → StateT (Memory (ByteRange × Nat)) Growth Nat
  | [] => return next
  | range :: rest => do
    let state ← remembered (stepSlot range next) (range, next) (Growth.arrows 0)
    growSteps state rest

/-- One character of a set. -/
def growSet (d : ScanOrder) (s : CharSet) : Growth Unit :=
  if s.isAscii then Growth.add 2 (8 * s.ranges.length)
  else
    match d with
    | .forward => do
      let finish ← Growth.arrows 0
      discard ((growTree finish 4 s.byteSequences).run ∅)
    | .backward => do
      Growth.states 1
      let finish ← Growth.arrows 0
      let grown : StateT (Memory (ByteRange × Nat)) Growth Unit :=
        s.byteSequences.forM fun sequence => do
          discard (growSteps finish sequence)
          (Growth.branches 1 : Growth Unit)
      discard (grown.run ∅)

/-! ## Expressions -/

/-- The characters of a text. -/
def text? : Regex → Option (List Char)
  | .text cs => some cs
  | _ => none

mutual

/-- The automaton of an expression. -/
def grow (d : ScanOrder) : Regex → Growth Unit
  | .empty => Growth.states 1
  | .text cs => Growth.states (cs.foldl (fun n c => n + c.utf8Size) 0)
  | .one s => growSet d s
  | .look _ => Growth.states 1
  | .group _ r =>
    match d with
    | .forward => do
      Growth.states 1
      grow d r
      Growth.states 1
    | .backward => grow d r
  | .concat parts => growAll d parts
  | .alternatives parts =>
    match parts.mapM text? with
    | some words => do
      let words := words.map (bytesIn d)
      Growth.states 1
      growWords (words.foldl (fun n w => max n w.length) 0) words
    | none => growAny d 0 parts
  | .repeated r least most _ =>
    match least, most with
    | 0, none =>
      if (leastLength r).any (0 < ·) then do
        Growth.add 1 8
        grow d r
      else do
        grow d r
        Growth.add 3 16
    | 0, some 1 => do
      Growth.add 1 8
      grow d r
      Growth.states 1
    | n, none => do
      Growth.times (grow d r) n
      Growth.add 1 8
    | n, some m => do
      if n = 0 then Growth.states 1 else Growth.times (grow d r) n
      if n < m then
        Growth.states 1
        Growth.times (do Growth.add 1 8; grow d r) (m - n)
termination_by structural r => r

/-- The automata of expressions one after the other. -/
def growAll (d : ScanOrder) : List Regex → Growth Unit
  | [] => pure ()
  | r :: parts => Growth.inOrder d (grow d r) (growAll d parts)
termination_by structural parts => parts

/-- The automata of alternatives from the one with the given index on; the state that branches into
them comes after the second. -/
def growAny (d : ScanOrder) : Nat → List Regex → Growth Unit
  | _, [] => pure ()
  | i, r :: parts => do
    grow d r
    if i = 1 then Growth.states 2
    Growth.branches 1
    growAny d (i + 1) parts
termination_by structural _ parts => parts

end

mutual

/-- Whether every match has to be where an assertion holds, at the end that is read first. -/
def opensWith (a : Assertion) (d : ScanOrder) : Regex → Bool
  | .look b => a == b
  | .group _ r => opensWith a d r
  | .repeated r least _ _ => 0 < least && opensWith a d r
  | .concat parts =>
    match d with
    | .forward => someOpens a d parts
    | .backward => someCloses a d parts
  | .alternatives parts => allOpen a d parts
  | _ => false
termination_by structural r => r

/-- Whether one of some parts opens with an assertion, and no text comes before it. -/
def someOpens (a : Assertion) (d : ScanOrder) : List Regex → Bool
  | [] => false
  | r :: parts => opensWith a d r || (isAlwaysEmpty r && someOpens a d parts)
termination_by structural parts => parts

/-- Whether one of some parts opens with an assertion, and no text comes after it. -/
def someCloses (a : Assertion) (d : ScanOrder) : List Regex → Bool
  | [] => false
  | r :: parts => (areAlwaysEmpty parts && opensWith a d r) || someCloses a d parts
termination_by structural parts => parts

/-- Whether all of some expressions open with an assertion. -/
def allOpen (a : Assertion) (d : ScanOrder) : List Regex → Bool
  | [] => true
  | r :: parts => opensWith a d r && allOpen a d parts
termination_by structural parts => parts

end

/-- The automaton that finds an expression: one that matches at an end of the text alone begins there,
any other first skips what it likes. In the forward direction two states note where the match is. -/
def growFinder (d : ScanOrder) (r : Regex) : Growth Unit := do
  let anchor : Assertion :=
    match d with
    | .forward => .textStart
    | .backward => .textEnd
  if opensWith anchor d r then Growth.states 1 else Growth.add 3 16
  match d with
  | .forward => do
    Growth.states 1
    grow d r
    Growth.states 1
  | .backward => grow d r
  Growth.states 1

/-- Whether the automata of an expression stay within the limit in both directions. -/
def fits (r : Regex) : Bool :=
  [ScanOrder.forward, ScanOrder.backward].all fun d => (growFinder d r ⟨0, 0⟩).isSome

end Regex

end PropertyGraph
