import PropertyGraph.Regex.Basic
import PropertyGraph.Text.WordChar

/-!
# Matching regular expressions

An expression takes each start position in a text to the positions where a match from there
can end. Sets of positions are kept as increasing lists, so that a repetition is a closure
over finitely many positions.

## Main definitions

- `Assertion.holdsAt` — assertions at a position
- `Regex.reach` — the ends of all matches from a set of starts
- `Regex.matchesFrom`, `Regex.isMatch` — a match from one position, and from any
-/

namespace PropertyGraph

/-- The union of two increasing lists of positions. -/
def mergePositions : List Nat → List Nat → List Nat
  | [], ys => ys
  | x :: xs, ys => mergePositions xs (insertPosition x ys)
where
  /-- Put a position into an increasing list. -/
  insertPosition (x : Nat) : List Nat → List Nat
    | [] => [x]
    | y :: ys => if x < y then x :: y :: ys else if x = y then y :: ys else y :: insertPosition x ys

/-- Whether a character counts as one of a word. -/
def countsInWord (ascii : Bool) (c : Char) : Bool :=
  if ascii then c.isAlphanum || c == '_' else isWordChar c

/-- Whether an assertion on the two sides of a position holds, given which have a word character. -/
def WordEdge.holds (before after : Bool) : WordEdge → Bool
  | .boundary => before != after
  | .interior => before == after
  | .start => !before && after
  | .finish => before && !after
  | .startHalf => !before
  | .finishHalf => !after

/-- The character before a position. -/
def charBefore? (text : Array Char) (i : Nat) : Option Char := if i = 0 then none else text[i - 1]?

/-- **Whether an assertion holds at a position.** Where a carriage return ends lines, it does so
together with a line feed after it. -/
def Assertion.holdsAt (text : Array Char) (i : Nat) : Assertion → Bool
  | .textStart => i == 0
  | .textEnd => i == text.size
  | .lineStart false => i == 0 || charBefore? text i == some '\n'
  | .lineStart true =>
    i == 0 || charBefore? text i == some '\n' ||
      (charBefore? text i == some '\r' && text[i]? != some '\n')
  | .lineEnd false => i == text.size || text[i]? == some '\n'
  | .lineEnd true =>
    i == text.size || text[i]? == some '\r' ||
      (text[i]? == some '\n' && charBefore? text i != some '\r')
  | .word edge ascii =>
    edge.holds ((charBefore? text i).any (countsInWord ascii)) (text[i]?.any (countsInWord ascii))

namespace Regex

/-- The ends of a text that starts at one of the given positions. -/
def follow (text : Array Char) (cs : List Char) (starts : List Nat) : List Nat :=
  cs.foldl (fun starts c => (starts.filter fun i => text[i]? == some c).map (· + 1)) starts

/-- Apply a step a number of times; nothing is left to do once no position is. -/
def iterate (step : List Nat → List Nat) : Nat → List Nat → List Nat
  | 0, starts => starts
  | n + 1, starts => if starts.isEmpty then [] else iterate step n (step starts)

/-- The positions that at most `n` steps reach, given those reached so far and the latest. -/
def closure (step : List Nat → List Nat) : Nat → List Nat → List Nat → List Nat
  | 0, seen, _ => seen
  | n + 1, seen, latest =>
    let fresh := (step latest).filter (!seen.contains ·)
    if fresh.isEmpty then seen else closure step n (mergePositions fresh seen) fresh

mutual

/-- The positions where a match from one of the given positions can end. -/
def reach (text : Array Char) : Regex → List Nat → List Nat
  | .empty, starts => starts
  | .text cs, starts => follow text cs starts
  | .one set, starts => (starts.filter fun i => text[i]?.any fun c => set.has c.toNat).map (· + 1)
  | .look a, starts => starts.filter fun i => a.holdsAt text i
  | .concat parts, starts => reachAll text parts starts
  | .alternatives parts, starts => reachAny text parts starts
  | .group _ r, starts => reach text r starts
  | .repeated r least most _, starts =>
    let first := iterate (fun s => reach text r s) least starts
    let rounds := match most with
      | none => text.size + 1
      | some m => min (m - least) (text.size + 1)
    closure (fun s => reach text r s) rounds first first
termination_by structural r => r

/-- The ends of matches of one expression after another. -/
def reachAll (text : Array Char) : List Regex → List Nat → List Nat
  | [], starts => starts
  | r :: parts, starts => reachAll text parts (reach text r starts)
termination_by structural parts => parts

/-- The ends of matches of one of several expressions. -/
def reachAny (text : Array Char) : List Regex → List Nat → List Nat
  | [], _ => []
  | r :: parts, starts => mergePositions (reach text r starts) (reachAny text parts starts)
termination_by structural parts => parts

end

/-- Whether there is a match that begins at position `i`. -/
def matchesFrom (r : Regex) (i : Nat) (text : String) : Bool :=
  !(r.reach text.toList.toArray [i]).isEmpty

/-- Whether there is a match anywhere. -/
def isMatch (r : Regex) (text : String) : Bool :=
  let chars := text.toList.toArray
  !(r.reach chars (List.range (chars.size + 1))).isEmpty

end Regex

end PropertyGraph
