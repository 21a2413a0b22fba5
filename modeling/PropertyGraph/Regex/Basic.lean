import PropertyGraph.Text.CharSet

/-!
# Regular expressions

A regular expression is only ever asked whether it has a match. It is kept in a normal form, which
the functions that build expressions establish: texts side by side are joined, a concatenation has
no concatenation in it and an alternation no alternation, a choice between characters is a set, and
what alternatives begin with in common stands before them.

## Main definitions

- `Assertion` — conditions on a position of a text
- `Regex` — expressions
- `Regex.isAlwaysEmpty`, `Regex.leastLength` — how much text an expression matches
- `Regex.looksFor` — whether there is an assertion of some kind in it
- `Regex.ofSet`, `Regex.seq`, `Regex.anyOf`, `Regex.times` — build expressions in normal form
-/

namespace PropertyGraph

/-- A condition on whether there are word characters on the two sides of a position. -/
inductive WordEdge where
  | boundary | interior | start | finish | startHalf | finishHalf
deriving Repr, DecidableEq

/-- A condition on a position of a text. -/
inductive Assertion where
  | textStart | textEnd
  /-- A line begins; `carriage` if a carriage return ends lines as well. -/
  | lineStart (carriage : Bool)
  | lineEnd (carriage : Bool)
  /-- `ascii` if only the word characters of ASCII count. -/
  | word (edge : WordEdge) (ascii : Bool)
deriving Repr, DecidableEq

/-- A regular expression. -/
inductive Regex where
  /-- The empty text. -/
  | empty
  /-- One character after the other, at least one. -/
  | text (cs : List Char)
  /-- One character of a set that does not consist of one character. -/
  | one (set : CharSet)
  | look (a : Assertion)
  | repeated (r : Regex) (least : Nat) (most : Option Nat) (greedy : Bool)
  /-- A group with its number. -/
  | group (index : Nat) (r : Regex)
  | concat (parts : List Regex)
  | alternatives (parts : List Regex)

namespace Regex

/-! ## Comparing -/

mutual

/-- Whether two expressions are written in the same way. -/
def sameAs : Regex → Regex → Bool
  | .empty, .empty => true
  | .text cs, .text ds => cs == ds
  | .one s, .one t => s == t
  | .look a, .look b => a == b
  | .repeated r l m g, .repeated s l' m' g' => sameAs r s && l == l' && m == m' && g == g'
  | .group i r, .group j s => i == j && sameAs r s
  | .concat rs, .concat ss => sameAll rs ss
  | .alternatives rs, .alternatives ss => sameAll rs ss
  | _, _ => false
termination_by structural r => r

/-- Whether two lists of expressions are written in the same way. -/
def sameAll : List Regex → List Regex → Bool
  | [], [] => true
  | r :: rs, s :: ss => sameAs r s && sameAll rs ss
  | _, _ => false
termination_by structural rs => rs

end

/-! ## How much text is matched -/

mutual

/-- Whether an expression matches the empty text at most. -/
def isAlwaysEmpty : Regex → Bool
  | .empty => true
  | .text _ => false
  | .one _ => false
  | .look _ => true
  | .repeated r _ most _ => most.isSome && isAlwaysEmpty r
  | .group _ r => isAlwaysEmpty r
  | .concat parts => areAlwaysEmpty parts
  | .alternatives parts => areAlwaysEmpty parts
termination_by structural r => r

/-- Whether all expressions of a list match the empty text at most. -/
def areAlwaysEmpty : List Regex → Bool
  | [] => true
  | r :: parts => isAlwaysEmpty r && areAlwaysEmpty parts
termination_by structural parts => parts

end

mutual

/-- A number of characters that every match has at least; none where an empty set stands for a
part without matches. -/
def leastLength : Regex → Option Nat
  | .empty => some 0
  | .text cs => some cs.length
  | .one s => if s = ∅ then none else some 1
  | .look _ => some 0
  | .repeated r least _ _ => (leastLength r).map (· * least)
  | .group _ r => leastLength r
  | .concat parts => leastSum parts
  | .alternatives [] => none
  | .alternatives (r :: parts) => do leastOf (← leastLength r) parts
termination_by structural r => r

/-- The sum of least lengths. -/
def leastSum : List Regex → Option Nat
  | [] => some 0
  | r :: parts => do return (← leastLength r) + (← leastSum parts)
termination_by structural parts => parts

/-- The smallest of `n` and the least lengths of a list. -/
def leastOf (n : Nat) : List Regex → Option Nat
  | [] => some n
  | r :: parts => do return min (← leastLength r) (← leastOf n parts)
termination_by structural parts => parts

end

/-! ## Assertions -/

mutual

/-- Whether an expression has an assertion with a property. -/
def looksFor (p : Assertion → Bool) : Regex → Bool
  | .look a => p a
  | .repeated r _ _ _ => looksFor p r
  | .group _ r => looksFor p r
  | .concat parts => someLooksFor p parts
  | .alternatives parts => someLooksFor p parts
  | _ => false
termination_by structural r => r

/-- Whether one of some expressions has an assertion with a property. -/
def someLooksFor (p : Assertion → Bool) : List Regex → Bool
  | [] => false
  | r :: parts => looksFor p r || someLooksFor p parts
termination_by structural parts => parts

end

/-! ## Building -/

/-- The expression that has no match. -/
def fail : Regex := .one ∅

/-- One character of a set. -/
def ofSet (s : CharSet) : Regex :=
  match s.ranges with
  | [(a, b)] => if a = b then .text [Char.ofNat a] else .one s
  | _ => .one s

/-- The parts of a concatenation, or the expression itself as the only part. -/
def parts : Regex → List Regex
  | .empty => []
  | .concat rs => rs
  | r => [r]

/-- Put a part in front of others; texts are joined. -/
def addPart : Regex → List Regex → List Regex
  | .text cs, .text ds :: rest => .text (cs ++ ds) :: rest
  | r, rest => r :: rest

/-- One expression after the other. -/
def seq (rs : List Regex) : Regex :=
  match (rs.flatMap parts).foldr addPart [] with
  | [] => .empty
  | [r] => r
  | rs => .concat rs

/-- The alternatives of an alternation, or the expression itself as the only one. -/
def choices : Regex → List Regex
  | .alternatives rs => rs
  | r => [r]

/-- The character that an expression consists of. -/
def char? : Regex → Option Char
  | .text [c] => some c
  | _ => none

/-- The set that an expression consists of. -/
def set? : Regex → Option CharSet
  | .one s => some s
  | _ => none

/-- Alternatives that are all characters, or all sets, as one set. -/
def mergedSet? (rs : List Regex) : Option CharSet :=
  match rs.mapM char? with
  | some cs => some (.ofRanges (cs.map fun c => (c.toNat, c.toNat)))
  | none => (rs.mapM set?).map fun sets => sets.foldl CharSet.union ∅

/-- A choice between expressions. -/
def choice (rs : List Regex) : Regex :=
  match rs.flatMap choices with
  | [] => fail
  | [r] => r
  | rs =>
    match mergedSet? rs with
    | some s => ofSet s
    | none => .alternatives rs

/-- How many parts two lists have in common at their start. -/
def commonLength : List Regex → List Regex → Nat
  | r :: rs, s :: ss => if r.sameAs s then commonLength rs ss + 1 else 0
  | _, _ => 0

/-- The parts of a concatenation. -/
def concat? : Regex → Option (List Regex)
  | .concat rs => some rs
  | _ => none

/-- Alternatives that all begin with the same parts: these, and then a choice of the rest. -/
def lifted? (rs : List Regex) : Option Regex := do
  match ← rs.mapM concat? with
  | [] => none
  | first :: others =>
    let n := others.foldl (fun n ss => min n (commonLength first ss)) first.length
    if n = 0 then none
    else some (seq (first.take n ++ [choice ((first :: others).map fun ss => seq (ss.drop n))]))

/-- **One of several expressions**, with what they begin with in common before the choice. What is
left after that has no common beginning. -/
def anyOf (rs : List Regex) : Regex :=
  match choice rs with
  | .alternatives rs => (lifted? rs).getD (.alternatives rs)
  | r => r

/-- An expression several times. What matches the empty text alone does so once or not at all. -/
def times (r : Regex) (least : Nat) (most : Option Nat) (greedy : Bool) : Regex :=
  let bounded := r.isAlwaysEmpty
  let least := if bounded then min least 1 else least
  let most := if bounded then some (min (most.getD 1) 1) else most
  if least = 0 ∧ most = some 0 then .empty
  else if least = 1 ∧ most = some 1 then r
  else .repeated r least most greedy

end Regex

end PropertyGraph
