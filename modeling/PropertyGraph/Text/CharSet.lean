import PropertyGraph.Text.Ranges

/-!
# Sets of characters

A set of characters is kept as closed ranges of code points in increasing order, no two of which
touch. Surrogates are no characters and belong to no set.

## Main definitions

- `CharSet` — sets, with `CharSet.has`
- `CharSet.insertRange`, `CharSet.ofRanges` — sets from ranges
- `CharSet.union`, `CharSet.inter`, `CharSet.diff`, `CharSet.symmDiff`, `CharSet.complement`
-/

namespace PropertyGraph

/-- A set of characters. -/
structure CharSet where
  /-- Closed ranges, in increasing order and apart. -/
  ranges : List (Nat × Nat)
deriving Repr, DecidableEq

namespace CharSet

/-- Membership of a code point. -/
def has (s : CharSet) (n : Nat) : Bool := inRanges s.ranges n

/-- The set without characters. -/
def empty : CharSet := ⟨[]⟩

instance : EmptyCollection CharSet := ⟨empty⟩

instance : Inhabited CharSet := ⟨empty⟩

/-- Put a range into a list of ranges, joined with those that it touches. -/
def insertRange (first last : Nat) : List (Nat × Nat) → List (Nat × Nat)
  | [] => [(first, last)]
  | (a, b) :: rest =>
    if last + 1 < a then (first, last) :: (a, b) :: rest
    else if b + 1 < first then (a, b) :: insertRange first last rest
    else insertRange (min first a) (max last b) rest

/-- The set of one range. -/
def range (first last : Nat) : CharSet := ⟨[(first, last)]⟩

/-- The set of one character. -/
def single (c : Char) : CharSet := range c.toNat c.toNat

/-- The union of ranges in any order. -/
def ofRanges (ranges : List (Nat × Nat)) : CharSet :=
  ⟨ranges.foldl (fun rs r => insertRange r.1 r.2 rs) []⟩

/-- The characters in at least one of two sets. -/
def union (s t : CharSet) : CharSet := ⟨t.ranges.foldl (fun rs r => insertRange r.1 r.2 rs) s.ranges⟩

/-- The code points from `start` on that are in none of the ranges. -/
def gaps (start : Nat) : List (Nat × Nat) → List (Nat × Nat)
  | [] => if start ≤ 0x10FFFF then [(start, 0x10FFFF)] else []
  | (a, b) :: rest => if start < a then (start, a - 1) :: gaps (b + 1) rest else gaps (b + 1) rest

/-- The characters that are not in a set. -/
def complement (s : CharSet) : CharSet := ⟨gaps 0 (insertRange 0xD800 0xDFFF s.ranges)⟩

/-- The characters in both sets. -/
def inter (s t : CharSet) : CharSet := (s.complement.union t.complement).complement

/-- The characters in the first set alone. -/
def diff (s t : CharSet) : CharSet := s.inter t.complement

/-- The characters in exactly one of two sets. -/
def symmDiff (s t : CharSet) : CharSet := (s.diff t).union (t.diff s)

/-- Whether all characters of a set are ASCII. -/
def isAscii (s : CharSet) : Bool := s.ranges.all fun r => r.2 < 0x80

end CharSet

end PropertyGraph
