import PropertyGraph.Text.CharSet

/-!
# Sets of characters as sequences of bytes

The characters of a set, as they are stored in bytes, are the sequences that take one byte from each of
a few ranges.

## Main definitions

- `ByteRange` — a range of bytes
- `alignedPieces` — a range of numbers, cut into pieces that fill blocks or lie in one
- `CharSet.byteSequences` — the byte sequences of a set
- `ByteRange.groups` — sequences by the range that they begin with
-/

namespace PropertyGraph

/-- A closed range of bytes. -/
structure ByteRange where
  first : UInt8
  last : UInt8
deriving Repr, DecidableEq

/-- The code points whose characters take one, two, three and four bytes. -/
def byteLengthRanges : List (Nat × Nat) := [(0, 0x7F), (0x80, 0x7FF), (0x800, 0xFFFF), (0x10000, 0x10FFFF)]

/-- The pieces of a range whose characters take equally many bytes. -/
def equallyLongPieces (range : Nat × Nat) : List (Nat × Nat) :=
  byteLengthRanges.filterMap fun r =>
    if r.1 ≤ range.2 ∧ range.1 ≤ r.2 then some (max r.1 range.1, min r.2 range.2) else none

/-- The pieces of a range that lie in one block of the given size or consist of whole blocks: a piece up
to the first border, one of whole blocks, and one from the last border on, as far as there are any. -/
def alignedPieces (block : Nat) (range : Nat × Nat) : List (Nat × Nat) :=
  let (a, b) := range
  let opening := (a + block - 1) / block * block
  let closing := (b + 1) / block * block
  if a / block = b / block then [range]
  else
    (if a < opening then [(a, opening - 1)] else []) ++
      (if opening < closing then [(opening, closing - 1)] else []) ++
        (if closing ≤ b then [(closing, b)] else [])

/-- The byte sequence of characters that take equally many bytes and share all that is before the last
differing one. -/
def byteSequence (range : Nat × Nat) : List ByteRange :=
  List.zipWith ByteRange.mk (String.utf8EncodeChar (Char.ofNat range.1))
    (String.utf8EncodeChar (Char.ofNat range.2))

/-- The byte sequences of the characters of a range, which has no surrogates. -/
def rangeSequences (range : Nat × Nat) : List (List ByteRange) :=
  ((equallyLongPieces range).flatMap fun piece =>
    if piece.2 < 0x80 then [piece]
    else [64, 4096, 262144].foldl (fun pieces block => pieces.flatMap (alignedPieces block)) [piece]).map
      byteSequence

/-- The byte sequences of the characters of a set, in increasing order. -/
def CharSet.byteSequences (s : CharSet) : List (List ByteRange) := s.ranges.flatMap rangeSequences

/-- Sequences side by side that begin with the same range, as that range and the rests. -/
def ByteRange.groups : List (List ByteRange) → List (ByteRange × List (List ByteRange))
  | [] => []
  | [] :: sequences => groups sequences
  | (range :: rest) :: sequences =>
    match groups sequences with
    | (next, rests) :: others =>
      if range = next then (range, rest :: rests) :: others else (range, [rest]) :: (next, rests) :: others
    | [] => [(range, [rest])]

end PropertyGraph
