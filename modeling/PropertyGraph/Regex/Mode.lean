import PropertyGraph.Text.Blank
import PropertyGraph.Text.CaseFold
import PropertyGraph.Text.Reading

/-!
# Flags of regular expressions

Flags say which characters count in an expression and what its sets and marks stand for.

## Main definitions

- `RegexMode` — the flags in force
- `RegexMode.skip` — blanks and comments, where they do not count
- `RegexMode.fold`, `RegexMode.negate?` — sets under the flags in force
-/

namespace PropertyGraph

/-- The flags in force. -/
structure RegexMode where
  ignoreCase : Bool
  multiLine : Bool
  dotAll : Bool
  /-- A repetition takes as little as it can, unless it is marked. -/
  lazyFirst : Bool
  /-- A carriage return ends lines as well. -/
  carriage : Bool
  /-- Blanks and comments do not count. -/
  extended : Bool
  /-- Sets have the characters of Unicode, and not those of ASCII alone. -/
  unicode : Bool
deriving Repr, DecidableEq

/-- What is left after the blanks and comments in front of a text, which begins in a comment or not. -/
def dropSpace : Bool → List Char → List Char
  | _, [] => []
  | true, c :: cs => dropSpace (c ≠ '\n') cs
  | false, c :: cs =>
    if isBlank c then dropSpace false cs else if c = '#' then dropSpace true cs else c :: cs

/-- Skip what does not count under the flags in force. -/
def RegexMode.skip (mode : RegexMode) (cs : List Char) : List Char :=
  if mode.extended then dropSpace false cs else cs

/-- A reader that skips what does not count. -/
def RegexMode.space (mode : RegexMode) : TextReader Unit := fun cs => some ((), mode.skip cs)

/-! ## Sets -/

/-- The set with the case variants that count under the flags in force. -/
def RegexMode.fold (mode : RegexMode) (s : CharSet) : CharSet :=
  if !mode.ignoreCase then s else if mode.unicode then s.closeCase else s.closeAsciiCase

/-- The complement of a set, if it is asked for. Of a set of ASCII characters it has parts of others,
so it is refused where the sets are those. -/
def RegexMode.negate? (mode : RegexMode) (negated : Bool) (s : CharSet) : Option CharSet :=
  if !negated then some s else if mode.unicode then some s.complement else none

/-- A set of characters, or the one of ASCII that stands in for it. -/
def RegexMode.pick (mode : RegexMode) (s ascii : CharSet) : CharSet := if mode.unicode then s else ascii

end PropertyGraph
