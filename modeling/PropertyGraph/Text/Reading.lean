/-!
# Reading from the front of a text

A reader takes something from the front of a text and leaves the rest, or fails and leaves
everything.

## Main definitions

- `TextReader` — the readers
- `TextReader.character`, `word`, `run` — a character, a fixed word, a run of characters
- `TextReader.many` — as many things as there are
-/

namespace PropertyGraph

/-- A way to take something from the front of a text. -/
abbrev TextReader (α : Type) := StateT (List Char) Option α

namespace TextReader

variable {α : Type}

/-- A character for which a view is defined. -/
def seen (view : Char → Option α) : TextReader α
  | [] => none
  | c :: cs => (view c).map (·, cs)

/-- A character with a property. -/
def satisfying (p : Char → Bool) : TextReader Char := seen fun c => if p c then some c else none

/-- A given character. -/
def character (c : Char) : TextReader Unit := seen fun d => if d = c then some () else none

/-- Given characters in order. -/
def word : List Char → TextReader Unit
  | [] => pure ()
  | c :: cs => do
    character c
    word cs

/-- All characters up to the first without a property. -/
def run (p : Char → Bool) : TextReader (List Char) := fun cs => some (cs.span p)

/-- The end of the text. -/
def ended : TextReader Unit
  | [] => some ((), [])
  | _ :: _ => none

/-- At most `n` things, as many as there are. -/
def upTo (read : TextReader α) : Nat → TextReader (List α)
  | 0 => pure []
  | n + 1 =>
    (do
      let a ← read
      let rest ← upTo read n
      return a :: rest) <|> pure []

/-- As many things as there are, each of at least one character. -/
def many (read : TextReader α) : TextReader (List α) := fun cs => upTo read cs.length cs

/-- The value of a reader that reads the whole text. -/
def whole? (read : TextReader α) (text : String) : Option α :=
  match read text.toList with
  | some (a, []) => some a
  | _ => none

end TextReader

end PropertyGraph
