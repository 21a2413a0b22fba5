import PropertyGraph.Decimal.Reading
import PropertyGraph.Json.Basic
import PropertyGraph.Text.Digits

/-!
# Numbers of JSON text

A number is written with an optional sign, digits without leading zeros, digits after a point and an
exponent. Of these only a finite number of doubles stands for a value.

## Main definitions

- `NumberText` — a number as it is written
- `NumberText.ofChars?` — the grammar of numbers
- `NumberText.value?` — the number that is written, if it is not too large
-/

namespace PropertyGraph

/-- Split off the digits in front of a text, as their values. -/
def splitDigits : List Char → List Nat × List Char
  | [] => ([], [])
  | c :: cs =>
    match digitValue? c with
    | some d => let (ds, rest) := splitDigits cs; (d :: ds, rest)
    | none => ([], c :: cs)

/-- The number that a list of digits writes. -/
def ofDigits (ds : List Nat) : Nat := ds.foldl (fun n d => n * 10 + d) 0

/-- A number as it is written. -/
structure NumberText where
  negative : Bool
  whole : List Nat
  /-- The digits after the point, if there is one. -/
  fraction : Option (List Nat)
  exponent : Option Int

namespace NumberText

/-! ## Grammar -/

/-- The exponent after its mark: an optional sign and at least one digit, and nothing more. -/
def exponent? (cs : List Char) : Option Int :=
  let (sign, cs) : Int × List Char :=
    match cs with
    | '+' :: rest => (1, rest)
    | '-' :: rest => (-1, rest)
    | cs => (1, cs)
  match splitDigits cs with
  | ([], _) => none
  | (ds, []) => some (sign * ofDigits ds)
  | (_, _ :: _) => none

/-- The end of a number: nothing, or a mark and an exponent. -/
def ending? : List Char → Option (Option Int)
  | [] => some none
  | c :: cs => if c = 'e' ∨ c = 'E' then (exponent? cs).map some else none

/-- The number written by a token; none if it is malformed. -/
def ofChars? (cs : List Char) : Option NumberText := do
  let (negative, cs) :=
    match cs with
    | '-' :: rest => (true, rest)
    | cs => (false, cs)
  match splitDigits cs with
  | ([], _) => none
  | (0 :: _ :: _, _) => none
  | (whole, '.' :: rest) =>
    match splitDigits rest with
    | ([], _) => none
    | (fraction, rest) => return ⟨negative, whole, some fraction, ← ending? rest⟩
  | (whole, rest) => return ⟨negative, whole, none, ← ending? rest⟩

/-! ## Value -/

/-- A double as a number, if it is finite. -/
def finite? (x : Float) : Option JsonNumber := if h : x.isFinite = true then some (.float x h) else none

/-- The double that is written, if it is finite. -/
def double? (t : NumberText) : Option JsonNumber := do
  let whole := t.whole.foldl Significand.pushWhole .zero
  let digits :=
    match t.fraction with
    | some ds => ds.foldl Significand.pushFraction whole.atPoint
    | none => whole
  let x ← digits.value? (t.exponent.getD 0)
  finite? (if t.negative then -x else x)

/-- **The number that is written**; none if it is too large. Without point and exponent it is an
integer, unless it is zero with a sign or does not fit 64 bits. -/
def value? (t : NumberText) : Option JsonNumber :=
  if t.fraction.isSome || t.exponent.isSome then t.double?
  else
    let n := ofDigits t.whole
    if t.negative then
      if n = 0 ∨ int64Bound < n then t.double? else some (.integer (Int64.ofInt (-n)))
    else if n < int64Bound then some (.integer (Int64.ofNat n))
    else if h : int64Bound ≤ (UInt64.ofNat n).toNat ∧ n < UInt64.size then some (.large (UInt64.ofNat n) h.1)
    else t.double?

end NumberText

end PropertyGraph
