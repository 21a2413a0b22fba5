/-!
# The fewest decimal digits of a double

A finite double stands for the interval of reals that round to it. Its shortest decimal is
the one with the fewest digits in that interval, and among those the one nearest to the
value. All comparisons are exact, on naturals.

## Main definitions

- `Binary` — a positive double as `m * 2^q`
- `Decimal` — a decimal as `digits * 10^exponent`
- `Binary.readsBack` — the decimal lies in the interval of the double
- `Binary.shortest` — the shortest decimal
-/

namespace PropertyGraph

/-- A finite non-negative double, `m * 2^q`. -/
structure Binary where
  m : Nat
  q : Int
  /-- The gap to the next smaller double is half the gap to the next larger one. -/
  narrowBelow : Bool

/-- The magnitude of a finite double, read off its bits. -/
def Binary.ofBits (b : UInt64) : Binary :=
  let e := ((b >>> 52) &&& 0x7FF).toNat
  let f := (b &&& 0xFFFFFFFFFFFFF).toNat
  if e = 0 then ⟨f, -1074, false⟩ else ⟨0x10000000000000 + f, (e : Int) - 1075, f == 0 && e > 1⟩

/-- A decimal, `digits * 10^exponent`. -/
structure Decimal where
  digits : Nat
  exponent : Int
deriving Repr, DecidableEq

/-- Which of two equally near decimals is taken. -/
inductive Tie where
  | toEven
  | up
deriving Repr, DecidableEq

namespace Binary

/-- Compare `a * 10^i` with `n * 2^j`. -/
def compareScaled (a : Nat) (i : Int) (n : Nat) (j : Int) : Ordering :=
  compare (a * Nat.pow 10 i.toNat * Nat.pow 2 (-j).toNat) (n * Nat.pow 2 j.toNat * Nat.pow 10 (-i).toNat)

/-- Whether `d` is among the reals that round to `x`: between the midpoints to the two
neighbours, which belong to `x` when its mantissa is even. -/
def readsBack (x : Binary) (d : Decimal) : Bool :=
  let low := if x.narrowBelow then 4 * x.m - 1 else 4 * x.m - 2
  let high := 4 * x.m + 2
  let closed := x.m % 2 == 0
  let fromLow := compareScaled d.digits d.exponent low (x.q - 2)
  let fromHigh := compareScaled d.digits d.exponent high (x.q - 2)
  (fromLow == .gt || (closed && fromLow == .eq)) && (fromHigh == .lt || (closed && fromHigh == .eq))

/-- The least `k` with `x < 10^k`, for a positive `x`: an estimate from the binary logarithm,
corrected by comparison. -/
def scale (x : Binary) : Int :=
  let guess := Int.fdiv ((x.m.log2 + x.q) * 30103) 100000
  match [guess, guess + 1, guess + 2].find? fun k => compareScaled 1 k x.m x.q == .gt with
  | some k => k
  | none => guess + 3

/-- The shortest decimal on the grid of multiples of `10^g`, if a multiple reads back. -/
def onGrid (x : Binary) (tie : Tie) (g : Int) : Option Decimal :=
  let num := x.m * Nat.pow 2 x.q.toNat * Nat.pow 10 (-g).toNat
  let den := Nat.pow 2 (-x.q).toNat * Nat.pow 10 g.toNat
  let below : Decimal := ⟨num / den, g⟩
  let above : Decimal := ⟨num / den + 1, g⟩
  match x.readsBack below, x.readsBack above with
  | false, false => none
  | true, false => some below
  | false, true => some above
  | true, true =>
    match compare (2 * num) ((2 * below.digits + 1) * den), tie with
    | .lt, _ => some below
    | .gt, _ => some above
    | .eq, .up => some above
    | .eq, .toEven => some (if below.digits % 2 = 0 then below else above)

/-- The exact decimal value. -/
def exact (x : Binary) : Decimal :=
  if x.q < 0 then ⟨x.m * Nat.pow 5 (-x.q).toNat, x.q⟩ else ⟨x.m * Nat.pow 2 x.q.toNat, 0⟩

end Binary

/-- Move trailing zeros of the digits into the exponent, at most `n` of them. -/
def Decimal.stripZeros : Nat → Decimal → Decimal
  | 0, d => d
  | n + 1, d =>
    if d.digits ≠ 0 ∧ d.digits % 10 = 0 then stripZeros n ⟨d.digits / 10, d.exponent + 1⟩ else d

/-- The shortest decimal that reads back to `x`. -/
def Binary.shortest (x : Binary) (tie : Tie) : Decimal :=
  if x.m = 0 then ⟨0, 0⟩
  else
    let k := x.scale
    match (List.range 17).findSome? fun n : Nat => x.onGrid tie (k - (n + 1)) with
    | some d => d.stripZeros 20
    | none => x.exact

end PropertyGraph
