/-!
# Reading decimals as doubles

A written decimal is read in two steps: as many leading digits as fit into 64 bits become a
double, which is then scaled by a power of ten in double arithmetic. For up to nineteen
digits and small powers this is the nearest double.

## Main definitions

- `Significand` — the digits read so far, with the power of ten of those left out
- `Significand.value?` — the double, or nothing when it is too large
-/

namespace PropertyGraph

/-- Digits read so far as a 64-bit number, and the power of ten by which it is to be scaled. -/
structure Significand where
  digits : Nat
  exponent : Int
  /-- A digit did not fit, and all later ones on its side of the point are left out too. -/
  full : Bool

namespace Significand

/-- No digits yet. -/
def zero : Significand := ⟨0, 0, false⟩

/-- Whether one more digit fits into 64 bits. -/
def fits (s : Significand) (digit : Nat) : Bool := !s.full && s.digits * 10 + digit < UInt64.size

/-- Read a digit before the point. -/
def pushWhole (s : Significand) (digit : Nat) : Significand :=
  if s.fits digit then { s with digits := s.digits * 10 + digit }
  else { s with exponent := s.exponent + 1, full := true }

/-- Go on behind the point, where a digit may fit again. -/
def atPoint (s : Significand) : Significand := { s with full := false }

/-- Read a digit after the point. -/
def pushFraction (s : Significand) (digit : Nat) : Significand :=
  if s.fits digit then { s with digits := s.digits * 10 + digit, exponent := s.exponent - 1 }
  else { s with full := true }

/-- Divide by a power of ten, in steps of `10^308`. -/
def divideByTen (x : Float) : Nat → Nat → Float
  | 0, _ => 0.0
  | n + 1, e =>
    if e ≤ 308 then x / Float.ofScientific 1 false e
    else if x == 0.0 then x
    else divideByTen (x / Float.ofScientific 1 false 308) n (e - 308)

/-- The double that the digits stand for after a shift by `10^shift`; `none` when it is out of
range. -/
def value? (s : Significand) (shift : Int) : Option Float :=
  let x := Float.ofNat s.digits
  let e := s.exponent + shift
  if 0 ≤ e then
    if 308 < e then if s.digits = 0 then some 0.0 else none
    else
      let y := x * Float.ofScientific 1 false e.toNat
      if y.isInf then none else some y
  else some (divideByTen x 4 e.natAbs)

end Significand

end PropertyGraph
