import PropertyGraph.Decimal.Shortest

/-!
# Layout of decimals

How chosen digits are written down. `Decimal.plain` never uses an exponent;
`Decimal.scientific` always does. Which of them a format takes, and for which exponents, is
the format's decision.

## Main definitions

- `Decimal.leadingExponent` — the exponent of the first digit
- `Decimal.plain`, `Decimal.scientific` — the two layouts
- `shortestDecimal` — the shortest decimal of a finite double's magnitude
-/

namespace PropertyGraph

namespace Decimal

/-- The digits as text. -/
def digitText (d : Decimal) : List Char := Nat.toDigits 10 d.digits

/-- The power of ten of the first digit. -/
def leadingExponent (d : Decimal) : Int := d.exponent + d.digitText.length - 1

/-- Positional notation. An integral value gets `.0` when `pointZero` is set. -/
def plain (d : Decimal) (pointZero : Bool) : List Char :=
  let ds := d.digitText
  if 0 ≤ d.exponent then
    ds ++ List.replicate d.exponent.toNat '0' ++ (if pointZero then ['.', '0'] else [])
  else
    let places := (-d.exponent).toNat
    if places < ds.length then
      ds.take (ds.length - places) ++ ['.'] ++ ds.drop (ds.length - places)
    else
      ['0', '.'] ++ List.replicate (places - ds.length) '0' ++ ds

/-- Scientific notation: one digit before the point, and a signed exponent. -/
def scientific (d : Decimal) : List Char :=
  let e := d.leadingExponent
  let mantissa :=
    match d.digitText with
    | [] => []
    | [c] => [c]
    | c :: rest => c :: '.' :: rest
  mantissa ++ ['e', if 0 ≤ e then '+' else '-'] ++ Nat.toDigits 10 e.natAbs

end Decimal

/-- Whether the sign bit of a double is set. -/
def signBit (x : Float) : Bool := x.toBits >>> 63 == 1

/-- The shortest decimal of the magnitude of a finite double. -/
def shortestDecimal (x : Float) (tie : Tie) : Decimal := (Binary.ofBits x.toBits).shortest tie

end PropertyGraph
