import PropertyGraph.Calendar
import PropertyGraph.Text.Digits

/-!
# Instants of universal time

An instant is a second of universal time and a fraction in nanoseconds. A leap second is kept
with the second before it, its fraction shifted by a whole second, so that it sorts between
that second and the next minute.

The text form is `YYYY-MM-DDTHH:MM:SS`, an optional fraction and an offset. It is read with
any offset and written in universal time, with the fewest of 0, 3, 6 or 9 fraction digits
that are exact.

## Main definitions

- `Instant` — seconds since the start of the calendar, and nanoseconds
- `Instant.parse?` — read a timestamp
- `Instant.text` — write a timestamp
-/

namespace PropertyGraph

/-- A moment of universal time: seconds since 1 March of year 0, and nanoseconds. In a leap
second the nanoseconds run from `10^9`. -/
structure Instant where
  seconds : Int
  nanos : Nat
deriving Repr, DecidableEq

namespace Instant

/-- Earlier instants come first. -/
instance : Ord Instant := ⟨fun a b => (compare a.seconds b.seconds).then (compare a.nanos b.nanos)⟩

/-! ## Reading -/

/-- A literal character in front of a text. -/
def readChar (c : Char) : List Char → Option (List Char)
  | [] => none
  | d :: cs => if d = c then some cs else none

/-- A date `YYYY-MM-DD` that exists. -/
def readDate (cs : List Char) : Option (Date × List Char) := do
  let (year, cs) ← readFixed 4 0 cs
  let cs ← readChar '-' cs
  let (month, cs) ← readFixed 2 0 cs
  let cs ← readChar '-' cs
  let (day, cs) ← readFixed 2 0 cs
  let date : Date := ⟨year, month, day⟩
  if date.Valid then some (date, cs) else none

/-- The letter or blank between date and time. -/
def readSeparator : List Char → Option (List Char)
  | [] => none
  | c :: cs => if c = 'T' ∨ c = 't' ∨ c = ' ' then some cs else none

/-- A time of day `HH:MM:SS`, as its second of the day and the nanoseconds that a leap second
adds to second 59. -/
def readClock (cs : List Char) : Option (Nat × Nat × List Char) := do
  let (hour, cs) ← readFixed 2 0 cs
  let cs ← readChar ':' cs
  let (minute, cs) ← readFixed 2 0 cs
  let cs ← readChar ':' cs
  let (second, cs) ← readFixed 2 0 cs
  if 23 < hour ∨ 59 < minute ∨ 60 < second then none
  else if second = 60 then some (hour * 3600 + minute * 60 + 59, 1000000000, cs)
  else some (hour * 3600 + minute * 60 + second, 0, cs)

/-- The digits of a fraction that still count, at the weight of the next one; later digits are
dropped. -/
def fractionDigits (acc : Nat) : Nat → List Char → Nat × List Char
  | _, [] => (acc, [])
  | weight, c :: cs =>
    match digitValue? c with
    | some d => fractionDigits (acc + d * weight) (weight / 10) cs
    | none => (acc, c :: cs)

/-- An optional fraction, in nanoseconds. A point needs a digit after it. -/
def readFraction : List Char → Option (Nat × List Char)
  | '.' :: c :: cs => if (digitValue? c).isSome then some (fractionDigits 0 100000000 (c :: cs)) else none
  | ['.'] => none
  | cs => some (0, cs)

/-- The offset from universal time, in seconds. -/
def readOffset : List Char → Option (Int × List Char)
  | [] => none
  | c :: cs => do
    if c = 'Z' ∨ c = 'z' then return (0, cs)
    let sign : Int ← if c = '+' then some 1 else if c = '-' ∨ c = '\u2212' then some (-1) else none
    let (hours, cs) ← readFixed 2 0 cs
    let cs ← readChar ':' cs
    let (minutes, cs) ← readFixed 2 0 cs
    if 23 < hours ∨ 59 < minutes then none
    else some (sign * (hours * 3600 + minutes * 60 : Nat), cs)

/-- Read a timestamp that fills the whole text. -/
def parse? (s : String) : Option Instant := do
  let (date, cs) ← readDate s.toList
  let cs ← readSeparator cs
  let (second, leap, cs) ← readClock cs
  let (fraction, cs) ← readFraction cs
  let (offset, cs) ← readOffset cs
  match cs with
  | [] => some ⟨date.dayNumber * 86400 + second - offset, leap + fraction⟩
  | _ :: _ => none

/-! ## Writing -/

/-- Four digits for the years 0 to 9999; others carry a sign. -/
def yearText (year : Int) : List Char :=
  if 0 ≤ year ∧ year ≤ 9999 then fixedDigits 4 year.toNat
  else
    let n := year.natAbs
    (if 0 ≤ year then '+' else '-') :: (if n ≤ 9999 then fixedDigits 4 n else Nat.toDigits 10 n)

/-- The fewest of 0, 3, 6 or 9 digits that are exact. -/
def fractionText (nanos : Nat) : List Char :=
  if nanos = 0 then []
  else if nanos % 1000000 = 0 then '.' :: fixedDigits 3 (nanos / 1000000)
  else if nanos % 1000 = 0 then '.' :: fixedDigits 6 (nanos / 1000)
  else '.' :: fixedDigits 9 nanos

/-- The date and time of day in universal time, without an offset. -/
def civilText (t : Instant) : List Char :=
  let date := Date.ofDayNumber (t.seconds / 86400)
  let ofDay := (t.seconds % 86400).toNat
  let second := ofDay % 60 + t.nanos / 1000000000
  yearText date.year ++ '-' :: fixedDigits 2 date.month ++ '-' :: fixedDigits 2 date.day
    ++ 'T' :: fixedDigits 2 (ofDay / 3600) ++ ':' :: fixedDigits 2 (ofDay / 60 % 60)
    ++ ':' :: fixedDigits 2 second ++ fractionText (t.nanos % 1000000000)

/-- The exported form, in universal time with the offset written `Z`. -/
def text (t : Instant) : String := String.ofList (t.civilText ++ ['Z'])

/-- The form shown to people, with the offset written `+00:00`. -/
def displayText (t : Instant) : String := String.ofList (t.civilText ++ "+00:00".toList)

end Instant

end PropertyGraph
