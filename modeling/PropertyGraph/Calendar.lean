/-!
# The Gregorian calendar

Dates and day numbers. Day 0 is 1 March of year 0, so that leap days end a cycle: 400 years
are four centuries, a century is twenty-five spans of four years, and only the last part of
each may be a day longer.

## Main definitions

- `Date` — year, month and day
- `Date.Valid` — the month and the day exist
- `Date.dayNumber`, `Date.ofDayNumber` — dates and day numbers
-/

namespace PropertyGraph

/-- A date by year, month and day. -/
structure Date where
  year : Int
  month : Nat
  day : Nat
deriving Repr, DecidableEq

namespace Date

/-- Whether a year has a 29 February. -/
def isLeap (year : Int) : Bool := year % 4 == 0 && (year % 100 != 0 || year % 400 == 0)

/-- The number of days of a month. -/
def daysIn (year : Int) (month : Nat) : Nat :=
  if month = 2 then if isLeap year then 29 else 28
  else if month = 4 ∨ month = 6 ∨ month = 9 ∨ month = 11 then 30
  else 31

/-- The date exists in the calendar. -/
def Valid (d : Date) : Prop := 1 ≤ d.month ∧ d.month ≤ 12 ∧ 1 ≤ d.day ∧ d.day ≤ daysIn d.year d.month

instance (d : Date) : Decidable d.Valid := by unfold Valid; infer_instance

/-- The number of days from 1 March of year 0. Months are counted from March. -/
def dayNumber (d : Date) : Int :=
  let year := if d.month ≤ 2 then d.year - 1 else d.year
  let month := if d.month ≤ 2 then d.month + 9 else d.month - 3
  let cycle := year / 400
  let ofCycle := (year % 400).toNat
  let ofYear := (153 * month + 2) / 5 + (d.day - 1)
  cycle * 146097 + (ofCycle * 365 + ofCycle / 4 - ofCycle / 100 + ofYear : Nat)

/-- The date of a day number. -/
def ofDayNumber (n : Int) : Date :=
  let cycle := n / 146097
  let ofCycle := (n % 146097).toNat
  let century := min (ofCycle / 36524) 3
  let ofCentury := ofCycle - century * 36524
  let span := ofCentury / 1461
  let ofSpan := ofCentury - span * 1461
  let year := min (ofSpan / 365) 3
  let ofYear := ofSpan - year * 365
  let month := (5 * ofYear + 2) / 153
  let day := ofYear - (153 * month + 2) / 5 + 1
  let marchYear := cycle * 400 + (century * 100 + span * 4 + year : Nat)
  if month < 10 then ⟨marchYear, month + 3, day⟩ else ⟨marchYear + 1, month - 9, day⟩

end Date

end PropertyGraph
