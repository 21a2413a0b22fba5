import Mathlib.Tactic.IntervalCases
import PropertyGraph.Calendar

/-!
# Dates and day numbers

The dates of the calendar and the numbers of days are the same thing written in two ways. Between the two
stand a year that begins with March and a day of that year: leap days end such a year, so that the first day
of a year and the first day of a month are plain functions of their numbers.

## Main definitions

- `Date.marchYear`, `Date.dayOfYear`, `Date.ofMarch` — a date by its year from March on
- `Date.firstDay`, `Date.yearDays` — where such a year begins and how long it is

## Main results

- `Date.valid_ofDayNumber`, `Date.dayNumber_ofDayNumber` — every day has a date
- `Date.dayNumber_injective` — and no other one
-/

namespace PropertyGraph

namespace Date

/-- The year of a date, where years begin with March. -/
def marchYear (d : Date) : Int := if d.month ≤ 2 then d.year - 1 else d.year

/-- The month of a date, counted from March. -/
def marchMonth (d : Date) : Nat := if d.month ≤ 2 then d.month + 9 else d.month - 3

/-- The days from the beginning of a year to a month, both counted from March. -/
def monthStart (month : Nat) : Nat := (153 * month + 2) / 5

/-- The day of a date within its year, where years begin with March. -/
def dayOfYear (d : Date) : Nat := monthStart d.marchMonth + (d.day - 1)

/-- The month of a day within its year, both counted from March. -/
def monthOfDay (day : Nat) : Nat := (5 * day + 2) / 153

/-- The date of a day within a year, where years begin with March. -/
def ofMarch (year : Int) (day : Nat) : Date :=
  if monthOfDay day < 10 then ⟨year, monthOfDay day + 3, day - monthStart (monthOfDay day) + 1⟩
  else ⟨year + 1, monthOfDay day - 9, day - monthStart (monthOfDay day) + 1⟩

/-- The number of 1 March of a year. -/
def firstDay (year : Int) : Int := 365 * year + year / 4 - year / 100 + year / 400

/-- The number of days from one 1 March to the next. -/
def yearDays (year : Int) : Nat := if isLeap (year + 1) then 366 else 365

variable {d e : Date} {year year' : Int} {day day' : Nat}

/-! ## Months -/

/-- The month of a day, by the days at which months begin. -/
theorem monthOfDay_eq_iff {month : Nat} :
    monthOfDay day = month ↔ monthStart month ≤ day ∧ day < monthStart (month + 1) := by
  unfold monthOfDay monthStart
  omega

/-- The lengths of the months from March to January. -/
theorem daysIn_of_lt (year : Int) {month : Nat} (h : month < 11) :
    daysIn year (if month < 10 then month + 3 else month - 9) =
      monthStart (month + 1) - monthStart month := by
  interval_cases month <;> rfl

theorem daysIn_le (year : Int) (month : Nat) : daysIn year month ≤ 31 := by
  unfold daysIn
  split
  · split <;> omega
  · split <;> omega

/-- February is what is left of the year. -/
theorem daysIn_february (year : Int) : monthStart 11 + daysIn (year + 1) 2 = yearDays year := by
  unfold daysIn yearDays
  rw [if_pos rfl]
  split <;> rfl

theorem yearDays_le (year : Int) : yearDays year ≤ 366 := by
  unfold yearDays
  split <;> omega

/-! ## Years -/

theorem isLeap_iff : isLeap year = true ↔ year % 4 = 0 ∧ (year % 100 ≠ 0 ∨ year % 400 = 0) := by
  simp [isLeap]

theorem firstDay_succ (year : Int) : firstDay (year + 1) = firstDay year + yearDays year := by
  unfold firstDay yearDays
  split
  · rename_i h
    rw [isLeap_iff] at h
    omega
  · rename_i h
    rw [isLeap_iff] at h
    omega

theorem firstDay_mono (h : year ≤ year') : firstDay year ≤ firstDay year' := by
  unfold firstDay
  omega

/-- A day number falls into one year only. -/
theorem firstDay_add_inj (hday : day < yearDays year) (hday' : day' < yearDays year')
    (h : firstDay year + day = firstDay year' + day') : year = year' ∧ day = day' := by
  have hsucc := firstDay_succ year
  have hsucc' := firstDay_succ year'
  obtain hlt | rfl | hgt := lt_trichotomy year year'
  · have hnext : firstDay (year + 1) ≤ firstDay year' := firstDay_mono hlt
    omega
  · omega
  · have hnext : firstDay (year' + 1) ≤ firstDay year := firstDay_mono hgt
    omega

/-! ## Dates by years from March on -/

theorem dayNumber_eq (d : Date) : d.dayNumber = firstDay d.marchYear + d.dayOfYear := by
  change d.marchYear / 400 * 146097 + (((d.marchYear % 400).toNat * 365 + (d.marchYear % 400).toNat / 4 -
    (d.marchYear % 400).toNat / 100 + d.dayOfYear : Nat) : Int) = _
  generalize d.marchYear = year, d.dayOfYear = day
  unfold firstDay
  omega

/-- Counting months from March and back again. -/
theorem Valid.month_eq (h : d.Valid) :
    (if d.marchMonth < 10 then d.marchMonth + 3 else d.marchMonth - 9) = d.month := by
  obtain ⟨hpos, hle, -, -⟩ := h
  unfold marchMonth
  split <;> split <;> omega

/-- A day of a month lies before the next month. -/
theorem Valid.dayOfYear_lt_monthStart (h : d.Valid) (hmonth : d.marchMonth < 11) :
    d.dayOfYear < monthStart (d.marchMonth + 1) := by
  have hdays := daysIn_of_lt d.year hmonth
  rw [h.month_eq] at hdays
  obtain ⟨-, -, hpos, hle⟩ := h
  unfold dayOfYear
  omega

theorem Valid.dayOfYear_lt (h : d.Valid) : d.dayOfYear < yearDays d.marchYear := by
  by_cases hmonth : d.marchMonth < 11
  · have hlt := h.dayOfYear_lt_monthStart hmonth
    have hyear : 365 ≤ yearDays d.marchYear := by
      unfold yearDays
      split <;> omega
    unfold monthStart at hlt
    omega
  · have hfebruary : d.month = 2 ∧ d.marchMonth = 11 := by
      obtain ⟨hpos, hle, -, -⟩ := h
      unfold marchMonth at hmonth ⊢
      split at hmonth <;> split <;> omega
    have hyear : d.year = d.marchYear + 1 := by
      unfold marchYear
      rw [if_pos (by omega)]
      omega
    obtain ⟨-, -, hpos, hle⟩ := h
    rw [hfebruary.1, hyear] at hle
    have hlength := daysIn_february d.marchYear
    rw [dayOfYear, hfebruary.2]
    omega

/-- The month of a day is the one of its date. -/
theorem Valid.monthOfDay_dayOfYear (h : d.Valid) : monthOfDay d.dayOfYear = d.marchMonth := by
  refine monthOfDay_eq_iff.2 ⟨Nat.le_add_right _ _, ?_⟩
  by_cases hmonth : d.marchMonth < 11
  · exact h.dayOfYear_lt_monthStart hmonth
  · have hlt := h.dayOfYear_lt
    have hle := yearDays_le d.marchYear
    unfold monthStart
    omega

/-- A date is the one of its day within its year. -/
theorem Valid.ofMarch_eq (h : d.Valid) : ofMarch d.marchYear d.dayOfYear = d := by
  have hmonth := h.monthOfDay_dayOfYear
  obtain ⟨hpos, hle, hday, -⟩ := h
  have hdays : d.dayOfYear - monthStart d.marchMonth + 1 = d.day := by
    unfold dayOfYear
    omega
  unfold ofMarch
  rw [hmonth, hdays]
  obtain ⟨year, month, day⟩ := d
  unfold marchMonth marchYear
  dsimp only at hpos hle ⊢
  by_cases hearly : month ≤ 2
  · rw [if_pos hearly, if_pos hearly, if_neg (by omega), mk.injEq]
    omega
  · rw [if_neg hearly, if_neg hearly, if_pos (by omega), mk.injEq]
    omega

section

variable (h : day < yearDays year)
include h

/-- A year has twelve months. -/
theorem monthOfDay_lt : monthOfDay day < 12 := by
  have hle := yearDays_le year
  unfold monthOfDay
  omega

theorem marchMonth_ofMarch : (ofMarch year day).marchMonth = monthOfDay day := by
  have hmonth := monthOfDay_lt h
  unfold ofMarch marchMonth
  generalize monthOfDay day = month at hmonth ⊢
  by_cases hlate : month < 10
  · rw [if_pos hlate]
    dsimp only
    rw [if_neg (by omega)]
    omega
  · rw [if_neg hlate]
    dsimp only
    rw [if_pos (by omega)]
    omega

theorem marchYear_ofMarch : (ofMarch year day).marchYear = year := by
  have hmonth := monthOfDay_lt h
  unfold ofMarch marchYear
  generalize monthOfDay day = month at hmonth ⊢
  by_cases hlate : month < 10
  · rw [if_pos hlate]
    dsimp only
    rw [if_neg (by omega)]
  · rw [if_neg hlate]
    dsimp only
    rw [if_pos (by omega)]
    omega

omit h in
theorem day_ofMarch : (ofMarch year day).day = day - monthStart (monthOfDay day) + 1 := by
  unfold ofMarch
  split <;> rfl

theorem dayOfYear_ofMarch : (ofMarch year day).dayOfYear = day := by
  have hmonth := (monthOfDay_eq_iff.1 (rfl : monthOfDay day = _)).1
  rw [dayOfYear, marchMonth_ofMarch h, day_ofMarch]
  omega

theorem valid_ofMarch : (ofMarch year day).Valid := by
  have hmonth := monthOfDay_lt h
  obtain ⟨hstart, hend⟩ := monthOfDay_eq_iff.1 (rfl : monthOfDay day = _)
  unfold ofMarch
  generalize monthOfDay day = month at hmonth hstart hend ⊢
  by_cases hlate : month < 10
  · have hdays := daysIn_of_lt year (show month < 11 by omega)
    rw [if_pos hlate] at hdays ⊢
    refine ⟨?_, ?_, ?_, ?_⟩ <;> dsimp only <;> omega
  · rw [if_neg hlate]
    obtain hjanuary | hfebruary : month = 10 ∨ month = 11 := by omega
    · subst hjanuary
      have hdays := daysIn_of_lt (year + 1) (show 10 < 11 by decide)
      rw [if_neg (by omega)] at hdays
      refine ⟨?_, ?_, ?_, ?_⟩ <;> dsimp only <;> omega
    · subst hfebruary
      have hdays : monthStart 11 + daysIn (year + 1) (11 - 9) = yearDays year := daysIn_february year
      refine ⟨?_, ?_, ?_, ?_⟩ <;> dsimp only <;> omega

end

/-! ## The date of a day number -/

/-- The first day of a year, by centuries, spans of four years and years within a cycle. -/
theorem firstDay_parts (cycle : Int) {century span year : Nat} (hcentury : century ≤ 3) (hspan : span ≤ 24)
    (hyear : year ≤ 3) :
    firstDay (cycle * 400 + (century * 100 + span * 4 + year : Nat)) =
      cycle * 146097 + (century * 36524 + span * 1461 + year * 365 : Nat) := by
  have hquarter : (cycle * 400 + (century * 100 + span * 4 + year : Nat)) / 4 =
      cycle * 100 + (century * 25 + span : Nat) := by omega
  have hhundredth : (cycle * 400 + (century * 100 + span * 4 + year : Nat)) / 100 =
      cycle * 4 + century := by omega
  have hcycle : (cycle * 400 + (century * 100 + span * 4 + year : Nat)) / 400 = cycle := by omega
  rw [firstDay, hquarter, hhundredth, hcycle]
  omega

/-- **A day number is split into a year and a day of it**: into cycles of 400 years, then centuries, spans
of four years and years, of which the last one of each may be a day longer. -/
theorem exists_ofDayNumber_eq (n : Int) :
    ∃ year day, ofDayNumber n = ofMarch year day ∧ day < yearDays year ∧ firstDay year + day = n := by
  let cycle := n / 146097
  let ofCycle := (n % 146097).toNat
  let century := min (ofCycle / 36524) 3
  let ofCentury := ofCycle - century * 36524
  let span := ofCentury / 1461
  let ofSpan := ofCentury - span * 1461
  let year := min (ofSpan / 365) 3
  refine ⟨cycle * 400 + (century * 100 + span * 4 + year : Nat), ofSpan - year * 365, rfl, ?_, ?_⟩
  · unfold yearDays
    split
    · omega
    · rename_i h
      rw [isLeap_iff] at h
      omega
  · rw [firstDay_parts cycle (by omega) (by omega) (by omega)]
    omega

theorem valid_ofDayNumber (n : Int) : (ofDayNumber n).Valid := by
  obtain ⟨year, day, hdate, hday, -⟩ := exists_ofDayNumber_eq n
  rw [hdate]
  exact valid_ofMarch hday

theorem dayNumber_ofDayNumber (n : Int) : (ofDayNumber n).dayNumber = n := by
  obtain ⟨year, day, hdate, hday, hn⟩ := exists_ofDayNumber_eq n
  rw [hdate, dayNumber_eq, marchYear_ofMarch hday, dayOfYear_ofMarch hday, hn]

/-- **No two dates fall on one day.** -/
theorem dayNumber_injective (hd : d.Valid) (he : e.Valid) (h : d.dayNumber = e.dayNumber) : d = e := by
  rw [dayNumber_eq, dayNumber_eq] at h
  obtain ⟨hyear, hday⟩ := firstDay_add_inj hd.dayOfYear_lt he.dayOfYear_lt h
  rw [← hd.ofMarch_eq, ← he.ofMarch_eq, hyear, hday]

end Date

end PropertyGraph
