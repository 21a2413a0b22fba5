import PropertyGraph.Instant
import PropertyGraph.Proofs.Calendar

/-!
# Timestamps that are read back

A timestamp is written in universal time and read with any offset. What is read keeps leap seconds with
the last second of a minute, whatever the offset, since offsets are whole minutes; and the years that are
written with four digits are read back, with the fraction and the leap second that they had.

## Main definitions

- `Instant.Readable` — the instants that a text can stand for
- `Instant.OnDate` — the date of an instant in universal time

## Main results

- `Instant.readable_of_parse?` — what is read is readable
- `Instant.parse?_text` — a readable instant is read back from its text
-/

namespace PropertyGraph

/-! ## Digits -/

theorem digitValue?_digitChar (n : Nat) : digitValue? (digitChar n) = some (n % 10) := by
  have hall : ∀ d < 10, digitValue? (Char.ofNat (48 + d)) = some d := by decide
  exact hall (n % 10) (Nat.mod_lt n (by decide))

theorem le_of_digitValue? {c : Char} {d : Nat} (h : digitValue? c = some d) : d ≤ 9 := by
  unfold digitValue? at h
  split at h
  · rename_i hc
    have hle : c.toNat ≤ 57 := hc.2
    cases h
    omega
  · cases h

/-- The last digit of a number goes behind the others. -/
theorem mod_pow_succ (n w : Nat) : n / 10 % 10 ^ w * 10 + n % 10 = n % 10 ^ (w + 1) := by
  rw [Nat.pow_succ', Nat.mod_mul]
  omega

/-- A field is read onto what was read before it. -/
theorem readFixed_fixedDigits (w k acc n : Nat) (rest : List Char) :
    readFixed (w + k) acc (fixedDigits w n ++ rest) = readFixed k (acc * 10 ^ w + n % 10 ^ w) rest := by
  induction w generalizing k n rest with
  | zero => simp [fixedDigits, Nat.mod_one]
  | succ w ih =>
    -- the last digit is read after the others, so it counts to the rest
    have hdigit : (acc * 10 ^ w + n / 10 % 10 ^ w) * 10 + n % 10 =
        acc * 10 ^ (w + 1) + n % 10 ^ (w + 1) := by
      rw [← mod_pow_succ, Nat.pow_succ, Nat.add_mul, Nat.mul_assoc, Nat.add_assoc]
    rw [fixedDigits, List.append_assoc, Nat.add_assoc, Nat.add_comm 1 k, ih, List.singleton_append,
      readFixed, digitValue?_digitChar]
    dsimp only
    rw [hdigit]

/-- A number that fits its field is read back. -/
theorem readFixed_field {w n : Nat} (h : n < 10 ^ w) (rest : List Char) :
    readFixed w 0 (fixedDigits w n ++ rest) = some (n, rest) := by
  have hread := readFixed_fixedDigits w 0 0 n rest
  rwa [Nat.zero_mul, Nat.zero_add, Nat.mod_eq_of_lt h] at hread

namespace Instant

/-! ## What is read -/

/-- **An instant that a text can stand for**: the nanoseconds are those of one second or of two, and of
two only in the last second of a minute. -/
structure Readable (t : Instant) : Prop where
  nanos_lt : t.nanos < 2000000000
  leap : 1000000000 ≤ t.nanos → t.seconds % 60 = 59

theorem fractionDigits_le (acc weight : Nat) (cs : List Char) :
    (fractionDigits acc weight cs).1 ≤ acc + (10 * weight - 1) := by
  induction cs generalizing acc weight with
  | nil => exact Nat.le_add_right _ _
  | cons c cs ih =>
    unfold fractionDigits
    split
    · rename_i d hd
      have hnext := ih (acc + d * weight) (weight / 10)
      have hdigit : d * weight ≤ 9 * weight := Nat.mul_le_mul_right weight (le_of_digitValue? hd)
      omega
    · exact Nat.le_add_right _ _

theorem readFraction_lt {cs rest : List Char} {n : Nat} (h : readFraction cs = some (n, rest)) :
    n < 1000000000 := by
  unfold readFraction at h
  split at h
  · rename_i c cs
    split at h
    · have hle := fractionDigits_le 0 100000000 (c :: cs)
      rw [Option.some.inj h] at hle
      omega
    · cases h
  · cases h
  · cases h
    decide

/-- A leap second belongs to the last second of a minute. -/
theorem readClock_leap {cs rest : List Char} {second leap : Nat}
    (h : readClock cs = some (second, leap, rest)) :
    leap = 0 ∨ leap = 1000000000 ∧ second % 60 = 59 := by
  unfold readClock at h
  simp only [Option.bind_eq_bind, Option.bind_eq_some_iff] at h
  obtain ⟨⟨hour, _⟩, _, _, _, ⟨minute, _⟩, _, _, _, ⟨sec, _⟩, _, h⟩ := h
  dsimp only at h
  split at h
  · cases h
  · split at h <;> cases h
    · exact .inr ⟨rfl, by omega⟩
    · exact .inl rfl

/-- Hours and minutes are whole minutes, with either sign. -/
theorem signedOffset_mod {sign? : Option Int} {cs rest : List Char} {offset : Int}
    (h : (do
      let sign ← sign?
      let (hours, cs) ← readFixed 2 0 cs
      let cs ← readChar ':' cs
      let (minutes, cs) ← readFixed 2 0 cs
      if 23 < hours ∨ 59 < minutes then none
      else some (sign * (hours * 3600 + minutes * 60 : Nat), cs)) = some (offset, rest)) :
    offset % 60 = 0 := by
  simp only [Option.bind_eq_bind, Option.bind_eq_some_iff] at h
  obtain ⟨sign, _, ⟨hours, _⟩, _, _, _, ⟨minutes, _⟩, _, h⟩ := h
  split at h
  · cases h
  · cases h
    have hminutes : (60 : Int) ∣ (hours * 3600 + minutes * 60 : Nat) := by omega
    exact Int.emod_eq_zero_of_dvd (hminutes.mul_left sign)

theorem readOffset_mod {cs rest : List Char} {offset : Int} (h : readOffset cs = some (offset, rest)) :
    offset % 60 = 0 := by
  cases cs with
  | nil => cases h
  | cons c cs =>
    rw [readOffset] at h
    dsimp only at h
    split at h
    · cases h
      rfl
    · split at h
      · exact signedOffset_mod h
      · split at h
        · exact signedOffset_mod h
        · exact signedOffset_mod h

/-- **What is read is readable.** -/
theorem readable_of_parse? {s : String} {t : Instant} (h : parse? s = some t) : t.Readable := by
  unfold parse? at h
  simp only [Option.bind_eq_bind, Option.bind_eq_some_iff] at h
  obtain ⟨⟨date, _⟩, _, _, _, ⟨second, leap, _⟩, hclock, ⟨fraction, _⟩, hfraction, ⟨offset, cs⟩,
    hoffset, h⟩ := h
  have hleap := readClock_leap hclock
  have hlt := readFraction_lt hfraction
  have hmod := readOffset_mod hoffset
  cases cs with
  | cons => cases h
  | nil =>
    cases h
    constructor
    · dsimp only
      omega
    · dsimp only
      omega

/-! ## What is written -/

/-- The text of a date, its year with four digits. -/
def dateText (d : Date) : List Char :=
  fixedDigits 4 d.year.toNat ++ '-' :: (fixedDigits 2 d.month ++ '-' :: fixedDigits 2 d.day)

/-- The text of a time of day. -/
def clockText (hour minute second : Nat) : List Char :=
  fixedDigits 2 hour ++ ':' :: (fixedDigits 2 minute ++ ':' :: fixedDigits 2 second)

theorem readChar_self (c : Char) (rest : List Char) : readChar c (c :: rest) = some rest := if_pos rfl

/-- A date that exists is read back. -/
theorem readDate_dateText {d : Date} (hd : d.Valid) (hyear : 0 ≤ d.year ∧ d.year ≤ 9999)
    (rest : List Char) : readDate (dateText d ++ rest) = some (d, rest) := by
  have hvalid := hd
  obtain ⟨-, hmonth, -, hday⟩ := hd
  have hdays := Date.daysIn_le d.year d.month
  have hnat : (d.year.toNat : Int) = d.year := Int.toNat_of_nonneg hyear.1
  simp only [readDate, dateText, List.append_assoc, List.cons_append, Option.bind_eq_bind,
    readFixed_field (show d.year.toNat < 10 ^ 4 by omega), readFixed_field (show d.month < 10 ^ 2 by omega),
    readFixed_field (show d.day < 10 ^ 2 by omega), Option.bind_some, readChar_self, hnat]
  exact if_pos hvalid

/-- A time of day is read back; the second after the last one of a minute is a leap second. -/
theorem readClock_clockText {hour minute second : Nat} (hhour : hour ≤ 23) (hminute : minute ≤ 59)
    (hsecond : second ≤ 60) (rest : List Char) :
    readClock (clockText hour minute second ++ rest) =
      if second = 60 then some (hour * 3600 + minute * 60 + 59, 1000000000, rest)
      else some (hour * 3600 + minute * 60 + second, 0, rest) := by
  simp only [readClock, clockText, List.append_assoc, List.cons_append, Option.bind_eq_bind,
    readFixed_field (show hour < 10 ^ 2 by omega), readFixed_field (show minute < 10 ^ 2 by omega),
    readFixed_field (show second < 10 ^ 2 by omega), Option.bind_some, readChar_self]
  exact if_neg (by omega)

/-- A second of the day is read back, with the leap second that may follow the last one of a minute. -/
theorem readClock_ofDay (ofDay leap : Nat) (hday : ofDay < 86400)
    (hleap : leap = 0 ∨ leap = 1 ∧ ofDay % 60 = 59) (rest : List Char) :
    readClock (clockText (ofDay / 3600) (ofDay / 60 % 60) (ofDay % 60 + leap) ++ rest) =
      some (ofDay, leap * 1000000000, rest) := by
  rw [readClock_clockText (by omega) (by omega) (by omega)]
  obtain rfl | ⟨rfl, hlast⟩ := hleap
  · rw [if_neg (by omega)]
    exact congrArg (fun second => some (second, 0, rest)) (by omega)
  · rw [if_pos (by omega)]
    exact congrArg (fun second => some (second, 1000000000, rest)) (by omega)

/-! ### Fractions -/

/-- The digits of a field count by the weight of the last one. -/
theorem fractionDigits_fixedDigits (w weight acc n : Nat) (rest : List Char) :
    fractionDigits acc (10 ^ w * weight / 10) (fixedDigits w n ++ rest) =
      fractionDigits (acc + n % 10 ^ w * weight) (weight / 10) rest := by
  induction w generalizing weight n rest with
  | zero => simp [fixedDigits, Nat.mod_one]
  | succ w ih =>
    have hweight : 10 ^ (w + 1) * weight / 10 = 10 ^ w * (10 * weight) / 10 := by
      rw [Nat.pow_succ, Nat.mul_assoc]
    have hdigit : acc + n / 10 % 10 ^ w * (10 * weight) + n % 10 * weight =
        acc + n % 10 ^ (w + 1) * weight := by
      rw [← mod_pow_succ, Nat.add_mul, Nat.mul_assoc, Nat.add_assoc]
    rw [hweight, fixedDigits, List.append_assoc, ih, List.singleton_append, fractionDigits,
      digitValue?_digitChar]
    dsimp only
    rw [Nat.mul_div_cancel_left weight (by decide), hdigit]

theorem exists_fixedDigits_cons (w n : Nat) : ∃ m cs, fixedDigits (w + 1) n = digitChar m :: cs := by
  induction w generalizing n with
  | zero => exact ⟨n, [], rfl⟩
  | succ w ih =>
    obtain ⟨m, cs, h⟩ := ih (n / 10)
    exact ⟨m, cs ++ [digitChar n], by rw [fixedDigits, h, List.cons_append]⟩

/-- A fraction of a few digits is read back, if the digits left out are zero. -/
theorem readFraction_fixedDigits {w n : Nat} (weight : Nat) (hweight : 10 ^ (w + 1) * weight = 1000000000)
    (hn : n < 10 ^ (w + 1)) :
    readFraction ('.' :: fixedDigits (w + 1) n ++ ['Z']) = some (n * weight, ['Z']) := by
  have hdigits := fractionDigits_fixedDigits (w + 1) weight 0 n ['Z']
  rw [hweight, Nat.mod_eq_of_lt hn, Nat.zero_add] at hdigits
  obtain ⟨m, cs, hcs⟩ := exists_fixedDigits_cons w n
  rw [hcs] at hdigits ⊢
  rw [List.cons_append, List.cons_append, readFraction, digitValue?_digitChar]
  exact congrArg some hdigits

/-- Fractions are read back. -/
theorem readFraction_fractionText {n : Nat} (hn : n < 1000000000) :
    readFraction (fractionText n ++ ['Z']) = some (n, ['Z']) := by
  unfold fractionText
  split
  · rename_i hzero
    rw [hzero]
    rfl
  · split
    · rw [readFraction_fixedDigits 1000000 (by decide) (by omega)]
      exact congrArg (fun n => some (n, _)) (by omega)
    · split
      · rw [readFraction_fixedDigits 1000 (by decide) (by omega)]
        exact congrArg (fun n => some (n, _)) (by omega)
      · rw [readFraction_fixedDigits 1 (by decide) (by omega), Nat.mul_one]

/-! ## What is read back -/

/-- The instant falls on a date of universal time. -/
structure OnDate (t : Instant) (d : Date) : Prop where
  valid : d.Valid
  dayNumber : d.dayNumber = t.seconds / 86400

variable {t : Instant} {d : Date}

/-- An instant falls on one date only. -/
theorem OnDate.eq_ofDayNumber (h : t.OnDate d) : Date.ofDayNumber (t.seconds / 86400) = d := by
  refine Date.dayNumber_injective (Date.valid_ofDayNumber _) h.valid ?_
  rw [Date.dayNumber_ofDayNumber, h.dayNumber]

/-- The parts of the text of an instant. -/
theorem toList_text (h : t.OnDate d) (hyear : 0 ≤ d.year ∧ d.year ≤ 9999) :
    t.text.toList = dateText d ++ 'T' ::
      (clockText ((t.seconds % 86400).toNat / 3600) ((t.seconds % 86400).toNat / 60 % 60)
        ((t.seconds % 86400).toNat % 60 + t.nanos / 1000000000) ++
          (fractionText (t.nanos % 1000000000) ++ ['Z'])) := by
  simp only [text, String.toList_ofList, civilText, h.eq_ofDayNumber, yearText, if_pos hyear, dateText,
    clockText, List.append_assoc, List.cons_append]

/-- **A readable instant is read back** from its text, in the years that are written with four digits. -/
theorem parse?_text (ht : t.Readable) (h : t.OnDate d) (hyear : 0 ≤ d.year ∧ d.year ≤ 9999) :
    parse? t.text = some t := by
  obtain ⟨hnanos, hleap⟩ := ht
  have hday := h.dayNumber
  have hclock := readClock_ofDay (t.seconds % 86400).toNat (t.nanos / 1000000000)
    (by omega) (by omega)
  have hfraction := readFraction_fractionText (n := t.nanos % 1000000000) (by omega)
  have hseparator (rest : List Char) : readSeparator ('T' :: rest) = some rest := rfl
  have hoffset : readOffset ['Z'] = some (0, []) := rfl
  rw [parse?, toList_text h hyear]
  simp only [Option.bind_eq_bind, readDate_dateText h.valid hyear, Option.bind_some, hseparator, hclock,
    hfraction, hoffset]
  obtain ⟨seconds, nanos⟩ := t
  rw [Option.some.injEq, mk.injEq]
  dsimp only at hday ⊢
  omega

end Instant

end PropertyGraph
