import PropertyGraph.Proofs.Instant
import PropertyGraph.Proofs.LooseOrder
import PropertyGraph.Value.Json

/-!
# Timestamps that are exported

JSON has no timestamps, so an exported one comes back as a string. Where loose comparison looks at
timestamps it reads strings as such, and so it does not tell the string from the timestamp.

## Main results

- `Value.timestamp_exported` — an exported timestamp compares as it did
-/

namespace PropertyGraph

namespace Value

variable {s : String} {t : Instant}

/-- Against timestamps, a string that is read as a timestamp is equal to what that one is equal to. -/
theorem looseEq_string_timestamp (h : Instant.parse? s = some t) (u : Instant) :
    looseEq (.string s) (.timestamp u) = looseEq (.timestamp t) (.timestamp u) := by
  have htimestamps : looseEq (.timestamp t) (.timestamp u) = (t == u) := rfl
  rw [looseEq, h, htimestamps, Bool.eq_iff_iff, beq_iff_eq, beq_iff_eq, Option.some.injEq]

/-- Against timestamps, a string that is read as a timestamp has the order of that one. -/
theorem looseCompare_string_timestamp (h : Instant.parse? s = some t) (u : Instant) :
    looseCompare (.string s) (.timestamp u) = looseCompare (.timestamp t) (.timestamp u) := by
  change (Instant.parse? s).map (compare · u) = some (compare t u)
  rw [h, Option.map_some]

/-- **An exported timestamp compares as it did.** A timestamp that was read from a text, and whose date in
universal time has a year of four digits, is exported as a string that is read as the same timestamp, with
its fraction and its leap second. So the two are equal in either order, and against other timestamps the
string gives the answers of the timestamp. -/
theorem timestamp_exported {d : Date} (h : Instant.parse? s = some t) (hd : t.OnDate d)
    (hyear : 0 ≤ d.year ∧ d.year ≤ 9999) :
    let exported := ofJson (timestamp t).toJson
    (∃ text, exported = .string text) ∧ exported.asInstant? = some t ∧
      (looseEq (.timestamp t) exported = true ∧ looseEq exported (.timestamp t) = true) ∧
      (looseCompare (.timestamp t) exported = some .eq ∧
        looseCompare exported (.timestamp t) = some .eq) ∧
      ∀ u, (looseEq exported (.timestamp u) = looseEq (.timestamp t) (.timestamp u) ∧
          looseEq (.timestamp u) exported = looseEq (.timestamp u) (.timestamp t)) ∧
        (looseCompare exported (.timestamp u) = looseCompare (.timestamp t) (.timestamp u) ∧
          looseCompare (.timestamp u) exported = looseCompare (.timestamp u) (.timestamp t)) := by
  intro exported
  have hread : Instant.parse? t.text = some t :=
    Instant.parse?_text (Instant.readable_of_parse? h) hd hyear
  have hequal (u : Instant) : looseEq exported (.timestamp u) = looseEq (.timestamp t) (.timestamp u) :=
    looseEq_string_timestamp hread u
  have horder (u : Instant) :
      looseCompare exported (.timestamp u) = looseCompare (.timestamp t) (.timestamp u) :=
    looseCompare_string_timestamp hread u
  have hequal' (u : Instant) : looseEq (.timestamp u) exported = looseEq (.timestamp u) (.timestamp t) := by
    rw [looseEq_comm, hequal, looseEq_comm]
  have horder' (u : Instant) :
      looseCompare (.timestamp u) exported = looseCompare (.timestamp u) (.timestamp t) := by
    rw [looseCompare_swap exported, horder, ← looseCompare_swap]
  have hself : looseEq (.timestamp t) (.timestamp t) = true := BEq.refl t
  have hselfOrder : looseCompare (.timestamp t) (.timestamp t) = some .eq :=
    congrArg some Std.ReflOrd.compare_self
  exact ⟨⟨t.text, rfl⟩, hread, ⟨(hequal' t).trans hself, (hequal t).trans hself⟩,
    ⟨(horder' t).trans hselfOrder, (horder t).trans hselfOrder⟩,
    fun u => ⟨⟨hequal u, hequal' u⟩, ⟨horder u, horder' u⟩⟩⟩

/-- A leap second that is written with the offset of another year, and a moment after it. -/
theorem timestamp_exported_leap :
    let t : Instant := ⟨Date.dayNumber ⟨2016, 12, 31⟩ * 86400 + 86399, 1250000000⟩
    let exported := ofJson (timestamp t).toJson
    Instant.parse? "2017-01-01T08:59:60.25+09:00" = some t ∧ exported.asInstant? = some t ∧
      looseEq exported (.timestamp t) = true ∧
      looseCompare exported (.timestamp ⟨t.seconds + 1, 0⟩) = some .lt := by
  intro t exported
  have hread : Instant.parse? "2017-01-01T08:59:60.25+09:00" = some t := by decide +kernel
  have hdate : t.OnDate ⟨2016, 12, 31⟩ := ⟨by decide, by decide⟩
  obtain ⟨-, hinstant, ⟨-, hequal⟩, -, hall⟩ := timestamp_exported hread hdate (by decide)
  exact ⟨hread, hinstant, hequal, (hall ⟨t.seconds + 1, 0⟩).2.1⟩

end Value

end PropertyGraph
