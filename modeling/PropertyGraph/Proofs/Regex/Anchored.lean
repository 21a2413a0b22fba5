import PropertyGraph.AttributeFilter
import PropertyGraph.Proofs.Regex.Enclosed

/-!
# Anchored expressions

A pattern is put into a group after the mark of the start. Where the pattern is an expression by
itself, the group holds that expression, so what is accepted are the texts with a match from their
start.

## Main results

- `Regex.reach_seq` — a sequence in normal form reaches what its parts reach one after the other
- `Regex.read?_anchored` — the expression of an anchored pattern
- `anchoredRegex?_isMatch` — it matches from the start of a text
-/

namespace PropertyGraph

namespace Regex

/-! ## Sequences -/

section Sequences

variable (text : Array Char)

theorem follow_append (cs ds : List Char) (starts : List Nat) :
    follow text (cs ++ ds) starts = follow text ds (follow text cs starts) :=
  List.foldl_append ..

theorem reachAll_append (rs ss : List Regex) (starts : List Nat) :
    reachAll text (rs ++ ss) starts = reachAll text ss (reachAll text rs starts) := by
  induction rs generalizing starts with
  | nil => rfl
  | cons r rs ih => exact ih _

theorem reachAll_parts (r : Regex) (starts : List Nat) :
    reachAll text r.parts starts = reach text r starts := by
  cases r <;> rfl

theorem reachAll_flatMap_parts (rs : List Regex) (starts : List Nat) :
    reachAll text (rs.flatMap parts) starts = reachAll text rs starts := by
  induction rs generalizing starts with
  | nil => rfl
  | cons r rs ih =>
    rw [List.flatMap_cons, reachAll_append, reachAll_parts, ih]
    rfl

/-- Texts side by side reach the same as the text that they are joined to. -/
theorem reachAll_addPart (r : Regex) (rs : List Regex) (starts : List Nat) :
    reachAll text (addPart r rs) starts = reachAll text (r :: rs) starts := by
  unfold addPart
  split
  · show reachAll text _ (follow text _ starts) = reachAll text _ (follow text _ (follow text _ starts))
    rw [follow_append]
  · rfl

theorem reachAll_foldr_addPart (rs : List Regex) (starts : List Nat) :
    reachAll text (rs.foldr addPart []) starts = reachAll text rs starts := by
  induction rs generalizing starts with
  | nil => rfl
  | cons r rs ih =>
    rw [List.foldr_cons, reachAll_addPart]
    exact ih _

/-- A sequence reaches what its parts reach one after the other. -/
theorem reach_seq (rs : List Regex) (starts : List Nat) :
    reach text (seq rs) starts = reachAll text rs starts := by
  have hnormal : reachAll text ((rs.flatMap parts).foldr addPart []) starts = reachAll text rs starts := by
    rw [reachAll_foldr_addPart, reachAll_flatMap_parts]
  unfold seq
  match hparts : (rs.flatMap parts).foldr addPart [] with
  | [] | [r] | r :: r' :: later =>
    rw [hparts] at hnormal
    exact hnormal

/-- After the mark of the start, an expression is matched from the start alone. -/
theorem isMatch_seq_textStart (r : Regex) (text : String) :
    (seq [.look .textStart, r]).isMatch text = r.matchesFrom 0 text := by
  have hstart (n : Nat) : (List.range (n + 1)).filter (fun i => i == 0) = [0] := by
    rw [List.range_succ_eq_map, List.filter_cons_of_pos rfl, List.filter_map]
    simp
  unfold isMatch matchesFrom
  dsimp only
  rw [reach_seq]
  show (!(reach _ r ((List.range _).filter fun i => i == 0)).isEmpty) = _
  rw [hstart]

end Sequences

/-! ## Reading -/

/-- The frame around an anchored pattern. -/
def anchorFrame : Frame := ⟨plainMode, none, [], [.plain (.look .textStart)]⟩

theorem run_anchored (n : Nat) (cs : List Char) :
    Reading.run (n + 2) (.start plainMode) ('^' :: '(' :: '?' :: ':' :: cs) =
      Reading.run n ((Reading.start plainMode).within anchorFrame) cs :=
  rfl

theorem read?_eq_some_iff {text : String} {r : Regex} :
    read? text = some r ↔
      ∃ s, Reading.run text.toList.length (.start plainMode) text.toList = some s ∧ s.outer = [] ∧
        s.frame.content.nest ≤ nestLimit ∧ s.frame.content.regex = r := by
  refine Option.bind_eq_some_iff.trans (exists_congr fun s => and_congr_right fun _ => ?_)
  dsimp only
  rw [Option.ite_none_right_eq_some, Option.some_inj, Bool.and_eq_true, List.isEmpty_iff,
    decide_eq_true_eq, and_assoc]

theorem read?_of_parse? {text : String} {r : Regex} (h : parse? text = some r) :
    read? text = some r := by
  obtain ⟨r, hr, hfits⟩ := Option.bind_eq_some_iff.1 h
  obtain ⟨-, heq⟩ := Option.ite_none_right_eq_some.1 hfits
  cases heq
  exact hr

/-- The outermost group is closed into what is around it; its number does not count. -/
theorem closeGroup_within_of_outermost {s s' : Reading} {base : Frame} (houter : s.outer = [])
    (h : (s.within base).closeGroup = some s') :
    ∃ item, s'.frame = base.add item ∧
      ∀ text starts, reach text item.regex starts = reach text s.frame.content.regex starts := by
  have hbase : (s.within base).outer = [base] := congrArg (· ++ [base]) houter
  unfold Reading.closeGroup at h
  rw [hbase] at h
  obtain ⟨item, hitem, h⟩ := Option.bind_eq_some_iff.1 h
  cases h
  refine ⟨item, rfl, fun text starts => ?_⟩
  obtain ⟨-, hitem⟩ := Option.ite_none_right_eq_some.1 hitem
  cases hitem
  cases (s.within base).frame.number <;> rfl

/-- The expression of an anchored pattern, if the pattern is an expression by itself. -/
theorem read?_anchored {pattern : String} {p r : Regex} (hp : read? pattern = some p)
    (hr : read? ("^(?:" ++ pattern ++ ")") = some r) :
    ∃ q, r = seq [.look .textStart, q] ∧ ∀ text starts, reach text q starts = reach text p starts := by
  have htext : ("^(?:" ++ pattern ++ ")").toList =
      '^' :: '(' :: '?' :: ':' :: withClosing pattern.toList := by
    simp [String.toList_append, withClosing]
  obtain ⟨s, hrun, houter, -, rfl⟩ := read?_eq_some_iff.1 hp
  obtain ⟨s', hrun', houter', -, rfl⟩ := read?_eq_some_iff.1 hr
  rw [htext, List.length_cons, List.length_cons, run_anchored, List.length_cons, List.length_cons,
    length_withClosing] at hrun'
  have hopen : (s.within anchorFrame).outer ≠ [] := by simp [Reading.within]
  have hfuel : pattern.toList.length < pattern.toList.length + 1 + 1 + 1 := by omega
  obtain hlost | ⟨k, hclosing⟩ := Reading.run_within hfuel hrun
  · rw [hlost] at hrun'
    cases hrun'
    exact absurd houter' hopen
  · rw [hclosing, Reading.run_of_item RegexMode.skip_closing] at hrun'
    obtain ⟨⟨closed, rest⟩, hstep, hrun'⟩ := Option.bind_eq_some_iff.1 hrun'
    obtain ⟨_, hclosed, hstep⟩ := Option.map_eq_some_iff.1 hstep
    cases hstep
    rw [Reading.run_of_end RegexMode.skip_nil] at hrun'
    cases hrun'
    obtain ⟨item, hframe, hitem⟩ := closeGroup_within_of_outermost houter hclosed
    refine ⟨item.regex, ?_, hitem⟩
    rw [hframe]
    rfl

end Regex

/-- Where a pattern is an expression by itself, its anchored expression matches the texts in which
the pattern has a match from the start. -/
theorem anchoredRegex?_isMatch {pattern : String} {p r : Regex} (hp : Regex.parse? pattern = some p)
    (hr : anchoredRegex? pattern = some r) (text : String) :
    r.isMatch text = p.matchesFrom 0 text := by
  obtain ⟨q, rfl, hq⟩ := Regex.read?_anchored (Regex.read?_of_parse? hp) (Regex.read?_of_parse? hr)
  rw [Regex.isMatch_seq_textStart, Regex.matchesFrom, Regex.matchesFrom, hq]

end PropertyGraph
