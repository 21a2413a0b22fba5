import PropertyGraph.Proofs.Regex.Lookahead
import PropertyGraph.Regex.Reader

/-!
# Expressions inside a group

An expression is read inside a group as it is by itself, up to the parenthesis that closes the group:
the frames that are open around it have no part in a step.

## Main definitions

- `Regex.Reading.within` — what has been read, inside another group

## Main results

- `Regex.Reading.step_within` — one item or mark
- `Regex.Reading.run_within` — a whole text
-/

namespace PropertyGraph

open TextReader

namespace Regex

/-! ## Groups -/

/-- The flags of a group end with a mark, which is not the parenthesis after the text. -/
theorem readFlags_withClosing {mode mode' : RegexMode} {on : Bool} {seen cs rest : List Char}
    {mark : Char} (h : readFlags mode on seen cs = some (mode', mark, rest)) :
    readFlags mode on seen (withClosing cs) = some (mode', mark, withClosing rest) := by
  induction cs generalizing mode on seen with
  | nil => cases h
  | cons c cs ih =>
    rw [withClosing_cons]
    unfold readFlags at h ⊢
    split
    · rename_i hend
      rw [if_pos hend] at h
      split
      · rename_i hhyphen
        rw [if_pos hhyphen] at h
        cases h
      · rename_i hhyphen
        rw [if_neg hhyphen] at h
        cases h
        rfl
    · rename_i hend
      rw [if_neg hend] at h
      split
      · rename_i hseen
        rw [if_pos hseen] at h
        cases h
      · rename_i hseen
        rw [if_neg hseen] at h
        split at h <;> first | exact ih h | cases h

theorem readName_withClosing {cs name rest : List Char} (h : readName cs = some (name, rest)) :
    readName (withClosing cs) = some (name, withClosing rest) := by
  unfold readName at h ⊢
  split at h
  · rename_i hspan
    rw [span_withClosing (by rw [hspan]; exact List.cons_ne_nil _ _), hspan, withClosing_cons]
    dsimp only
    split at h
    · rename_i hname
      rw [if_pos hname]
      cases h
      rfl
    · cases h
  · cases h

namespace Reading

variable {s : Reading} {base : Frame}

/-- What has been read, inside another group. -/
def within (s : Reading) (base : Frame) : Reading := { s with outer := s.outer ++ [base] }

theorem openNamed_within {s' : Reading} {cs rest : List Char} (h : s.openNamed cs = some (s', rest)) :
    (s.within base).openNamed (withClosing cs) = some (s'.within base, withClosing rest) := by
  obtain ⟨⟨name, later⟩, hname, h⟩ := Option.bind_eq_some_iff.1 h
  refine Option.bind_eq_some_iff.2 ⟨_, readName_withClosing hname, ?_⟩
  show (if s.names.contains name then none else _) = _
  dsimp only at h
  split at h
  · cases h
  · rename_i hnew
    rw [if_neg hnew]
    cases h
    rfl

@[simp] theorem mode_within : (s.within base).mode = s.mode := rfl

theorem readGroup_of_plain {cs : List Char} (h : (s.mode.skip cs).head? ≠ some '?') :
    s.readGroup cs = some (s.openNumbered, s.mode.skip cs) := by
  unfold readGroup
  split <;> simp_all

/-- Flags, and the colon or parenthesis after them. -/
def readFlagged (s : Reading) (cs : List Char) : Option (Reading × List Char) :=
  (readFlags s.mode true [] cs).map fun r =>
    if r.2.1 = ':' then (s.openGroup none r.1, r.2.2)
    else ({ s with mode := r.1, frame := s.frame.add .flags }, r.2.2)

theorem readGroup_of_flags {cs rest : List Char} {c : Char} (h : s.mode.skip cs = '?' :: c :: rest)
    (hc : c ∉ ['=', '!', '<', 'P', ')']) : s.readGroup cs = s.readFlagged (c :: rest) := by
  simp only [List.mem_cons, List.not_mem_nil, or_false, not_or] at hc
  unfold readGroup
  rw [h]
  split
  case h_8 hmark =>
    cases hmark
    unfold readFlagged
    cases readFlags s.mode true [] (c :: rest) with
    | none => rfl
    | some r => exact (apply_ite some ..).symm
  all_goals simp_all

theorem readFlagged_within {s' : Reading} {cs rest : List Char}
    (h : s.readFlagged cs = some (s', rest)) :
    (s.within base).readFlagged (withClosing cs) = some (s'.within base, withClosing rest) := by
  obtain ⟨⟨mode, mark, later⟩, hflags, h⟩ := Option.map_eq_some_iff.1 h
  refine Option.map_eq_some_iff.2 ⟨_, readFlags_withClosing hflags, ?_⟩
  dsimp only at h ⊢
  split at h <;> cases h <;> rename_i hmark
  · rw [if_pos hmark]
    rfl
  · rw [if_neg hmark]
    rfl

theorem readGroup_of_angle {cs rest : List Char} (h : s.mode.skip cs = '?' :: '<' :: rest)
    (hbehind : rest.head? ≠ some '=' ∧ rest.head? ≠ some '!') :
    s.readGroup cs = s.openNamed rest := by
  unfold readGroup
  rw [h]
  split
  case h_6 hmark =>
    cases hmark
    rfl
  case h_8 hangle _ hmark =>
    cases hmark
    exact absurd rfl (hangle rest)
  all_goals simp_all

/-- A name is not a look behind. -/
theorem head?_of_readGroup_angle {cs rest : List Char} {r : Reading × List Char}
    (hskip : s.mode.skip cs = '?' :: '<' :: rest) (h : s.readGroup cs = some r) :
    rest.head? ≠ some '=' ∧ rest.head? ≠ some '!' := by
  constructor
  · intro hhead
    obtain ⟨more, rfl⟩ := List.head?_eq_some_iff.1 hhead
    rw [readGroup, hskip] at h
    cases h
  · intro hhead
    obtain ⟨more, rfl⟩ := List.head?_eq_some_iff.1 hhead
    rw [readGroup, hskip] at h
    cases h

/-- After the letter of a name comes its bracket. -/
theorem head?_of_readGroup_letter {cs rest : List Char} {r : Reading × List Char}
    (hskip : s.mode.skip cs = '?' :: 'P' :: rest) (h : s.readGroup cs = some r) :
    rest.head? = some '<' := by
  by_contra hangle
  unfold readGroup at h
  rw [hskip] at h
  split at h
  case h_8 hmark =>
    cases hmark
    cases h
  all_goals simp_all

theorem readGroup_within_of_angle {cs later rest : List Char} {s' : Reading}
    (hskip : s.mode.skip cs = '?' :: '<' :: later) (h : s.readGroup cs = some (s', rest)) :
    (s.within base).readGroup (withClosing cs) = some (s'.within base, withClosing rest) := by
  have hclosing : (s.within base).mode.skip (withClosing cs) = '?' :: '<' :: withClosing later :=
    RegexMode.skip_withClosing_of_eq hskip
  have hbehind := head?_of_readGroup_angle hskip h
  have hbehind' : (withClosing later).head? ≠ some '=' ∧ (withClosing later).head? ≠ some '!' := by
    rwa [ne_eq, ne_eq, head?_withClosing_eq_iff (by decide), head?_withClosing_eq_iff (by decide)]
  rw [readGroup_of_angle hskip hbehind] at h
  rw [readGroup_of_angle hclosing hbehind']
  exact openNamed_within h

/-- After a question mark there are looks around, which are refused, and else names and flags. -/
theorem readGroup_within_of_mark {cs later rest : List Char} {s' : Reading}
    (hskip : s.mode.skip cs = '?' :: later) (h : s.readGroup cs = some (s', rest)) :
    (s.within base).readGroup (withClosing cs) = some (s'.within base, withClosing rest) := by
  have hclosing : (s.within base).mode.skip (withClosing cs) = '?' :: withClosing later :=
    RegexMode.skip_withClosing_of_eq hskip
  cases later with
  | nil =>
    unfold readGroup at h
    rw [hskip] at h
    cases h
  | cons c later =>
    by_cases hc : c ∈ ['=', '!', '<', 'P', ')']
    · simp only [List.mem_cons, List.not_mem_nil, or_false] at hc
      obtain rfl | rfl | rfl | rfl | rfl := hc
      · rw [readGroup, hskip] at h
        cases h
      · rw [readGroup, hskip] at h
        cases h
      · exact readGroup_within_of_angle hskip h
      · obtain ⟨more, rfl⟩ := List.head?_eq_some_iff.1 (head?_of_readGroup_letter hskip h)
        rw [readGroup, hskip] at h
        rw [readGroup, hclosing]
        exact openNamed_within h
      · rw [readGroup, hskip] at h
        cases h
    · rw [readGroup_of_flags hskip hc] at h
      rw [readGroup_of_flags hclosing hc]
      exact readFlagged_within h

/-- A group is opened in the same way inside another one. -/
theorem readGroup_within (cs : List Char) :
    ReadsAs (·.within base) (s.readGroup cs) ((s.within base).readGroup (withClosing cs)) := by
  intro s' rest h
  by_cases hmark : (s.mode.skip cs).head? = some '?'
  · obtain ⟨later, hskip⟩ := List.head?_eq_some_iff.1 hmark
    exact .inl (readGroup_within_of_mark hskip h)
  · rw [readGroup_of_plain hmark] at h
    cases h
    have hclosing : (s.mode.skip (withClosing cs)).head? ≠ some '?' := by
      obtain heq | ⟨-, heq⟩ := s.mode.skip_withClosing cs
      · rwa [heq, ne_eq, head?_withClosing_eq_iff (by decide)]
      · simp [heq]
    rw [readGroup_of_plain (s := s.within base) hclosing]
    refine (s.mode.skip_withClosing cs).imp (fun heq => ?_) fun heq => ⟨heq.1, ?_⟩
    · rw [mode_within, heq]
      rfl
    · rw [mode_within, heq.2]
      rfl

theorem closeGroup_within {s' : Reading} (h : s.closeGroup = some s') :
    (s.within base).closeGroup = some (s'.within base) := by
  unfold closeGroup at h ⊢
  cases houter : s.outer with
  | nil =>
    rw [houter] at h
    cases h
  | cons parent outer =>
    rw [houter] at h
    have hclosing : (s.within base).outer = parent :: (outer ++ [base]) :=
      congrArg (· ++ [base]) houter
    rw [hclosing]
    obtain ⟨item, hitem, h⟩ := Option.bind_eq_some_iff.1 h
    cases h
    exact Option.bind_eq_some_iff.2 ⟨item, hitem, rfl⟩

/-! ## Repetitions -/

/-- Repeat the latest item of a frame, with a mark or without it. -/
def repeatItem? (mode : RegexMode) (least : Nat) (most : Option Nat) (marked : Bool) (f : Frame) :
    Option Frame :=
  match f.items with
  | item :: items =>
    if !item.repeatable then none
    else (item.wrap? fun r => r.times least most (marked == mode.lazyFirst)).map fun item =>
      { f with items := item :: items }
  | [] => none

/-- Whether a question mark follows, and what is left after it. -/
def readMark (cs : List Char) : Bool × List Char :=
  match cs with
  | '?' :: rest => (true, rest)
  | rest => (false, rest)

theorem readMark_withClosing (cs : List Char) :
    readMark (withClosing cs) = ((readMark cs).1, withClosing (readMark cs).2) := by
  cases cs with
  | nil => rfl
  | cons c cs =>
    by_cases hc : c = '?'
    · subst hc
      rfl
    · simp [readMark, hc]

theorem repeatLast_eq (least : Nat) (most : Option Nat) (cs : List Char) :
    s.repeatLast least most cs =
      (repeatItem? s.mode least most (readMark cs).1 s.frame).map fun f =>
        ({ s with frame := f }, (readMark cs).2) := by
  unfold repeatLast repeatItem? readMark
  cases s.frame.items with
  | nil => rfl
  | cons item items =>
    dsimp only
    split
    · rfl
    · rw [Option.map_map, Option.map_eq_bind]
      rfl

/-- The latest item is repeated in the same way inside another group. -/
theorem repeatLast_within (least : Nat) (most : Option Nat) (cs : List Char) :
    ReadsAs (·.within base) (s.repeatLast least most cs)
      ((s.within base).repeatLast least most (withClosing cs)) := by
  intro s' rest h
  rw [repeatLast_eq] at h
  obtain ⟨f, hf, h⟩ := Option.map_eq_some_iff.1 h
  cases h
  rw [repeatLast_eq, readMark_withClosing]
  exact .inl (Option.map_eq_some_iff.2 ⟨f, hf, rfl⟩)

theorem repeatLast_end {s' : Reading} {least : Nat} {most : Option Nat} {rest : List Char}
    (h : s.repeatLast least most [] = some (s', rest)) :
    rest = [] ∧ (s.within base).repeatLast least most [] = some (s'.within base, []) := by
  rw [repeatLast_eq] at h
  obtain ⟨f, hf, h⟩ := Option.map_eq_some_iff.1 h
  cases h
  refine ⟨rfl, ?_⟩
  rw [repeatLast_eq]
  exact Option.map_eq_some_iff.2 ⟨f, hf, rfl⟩

end Reading

theorem stableInside_readCount (mode : RegexMode) : StableInside (readCount mode) := by
  have hrun : StableInside (discard (run isBlank)) :=
    (stableInside_run isBlank).bind fun _ => (stable_pure ()).stableInside
  refine hrun.bind fun _ => (stableInside_many mode digitValue?).bind fun digits => ?_
  split
  · exact stable_failure.stableInside
  · refine hrun.bind fun _ => ?_
    dsimp only
    split
    · exact (stable_pure _).stableInside
    · exact stable_failure.stableInside

theorem stable_readCounts (mode : RegexMode) : Stable (readCounts mode) := by
  refine (stable_space mode).bind fun _ =>
    (stableInside_readCount mode).bind_stable (fun least => ?_) fun _ => rfl
  refine (stable_satisfying _).bind fun c => ?_
  split
  · exact stable_pure _
  · have hmost : Stable (do
        let most ← readCount mode
        character '\x7d'
        if least ≤ most then return (least, some most) else failure :
          TextReader (Nat × Option Nat)) := by
      refine (stableInside_readCount mode).bind_stable (fun most => ?_) fun _ => rfl
      refine (stable_character _).bind fun _ => ?_
      split
      · exact stable_pure _
      · exact stable_failure
    refine (stable_space mode).bind fun _ => ?_
    refine stable_of_mark (by decide : '\x7d' ≠ ')') (stable_pure (least, none)) hmost (fun _ => rfl)
      fun cs hcs => ?_
    rw [get_bind]
    split
    · simp at hcs
    · rfl
  · exact stable_failure

/-! ## Items and marks -/

namespace Reading

variable {s : Reading} {base : Frame}

/-- The state after what an escape stands for. -/
def addEscape (s : Reading) : Escape → Reading
  | .char c => s.add (.plain (literal s.mode c))
  | .set set => s.add (.plain (ofSet set))
  | .look a => s.add (.plain (.look a))

theorem step_escape (cs : List Char) :
    s.step '\\' cs = (readEscape s.mode cs).map fun r => (s.addEscape r.1, r.2) := by
  show (readEscape s.mode cs).bind _ = _
  cases readEscape s.mode cs with
  | none => rfl
  | some r =>
    obtain ⟨escape, rest⟩ := r
    cases escape <;> rfl

/-- The state after a set. -/
def addSet (s : Reading) (read : Nested) : Reading := s.add ⟨ofSet read.set, read.nest, true⟩

theorem step_bracket (cs : List Char) :
    s.step '[' cs = (readBracket s.mode cs).map fun r => (s.addSet r.1, r.2) := by
  rw [Option.map_eq_bind]
  rfl

/-- Repeat the latest item as counts between braces say. -/
def repeatCounted (s : Reading) (counts : Nat × Option Nat) (cs : List Char) :
    Option (Reading × List Char) :=
  s.repeatLast counts.1 counts.2 (s.mode.skip cs)

theorem step_counts (cs : List Char) :
    s.step '\x7b' cs = (readCounts s.mode cs).bind fun r => s.repeatCounted r.1 r.2 :=
  rfl

theorem repeatCounted_end {s' : Reading} {counts : Nat × Option Nat} {rest : List Char}
    (h : s.repeatCounted counts [] = some (s', rest)) :
    rest = [] ∧ (s.within base).repeatCounted counts [] = some (s'.within base, []) := by
  unfold repeatCounted at h ⊢
  rw [RegexMode.skip_nil] at h ⊢
  exact repeatLast_end h

theorem repeatCounted_within (counts : Nat × Option Nat) (cs : List Char) :
    ReadsAs (·.within base) (s.repeatCounted counts cs)
      ((s.within base).repeatCounted counts (withClosing cs)) := by
  unfold repeatCounted
  rw [mode_within]
  obtain hskip | ⟨hskip, hclosing⟩ := s.mode.skip_withClosing cs
  · rw [hskip]
    exact repeatLast_within _ _ _
  · rw [hskip, hclosing]
    exact fun s' rest h => .inr (repeatLast_end h)

theorem step_within (c : Char) (cs : List Char) :
    ReadsAs (·.within base) (s.step c cs) ((s.within base).step c (withClosing cs)) := by
  have hadd {item : Item} : ReadsAs (·.within base) (some (s.add item, cs))
      (some ((s.within base).add item, withClosing cs)) := readsAs_some _ _ cs
  -- first the characters after which more is read; their readers are stable as a whole
  by_cases hescape : c = '\\'
  · subst hescape
    rw [step_escape, step_escape]
    refine readsAs_map (stable_readEscape.reads cs) fun escape => ?_
    cases escape <;> rfl
  by_cases hbracket : c = '['
  · subst hbracket
    rw [step_bracket, step_bracket]
    have hread : ReadsAs id (readBracket s.mode cs) (readBracket s.mode (withClosing cs)) :=
      fun r rest h => .inl (readBracket_withClosing h)
    exact readsAs_map hread fun r => rfl
  by_cases hcounts : c = '\x7b'
  · subst hcounts
    rw [step_counts, step_counts]
    exact readsAs_bind ((stable_readCounts s.mode).reads cs) repeatCounted_within
      fun counts s' rest h => repeatCounted_end h
  unfold step
  split
  case h_1 => exact readGroup_within cs
  case h_2 =>
    intro s' rest h
    obtain ⟨closed, hclosed, h⟩ := Option.map_eq_some_iff.1 h
    cases h
    exact .inl (Option.map_eq_some_iff.2 ⟨_, closeGroup_within hclosed, rfl⟩)
  case h_3 => exact readsAs_some _ _ cs
  case h_4 => exact absurd rfl hbracket
  case h_5 | h_6 | h_7 => exact repeatLast_within _ _ cs
  case h_8 => exact absurd rfl hcounts
  case h_9 =>
    cases hdot : dot? s.mode with
    | none => exact readsAs_none _ _
    | some set =>
      rw [mode_within, hdot]
      exact hadd
  case h_10 | h_11 => exact hadd
  case h_12 => exact absurd rfl hescape
  case h_13 => exact hadd

/-! ## Whole texts -/

theorem run_of_end {n : Nat} {cs : List Char} (h : s.mode.skip cs = []) : run n s cs = some s := by
  cases n with
  | zero =>
    rw [run, h]
    rfl
  | succ n => rw [run, h]

theorem run_of_item {n : Nat} {c : Char} {cs rest : List Char} (h : s.mode.skip cs = c :: rest) :
    run (n + 1) s cs = (s.step c rest).bind fun r => run n r.1 r.2 := by
  rw [run, h]
  rfl

theorem run_within_of_end {m : Nat} {cs : List Char} (h : s.mode.skip cs = []) :
    run (m + 1) (s.within base) (withClosing cs) = some (s.within base) ∨
      run (m + 1) (s.within base) (withClosing cs) = run (m + 1) (s.within base) [')'] := by
  obtain hclosing | ⟨-, hclosing⟩ := s.mode.skip_withClosing cs
  · right
    rw [h] at hclosing
    rw [run_of_item (s := s.within base) hclosing, run_of_item RegexMode.skip_closing]
  · exact .inl (run_of_end hclosing)

/-- A text inside a group is read as it is by itself, up to the parenthesis that closes the group,
unless that is lost in a comment. -/
theorem run_within {n m : Nat} {s' : Reading} {cs : List Char} (hm : n < m)
    (h : run n s cs = some s') :
    run m (s.within base) (withClosing cs) = some (s'.within base) ∨
      ∃ k, run m (s.within base) (withClosing cs) = run (k + 1) (s'.within base) [')'] := by
  -- on the fuel, which the longer text has one more of, for its parenthesis
  induction n generalizing m s cs with
  | zero =>
    obtain ⟨m, rfl⟩ := Nat.exists_eq_add_of_le' hm
    rw [run] at h
    split at h
    · rename_i hskip
      cases h
      exact (run_within_of_end (List.isEmpty_iff.1 hskip)).imp_right fun h => ⟨m, h⟩
    · cases h
  | succ n ih =>
    obtain ⟨m, rfl⟩ := Nat.exists_eq_add_of_le' (Nat.zero_lt_of_lt hm)
    cases hskip : s.mode.skip cs with
    | nil =>
      rw [run_of_end hskip] at h
      cases h
      exact (run_within_of_end hskip).imp_right fun h => ⟨m, h⟩
    | cons c left =>
      rw [run_of_item hskip] at h
      obtain ⟨⟨next, rest⟩, hstep, h⟩ := Option.bind_eq_some_iff.1 h
      have hwithin : ReadsAs (·.within base) (s.step c left)
        ((s.within base).step c (withClosing left)) := step_within c left
      rw [run_of_item (s := s.within base) (RegexMode.skip_withClosing_of_eq hskip)]
      obtain hlong | ⟨rfl, hlong⟩ := hwithin next rest hstep
      · rw [hlong]
        exact ih (Nat.lt_of_succ_lt_succ hm) h
      · -- a comment has taken the parenthesis, so both texts end here
        rw [run_of_end RegexMode.skip_nil] at h
        cases h
        rw [hlong]
        exact .inl (run_of_end RegexMode.skip_nil)

end Reading

end Regex

end PropertyGraph
