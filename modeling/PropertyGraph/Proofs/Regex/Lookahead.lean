import PropertyGraph.Proofs.Regex.Stable
import PropertyGraph.Regex.Bracket

/-!
# Escapes and sets before a closing parenthesis

What stands after a backslash or between brackets says itself where it ends, so it is read in the same
way before a closing parenthesis. The readers of sets are not all of the shape of the readers for
escapes: some give back what they leave in a pair, and some do so with fuel for the length of the text.

## Main results

- `Regex.stable_readEscape`
- `Regex.readSet_withClosing`, `Regex.readBracket_withClosing`
-/

namespace PropertyGraph

open TextReader

namespace Regex

variable {mode : RegexMode}

/-! ## Properties and escapes -/

theorem stable_readProperty (negated : Bool) : Stable (readProperty mode negated) := by
  refine (stable_space mode).bind fun _ => .bind ?_ fun named => ?_
  · refine (stable_satisfying _).bind fun c => ?_
    split
    · refine (stable_space mode).bind fun _ => ?_
      refine (stableInside_many mode _).bind_stable (fun text => ?_) fun _ => rfl
      exact (stable_character _).bind fun _ => stable_lift _
    · exact stable_failure
    · exact stable_lift _
  · split
    · exact stable_lift _
    · exact stable_failure

theorem stable_hexDigits (n : Nat) : Stable (hexDigits mode n) := by
  induction n with
  | zero => exact stable_pure _
  | succ n ih =>
    exact (stable_satisfying _).bind fun _ => (stable_space mode).bind fun _ =>
      ih.bind fun _ => stable_pure _

theorem stable_hexInBraces : Stable (hexInBraces mode) :=
  (stableInside_many mode _).bind_stable
    (fun _ => (stable_character _).bind fun _ => stable_pure _) fun _ => rfl

theorem stable_readHex (width : Nat) : Stable (readHex mode width) := by
  refine (stable_space mode).bind fun _ => ?_
  have hbraces : Stable (do
      mode.space
      let digits ← hexInBraces mode
      let c ← (hexChar? digits : Option Char)
      return Escape.char c : TextReader Escape) :=
    (stable_space mode).bind fun _ => stable_hexInBraces.bind fun _ =>
      (stable_lift _).bind fun _ => stable_pure _
  have hdigits : Stable (do
      let digits ← hexDigits mode width
      let c ← (hexChar? digits : Option Char)
      if width = 2 ∧ !mode.unicode ∧ 0x80 ≤ c.toNat then failure
      return Escape.char c : TextReader Escape) := by
    refine (stable_hexDigits width).bind fun _ => (stable_lift _).bind fun c => ?_
    split
    · exact stable_failure.bind fun _ => stable_pure _
    · exact stable_pure _
  refine stable_of_mark (by decide : '\x7b' ≠ ')') hbraces hdigits (fun cs => rfl) fun cs hcs => ?_
  rw [get_bind]
  split
  · simp at hcs
  · rfl

theorem stable_readWordEdge : Stable (readWordEdge mode) := by
  have hname : Stable (do
      let name ← many (spaced mode fun c => if isEdgeChar c then some c else none)
      character '\x7d'
      wordEdge? name : TextReader WordEdge) :=
    (stableInside_many mode _).bind_stable
      (fun _ => (stable_character _).bind fun _ => stable_lift _) fun _ => rfl
  have hbrace : Stable fun rest => readWordEdge mode ('\x7b' :: rest) := by
    constructor
    · intro a rest h
      simp [readWordEdge] at h
    · intro rest
      simp only [readWordEdge]
      cases hskip : mode.skip rest with
      | nil => exact readsAs_none id _
      | cons c later =>
        rw [RegexMode.skip_withClosing_of_eq hskip]
        dsimp only
        split
        · exact readsAs_some id _ _
        · exact hname.reads (c :: later)
  refine stable_of_mark (by decide) hbrace (stable_pure .boundary) (fun _ => rfl) fun cs hcs => ?_
  unfold readWordEdge
  split
  · simp at hcs
  · rfl

theorem stable_readEscape : Stable (readEscape mode) := by
  refine (stable_satisfying _).bind fun c => ?_
  split
  case h_18 => exact stable_readWordEdge.bind fun _ => stable_pure _
  case h_19 => exact (stable_readProperty false).bind fun _ => stable_pure _
  case h_20 => exact (stable_readProperty true).bind fun _ => stable_pure _
  case h_21 | h_22 | h_23 => exact stable_readHex _
  case h_24 =>
    split
    · exact stable_pure _
    · exact stable_failure
  case h_2 | h_4 | h_6 => exact (stable_lift _).bind fun _ => stable_pure _
  all_goals exact stable_pure _

/-! ## Sets -/

/-- The rest of a text after the characters before a mark, once with a closing parenthesis. -/
theorem span_withClosing_or {p : Char → Bool} (hp : p ')' = true) (cs : List Char) :
    (withClosing cs).span p = ((cs.span p).1, withClosing (cs.span p).2) ∨
      (cs.span p).2 = [] ∧ ((withClosing cs).span p).2 = [] := by
  by_cases h : (cs.span p).2 = []
  · refine .inr ⟨h, ?_⟩
    simp only [List.span_eq_takeWhile_dropWhile] at h ⊢
    rw [withClosing, List.dropWhile_append, h]
    simp [hp]
  · exact .inl (span_withClosing h)

/-- The name of a set up to its closing marks. -/
def setNameEnd (negated : Bool) (cs : List Char) : Option (Bool × CharSet × List Char) :=
  match cs.span (· ≠ ':') with
  | (name, ':' :: ']' :: rest) => (namedSet? name).map fun s => (negated, s, rest)
  | _ => none

theorem readSetName_of_plain {cs : List Char} (h : cs.head? ≠ some '^') :
    readSetName (':' :: cs) = setNameEnd false cs := by
  unfold readSetName
  split
  next later hcolon =>
    obtain ⟨-, rfl⟩ := List.cons.inj hcolon
    split
    next hnegation =>
      split at hnegation
      · exact absurd rfl h
      · cases hnegation
        rfl
  next hother => exact absurd rfl (hother cs)

theorem readSetName_of_other {c : Char} (hc : c ≠ ':') (cs : List Char) :
    readSetName (c :: cs) = none := by
  simp [readSetName, hc]

/-- A name ends with two marks, neither of which is a parenthesis. -/
theorem setNameEnd_withClosing (negated : Bool) (cs : List Char) :
    setNameEnd negated (withClosing cs) =
      (setNameEnd negated cs).map fun r => (r.1, r.2.1, withClosing r.2.2) := by
  have hmark : decide (')' ≠ ':') = true := by decide
  unfold setNameEnd
  rcases span_withClosing_or (p := (· ≠ ':')) hmark cs with h | ⟨h, h'⟩
  · rw [h]
    rcases cs.span (· ≠ ':') with ⟨name, _ | ⟨a, _ | ⟨b, rest⟩⟩⟩
    · rfl
    · by_cases ha : a = ':'
      · subst ha
        rfl
      · simp [ha]
    · by_cases ha : a = ':'
      · subst ha
        by_cases hb : b = ']'
        · subst hb
          exact (Option.map_map (fun r : Bool × CharSet × List Char => (r.1, r.2.1, withClosing r.2.2))
            (fun set => (negated, set, rest)) (namedSet? name)).symm
        · simp [hb]
      · simp [ha]
  · generalize cs.span (· ≠ ':') = r at h
    generalize (withClosing cs).span (· ≠ ':') = r' at h'
    obtain ⟨name, rest⟩ := r
    obtain ⟨name', rest'⟩ := r'
    dsimp only at h h'
    subst h h'
    rfl

theorem readSetName_withClosing (cs : List Char) :
    readSetName (withClosing cs) =
      (readSetName cs).map fun r => (r.1, r.2.1, withClosing r.2.2) := by
  cases cs with
  | nil => rfl
  | cons c cs =>
    by_cases hc : c = ':'
    · subst hc
      by_cases hcs : cs.head? = some '^'
      · obtain ⟨rest, rfl⟩ := List.head?_eq_some_iff.1 hcs
        exact setNameEnd_withClosing true rest
      · have hclosing : (withClosing cs).head? ≠ some '^' := by
          cases cs with
          | nil => decide
          | cons d cs => exact hcs
        rw [withClosing_cons, readSetName_of_plain hcs, readSetName_of_plain hclosing,
          setNameEnd_withClosing]
    · rw [withClosing_cons, readSetName_of_other hc, readSetName_of_other hc]
      rfl

theorem readHyphens_nil (n : Nat) (s : OpenSet) : readHyphens mode n s [] = (s, []) := by
  cases n <;> rfl

theorem readHyphens_of_plain {c : Char} (hc : c ≠ '-') (n : Nat) (s : OpenSet) (cs : List Char) :
    readHyphens mode n s (c :: cs) = (s, c :: cs) := by
  unfold readHyphens
  split <;> simp_all

theorem readHyphens_withClosing {n m : Nat} {s s' : OpenSet} {cs rest : List Char}
    (hn : cs.length ≤ n) (hm : n < m) (h : readHyphens mode n s cs = (s', rest))
    (hrest : rest ≠ []) : readHyphens mode m s (withClosing cs) = (s', withClosing rest) := by
  induction n generalizing m s cs with
  | zero =>
    cases cs with
    | nil =>
      cases h
      exact absurd rfl hrest
    | cons => cases hn
  | succ n ih =>
    cases cs with
    | nil =>
      cases h
      exact absurd rfl hrest
    | cons c cs =>
      rw [withClosing_cons]
      by_cases hc : c = '-'
      · subst hc
        obtain ⟨m, rfl⟩ := Nat.exists_eq_add_of_le' (Nat.zero_lt_of_lt hm)
        rw [readHyphens] at h ⊢
        have hskip : mode.skip cs ≠ [] := by
          intro hskip
          rw [hskip, readHyphens_nil] at h
          cases h
          exact hrest rfl
        have hlength := mode.length_skip_le cs
        rw [List.length_cons] at hn
        rw [RegexMode.skip_withClosing_of_ne_nil hskip]
        exact ih (by omega) (by omega) h
      · rw [readHyphens_of_plain hc] at h ⊢
        cases h
        rfl

/-- A set after its bracket and a mark of negation. -/
def openItems (mode : RegexMode) (negated : Bool) (cs : List Char) : OpenSet × List Char :=
  match readHyphens mode cs.length (.start negated none) cs with
  | (s, ']' :: rest) => if s.count = 0 then (s.addChar ']', mode.skip rest) else (s, ']' :: rest)
  | r => r

theorem openSet_of_caret {cs rest : List Char} (h : mode.skip cs = '^' :: rest) :
    openSet mode cs = openItems mode true (mode.skip rest) := by
  unfold openSet
  rw [h]
  rfl

theorem openSet_of_plain {cs : List Char} (h : (mode.skip cs).head? ≠ some '^') :
    openSet mode cs = openItems mode false (mode.skip cs) := by
  unfold openSet
  generalize mode.skip cs = later at h
  split
  next hnegation =>
    split at hnegation
    · exact absurd rfl h
    · cases hnegation
      rfl

theorem openItems_withClosing {negated : Bool} {cs rest : List Char} {s : OpenSet}
    (h : openItems mode negated cs = (s, rest)) (hrest : rest ≠ []) :
    openItems mode negated (withClosing cs) = (s, withClosing rest) := by
  unfold openItems at h ⊢
  cases hread : readHyphens mode cs.length (.start negated none) cs with
  | mk s' left =>
    rw [hread] at h
    cases left with
    | nil =>
      cases h
      exact absurd rfl hrest
    | cons c left =>
      rw [length_withClosing, readHyphens_withClosing (Nat.le_refl _) (Nat.lt_succ_self _) hread
        (List.cons_ne_nil c left), withClosing_cons]
      by_cases hc : c = ']'
      · subst hc
        replace h : (if s'.count = 0 then (s'.addChar ']', mode.skip left) else
          (s', ']' :: left)) = (s, rest) := h
        show (if s'.count = 0 then (s'.addChar ']', mode.skip (withClosing left)) else
          (s', ']' :: withClosing left)) = (s, withClosing rest)
        split at h
        · rename_i hcount
          cases h
          rw [if_pos hcount, RegexMode.skip_withClosing_of_ne_nil hrest]
        · rename_i hcount
          cases h
          rw [if_neg hcount, withClosing_cons]
      · simp [hc] at h ⊢
        exact ⟨h.1, congrArg withClosing h.2⟩

theorem openItems_nil (negated : Bool) : openItems mode negated [] = (.start negated none, []) := rfl

theorem openSet_withClosing {cs rest : List Char} {s : OpenSet} (h : openSet mode cs = (s, rest))
    (hrest : rest ≠ []) : openSet mode (withClosing cs) = (s, withClosing rest) := by
  have hitems {negated : Bool} {left : List Char}
      (h : openItems mode negated (mode.skip left) = (s, rest)) :
      openItems mode negated (mode.skip (withClosing left)) = (s, withClosing rest) := by
    have hleft : mode.skip left ≠ [] := by
      intro hleft
      rw [hleft, openItems_nil] at h
      cases h
      exact hrest rfl
    rw [RegexMode.skip_withClosing_of_ne_nil hleft]
    exact openItems_withClosing h hrest
  cases hskip : mode.skip cs with
  | nil =>
    have hplain : (mode.skip cs).head? ≠ some '^' := by simp [hskip]
    rw [openSet_of_plain hplain, hskip, openItems_nil] at h
    cases h
    exact absurd rfl hrest
  | cons c left =>
    have hclosing := RegexMode.skip_withClosing_of_eq hskip
    by_cases hc : c = '^'
    · subst hc
      rw [openSet_of_caret hskip] at h
      rw [openSet_of_caret hclosing]
      exact hitems h
    · have hplain {later : List Char} : (c :: later).head? ≠ some '^' := by simpa using hc
      rw [openSet_of_plain (hskip ▸ hplain)] at h
      rw [openSet_of_plain (hclosing ▸ hplain)]
      exact hitems h

theorem stable_readAtom : Stable (readAtom mode) := by
  refine (stable_satisfying _).bind fun c => ?_
  split
  · exact stable_readEscape
  · exact stable_pure _

theorem dropWhile_isBlank_withClosing (cs : List Char) :
    (withClosing cs).dropWhile isBlank = withClosing (cs.dropWhile isBlank) := by
  induction cs with
  | nil => simp [isBlank_closing]
  | cons c cs ih =>
    rw [withClosing_cons]
    by_cases hc : isBlank c = true
    · rw [List.dropWhile_cons_of_pos hc, List.dropWhile_cons_of_pos hc, ih]
    · rw [List.dropWhile_cons_of_neg hc, List.dropWhile_cons_of_neg hc, withClosing_cons]

theorem head?_withClosing_eq_iff {c : Char} (hc : c ≠ ')') (cs : List Char) :
    (withClosing cs).head? = some c ↔ cs.head? = some c := by
  cases cs with
  | nil => simpa using hc.symm
  | cons d cs => rfl

theorem pastHyphen_withClosing {c : Char} (hc : c ≠ ')') (cs : List Char) :
    pastHyphen mode (withClosing cs) = some c ↔ pastHyphen mode cs = some c := by
  unfold pastHyphen
  split
  · rw [dropWhile_isBlank_withClosing]
    cases cs.dropWhile isBlank with
    | nil => simpa using hc.symm
    | cons d rest =>
      by_cases hd : d = '#'
      · subst hd
        show ((withClosing rest).dropWhile isBlank).head? = some c ↔
          (rest.dropWhile isBlank).head? = some c
        rw [dropWhile_isBlank_withClosing, head?_withClosing_eq_iff hc]
      · simp [hd]
  · exact head?_withClosing_eq_iff hc cs

theorem stable_readItem : Stable (readItem mode) := by
  refine stable_readAtom.bind fun first => (stable_space mode).bind fun _ => ?_
  have hrange : Stable (do
      mode.space
      let last ← readAtom mode
      let a ← (charIn? mode first : Option Nat)
      let b ← (charIn? mode last : Option Nat)
      if a ≤ b then return CharSet.range a b else failure : TextReader CharSet) := by
    refine (stable_space mode).bind fun _ => stable_readAtom.bind fun last =>
      (stable_lift _).bind fun a => (stable_lift _).bind fun b => ?_
    split
    · exact stable_pure _
    · exact stable_failure
  have hsingle := stable_lift (itemOf? mode first)
  constructor
  · intro a rest h
    exact hsingle.atEnd h
  · intro cs
    rw [get_bind, get_bind]
    cases cs with
    | nil => exact hsingle.reads []
    | cons c cs =>
      by_cases hc : c = '-'
      · subst hc
        have hpast : pastHyphen mode (withClosing cs) = some ']' ∨
              pastHyphen mode (withClosing cs) = some '-' ↔
            pastHyphen mode cs = some ']' ∨ pastHyphen mode cs = some '-' :=
          or_congr (pastHyphen_withClosing (by decide) cs) (pastHyphen_withClosing (by decide) cs)
        simp only [withClosing_cons, hpast]
        split
        · exact hsingle.reads ('-' :: cs)
        · exact hrange.reads cs
      · simp only [withClosing_cons, List.cons.injEq, hc, false_and, imp_self, implies_true]
        exact hsingle.reads (c :: cs)

/-- The operator that a character written twice stands for. -/
def setOp? : Char → Option SetOp
  | '&' => some .intersection
  | '-' => some .difference
  | '~' => some .symmetricDifference
  | _ => none

section ReadSet

variable {fuel : Nat} {s : OpenSet} {outer : List OpenSet} {cs rest : List Char}

theorem readSet_of_end (h : mode.skip cs = []) : readSet mode fuel s outer cs = none := by
  cases fuel with
  | zero => rfl
  | succ fuel => simp only [readSet, h]

theorem readSet_of_named {negated : Bool} {named : CharSet} {later : List Char}
    (hname : readSetName rest = some (negated, named, later)) (h : mode.skip cs = '[' :: rest) :
    readSet mode (fuel + 1) s outer cs =
      (mode.negate? negated (mode.fold named)).bind fun item =>
        readSet mode fuel (s.add ⟨item, 0⟩) outer later := by
  rw [readSet, h]
  simp only [hname]
  rfl

theorem readSet_of_inner (hname : readSetName rest = none) (h : mode.skip cs = '[' :: rest) :
    readSet mode (fuel + 1) s outer cs =
      readSet mode fuel (openSet mode rest).1 (s :: outer) (openSet mode rest).2 := by
  rw [readSet, h]
  simp only [hname]

theorem readSet_of_close (h : mode.skip cs = ']' :: rest) :
    readSet mode (fuel + 1) s outer cs =
      (s.close? mode).bind fun closed =>
        match outer with
        | [] => some (closed, rest)
        | parent :: outer => readSet mode fuel (parent.add closed) outer rest := by
  rw [readSet, h]
  cases outer <;> rfl

theorem readSet_of_operator {c : Char} {op : SetOp} (hop : setOp? c = some op)
    (h : mode.skip cs = c :: c :: rest) :
    readSet mode (fuel + 1) s outer cs = readSet mode fuel (s.combine mode op) outer rest := by
  rw [readSet, h]
  unfold setOp? at hop
  split at hop <;> cases hop <;> rfl

theorem readSet_of_item {c : Char} (hopen : c ≠ '[') (hclose : c ≠ ']')
    (hop : setOp? c = none ∨ rest.head? ≠ some c) (h : mode.skip cs = c :: rest) :
    readSet mode (fuel + 1) s outer cs =
      (readItem mode (c :: rest)).bind fun r => readSet mode fuel (s.add ⟨r.1, 0⟩) outer r.2 := by
  rw [readSet, h]
  split
  case h_7 => rfl
  all_goals simp_all [setOp?]

/-- A set is not over where the text ends. -/
theorem ne_nil_of_readSet {r : Nested × List Char} (h : readSet mode fuel s outer cs = some r) :
    cs ≠ [] := by
  rintro rfl
  rw [readSet_of_end RegexMode.skip_nil] at h
  cases h

/-- A closing parenthesis does not make an operator of the character in front of it. -/
theorem operatorFree_withClosing {c : Char} (h : setOp? c = none ∨ rest.head? ≠ some c) :
    setOp? c = none ∨ (withClosing rest).head? ≠ some c := by
  refine or_iff_not_imp_left.2 fun hop => ?_
  have hc : c ≠ ')' := by
    rintro rfl
    exact hop rfl
  rw [ne_eq, head?_withClosing_eq_iff hc]
  exact h.resolve_left hop

/-- A set ends with a bracket, so what is read does not depend on what comes after it. -/
theorem readSet_withClosing {n m : Nat} {r : Nested} (hm : n ≤ m)
    (h : readSet mode n s outer cs = some (r, rest)) :
    readSet mode m s outer (withClosing cs) = some (r, withClosing rest) := by
  -- on the fuel; the cases are the first characters that the definition tells apart
  induction n generalizing m s outer cs with
  | zero => cases h
  | succ n ih =>
    obtain ⟨m, rfl⟩ := Nat.exists_eq_add_of_le' (Nat.zero_lt_of_lt hm)
    replace hm := Nat.le_of_succ_le_succ hm
    cases hskip : mode.skip cs with
    | nil =>
      rw [readSet_of_end hskip] at h
      cases h
    | cons c left =>
      have hclosing := RegexMode.skip_withClosing_of_eq hskip
      by_cases hopen : c = '['
      · subst hopen
        cases hname : readSetName left with
        | none =>
          rw [readSet_of_inner hname hskip] at h
          have hname' : readSetName (withClosing left) = none := by
            rw [readSetName_withClosing, hname]
            rfl
          rw [readSet_of_inner hname' hclosing, openSet_withClosing rfl (ne_nil_of_readSet h)]
          exact ih hm h
        | some named =>
          obtain ⟨negated, named, later⟩ := named
          have hname' : readSetName (withClosing left) = some (negated, named, withClosing later) := by
            rw [readSetName_withClosing, hname]
            rfl
          rw [readSet_of_named hname hskip] at h
          rw [readSet_of_named hname' hclosing]
          obtain ⟨item, hitem, h⟩ := Option.bind_eq_some_iff.1 h
          exact Option.bind_eq_some_iff.2 ⟨item, hitem, ih hm h⟩
      by_cases hclose : c = ']'
      · subst hclose
        rw [readSet_of_close hskip] at h
        rw [readSet_of_close hclosing]
        obtain ⟨closed, hclosed, h⟩ := Option.bind_eq_some_iff.1 h
        refine Option.bind_eq_some_iff.2 ⟨closed, hclosed, ?_⟩
        cases outer with
        | nil =>
          cases h
          rfl
        | cons parent outer => exact ih hm h
      by_cases hoperator : setOp? c = none ∨ left.head? ≠ some c
      · rw [readSet_of_item hopen hclose hoperator hskip] at h
        rw [readSet_of_item hopen hclose (operatorFree_withClosing hoperator) hclosing]
        obtain ⟨⟨item, later⟩, hitem, h⟩ := Option.bind_eq_some_iff.1 h
        have hitem' := stable_readItem.stableInside.inside hitem (ne_nil_of_readSet h)
        exact Option.bind_eq_some_iff.2 ⟨(item, withClosing later), hitem', ih hm h⟩
      · obtain ⟨hop, hhead⟩ := not_or.1 hoperator
        obtain ⟨op, hop⟩ := Option.ne_none_iff_exists'.1 hop
        obtain ⟨later, rfl⟩ := List.head?_eq_some_iff.1 (not_not.1 hhead)
        rw [readSet_of_operator hop hskip] at h
        rw [readSet_of_operator hop hclosing]
        exact ih hm h

end ReadSet

/-- A set after its bracket, as it is read from the front of a text. -/
def readBracket (mode : RegexMode) : TextReader Nested := fun cs =>
  readSet mode ((openSet mode cs).2.length + 1) (openSet mode cs).1 [] (openSet mode cs).2

theorem readBracket_withClosing {cs rest : List Char} {r : Nested}
    (h : readBracket mode cs = some (r, rest)) :
    readBracket mode (withClosing cs) = some (r, withClosing rest) := by
  unfold readBracket at h ⊢
  rw [openSet_withClosing rfl (ne_nil_of_readSet h), length_withClosing]
  exact readSet_withClosing (Nat.le_succ _) h

end Regex

end PropertyGraph
