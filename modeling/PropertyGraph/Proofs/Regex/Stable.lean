import Mathlib.Data.List.TakeDrop
import PropertyGraph.Regex.Mode

/-!
# Readers before a closing parenthesis

A part of an expression is read in the same way whether the text ends after it or a parenthesis is
closed there: no reader takes the parenthesis, or decides otherwise because of it. One thing is
different. Where comments do not count, a comment at the end of the text goes on over the parenthesis,
and then nothing is left to read.

## Main definitions

- `TextReader.StableInside` — a closing parenthesis after what is left makes no difference
- `TextReader.Stable` — nor does one right after what is read, or it is lost in a comment
-/

namespace PropertyGraph

/-- A closing parenthesis after a text. -/
def withClosing (cs : List Char) : List Char := cs ++ [')']

@[simp] theorem withClosing_nil : withClosing [] = [')'] := rfl

@[simp] theorem withClosing_cons (c : Char) (cs : List Char) :
    withClosing (c :: cs) = c :: withClosing cs := rfl

theorem length_withClosing (cs : List Char) : (withClosing cs).length = cs.length + 1 := by
  simp [withClosing]

/-- The run of characters in front of a text ends where it did, unless it is all of the text. -/
theorem span_withClosing {p : Char → Bool} {cs : List Char} (h : (cs.span p).2 ≠ []) :
    (withClosing cs).span p = ((cs.span p).1, withClosing (cs.span p).2) := by
  simp only [List.span_eq_takeWhile_dropWhile] at h ⊢
  induction cs with
  | nil => exact absurd rfl h
  | cons c cs ih =>
    rw [withClosing_cons]
    by_cases hc : p c = true
    · rw [List.dropWhile_cons_of_pos hc] at h
      have hrest := Prod.mk.inj (ih h)
      rw [List.takeWhile_cons_of_pos hc, List.takeWhile_cons_of_pos hc,
        List.dropWhile_cons_of_pos hc, List.dropWhile_cons_of_pos hc, hrest.1, hrest.2]
    · rw [List.takeWhile_cons_of_neg hc, List.takeWhile_cons_of_neg hc,
        List.dropWhile_cons_of_neg hc, List.dropWhile_cons_of_neg hc, withClosing_cons]

/-! ## Blanks and comments -/

theorem isBlank_closing : isBlank ')' = false := by decide

theorem dropSpace_withClosing (comment : Bool) (cs : List Char) :
    dropSpace comment (withClosing cs) = withClosing (dropSpace comment cs) ∨
      dropSpace comment cs = [] ∧ dropSpace comment (withClosing cs) = [] := by
  induction cs generalizing comment with
  | nil =>
    cases comment with
    | true => exact .inr ⟨rfl, rfl⟩
    | false =>
      left
      simp [dropSpace, isBlank_closing]
  | cons c cs ih =>
    cases comment with
    | true => exact ih _
    | false =>
      rw [withClosing_cons, dropSpace, dropSpace]
      split
      · exact ih _
      · split
        · exact ih _
        · exact .inl rfl

theorem length_dropSpace_le (comment : Bool) (cs : List Char) :
    (dropSpace comment cs).length ≤ cs.length := by
  induction cs generalizing comment with
  | nil => cases comment <;> exact Nat.le_refl _
  | cons c cs ih =>
    cases comment with
    | true => exact Nat.le_succ_of_le (ih _)
    | false =>
      rw [dropSpace]
      split
      · exact Nat.le_succ_of_le (ih _)
      · split
        · exact Nat.le_succ_of_le (ih _)
        · exact Nat.le_refl _

namespace RegexMode

variable {mode : RegexMode} {cs : List Char}

@[simp] theorem skip_nil : mode.skip [] = [] := by
  rw [skip]
  split <;> rfl

@[simp] theorem skip_closing : mode.skip [')'] = [')'] := by
  rw [skip]
  split
  · simp [dropSpace, isBlank_closing]
  · rfl

/-- What does not count before a closing parenthesis does not count, or the parenthesis is in a
comment. -/
theorem skip_withClosing (mode : RegexMode) (cs : List Char) :
    mode.skip (withClosing cs) = withClosing (mode.skip cs) ∨
      mode.skip cs = [] ∧ mode.skip (withClosing cs) = [] := by
  rw [skip, skip]
  split
  · exact dropSpace_withClosing false cs
  · exact .inl rfl

theorem skip_withClosing_of_ne_nil (h : mode.skip cs ≠ []) :
    mode.skip (withClosing cs) = withClosing (mode.skip cs) :=
  (skip_withClosing mode cs).resolve_right fun hend => h hend.1

/-- The front of what counts in a text is not changed by a parenthesis after it. -/
theorem skip_withClosing_of_eq {c : Char} {rest : List Char} (h : mode.skip cs = c :: rest) :
    mode.skip (withClosing cs) = c :: withClosing rest := by
  rw [skip_withClosing_of_ne_nil (h ▸ List.cons_ne_nil c rest), h, withClosing_cons]

theorem length_skip_le (mode : RegexMode) (cs : List Char) : (mode.skip cs).length ≤ cs.length := by
  rw [skip]
  split
  · exact length_dropSpace_le false cs
  · exact Nat.le_refl _

end RegexMode

/-! ## Stable readers -/

/-- What is read before a closing parenthesis is what is read at the end of a text, and the same is
left; if nothing is left, the parenthesis may be lost. -/
def ReadsAs {α β : Type} (f : α → β) (short : Option (α × List Char))
    (long : Option (β × List Char)) : Prop :=
  ∀ a rest, short = some (a, rest) →
    long = some (f a, withClosing rest) ∨ rest = [] ∧ long = some (f a, [])

theorem readsAs_none {α β : Type} (f : α → β) (long : Option (β × List Char)) :
    ReadsAs f none long :=
  fun _ _ h => nomatch h

theorem readsAs_some {α β : Type} (f : α → β) (a : α) (cs : List Char) :
    ReadsAs f (some (a, cs)) (some (f a, withClosing cs)) := by
  intro b rest h
  cases h
  exact .inl rfl

/-- What goes on from what is read does so before the parenthesis, or where nothing is left. -/
theorem readsAs_bind {α β γ δ : Type} {e : α → β} {f : γ → δ} {short : Option (α × List Char)}
    {long : Option (β × List Char)} {next : α → List Char → Option (γ × List Char)}
    {next' : β → List Char → Option (δ × List Char)} (h : ReadsAs e short long)
    (hnext : ∀ a cs, ReadsAs f (next a cs) (next' (e a) (withClosing cs)))
    (hend : ∀ a c rest, next a [] = some (c, rest) → rest = [] ∧ next' (e a) [] = some (f c, [])) :
    ReadsAs f (short.bind fun r => next r.1 r.2) (long.bind fun r => next' r.1 r.2) := by
  intro c rest hshort
  obtain ⟨⟨a, left⟩, hread, hleft⟩ := Option.bind_eq_some_iff.1 hshort
  obtain hlong | ⟨rfl, hlong⟩ := h a left hread
  · rw [hlong]
    exact hnext a left c rest hleft
  · rw [hlong]
    exact .inr (hend a c rest hleft)

theorem readsAs_map {α β γ δ : Type} {e : α → β} {f : γ → δ} {short : Option (α × List Char)}
    {long : Option (β × List Char)} {g : α → γ} {g' : β → δ} (h : ReadsAs e short long)
    (hg : ∀ a, g' (e a) = f (g a)) :
    ReadsAs f (short.map fun r => (g r.1, r.2)) (long.map fun r => (g' r.1, r.2)) := by
  intro c rest hshort
  obtain ⟨⟨a, left⟩, hread, hleft⟩ := Option.map_eq_some_iff.1 hshort
  cases hleft
  refine (h a left hread).imp (fun hlong => ?_) fun hlong => ⟨hlong.1, ?_⟩
  · rw [hlong, Option.map_some, hg]
  · rw [hlong.2, Option.map_some, hg]

namespace TextReader

variable {α β : Type}

/-- A reader does the same before a closing parenthesis, if it leaves something before it. -/
structure StableInside (read : TextReader α) : Prop where
  atEnd : ∀ {a rest}, read [] = some (a, rest) → rest = []
  inside : ∀ {cs a rest}, read cs = some (a, rest) → rest ≠ [] →
    read (withClosing cs) = some (a, withClosing rest)

/-- A reader does the same before a closing parenthesis. -/
structure Stable (read : TextReader α) : Prop where
  atEnd : ∀ {a rest}, read [] = some (a, rest) → rest = []
  reads : ∀ cs, ReadsAs id (read cs) (read (withClosing cs))

theorem Stable.stableInside {read : TextReader α} (h : Stable read) : StableInside read where
  atEnd := h.atEnd
  inside {cs a rest} hread hrest :=
    (h.reads cs a rest hread).resolve_right fun hend => hrest hend.1

theorem stable_pure (a : α) : Stable (pure a : TextReader α) where
  atEnd h := by
    cases h
    rfl
  reads cs := readsAs_some id a cs

theorem stable_failure : Stable (failure : TextReader α) where
  atEnd h := nomatch h
  reads _ := readsAs_none id _

/-- What is no reader at all does not depend on the text. -/
theorem stable_lift (x : Option α) : Stable (liftM x : TextReader α) := by
  cases x with
  | none => exact ⟨(nomatch ·), fun _ => readsAs_none id _⟩
  | some a => exact stable_pure a

theorem stable_seen (view : Char → Option α) : Stable (seen view) where
  atEnd h := nomatch h
  reads cs := by
    cases cs with
    | nil => exact readsAs_none id _
    | cons c cs =>
      rw [withClosing_cons, seen, seen]
      cases view c with
      | none => exact readsAs_none id _
      | some a => exact readsAs_some id a cs

theorem stable_satisfying (p : Char → Bool) : Stable (satisfying p) := stable_seen _

theorem stable_character (c : Char) : Stable (character c) := stable_seen _

theorem stable_space (mode : RegexMode) : Stable mode.space where
  atEnd h := by
    cases h
    exact RegexMode.skip_nil
  reads cs := by
    rintro _ rest ⟨⟩
    refine (mode.skip_withClosing cs).imp (fun h => ?_) fun h => ⟨h.1, ?_⟩
    · exact congrArg (fun rest => some ((), rest)) h
    · exact congrArg (fun rest => some ((), rest)) h.2

/-! ## One reader after the other -/

variable {read : TextReader α} {next : α → TextReader β}

theorem bind_eq_some_iff {cs : List Char} {r : β × List Char} :
    (read >>= next) cs = some r ↔ ∃ a rest, read cs = some (a, rest) ∧ next a rest = some r := by
  change (read cs).bind (fun p => next p.1 p.2) = some r ↔ _
  rw [Option.bind_eq_some_iff]
  exact ⟨fun ⟨p, hread, hnext⟩ => ⟨p.1, p.2, hread, hnext⟩,
    fun ⟨a, rest, hread, hnext⟩ => ⟨(a, rest), hread, hnext⟩⟩

theorem get_bind (next : List Char → TextReader β) (cs : List Char) :
    (get >>= next) cs = next cs cs :=
  rfl

theorem atEnd_bind (hread : ∀ {a rest}, read [] = some (a, rest) → rest = [])
    (hnext : ∀ {a b rest}, next a [] = some (b, rest) → rest = []) {b : β} {rest : List Char}
    (h : (read >>= next) [] = some (b, rest)) : rest = [] := by
  obtain ⟨a, middle, hfirst, hsecond⟩ := bind_eq_some_iff.1 h
  obtain rfl := hread hfirst
  exact hnext hsecond

theorem StableInside.bind (hread : StableInside read) (hnext : ∀ a, StableInside (next a)) :
    StableInside (read >>= next) where
  atEnd h := atEnd_bind hread.atEnd (hnext _).atEnd h
  inside {cs b rest} h hrest := by
    obtain ⟨a, middle, hfirst, hsecond⟩ := bind_eq_some_iff.1 h
    have hmiddle : middle ≠ [] := by
      rintro rfl
      exact hrest ((hnext a).atEnd hsecond)
    exact bind_eq_some_iff.2
      ⟨a, _, hread.inside hfirst hmiddle, (hnext a).inside hsecond hrest⟩

/-- A reader that needs something to read is stable after one that leaves something for it. -/
theorem StableInside.bind_stable (hread : StableInside read) (hnext : ∀ a, Stable (next a))
    (hneeds : ∀ a, next a [] = none) : Stable (read >>= next) where
  atEnd h := atEnd_bind hread.atEnd (hnext _).atEnd h
  reads cs b rest h := by
    obtain ⟨a, middle, hfirst, hsecond⟩ := bind_eq_some_iff.1 h
    have hmiddle : middle ≠ [] := by
      rintro rfl
      rw [hneeds] at hsecond
      cases hsecond
    have hclosing := hread.inside hfirst hmiddle
    refine ((hnext a).reads middle b rest hsecond).imp (fun h => ?_) fun h => ⟨h.1, ?_⟩
    · exact bind_eq_some_iff.2 ⟨a, _, hclosing, h⟩
    · exact bind_eq_some_iff.2 ⟨a, _, hclosing, h.2⟩

theorem Stable.bind (hread : Stable read) (hnext : ∀ a, Stable (next a)) :
    Stable (read >>= next) where
  atEnd h := atEnd_bind hread.atEnd (hnext _).atEnd h
  reads cs := by
    refine readsAs_bind (hread.reads cs) (fun a => (hnext a).reads) fun a b rest h => ?_
    obtain rfl := (hnext a).atEnd h
    exact ⟨rfl, h⟩

/-- A reader that goes on in one way after a mark and in another without it. -/
theorem stable_of_mark {mark : Char} (hmark : mark ≠ ')') {taken other : TextReader α}
    (htaken : Stable taken) (hother : Stable other) (hmarked : ∀ cs, read (mark :: cs) = taken cs)
    (hunmarked : ∀ cs, cs.head? ≠ some mark → read cs = other cs) : Stable read where
  atEnd h := hother.atEnd (hunmarked [] (by simp) ▸ h)
  reads cs := by
    cases cs with
    | nil =>
      rw [hunmarked [] (by simp), hunmarked (withClosing []) (by simpa using hmark.symm)]
      exact hother.reads []
    | cons c cs =>
      by_cases hc : c = mark
      · rw [hc, withClosing_cons, hmarked, hmarked]
        exact htaken.reads cs
      · rw [hunmarked (c :: cs) (by simpa using hc),
          hunmarked (withClosing (c :: cs)) (by simpa using hc)]
        exact hother.reads (c :: cs)

/-! ## As many as there are -/

/-- A character that is seen, and what does not count after it. -/
def spaced (mode : RegexMode) (view : Char → Option α) : TextReader α := do
  let a ← seen view
  mode.space
  return a

theorem spaced_cons (mode : RegexMode) (view : Char → Option α) (c : Char) (cs : List Char) :
    spaced mode view (c :: cs) = (view c).map (·, mode.skip cs) := by
  change ((view c).map (·, cs)).bind _ = _
  cases view c <;> rfl

theorem upTo_succ (read : TextReader α) (n : Nat) (cs : List Char) :
    upTo read (n + 1) cs =
      (((read cs).bind fun p => (upTo read n p.2).map fun q => (p.1 :: q.1, q.2)).or
        (some ([], cs))) := by
  have hstep : upTo read (n + 1) cs =
      (((read cs).bind fun p => (upTo read n p.2).bind fun q => some (p.1 :: q.1, q.2)) <|>
        some ([], cs)) := rfl
  rw [hstep, Option.orElse_eq_orElse, Option.orElse_eq_or]
  simp only [Option.map_eq_bind]
  rfl

theorem upTo_spaced_nil (mode : RegexMode) (view : Char → Option α) (n : Nat) :
    upTo (spaced mode view) n [] = some ([], []) := by
  cases n <;> rfl

/-- Reading as much as there is never fails. -/
theorem exists_upTo (read : TextReader α) (n : Nat) (cs : List Char) :
    ∃ r, upTo read n cs = some r := by
  cases n with
  | zero => exact ⟨_, rfl⟩
  | succ n =>
    rw [upTo_succ]
    exact Option.isSome_iff_exists.1 (by simp)

theorem ne_nil_of_upTo_spaced {mode : RegexMode} {view : Char → Option α} {n : Nat}
    {cs rest : List Char} {as : List α} (h : upTo (spaced mode view) n cs = some (as, rest))
    (hrest : rest ≠ []) : cs ≠ [] := by
  rintro rfl
  rw [upTo_spaced_nil] at h
  cases h
  exact hrest rfl

/-- With one more round to spare, characters are read up to the same one. -/
theorem upTo_spaced_withClosing {mode : RegexMode} {view : Char → Option α} {n m : Nat}
    {cs rest : List Char} {as : List α} (hn : cs.length ≤ n) (hm : n < m)
    (h : upTo (spaced mode view) n cs = some (as, rest)) (hrest : rest ≠ []) :
    upTo (spaced mode view) m (withClosing cs) = some (as, withClosing rest) := by
  induction n generalizing m cs as with
  | zero =>
    cases cs with
    | nil => exact absurd rfl (ne_nil_of_upTo_spaced h hrest)
    | cons c cs => cases hn
  | succ n ih =>
    obtain ⟨m, rfl⟩ := Nat.exists_eq_add_of_le' (Nat.zero_lt_of_lt hm)
    cases cs with
    | nil => exact absurd rfl (ne_nil_of_upTo_spaced h hrest)
    | cons c cs =>
      rw [withClosing_cons, upTo_succ, spaced_cons]
      rw [upTo_succ, spaced_cons] at h
      cases hview : view c with
      | none =>
        rw [hview] at h
        cases h
        rfl
      | some a =>
        rw [hview] at h
        simp only [Option.map_some, Option.bind_some] at h ⊢
        -- what comes next leaves something, so it has something to read
        obtain ⟨later, hlater⟩ := exists_upTo (spaced mode view) n (mode.skip cs)
        rw [hlater] at h
        cases h
        have hlength : (mode.skip cs).length ≤ n :=
          Nat.le_trans (mode.length_skip_le cs) (Nat.le_of_succ_le_succ hn)
        rw [RegexMode.skip_withClosing_of_ne_nil (ne_nil_of_upTo_spaced hlater hrest),
          ih hlength (Nat.lt_of_succ_lt_succ hm) hlater]
        rfl

theorem stableInside_many (mode : RegexMode) (view : Char → Option α) :
    StableInside (many (spaced mode view)) where
  atEnd h := by
    cases h
    rfl
  inside {cs as rest} h hrest := by
    refine upTo_spaced_withClosing (Nat.le_refl _) ?_ h hrest
    rw [length_withClosing]
    exact Nat.lt_succ_self _

theorem stableInside_run (p : Char → Bool) : StableInside (run p) where
  atEnd h := by
    cases h
    rfl
  inside {cs as rest} h hrest := by
    have hspan : cs.span p = (as, rest) := Option.some.inj h
    have hclosing : (withClosing cs).span p = _ := span_withClosing (by rwa [hspan])
    rw [hspan] at hclosing
    exact congrArg some hclosing

end TextReader

end PropertyGraph
