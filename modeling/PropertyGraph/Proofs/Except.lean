import Mathlib.Data.List.Induction

/-!
# Computations that may fail

Inversion of sequences and loops in `Except`: what has succeeded has succeeded step by step, and
what has failed has failed at the first step that can fail.

## Main definitions

- `Faultless`, `FirstFault` — the faults of a list whose items are judged one after the other
-/

namespace PropertyGraph

variable {ε α β γ : Type}

theorem bind_ok (a : α) (f : α → Except ε β) : Except.ok a >>= f = f a := rfl

theorem bind_eq_ok_iff {x : Except ε α} {f : α → Except ε β} {b : β} :
    x >>= f = .ok b ↔ ∃ a, x = .ok a ∧ f a = .ok b := by
  cases x with
  | error e =>
    constructor
    · exact fun h => nomatch h
    · rintro ⟨_, h, -⟩
      cases h
  | ok a =>
    constructor
    · exact fun h => ⟨a, rfl, h⟩
    · rintro ⟨_, h, hf⟩
      cases h
      exact hf

theorem map_eq_ok_iff {x : Except ε α} {f : α → β} {b : β} :
    x.map f = .ok b ↔ ∃ a, x = .ok a ∧ f a = b := by
  cases x <;> simp [Except.map]

theorem map_eq_error_iff {x : Except ε α} {f : α → β} {e : ε} :
    x.map f = .error e ↔ x = .error e := by
  cases x <;> simp [Except.map]

/-- What fails just for want of something fails with one error only. -/
theorem eq_error_iff_of_option {x : Except ε α} {o : Option β} {e e' : ε}
    (hsome : ∀ b, o = some b → ∃ a, x = .ok a) (hnone : o = none → x = .error e) :
    x = .error e' ↔ o = none ∧ e' = e := by
  cases o with
  | some b =>
    obtain ⟨a, rfl⟩ := hsome b rfl
    simp
  | none => simp [hnone rfl, eq_comm]

theorem exists_ok_of_isSome {x : Except ε α} (h : x.toOption.isSome = true) : ∃ a, x = .ok a := by
  cases x with
  | error e => cases h
  | ok a => exact ⟨a, rfl⟩

theorem exists_ok_of_any {x : Except ε α} {p : α → Bool} (h : x.toOption.any p = true) :
    ∃ a, x = .ok a ∧ p a = true := by
  cases x with
  | error e => cases h
  | ok a => exact ⟨a, rfl, h⟩

theorem fst_of_map_eq_ok {x : Except ε β} {a : α} {b : α × β} (h : x.map (a, ·) = .ok b) :
    b.1 = a := by
  obtain ⟨_, -, rfl⟩ := map_eq_ok_iff.1 h
  rfl

/-- What every step of a loop keeps, the loop keeps. -/
theorem foldlM_invariant {P : β → Prop} {f : β → α → Except ε β}
    (hstep : ∀ b a b', P b → f b a = .ok b' → P b') {l : List α} {b b' : β} (hb : P b)
    (h : l.foldlM f b = .ok b') : P b' := by
  induction l generalizing b with
  | nil =>
    cases h
    exact hb
  | cons a rest ih =>
    rw [List.foldlM_cons, bind_eq_ok_iff] at h
    obtain ⟨c, hc, h⟩ := h
    exact ih (hstep b a c hb hc) h

theorem mapM_eq_ok {f : α → Except ε β} {g : α → β} {l : List α}
    (h : ∀ a ∈ l, f a = .ok (g a)) : l.mapM f = .ok (l.map g) := by
  induction l with
  | nil => rfl
  | cons a rest ih =>
    rw [List.mapM_cons, h a List.mem_cons_self, ih fun b hb => h b (List.mem_cons_of_mem _ hb)]
    rfl

theorem mapM_cons_eq_ok_iff {f : α → Except ε β} {a : α} {l : List α} {bs : List β} :
    (a :: l).mapM f = .ok bs ↔ ∃ b rest, f a = .ok b ∧ l.mapM f = .ok rest ∧ bs = b :: rest := by
  rw [List.mapM_cons]
  simp only [bind_eq_ok_iff]
  constructor
  · rintro ⟨b, hb, rest, hrest, hbs⟩
    cases hbs
    exact ⟨b, rest, hb, hrest, rfl⟩
  · rintro ⟨b, rest, hb, hrest, rfl⟩
    exact ⟨b, hb, rest, hrest, rfl⟩

theorem exists_of_mem_mapM {f : α → Except ε β} {l : List α} {bs : List β}
    (h : l.mapM f = .ok bs) {a : α} (ha : a ∈ l) : ∃ b ∈ bs, f a = .ok b := by
  induction l generalizing bs with
  | nil => cases ha
  | cons c rest ih =>
    obtain ⟨b, tail, hb, htail, rfl⟩ := mapM_cons_eq_ok_iff.1 h
    rcases List.mem_cons.1 ha with rfl | ha
    · exact ⟨b, List.mem_cons_self, hb⟩
    · obtain ⟨d, hd, hfd⟩ := ih htail ha
      exact ⟨d, List.mem_cons_of_mem _ hd, hfd⟩

/-- A loop fails as the first of its steps that fail. -/
theorem mapM_eq_error_iff {f : α → Except ε β} {l : List α} {e : ε} :
    l.mapM f = .error e ↔ ∃ a, l.find? (fun a => !(f a).isOk) = some a ∧ f a = .error e := by
  induction l with
  | nil => simp [pure, Except.pure]
  | cons a rest ih =>
    rw [List.mapM_cons, List.find?_cons]
    cases ha : f a with
    | error e' =>
      constructor
      · intro h
        cases h
        exact ⟨a, rfl, ha⟩
      · rintro ⟨c, hc, herr⟩
        cases hc
        cases ha.symm.trans herr
        rfl
    | ok b =>
      refine Iff.trans ?_ ih
      cases hrest : rest.mapM f with
      | error e' => exact Iff.rfl
      | ok bs =>
        constructor
        · intro h
          cases h
        · intro h
          cases h

/-- A loop that fails has a step that fails so. -/
theorem exists_error_of_mapM {f : α → Except ε β} {l : List α} {e : ε}
    (h : l.mapM f = .error e) : ∃ a ∈ l, f a = .error e := by
  obtain ⟨a, ha, herr⟩ := mapM_eq_error_iff.1 h
  exact ⟨a, List.mem_of_find?_eq_some ha, herr⟩

/-- A loop whose steps all succeed, each with a result as wanted, maps by a function with such
results. -/
theorem exists_map_of_mapM [Inhabited β] {f : α → Except ε β} {P : α → β → Prop} {l : List α}
    (h : ∀ a ∈ l, ∃ b, f a = .ok b ∧ P a b) :
    ∃ g : α → β, l.mapM f = .ok (l.map g) ∧ ∀ a ∈ l, P a (g a) := by
  refine ⟨fun a => (f a).toOption.getD default, mapM_eq_ok fun a ha => ?_, fun a ha => ?_⟩
  · obtain ⟨b, hb, -⟩ := h a ha
    rw [hb]
    rfl
  · obtain ⟨b, hb, hP⟩ := h a ha
    change P a ((f a).toOption.getD default)
    rwa [hb]

/-- A loop whose steps all succeed has their results. -/
theorem exists_mapM_eq_ok {f : α → Except ε β} {l : List α} (h : ∀ a ∈ l, ∃ b, f a = .ok b) :
    ∃ bs, l.mapM f = .ok bs ∧ ∀ b, b ∈ bs ↔ ∃ a ∈ l, f a = .ok b := by
  induction l with
  | nil => exact ⟨[], rfl, by simp⟩
  | cons a rest ih =>
    obtain ⟨b, hb⟩ := h a List.mem_cons_self
    obtain ⟨bs, hbs, hmem⟩ := ih fun c hc => h c (List.mem_cons_of_mem _ hc)
    refine ⟨b :: bs, mapM_cons_eq_ok_iff.2 ⟨b, bs, hb, hbs, rfl⟩, fun d => ?_⟩
    simp [hmem, hb, eq_comm]

theorem map_of_mapM {f : α → Except ε β} {π : β → γ} {ρ : α → γ}
    (hπ : ∀ a b, f a = .ok b → π b = ρ a) {l : List α} {bs : List β}
    (h : l.mapM f = .ok bs) : bs.map π = l.map ρ := by
  induction l generalizing bs with
  | nil =>
    cases h
    rfl
  | cons a rest ih =>
    obtain ⟨b, tail, hb, htail, rfl⟩ := mapM_cons_eq_ok_iff.1 h
    rw [List.map_cons, List.map_cons, hπ a b hb, ih htail]

/-! ## First faults -/

section Faults

/-- No item of a list has a fault, each one being judged after those before it. -/
def Faultless (fault : List α → α → Option ε) (l : List α) : Prop :=
  ∀ before a after, l = before ++ a :: after → fault before a = none

/-- The fault of the first item of a list that has one. -/
def FirstFault (fault : List α → α → Option ε) (l : List α) (e : ε) : Prop :=
  ∃ before a after, l = before ++ a :: after ∧ Faultless fault before ∧ fault before a = some e

variable {fault : List α → α → Option ε} {l : List α} {c : α} {e : ε}

theorem faultless_nil : Faultless fault [] := by
  intro before a after h
  cases before <;> cases h

/-- An item of a list with one more at the end is that one or an earlier one. -/
theorem append_singleton_eq_iff {before after : List α} {a : α} :
    l ++ [c] = before ++ a :: after ↔
      (after = [] ∧ l = before ∧ c = a) ∨ ∃ rest, after = rest ++ [c] ∧ l = before ++ a :: rest := by
  constructor
  · intro h
    rcases List.eq_nil_or_concat after with rfl | ⟨rest, d, rfl⟩
    · obtain ⟨rfl, hlast⟩ := List.append_inj' h rfl
      exact .inl ⟨rfl, rfl, List.singleton_inj.1 hlast⟩
    · rw [List.concat_eq_append, ← List.cons_append, ← List.append_assoc] at h
      obtain ⟨rfl, hlast⟩ := List.append_inj' h rfl
      exact .inr ⟨rest, by rw [List.concat_eq_append, List.singleton_inj.1 hlast], rfl⟩
  · rintro (⟨rfl, rfl, rfl⟩ | ⟨rest, rfl, rfl⟩)
    · rfl
    · rw [List.append_assoc, List.cons_append]

theorem faultless_append_singleton :
    Faultless fault (l ++ [c]) ↔ Faultless fault l ∧ fault l c = none := by
  constructor
  · intro h
    refine ⟨fun before a after hl => ?_, h l c [] rfl⟩
    exact h before a (after ++ [c]) (append_singleton_eq_iff.2 (.inr ⟨after, rfl, hl⟩))
  · rintro ⟨hl, hc⟩ before a after hsplit
    rcases append_singleton_eq_iff.1 hsplit with ⟨-, rfl, rfl⟩ | ⟨rest, -, hrest⟩
    · exact hc
    · exact hl before a rest hrest

theorem firstFault_append_singleton :
    FirstFault fault (l ++ [c]) e ↔
      FirstFault fault l e ∨ Faultless fault l ∧ fault l c = some e := by
  constructor
  · rintro ⟨before, a, after, hsplit, hbefore, ha⟩
    rcases append_singleton_eq_iff.1 hsplit with ⟨-, rfl, rfl⟩ | ⟨rest, -, hrest⟩
    · exact .inr ⟨hbefore, ha⟩
    · exact .inl ⟨before, a, rest, hrest, hbefore, ha⟩
  · rintro (⟨before, a, after, hl, hbefore, ha⟩ | ⟨hl, hc⟩)
    · exact ⟨before, a, after ++ [c], append_singleton_eq_iff.2 (.inr ⟨after, rfl, hl⟩), hbefore,
        ha⟩
    · exact ⟨l, c, [], rfl, hl, hc⟩

theorem Faultless.not_firstFault (h : Faultless fault l) : ¬FirstFault fault l e := by
  rintro ⟨before, a, after, hsplit, -, ha⟩
  rw [h before a after hsplit] at ha
  cases ha

theorem FirstFault.unique {e' : ε} (h : FirstFault fault l e) (h' : FirstFault fault l e') :
    e = e' := by
  induction l using List.reverseRecOn with
  | nil => exact absurd h faultless_nil.not_firstFault
  | append_singleton l c ih =>
    rcases firstFault_append_singleton.1 h with h | ⟨hl, hc⟩ <;>
      rcases firstFault_append_singleton.1 h' with h' | ⟨hl', hc'⟩
    · exact ih h h'
    · exact absurd h hl'.not_firstFault
    · exact absurd h' hl.not_firstFault
    · exact Option.some.inj (hc.symm.trans hc')

/-- **Loops and faults.** If a step fails just with the fault of its item, and keeps up with the
items done so far otherwise, then a loop either gets through a list without faults or fails with
the first fault. -/
theorem foldlM_of_faults {P : List α → β → Prop} {f : β → α → Except ε β}
    (hgood : ∀ before a b, P before b → fault before a = none →
      ∃ b', f b a = .ok b' ∧ P (before ++ [a]) b')
    (hbad : ∀ before a b e, P before b → fault before a = some e → f b a = .error e)
    {b : β} (hb : P [] b) (l : List α) :
    (Faultless fault l ∧ ∃ b', l.foldlM f b = .ok b' ∧ P l b') ∨
      ∃ e, FirstFault fault l e ∧ l.foldlM f b = .error e := by
  induction l using List.reverseRecOn with
  | nil => exact .inl ⟨faultless_nil, b, rfl, hb⟩
  | append_singleton l c ih =>
    rw [List.foldlM_append]
    rcases ih with ⟨hl, b', hrun, hdone⟩ | ⟨e, he, hrun⟩
    · rw [hrun, bind_ok, List.foldlM_cons]
      cases hc : fault l c with
      | none =>
        obtain ⟨b'', hstep, hdone'⟩ := hgood l c b' hdone hc
        exact .inl ⟨faultless_append_singleton.2 ⟨hl, hc⟩, b'', by rw [hstep]; rfl, hdone'⟩
      | some e =>
        exact .inr ⟨e, firstFault_append_singleton.2 (.inr ⟨hl, hc⟩), by
          rw [hbad l c b' e hdone hc]; rfl⟩
    · exact .inr ⟨e, firstFault_append_singleton.2 (.inl he), by rw [hrun]; rfl⟩

end Faults

end PropertyGraph
