import PropertyGraph.Proofs.LooseOrder
import PropertyGraph.Proofs.Query.Compile

/-!
# The six operators

Equality and its negation look at loose equality, the four others at the loose order. Since the two
never contradict each other, one order decides all six operators where there is one. Without an
order only equality and its negation can hold, and just one of them does.

## Main definitions

- `Properties.OrderedWith` — what a key reads as has an order with a literal
- `Json.comparisonQuery` — the query of an operator, a property and a literal
- `Query.Matches` — a query is compiled, and a bag satisfies it
-/

namespace PropertyGraph

/-- The key has a value, and that value has an order with a literal. -/
def Properties.OrderedWith (bag : Properties) (key : String) (x : Value) : Prop :=
  ∃ v o, bag.get? key = some v ∧ v.looseCompare x = some o

/-! ## Operators -/

namespace CompareOp

variable {op : CompareOp} {v x : Value} {o : Ordering}

theorem holds_ne_eq_not (actual : Option Value) (x : Value) :
    ne.holds actual x = !eq.holds actual x := by
  cases actual <;> rfl

/-- **Where there is an order, it decides all six operators.** -/
theorem holds_of_looseCompare (h : v.looseCompare x = some o) (op : CompareOp) :
    op.holds (some v) x = op.admits o := by
  have heq : v.looseEq x = (o == .eq) := by
    rw [Bool.eq_iff_iff, Value.looseEq_iff v x h, beq_iff_eq]
  cases op with
  | eq => exact heq
  | ne => exact congrArg (! ·) heq
  | lt | le | ge | gt => exact congrArg (Option.any _) h

/-- Without an order, no operator holds that asks for one. -/
theorem holds_eq_false {bag : Properties} {key : String} (h : ¬bag.OrderedWith key x)
    (heq : op ≠ .eq) (hne : op ≠ .ne) : op.holds (bag.get? key) x = false := by
  rw [Bool.eq_false_iff]
  intro hholds
  cases hv : bag.get? key with
  | none =>
    rw [hv] at hholds
    exact hne (beq_iff_eq.1 hholds)
  | some v =>
    rw [hv, holds_some_iff heq hne] at hholds
    obtain ⟨o, ho, -⟩ := hholds
    exact h ⟨v, o, hv, ho⟩

/-- What the operators make of a key and a literal. -/
theorem holds_coherent (bag : Properties) (key : String) (x : Value) :
    let holds (op : CompareOp) := op.holds (bag.get? key) x = true
    (∀ op ∈ [lt, eq, gt], ∀ op' ∈ [lt, eq, gt], holds op → holds op' → op = op') ∧
      (holds le ↔ holds lt ∨ holds eq ∧ bag.OrderedWith key x) ∧
      (holds ge ↔ holds gt ∨ holds eq ∧ bag.OrderedWith key x) ∧
      (holds le → holds ge → holds eq) := by
  intro holds
  by_cases hordered : bag.OrderedWith key x
  · have ⟨v, o, hv, ho⟩ := hordered
    have hholds : ∀ op, holds op ↔ op.admits o = true := by
      intro op
      rw [← holds_of_looseCompare ho, ← hv]
    simp only [hholds, hordered, and_true]
    cases o <;> decide
  · have hfalse : ∀ op, op ≠ .eq → op ≠ .ne → ¬holds op := by
      intro op heq hne hop
      exact Bool.false_ne_true ((holds_eq_false hordered heq hne).symm.trans hop)
    have hlt := hfalse .lt (by decide) (by decide)
    have hle := hfalse .le (by decide) (by decide)
    have hge := hfalse .ge (by decide) (by decide)
    have hgt := hfalse .gt (by decide) (by decide)
    simp [hlt, hle, hge, hgt, hordered]

end CompareOp

/-! ## Queries -/

/-- The query that compares a property with a literal. -/
def Json.comparisonQuery (op : CompareOp) (key : String) (x : Json) : Json :=
  .object [(op.symbol, .object [(key, x)])]

namespace Query

/-- The query is compiled, and the bag satisfies it. -/
def Matches (source : Json) (bag : Properties) : Prop :=
  ∃ q, compile source = .ok q ∧ q.accepts bag = true

theorem compile_comparisonQuery {x : Json} (hx : x.Literal) (op : CompareOp) (key : String) :
    compile (Json.comparisonQuery op key x) =
      .ok ⟨Json.comparisonQuery op key x, .compare op key (.ofJson x)⟩ :=
  map_eq_ok_iff.2 ⟨_, Predicate.ofJson_eq_ok_iff.2 (.comparison op hx), rfl⟩

/-- A comparison with a literal asks its operator. -/
theorem matches_comparisonQuery_iff {x : Json} (hx : x.Literal) (op : CompareOp) (key : String)
    (bag : Properties) :
    Matches (Json.comparisonQuery op key x) bag ↔
      op.holds (bag.get? key) (.ofJson x) = true := by
  have hcompile := compile_comparisonQuery hx op key
  constructor
  · rintro ⟨q, hq, haccepts⟩
    rw [hcompile] at hq
    cases hq
    exact haccepts
  · exact fun h => ⟨_, hcompile, h⟩

/-- **Loose comparison is coherent, and so are the operators.** Loose equality is symmetric, the
loose order is reversed when two values change places, and where there is an order the values are
equal just if the order says so. So for every literal, the query for a difference matches where the
one for equality does not; less, equal and greater exclude each other; the two mixed operators add
equality to the strict ones, for values that have an order; and they hold together only in case of
equality. -/
theorem comparisons_coherent :
    (∀ v w : Value, v.looseEq w = w.looseEq v) ∧
    (∀ v w : Value, w.looseCompare v = (v.looseCompare w).map Ordering.swap) ∧
    (∀ (v w : Value) (o : Ordering), v.looseCompare w = some o →
      (v.looseEq w = true ↔ o = .eq)) ∧
    ∀ (bag : Properties) (key : String) (x : Json), x.Literal →
      let Holds (op : CompareOp) := Matches (Json.comparisonQuery op key x) bag
      (∀ op, ∃ q, compile (Json.comparisonQuery op key x) = .ok q) ∧
      (Holds .ne ↔ ¬Holds .eq) ∧
      (∀ op ∈ [CompareOp.lt, .eq, .gt], ∀ op' ∈ [CompareOp.lt, .eq, .gt],
        Holds op → Holds op' → op = op') ∧
      (Holds .le ↔ Holds .lt ∨ Holds .eq ∧ bag.OrderedWith key (.ofJson x)) ∧
      (Holds .ge ↔ Holds .gt ∨ Holds .eq ∧ bag.OrderedWith key (.ofJson x)) ∧
      (Holds .le → Holds .ge → Holds .eq) := by
  refine ⟨Value.looseEq_comm, Value.looseCompare_swap, fun v w o => Value.looseEq_iff v w, ?_⟩
  intro bag key x hx Holds
  have hholds : ∀ op, Holds op ↔ op.holds (bag.get? key) (.ofJson x) = true :=
    fun op => matches_comparisonQuery_iff hx op key bag
  refine ⟨fun op => ⟨_, compile_comparisonQuery hx op key⟩, ?_, ?_⟩
  · rw [hholds, hholds, CompareOp.holds_ne_eq_not, Bool.not_eq_true', Bool.not_eq_true]
  · simp only [hholds]
    exact CompareOp.holds_coherent bag key (.ofJson x)

/-- Lists with an incomparable pair of items behind an unequal one: they have an order, so they
are not equal, and only the operators for "less" match. -/
theorem comparisons_coherent_lists :
    let items := Value.list [.integer 2, .unset]
    let x := Json.array [.number (.integer 3), .null]
    let bag := Properties.ofList [("p", items)]
    items.looseCompare (.ofJson x) = some .lt ∧ items.looseEq (.ofJson x) = false ∧ x.Literal ∧
      Matches (Json.comparisonQuery .le "p" x) bag ∧
      ¬Matches (Json.comparisonQuery .ge "p" x) bag := by
  intro items x bag
  obtain ⟨-, -, hequal, hqueries⟩ := comparisons_coherent
  have horder : items.looseCompare (.ofJson x) = some .lt := rfl
  have hx : x.Literal := (Json.isLiteral_iff x).1 rfl
  have hless : Matches (Json.comparisonQuery .lt "p" x) bag :=
    (matches_comparisonQuery_iff hx .lt "p" bag).2 rfl
  obtain ⟨-, -, hone, hle, -, hboth⟩ := hqueries bag "p" x hx
  have hlessOrEqual := hle.2 (.inl hless)
  refine ⟨horder, ?_, hx, hlessOrEqual, fun hge => ?_⟩
  · rw [Bool.eq_false_iff]
    exact fun h => nomatch (hequal _ _ _ horder).1 h
  · -- both mixed operators would make the lists equal
    exact nomatch hone .lt (by decide) .eq (by decide) hless (hboth hlessOrEqual hge)

end Query

end PropertyGraph
