import PropertyGraph.Proofs.Properties
import PropertyGraph.Query.Compile

/-!
# What queries mean

The grammar of queries, and what a query says of a property bag, are read off its JSON, without a
predicate in between.

## Main definitions

- `Json.InArrays`, `Json.Literal` — values inside arrays, and values without objects
- `Properties.Compares` — a key compares with a literal as an operator asks
- `Json.IsExpression`, `Json.IsQuery` — the grammar
- `Json.Describes`, `Json.Asks` — what a query says of a bag
-/

namespace PropertyGraph

namespace Json

/-! ## Literals -/

/-- A value stands inside another one, at any depth of arrays. -/
inductive InArrays (i : Json) : Json → Prop
  | self : InArrays i i
  | item {j : Json} {items : List Json} : j ∈ items → InArrays i j → InArrays i (.array items)

/-- No object stands inside the value. -/
def Literal (j : Json) : Prop := ∀ members, ¬InArrays (.object members) j

theorem areLiterals_iff {items : List Json} :
    areLiterals items = true ↔ ∀ j ∈ items, j.isLiteral = true := by
  induction items with
  | nil => simp [areLiterals]
  | cons j rest ih => simp [areLiterals, ih]

theorem inArrays_array_iff {i : Json} {items : List Json} (hi : ∀ items', i ≠ .array items') :
    InArrays i (.array items) ↔ ∃ j ∈ items, InArrays i j := by
  constructor
  · intro h
    cases h with
    | self => exact absurd rfl (hi items)
    | item hj h => exact ⟨_, hj, h⟩
  · rintro ⟨j, hj, h⟩
    exact .item hj h

theorem literal_array_iff {items : List Json} :
    Literal (.array items) ↔ ∀ j ∈ items, j.Literal := by
  have harray : ∀ members, InArrays (.object members) (.array items) ↔
      ∃ j ∈ items, InArrays (.object members) j :=
    fun members => inArrays_array_iff (by simp)
  constructor
  · exact fun h j hj members hin => h members ((harray members).2 ⟨j, hj, hin⟩)
  · intro h members hin
    obtain ⟨j, hj, hin⟩ := (harray members).1 hin
    exact h j hj members hin

/-- A value that is no array is a literal unless it is an object. -/
theorem literal_of_atom {j : Json} (harray : ∀ items, j ≠ .array items)
    (hobject : ∀ members, j ≠ .object members) : j.Literal := by
  intro members h
  cases h with
  | self => exact hobject members rfl
  | item => exact harray _ rfl

/-- The check for literals finds objects at any depth of arrays. -/
theorem isLiteral_iff : ∀ j : Json, j.isLiteral = true ↔ j.Literal
  | .null | .bool _ | .number _ | .string _ =>
    iff_of_true rfl (literal_of_atom (by simp) (by simp))
  | .object members => iff_of_false Bool.false_ne_true fun h => h members .self
  | .array items => by
    rw [literal_array_iff, isLiteral, areLiterals_iff]
    exact forall_congr' fun j => imp_congr_right fun hj => isLiteral_iff j
termination_by j => sizeOf j
decreasing_by
  have := List.sizeOf_lt_of_mem hj
  simp only [array.sizeOf_spec]
  omega

end Json

/-! ## Operators -/

namespace CompareOp

theorem ofSymbol?_symbol (op : CompareOp) : ofSymbol? op.symbol = some op := by
  cases op <;> rfl

theorem ofSymbol?_eq_some_iff {s : String} {op : CompareOp} :
    ofSymbol? s = some op ↔ s = op.symbol := by
  constructor
  · intro h
    have hfound := List.find?_some h
    exact (beq_iff_eq.1 hfound).symm
  · rintro rfl
    exact ofSymbol?_symbol op

/-- The orders of a value and a literal that satisfy an operator; equality and its negation do not
ask for an order. -/
def Orders : CompareOp → Ordering → Prop
  | .lt, o => o = .lt
  | .le, o => o = .lt ∨ o = .eq
  | .ge, o => o = .gt ∨ o = .eq
  | .gt, o => o = .gt
  | .eq, _ => False
  | .ne, _ => False

theorem admits_iff_orders {op : CompareOp} (heq : op ≠ .eq) (hne : op ≠ .ne) (o : Ordering) :
    op.admits o = true ↔ op.Orders o := by
  cases op with
  | eq => exact absurd rfl heq
  | ne => exact absurd rfl hne
  | lt | le | ge | gt => cases o <;> simp [admits, Orders]

/-- An ordering operator looks at the order, where there is one. -/
theorem holds_some_iff {op : CompareOp} (heq : op ≠ .eq) (hne : op ≠ .ne) (v x : Value) :
    op.holds (some v) x = true ↔ ∃ o, v.looseCompare x = some o ∧ op.Orders o := by
  have hany : op.holds (some v) x = (v.looseCompare x).any op.admits := by
    cases op with
    | eq => exact absurd rfl heq
    | ne => exact absurd rfl hne
    | lt | le | ge | gt => rfl
  rw [hany, Option.any_eq_true]
  simp only [admits_iff_orders heq hne]

end CompareOp

/-- **A key of a bag compares with a literal as an operator asks.** A key that is missing, or holds
a deletion marker, is different from every literal and satisfies nothing else. -/
inductive Properties.Compares (bag : Properties) (key : String) : CompareOp → Value → Prop
  | missing {x : Value} :
      bag.entries.get? key = none ∨ bag.entries.get? key = some .unset → Compares bag key .ne x
  | equal {v x : Value} : bag.entries.get? key = some v → v ≠ .unset →
      v.looseEq x = true → Compares bag key .eq x
  | different {v x : Value} : bag.entries.get? key = some v → v ≠ .unset →
      v.looseEq x = false → Compares bag key .ne x
  | ordered {op : CompareOp} {v x : Value} {o : Ordering} :
      bag.entries.get? key = some v → v ≠ .unset →
      v.looseCompare x = some o → op.Orders o → Compares bag key op x

namespace Properties

variable {bag : Properties} {key : String}

theorem get?_eq_some_iff_ne {v : Value} :
    bag.get? key = some v ↔ bag.entries.get? key = some v ∧ v ≠ .unset := by
  rw [get?_eq_some_iff, ← Bool.not_eq_true, Value.isUnset_iff]

theorem get?_eq_none_iff :
    bag.get? key = none ↔
      bag.entries.get? key = none ∨ bag.entries.get? key = some .unset := by
  rw [get?]
  cases bag.entries.get? key with
  | none => simp
  | some v => simp [Option.filter_eq_none_iff, Value.isUnset_iff]

/-- How a key that has a value compares. -/
theorem compares_iff_of_get? {op : CompareOp} {v x : Value} (h : bag.get? key = some v) :
    bag.Compares key op x ↔
      op = .eq ∧ v.looseEq x = true ∨ op = .ne ∧ v.looseEq x = false ∨
        ∃ o, v.looseCompare x = some o ∧ op.Orders o := by
  obtain ⟨hentry, hset⟩ := get?_eq_some_iff_ne.1 h
  have hsame : ∀ {w}, bag.entries.get? key = some w → w = v := by
    intro w hw
    rw [hentry] at hw
    cases hw
    rfl
  constructor
  · intro hcompares
    cases hcompares with
    | missing hmissing =>
      rw [hentry] at hmissing
      simp [hset] at hmissing
    | equal hw _ heq => exact .inl ⟨rfl, hsame hw ▸ heq⟩
    | different hw _ hne => exact .inr (.inl ⟨rfl, hsame hw ▸ hne⟩)
    | ordered hw _ hcompare horders => exact .inr (.inr ⟨_, hsame hw ▸ hcompare, horders⟩)
  · rintro (⟨rfl, heq⟩ | ⟨rfl, hne⟩ | ⟨o, hcompare, horders⟩)
    · exact .equal hentry hset heq
    · exact .different hentry hset hne
    · exact .ordered hentry hset hcompare horders

/-- **Operators are evaluated as they compare.** -/
theorem holds_iff_compares {op : CompareOp} {x : Value} :
    op.holds (bag.get? key) x = true ↔ bag.Compares key op x := by
  cases hread : bag.get? key with
  | none =>
    have hmissing := get?_eq_none_iff.1 hread
    constructor
    · intro h
      have hne : op = .ne := beq_iff_eq.1 h
      exact hne ▸ .missing hmissing
    · intro h
      cases h with
      | missing => rfl
      | equal hv hset | different hv hset | ordered hv hset =>
        rw [get?_eq_some_iff_ne.2 ⟨hv, hset⟩] at hread
        cases hread
  | some v =>
    rw [compares_iff_of_get? hread]
    cases op with
    | eq => simp [CompareOp.holds, CompareOp.Orders]
    | ne => simp [CompareOp.holds, CompareOp.Orders]
    | lt | le | ge | gt =>
      rw [CompareOp.holds_some_iff (by decide) (by decide)]
      simp

end Properties

/-! ## The grammar -/

namespace Json

/-- The keys of an object that is no equality with a property. -/
def queryWords : List String := ["and", "or", "<", "<=", "==", "!=", ">=", ">"]

/-- **The expressions**: queries that may stand anywhere. -/
inductive IsExpression : Json → Prop
  | all {items : List Json} : items ≠ [] → (∀ j ∈ items, IsExpression j) →
      IsExpression (.object [("and", .array items)])
  | any {items : List Json} : items ≠ [] → (∀ j ∈ items, IsExpression j) →
      IsExpression (.object [("or", .array items)])
  | comparison (op : CompareOp) {key : String} {literal : Json} : literal.Literal →
      IsExpression (.object [(op.symbol, .object [(key, literal)])])

/-- **The queries**: expressions, and an equality at the outermost level. -/
inductive IsQuery : Json → Prop
  | expression {j : Json} : IsExpression j → IsQuery j
  | equality {key : String} {literal : Json} : key ∉ queryWords → literal.Literal →
      IsQuery (.object [(key, literal)])

/-- **What an expression says of a bag.** -/
inductive Describes (bag : Properties) : Json → Prop
  | all {items : List Json} : (∀ j ∈ items, Describes bag j) →
      Describes bag (.object [("and", .array items)])
  | any {items : List Json} {j : Json} : j ∈ items → Describes bag j →
      Describes bag (.object [("or", .array items)])
  | comparison {op : CompareOp} {key : String} {literal : Json} :
      bag.Compares key op (.ofJson literal) →
      Describes bag (.object [(op.symbol, .object [(key, literal)])])

/-- **What a query asks of a bag.** -/
inductive Asks (bag : Properties) : Json → Prop
  | expression {j : Json} : Describes bag j → Asks bag j
  | equality {key : String} {literal : Json} : key ∉ queryWords →
      bag.Compares key .eq (.ofJson literal) → Asks bag (.object [(key, literal)])

section Describes

variable {bag : Properties} {items : List Json}

/-- The forms of what describes a bag. -/
theorem describes_iff {j : Json} :
    Describes bag j ↔
      (∃ items, j = .object [("and", .array items)] ∧ ∀ i ∈ items, Describes bag i) ∨
      (∃ items, j = .object [("or", .array items)] ∧ ∃ i ∈ items, Describes bag i) ∨
      ∃ op key literal, j = .object [(CompareOp.symbol op, .object [(key, literal)])] ∧
        bag.Compares key op (.ofJson literal) := by
  constructor
  · intro h
    cases h with
    | all hitems => exact .inl ⟨_, rfl, hitems⟩
    | any hi hdescribes => exact .inr (.inl ⟨_, rfl, _, hi, hdescribes⟩)
    | comparison hcompares => exact .inr (.inr ⟨_, _, _, rfl, hcompares⟩)
  · rintro (⟨items, rfl, hitems⟩ | ⟨items, rfl, i, hi, hdescribes⟩ |
      ⟨op, key, literal, rfl, hcompares⟩)
    · exact .all hitems
    · exact .any hi hdescribes
    · exact .comparison hcompares

theorem describes_all_iff :
    Describes bag (.object [("and", .array items)]) ↔ ∀ j ∈ items, Describes bag j := by
  rw [describes_iff]
  simp

theorem describes_any_iff :
    Describes bag (.object [("or", .array items)]) ↔ ∃ j ∈ items, Describes bag j := by
  rw [describes_iff]
  simp

theorem describes_comparison_iff {op : CompareOp} {key : String} {literal : Json} :
    Describes bag (.object [(op.symbol, .object [(key, literal)])]) ↔
      bag.Compares key op (.ofJson literal) := by
  rw [describes_iff]
  constructor
  · rintro (⟨items, hj, -⟩ | ⟨items, hj, -⟩ | ⟨op', key', literal', hj, hcompares⟩)
    · simp at hj
    · simp at hj
    · have hop : CompareOp.ofSymbol? op.symbol = CompareOp.ofSymbol? op'.symbol := by
        simp only [object.injEq, List.cons.injEq, Prod.mk.injEq] at hj
        rw [hj.1.1]
      simp only [CompareOp.ofSymbol?_symbol, Option.some.injEq] at hop
      subst hop
      simp at hj
      obtain ⟨rfl, rfl⟩ := hj
      exact hcompares
  · exact fun h => .inr (.inr ⟨op, key, literal, rfl, h⟩)

end Describes

theorem symbol_mem_queryWords (op : CompareOp) : op.symbol ∈ queryWords := by
  cases op <;> simp [CompareOp.symbol, queryWords]

theorem notMem_queryWords_iff {key : String} :
    key ∉ queryWords ↔
      key ≠ Connective.and.word ∧ key ≠ Connective.or.word ∧ CompareOp.ofSymbol? key = none := by
  constructor
  · intro h
    refine ⟨?_, ?_, ?_⟩
    · rintro rfl
      exact h (by simp [queryWords, Connective.word])
    · rintro rfl
      exact h (by simp [queryWords, Connective.word])
    · cases hop : CompareOp.ofSymbol? key with
      | none => rfl
      | some op =>
        rw [CompareOp.ofSymbol?_eq_some_iff] at hop
        exact absurd (hop ▸ symbol_mem_queryWords op) h
  · rintro ⟨hand, hor, hop⟩ hmem
    have hsymbol : ∀ op : CompareOp, key ≠ op.symbol := by
      rintro op rfl
      rw [CompareOp.ofSymbol?_symbol] at hop
      cases hop
    simp only [queryWords, List.mem_cons, List.not_mem_nil, or_false] at hmem
    rcases hmem with h | h | h | h | h | h | h | h
    · exact hand h
    · exact hor h
    · exact hsymbol .lt h
    · exact hsymbol .le h
    · exact hsymbol .eq h
    · exact hsymbol .ne h
    · exact hsymbol .ge h
    · exact hsymbol .gt h

/-! ## Expressions and equalities -/

section Asks

variable {bag : Properties} {j : Json} {key : String} {literal : Json}

theorem IsExpression.key_mem (h : j.IsExpression) (hj : j = .object [(key, literal)]) :
    key ∈ queryWords := by
  cases h with
  | all | any =>
    cases hj
    simp [queryWords]
  | comparison op =>
    simp only [object.injEq, List.cons.injEq, Prod.mk.injEq] at hj
    exact hj.1.1 ▸ symbol_mem_queryWords op

theorem Describes.key_mem (h : Describes bag j) (hj : j = .object [(key, literal)]) :
    key ∈ queryWords := by
  cases h with
  | all | any =>
    cases hj
    simp [queryWords]
  | @comparison op =>
    simp only [object.injEq, List.cons.injEq, Prod.mk.injEq] at hj
    exact hj.1.1 ▸ symbol_mem_queryWords op

/-- An expression is no equality, so that the level it stands at does not matter. -/
theorem IsExpression.asks_iff (h : j.IsExpression) : Asks bag j ↔ Describes bag j := by
  constructor
  · intro hasks
    cases hasks with
    | expression hdescribes => exact hdescribes
    | equality hkey => exact absurd (h.key_mem rfl) hkey
  · exact .expression

theorem asks_equality_iff (hkey : key ∉ queryWords) :
    Asks bag (.object [(key, literal)]) ↔ bag.Compares key .eq (.ofJson literal) := by
  constructor
  · intro hasks
    cases hasks with
    | expression hdescribes => exact absurd (hdescribes.key_mem rfl) hkey
    | equality _ hcompares => exact hcompares
  · exact .equality hkey

end Asks

end Json

end PropertyGraph
