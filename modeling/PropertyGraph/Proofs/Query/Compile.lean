import PropertyGraph.Proofs.Except
import PropertyGraph.Proofs.Query.Meaning

/-!
# The query compiler

The compiler accepts what the grammar of queries allows and nothing else, and the predicate that
it makes holds of the bags that the query asks for. One step of it is an inductive relation, with
a constructor for each form that is accepted; what holds of whole queries follows by recursion on
their JSON.

## Main definitions

- `Predicate.Compiled` — one step of the compiler
-/

namespace PropertyGraph

theorem Json.sizeOf_lt_of_joined {word : String} {j : Json} {items : List Json} (hj : j ∈ items) :
    sizeOf j < sizeOf (Json.object [(word, .array items)]) := by
  have hlt := List.sizeOf_lt_of_mem hj
  simp only [Json.object.sizeOf_spec, Json.array.sizeOf_spec, List.cons.sizeOf_spec,
    Prod.mk.sizeOf_spec]
  omega

/-! ## One step of the compiler -/

namespace Predicate

variable {outermost : Bool} {j : Json} {p : Predicate} {items : List Json}
  {parts : List Predicate} {err : GraphError}

/-- How an object is compiled, given how lists are. -/
inductive Compiled (outermost : Bool) : Json → Predicate → Prop
  | all {items : List Json} {parts : List Predicate} : items ≠ [] → ofItems items = .ok parts →
      Compiled outermost (.object [("and", .array items)]) (.all parts)
  | any {items : List Json} {parts : List Predicate} : items ≠ [] → ofItems items = .ok parts →
      Compiled outermost (.object [("or", .array items)]) (.any parts)
  | comparison (op : CompareOp) {key : String} {literal : Json} : literal.Literal →
      Compiled outermost (.object [(op.symbol, .object [(key, literal)])])
        (.compare op key (.ofJson literal))
  | equality {key : String} {literal : Json} : outermost = true → key ∉ Json.queryWords →
      literal.Literal →
      Compiled outermost (.object [(key, literal)]) (.compare .eq key (.ofJson literal))

theorem ofComparison_eq_ok_iff {op : CompareOp} :
    ofComparison op j = .ok p ↔
      ∃ key literal, j = .object [(key, literal)] ∧ literal.Literal ∧
        p = .compare op key (.ofJson literal) := by
  constructor
  · intro h
    unfold ofComparison at h
    split at h
    · rename_i key literal
      split at h
      · rename_i hliteral
        cases h
        exact ⟨key, literal, rfl, (Json.isLiteral_iff literal).1 hliteral, rfl⟩
      · cases h
    · cases h
    · cases h
    · cases h
  · rintro ⟨key, literal, rfl, hliteral, rfl⟩
    exact if_pos ((Json.isLiteral_iff literal).2 hliteral)

theorem ofMember_eq_ok_iff {key : String} :
    ofMember outermost key j = .ok p ↔
      (∃ op, key = CompareOp.symbol op ∧ ofComparison op j = .ok p) ∨
        CompareOp.ofSymbol? key = none ∧ outermost = true ∧ j.Literal ∧
          p = .compare .eq key (.ofJson j) := by
  rw [ofMember]
  cases hop : CompareOp.ofSymbol? key with
  | some op =>
    have hkey := CompareOp.ofSymbol?_eq_some_iff.1 hop
    subst hkey
    constructor
    · exact fun h => .inl ⟨op, rfl, h⟩
    · rintro (⟨op', hsame, h⟩ | ⟨h, -⟩)
      · have heq : some op = some op' := by
          rw [← CompareOp.ofSymbol?_symbol op, hsame, CompareOp.ofSymbol?_symbol]
        cases heq
        exact h
      · cases h
  | none =>
    have hnone : ∀ op : CompareOp, key ≠ op.symbol := by
      rintro op rfl
      rw [CompareOp.ofSymbol?_symbol] at hop
      cases hop
    have hcheck : (outermost && j.isLiteral) = true ↔ outermost = true ∧ j.Literal := by
      rw [Bool.and_eq_true, Json.isLiteral_iff]
    constructor
    · intro h
      dsimp only at h
      split at h
      · rename_i hok
        cases h
        exact .inr ⟨rfl, (hcheck.1 hok).1, (hcheck.1 hok).2, rfl⟩
      · cases h
    · rintro (⟨op, hkey, -⟩ | ⟨-, houtermost, hliteral, rfl⟩)
      · exact absurd hkey (hnone op)
      · exact if_pos (hcheck.2 ⟨houtermost, hliteral⟩)

theorem ofOperand_eq_ok_iff {c : Connective} :
    ofOperand c j = .ok parts ↔
      ∃ items, j = .array items ∧ items ≠ [] ∧ ofItems items = .ok parts := by
  constructor
  · intro h
    cases j with
    | array items =>
      rw [ofOperand] at h
      split at h
      · cases h
      · rename_i hne
        exact ⟨items, rfl, by simpa using hne, h⟩
    | null | bool | number | string | object => cases h
  · rintro ⟨items, rfl, hne, h⟩
    rw [ofOperand, if_neg (by simpa using hne), h]

/-- **One step of the compiler**: what is compiled, and to what. -/
theorem ofJson_eq_ok_iff : ofJson outermost j = .ok p ↔ Compiled outermost j p := by
  constructor
  · intro h
    cases j with
    | null | bool | number | string | array => cases h
    | object members =>
      rw [ofJson] at h
      cases members with
      | nil => cases h
      | cons e rest =>
        obtain ⟨key, operand⟩ := e
        rw [ofMembers] at h
        split at h
        · rename_i hrest
          obtain rfl := List.isEmpty_iff.1 hrest
          split at h
          · rename_i hand
            subst hand
            obtain ⟨parts, hparts, rfl⟩ := map_eq_ok_iff.1 h
            obtain ⟨items, rfl, hne, hitems⟩ := ofOperand_eq_ok_iff.1 hparts
            exact .all hne hitems
          · split at h
            · rename_i hor
              subst hor
              obtain ⟨parts, hparts, rfl⟩ := map_eq_ok_iff.1 h
              obtain ⟨items, rfl, hne, hitems⟩ := ofOperand_eq_ok_iff.1 hparts
              exact .any hne hitems
            · rename_i hand hor
              rcases ofMember_eq_ok_iff.1 h with ⟨op, rfl, hop⟩ | ⟨hop, houtermost, hliteral, rfl⟩
              · obtain ⟨key, literal, rfl, hliteral, rfl⟩ := ofComparison_eq_ok_iff.1 hop
                exact .comparison op hliteral
              · exact .equality houtermost (Json.notMem_queryWords_iff.2 ⟨hand, hor, hop⟩) hliteral
        · cases h
  · intro h
    cases h with
    | all hne hitems =>
      exact map_eq_ok_iff.2 ⟨_, ofOperand_eq_ok_iff.2 ⟨_, rfl, hne, hitems⟩, rfl⟩
    | any hne hitems =>
      exact map_eq_ok_iff.2 ⟨_, ofOperand_eq_ok_iff.2 ⟨_, rfl, hne, hitems⟩, rfl⟩
    | @comparison op key literal hliteral =>
      have hcomparison : ofComparison op (.object [(key, literal)]) =
          .ok (.compare op key (.ofJson literal)) :=
        ofComparison_eq_ok_iff.2 ⟨key, literal, rfl, hliteral, rfl⟩
      have hmember : ofMember outermost op.symbol (.object [(key, literal)]) =
          .ok (.compare op key (.ofJson literal)) :=
        ofMember_eq_ok_iff.2 (.inl ⟨op, rfl, hcomparison⟩)
      cases op <;> exact hmember
    | equality houtermost hkey hliteral =>
      obtain ⟨hand, hor, hop⟩ := Json.notMem_queryWords_iff.1 hkey
      rw [ofJson, ofMembers, if_pos List.isEmpty_nil, if_neg hand, if_neg hor]
      exact ofMember_eq_ok_iff.2 (.inr ⟨hop, houtermost, hliteral, rfl⟩)

/-! ## Lists of expressions -/

theorem ofItems_eq_mapM : ofItems items = items.mapM (ofJson false) := by
  induction items with
  | nil => rfl
  | cons j rest ih =>
    rw [ofItems, List.mapM_cons, ih]

theorem exists_ofJson_of_mem (h : ofItems items = .ok parts) (hj : j ∈ items) :
    ∃ p, ofJson false j = .ok p := by
  rw [ofItems_eq_mapM] at h
  obtain ⟨p, -, hp⟩ := exists_of_mem_mapM h hj
  exact ⟨p, hp⟩

theorem allHold_ofItems {bag : Properties} {describes : Json → Prop}
    (h : ∀ j ∈ items, ∀ p, ofJson false j = .ok p → (p.holds bag = true ↔ describes j))
    (hparts : ofItems items = .ok parts) :
    allHold bag parts = true ↔ ∀ j ∈ items, describes j := by
  rw [ofItems_eq_mapM] at hparts
  induction items generalizing parts with
  | nil =>
    cases hparts
    simp [allHold]
  | cons j rest ih =>
    obtain ⟨p, tail, hp, htail, rfl⟩ := mapM_cons_eq_ok_iff.1 hparts
    rw [allHold, Bool.and_eq_true, h j List.mem_cons_self p hp, List.forall_mem_cons,
      ih (fun i hi => h i (List.mem_cons_of_mem _ hi)) htail]

theorem anyHolds_ofItems {bag : Properties} {describes : Json → Prop}
    (h : ∀ j ∈ items, ∀ p, ofJson false j = .ok p → (p.holds bag = true ↔ describes j))
    (hparts : ofItems items = .ok parts) :
    anyHolds bag parts = true ↔ ∃ j ∈ items, describes j := by
  rw [ofItems_eq_mapM] at hparts
  induction items generalizing parts with
  | nil =>
    cases hparts
    simp [anyHolds]
  | cons j rest ih =>
    obtain ⟨p, tail, hp, htail, rfl⟩ := mapM_cons_eq_ok_iff.1 hparts
    rw [anyHolds, Bool.or_eq_true, h j List.mem_cons_self p hp,
      ih (fun i hi => h i (List.mem_cons_of_mem _ hi)) htail]
    simp only [List.mem_cons, exists_eq_or_imp]

/-! ## Expressions -/

/-- What is compiled inside a query is an expression, and its predicate holds of the bags that the
expression describes. -/
theorem describes_of_ofJson : ∀ (j : Json) {p : Predicate}, ofJson false j = .ok p →
    j.IsExpression ∧ ∀ bag, p.holds bag = true ↔ j.Describes bag
  | j, p, h => by
    -- the recursion is on the size of the query: the items of a list are smaller than the list
    cases ofJson_eq_ok_iff.1 h with
    | @all items parts hne hitems =>
      have ih : ∀ i ∈ items, ∀ q, ofJson false i = .ok q →
          i.IsExpression ∧ ∀ bag, q.holds bag = true ↔ i.Describes bag :=
        fun i hi q hq => describes_of_ofJson i hq
      refine ⟨.all hne fun i hi => ?_, fun bag => ?_⟩
      · obtain ⟨q, hq⟩ := exists_ofJson_of_mem hitems hi
        exact (ih i hi q hq).1
      · rw [holds, allHold_ofItems (fun i hi q hq => (ih i hi q hq).2 bag) hitems,
          Json.describes_all_iff]
    | @any items parts hne hitems =>
      have ih : ∀ i ∈ items, ∀ q, ofJson false i = .ok q →
          i.IsExpression ∧ ∀ bag, q.holds bag = true ↔ i.Describes bag :=
        fun i hi q hq => describes_of_ofJson i hq
      refine ⟨.any hne fun i hi => ?_, fun bag => ?_⟩
      · obtain ⟨q, hq⟩ := exists_ofJson_of_mem hitems hi
        exact (ih i hi q hq).1
      · rw [holds, anyHolds_ofItems (fun i hi q hq => (ih i hi q hq).2 bag) hitems,
          Json.describes_any_iff]
    | comparison op hliteral =>
      refine ⟨.comparison op hliteral, fun bag => ?_⟩
      rw [holds, Properties.holds_iff_compares, Json.describes_comparison_iff]
    | equality houtermost => cases houtermost
termination_by j => sizeOf j
decreasing_by
  all_goals
    subst j
    exact Json.sizeOf_lt_of_joined hi

/-- Every expression is compiled. -/
theorem exists_ofJson (h : j.IsExpression) : ∃ p, ofJson outermost j = .ok p := by
  have hlist : ∀ {items : List Json}, (∀ i ∈ items, ∃ p, ofJson false i = .ok p) →
      ∃ parts, ofItems items = .ok parts := by
    intro items hitems
    obtain ⟨parts, hparts, -⟩ := exists_mapM_eq_ok hitems
    exact ⟨parts, ofItems_eq_mapM.trans hparts⟩
  induction h generalizing outermost with
  | all hne _ ih =>
    obtain ⟨parts, hparts⟩ := hlist fun i hi => ih i hi
    exact ⟨.all parts, ofJson_eq_ok_iff.2 (.all hne hparts)⟩
  | any hne _ ih =>
    obtain ⟨parts, hparts⟩ := hlist fun i hi => ih i hi
    exact ⟨.any parts, ofJson_eq_ok_iff.2 (.any hne hparts)⟩
  | comparison op hliteral => exact ⟨_, ofJson_eq_ok_iff.2 (.comparison op hliteral)⟩

/-- What the outermost level accepts beyond expressions. -/
theorem ofJson_outermost_iff :
    ofJson true j = .ok p ↔ ofJson false j = .ok p ∨
      ∃ key literal, key ∉ Json.queryWords ∧ literal.Literal ∧
        j = .object [(key, literal)] ∧ p = .compare .eq key (.ofJson literal) := by
  rw [ofJson_eq_ok_iff, ofJson_eq_ok_iff]
  constructor
  · intro h
    cases h with
    | all hne hitems => exact .inl (.all hne hitems)
    | any hne hitems => exact .inl (.any hne hitems)
    | comparison op hliteral => exact .inl (.comparison op hliteral)
    | equality _ hkey hliteral => exact .inr ⟨_, _, hkey, hliteral, rfl, rfl⟩
  · rintro (h | ⟨key, literal, hkey, hliteral, rfl, rfl⟩)
    · cases h with
      | all hne hitems => exact .all hne hitems
      | any hne hitems => exact .any hne hitems
      | comparison op hliteral => exact .comparison op hliteral
      | equality houtermost => cases houtermost
    · exact .equality rfl hkey hliteral

/-- What is compiled at the outermost level is a query, and its predicate holds of the bags that
the query asks for. -/
theorem asks_of_ofJson (h : ofJson true j = .ok p) :
    j.IsQuery ∧ ∀ bag, p.holds bag = true ↔ j.Asks bag := by
  rcases ofJson_outermost_iff.1 h with h | ⟨key, literal, hkey, hliteral, rfl, rfl⟩
  · obtain ⟨hexpression, hholds⟩ := describes_of_ofJson j h
    exact ⟨.expression hexpression, fun bag => (hholds bag).trans hexpression.asks_iff.symm⟩
  · refine ⟨.equality hkey hliteral, fun bag => ?_⟩
    rw [holds, Properties.holds_iff_compares, Json.asks_equality_iff hkey]

theorem exists_ofJson_of_isQuery (h : j.IsQuery) : ∃ p, ofJson true j = .ok p := by
  cases h with
  | expression h => exact exists_ofJson h
  | equality hkey hliteral => exact ⟨_, ofJson_eq_ok_iff.2 (.equality rfl hkey hliteral)⟩

/-! ## Refused queries -/

theorem ofComparison_eq_error {op : CompareOp} (h : ofComparison op j = .error err) :
    ∃ fault, err = .invalidQuery fault := by
  unfold ofComparison at h
  split at h
  · split at h
    · cases h
    · cases h
      exact ⟨_, rfl⟩
  all_goals
    cases h
    exact ⟨_, rfl⟩

theorem ofMember_eq_error {key : String} (h : ofMember outermost key j = .error err) :
    ∃ fault, err = .invalidQuery fault := by
  unfold ofMember at h
  split at h
  · exact ofComparison_eq_error h
  · split at h
    · cases h
    · cases h
      exact ⟨_, rfl⟩

theorem ofOperand_eq_error {c : Connective} (h : ofOperand c j = .error err) :
    (∃ fault, err = .invalidQuery fault) ∨
      ∃ items, j = .array items ∧ ∃ i ∈ items, ofJson false i = .error err := by
  cases j with
  | array items =>
    rw [ofOperand] at h
    split at h
    · cases h
      exact .inl ⟨_, rfl⟩
    · rw [ofItems_eq_mapM] at h
      exact .inr ⟨items, rfl, exists_error_of_mapM h⟩
  | null | bool | number | string | object =>
    cases h
    exact .inl ⟨_, rfl⟩

/-- One step of a failure: a fault of this level, or of an item of its list. -/
theorem ofJson_eq_error (h : ofJson outermost j = .error err) :
    (∃ fault, err = .invalidQuery fault) ∨
      ∃ word items, j = .object [(word, .array items)] ∧
        ∃ i ∈ items, ofJson false i = .error err := by
  have hjoined : ∀ {c : Connective} {join : List Predicate → Predicate} {key : String}
      {operand : Json}, (ofOperand c operand).map join = .error err →
      (∃ fault, err = .invalidQuery fault) ∨
        ∃ word items, .object [(key, operand)] = Json.object [(word, .array items)] ∧
          ∃ i ∈ items, ofJson false i = .error err := by
    intro c join key operand h
    rcases ofOperand_eq_error (map_eq_error_iff.1 h) with hfault | ⟨items, rfl, hitems⟩
    · exact .inl hfault
    · exact .inr ⟨key, items, rfl, hitems⟩
  cases j with
  | null | bool | number | string | array =>
    cases h
    exact .inl ⟨_, rfl⟩
  | object members =>
    rw [ofJson] at h
    cases members with
    | nil =>
      cases h
      exact .inl ⟨_, rfl⟩
    | cons e rest =>
      rw [ofMembers] at h
      split at h
      · rename_i hrest
        obtain rfl := List.isEmpty_iff.1 hrest
        split at h
        · exact hjoined h
        · split at h
          · exact hjoined h
          · exact .inl (ofMember_eq_error h)
      · cases h
        exact .inl ⟨_, rfl⟩

/-- **A query is refused with what is wrong with it.** -/
theorem invalidQuery_of_ofJson : ∀ (j : Json) {outermost : Bool} {err : GraphError},
    ofJson outermost j = .error err → ∃ fault, err = .invalidQuery fault
  | j, outermost, err, h => by
    rcases ofJson_eq_error h with hfault | ⟨word, items, hj, i, hi, herr⟩
    · exact hfault
    · exact invalidQuery_of_ofJson i herr
termination_by j => sizeOf j
decreasing_by
  subst j
  exact Json.sizeOf_lt_of_joined hi

end Predicate

namespace Query

/-- **The compiler accepts the queries and nothing else, and keeps what they mean.** -/
theorem compile_exact (j : Json) :
    ((∃ q, compile j = .ok q) ↔ j.IsQuery) ∧
      (¬j.IsQuery → ∃ fault, compile j = .error (.invalidQuery fault)) ∧
      ∀ q, compile j = .ok q → ∀ bag, q.accepts bag = true ↔ j.Asks bag := by
  have hmeans : ∀ q, compile j = .ok q →
      j.IsQuery ∧ ∀ bag, q.accepts bag = true ↔ j.Asks bag := by
    intro q hq
    obtain ⟨p, hp, rfl⟩ := map_eq_ok_iff.1 hq
    exact Predicate.asks_of_ofJson hp
  refine ⟨⟨?_, ?_⟩, ?_, fun q hq => (hmeans q hq).2⟩
  · rintro ⟨q, hq⟩
    exact (hmeans q hq).1
  · intro hquery
    obtain ⟨p, hp⟩ := Predicate.exists_ofJson_of_isQuery hquery
    exact ⟨⟨j, p⟩, map_eq_ok_iff.2 ⟨p, hp, rfl⟩⟩
  · intro hquery
    cases hp : Predicate.ofJson true j with
    | ok p => exact absurd (Predicate.asks_of_ofJson hp).1 hquery
    | error err =>
      obtain ⟨fault, rfl⟩ := Predicate.invalidQuery_of_ofJson j hp
      exact ⟨fault, by rw [compile, hp]; rfl⟩

/-- Inside a list, an equality has to be spelt out. -/
example : compile (.object [("and", .array [.object [("p", .null)]])]) =
    .error (.invalidQuery (.unknownOperator "p")) := rfl

end Query

end PropertyGraph
