/-!
# Edge identities and directions

Edges of a multigraph are told apart by source, target and label. They are listed by source,
then target, then label.

## Main definitions

- `EdgeKey` — the identity of an edge
- `EdgeKey.other` — the endpoint opposite to a vertex
- `Direction` — the sides of a vertex on which edges are considered
-/

namespace PropertyGraph

/-- The identity of an edge. -/
structure EdgeKey where
  source : String
  target : String
  label : String
deriving Repr, DecidableEq

namespace EdgeKey

/-- By source, then target, then label. -/
instance : Ord EdgeKey :=
  ⟨compareLex (compareOn source) (compareLex (compareOn target) (compareOn label))⟩

instance : Std.TransOrd EdgeKey :=
  inferInstanceAs (Std.TransCmp
    (compareLex (compareOn source) (compareLex (compareOn target) (compareOn label))))

instance : Std.LawfulEqOrd EdgeKey where
  eq_of_compare {a b} h := by
    have h : compareLex (compareOn source) (compareLex (compareOn target) (compareOn label)) a b
        = .eq := h
    simp only [compareLex_eq_eq, compareOn, Std.LawfulEqOrd.compare_eq_iff_eq] at h
    obtain ⟨hs, ht, hl⟩ := h
    cases a
    cases b
    simp_all

/-- All three parts are non-empty. -/
def Named (k : EdgeKey) : Prop := k.source ≠ "" ∧ k.target ≠ "" ∧ k.label ≠ ""

instance (k : EdgeKey) : Decidable k.Named := by unfold Named; infer_instance

/-- The endpoint that an edge leads to from `v`; the source, if `v` is not its source. -/
def other (k : EdgeKey) (v : String) : String := if k.source = v then k.target else k.source

/-- Whether both endpoints are the same vertex. -/
def isLoop (k : EdgeKey) : Bool := k.source == k.target

/-- The text form `SOURCE -[LABEL]-> TARGET`. -/
def text (k : EdgeKey) : String := k.source ++ " -[" ++ k.label ++ "]-> " ++ k.target

end EdgeKey

/-- The sides of a vertex on which its edges are considered. -/
inductive Direction where
  | out
  | into
  | both
deriving Repr, DecidableEq

namespace Direction

/-- Edges that leave the vertex are considered. -/
def includesOut : Direction → Bool
  | .into => false
  | _ => true

/-- Edges that enter the vertex are considered. -/
def includesIn : Direction → Bool
  | .out => false
  | _ => true

end Direction

end PropertyGraph
