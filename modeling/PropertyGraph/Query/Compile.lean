import PropertyGraph.Error
import PropertyGraph.Json.Reader

/-!
# Queries

A query is a JSON object with one member. `and` and `or` join a list of queries; a comparison
operator takes an object with one member, the property and a literal. At the outermost level
any other member asks for equality with its literal.

## Main definitions

- `Json.isLiteral` — values without objects
- `Query` — a compiled query with its source
- `Query.compile`, `Query.parse` — from JSON, and from text
-/

namespace PropertyGraph

namespace Json

mutual

/-- Whether a value holds no object, also not inside arrays. -/
def isLiteral : Json → Bool
  | .object _ => false
  | .array items => areLiterals items
  | _ => true
termination_by structural j => j

/-- Whether no item holds an object. -/
def areLiterals : List Json → Bool
  | [] => true
  | j :: items => isLiteral j && areLiterals items
termination_by structural items => items

end

end Json

/-- A comparison from the operand of its operator. -/
def Predicate.ofComparison (op : CompareOp) : Json → Except GraphError Predicate
  | .object [(key, literal)] =>
    if literal.isLiteral then .ok (.compare op key (.ofJson literal))
    else .error (.invalidQuery (.literalRequired op key))
  | .object [] => .error (.invalidQuery (.noMember (.comparison op)))
  | .object members => .error (.invalidQuery (.manyMembers (.comparison op) members.length))
  | _ => .error (.invalidQuery (.operandRequired op))

/-- The predicate of a member that joins no list: a comparison, or equality if the query is the
outermost one. -/
def Predicate.ofMember (outermost : Bool) (key : String) (operand : Json) : Except GraphError Predicate :=
  match CompareOp.ofSymbol? key with
  | some op => ofComparison op operand
  | none =>
    if outermost && operand.isLiteral then .ok (.compare .eq key (.ofJson operand))
    else .error (.invalidQuery (.unknownOperator key))

namespace Predicate

mutual

/-- The predicate of a query. -/
def ofJson (outermost : Bool) : Json → Except GraphError Predicate
  | .object members => ofMembers outermost members
  | j => .error (.invalidQuery (.notAnObject j))
termination_by structural j => j

/-- The predicate of the only member of a query. -/
def ofMembers (outermost : Bool) : List (String × Json) → Except GraphError Predicate
  | [] => .error (.invalidQuery (.noMember .expression))
  | (key, operand) :: rest =>
    if rest.isEmpty then
      if key = Connective.and.word then (ofOperand .and operand).map .all
      else if key = Connective.or.word then (ofOperand .or operand).map .any
      else ofMember outermost key operand
    else .error (.invalidQuery (.manyMembers .expression (rest.length + 1)))
termination_by structural members => members

/-- The predicates that a connective joins. -/
def ofOperand (c : Connective) : Json → Except GraphError (List Predicate)
  | .array items =>
    if items.isEmpty then .error (.invalidQuery (.emptyList c)) else ofItems items
  | _ => .error (.invalidQuery (.listRequired c))
termination_by structural j => j

/-- The predicates of a list of queries. -/
def ofItems : List Json → Except GraphError (List Predicate)
  | [] => .ok []
  | j :: items => do return (← ofJson false j) :: (← ofItems items)
termination_by structural items => items

end

end Predicate

/-- A compiled query. -/
structure Query where
  source : Json
  predicate : Predicate

namespace Query

/-- Compile a query. -/
def compile (source : Json) : Except GraphError Query :=
  (Predicate.ofJson true source).map (⟨source, ·⟩)

/-- Read and compile a query. -/
def parse (text : String) : Except GraphError Query :=
  match Json.parse? text with
  | some source => compile source
  | none => .error (.invalidQuery .notJson)

/-- Whether a bag satisfies the query. -/
def accepts (q : Query) (bag : Properties) : Bool := q.predicate.holds bag

end Query

end PropertyGraph
