import PropertyGraph.EdgeKey
import PropertyGraph.Query.Basic
import PropertyGraph.Text.Graphic

/-!
# Errors

An error is a cause with what it concerns; its wording is in `GraphError.message` alone.

## Main definitions

- `ArgumentFault`, `QueryFault`, `ConfigFault`, `DocumentFault` — causes of one kind each
- `GraphError` — all errors
- `GraphError.message` — the text of an error
-/

namespace PropertyGraph

/-- A malformed identity. -/
inductive ArgumentFault where
  | emptyVertexId
  | emptySource
  | emptyTarget
  | emptyLabel
  | unknownPatternVertex (id : String)
  | unknownPatternEdge (key : EdgeKey)

/-- The part of a query that has to be an object with one member. -/
inductive QueryPart where
  | expression
  | comparison (op : CompareOp)

/-- A malformed query or filter. -/
inductive QueryFault where
  | notJson
  | notAnObject (got : Json)
  | noMember (part : QueryPart)
  | manyMembers (part : QueryPart) (count : Nat)
  | listRequired (c : Connective)
  | emptyList (c : Connective)
  | operandRequired (op : CompareOp)
  | literalRequired (op : CompareOp) (key : String)
  | unknownOperator (key : String)
  | filterNotAnObject (got : Json)
  | patternNotText (key : String)
  | malformedPattern (key : String)

/-- A configuration that cannot be used. -/
inductive ConfigFault where
  | unreadable (path : String)
  | malformed
  | unwritable
  | emptyName
  | emptyRoot
  | noSteps
  | unknownLevel (level : String)
  | malformedFilter

/-- A node-link document that cannot be imported. -/
inductive DocumentFault where
  | malformed
  | duplicateIndex (index : UInt64)
  | unknownNode (index : UInt64)

/-- Everything that can go wrong. -/
inductive GraphError where
  | invalidArgument (fault : ArgumentFault)
  | invalidQuery (fault : QueryFault)
  /-- An edge has an endpoint that is not stored. -/
  | danglingEdge (key : EdgeKey) (missing : String)
  | vertexNotFound (id : String)
  | edgeNotFound (key : EdgeKey)
  | stepBudgetExceeded (budget : UInt64)
  | config (fault : ConfigFault)
  | serialization (fault : DocumentFault)

/-- The known log levels. -/
def logLevels : List String := ["trace", "debug", "info", "warn", "error", "off"]

/-- A path in double quotes: these, backslashes and characters that show nothing of their own are
escaped. -/
def quotePath (path : String) : String :=
  let escape (c : Char) : List Char :=
    match c with
    | '"' => ['\\', '"']
    | '\\' => ['\\', '\\']
    | '\n' => ['\\', 'n']
    | '\r' => ['\\', 'r']
    | '\t' => ['\\', 't']
    | '\x00' => ['\\', '0']
    | c => if isGraphic c then [c] else ['\\', 'u', '\x7b'] ++ Nat.toDigits 16 c.toNat ++ ['\x7d']
  String.ofList ('"' :: path.toList.flatMap escape ++ ['"'])

/-- The wording of a malformed identity. -/
def ArgumentFault.message : ArgumentFault → String
  | .emptyVertexId => "vertex id must not be empty"
  | .emptySource => "edge source must not be empty"
  | .emptyTarget => "edge target must not be empty"
  | .emptyLabel => "edge label must not be empty"
  | .unknownPatternVertex id => "anchor names unknown pattern vertex " ++ id
  | .unknownPatternEdge key => "anchor names unknown pattern edge " ++ key.text

/-- The wording of a part of a query. -/
def QueryPart.text : QueryPart → String
  | .expression => "query expression"
  | .comparison op => "`" ++ op.symbol ++ "` comparison"

/-- The wording of a malformed query or filter. -/
def QueryFault.message : QueryFault → String
  | .notJson => "query is not valid JSON: "
  | .notAnObject got => "expected an object, got " ++ got.compact
  | .noMember part => "empty " ++ part.text
  | .manyMembers part count => part.text ++ " must have exactly one key, got " ++ toString count
  | .listRequired c => "`" ++ c.word ++ "` requires a list of expressions"
  | .emptyList c => "`" ++ c.word ++ "` requires at least one expression"
  | .operandRequired op => "`" ++ op.symbol ++ "` requires an object of \x7bproperty: value\x7d"
  | .literalRequired op key => "`" ++ op.symbol ++ "` on `" ++ key ++ "` requires a literal value"
  | .unknownOperator key => "unknown operator `" ++ key ++ "`"
  | .filterNotAnObject got => "attribute filter must be an object: " ++ got.compact
  | .patternNotText key => "regex filter `" ++ key ++ "` needs a string pattern"
  | .malformedPattern key => "invalid regex for `" ++ key ++ "`: "

/-- The wording of an unusable configuration. -/
def ConfigFault.message : ConfigFault → String
  | .unreadable path =>
    "Failed to read config file " ++ quotePath path ++ ": No such file or directory (os error 2)"
  | .malformed => "Failed to parse config: "
  | .unwritable => "Failed to serialize config: "
  | .emptyName => "Graph name cannot be empty"
  | .emptyRoot => "Root id cannot be empty"
  | .noSteps => "Matching max_steps cannot be 0"
  | .unknownLevel level =>
    "Invalid log level: " ++ level ++ ". Expected one of: " ++ ", ".intercalate logLevels
  | .malformedFilter => "Invalid log filter: "

/-- The wording of an unusable document; of a malformed one the details are left out. -/
def DocumentFault.message : DocumentFault → String
  | .malformed => ""
  | .duplicateIndex index => "duplicate node index " ++ toString index.toNat
  | .unknownNode index => "link references unknown node " ++ toString index.toNat

/-- **The text of an error.** -/
def GraphError.message : GraphError → String
  | .invalidArgument fault => "invalid argument: " ++ fault.message
  | .invalidQuery fault => "invalid query: " ++ fault.message
  | .danglingEdge key missing =>
    "algorithm error: edge " ++ key.text ++ " references missing vertex " ++ missing
  | .vertexNotFound id => "vertex not found: " ++ id
  | .edgeNotFound key => "edge not found: " ++ key.text
  | .stepBudgetExceeded budget =>
    "matching exceeded its budget of " ++ toString budget.toNat ++ " steps"
  | .config fault => "configuration error: " ++ fault.message
  | .serialization fault => "serialization error: " ++ fault.message

end PropertyGraph
