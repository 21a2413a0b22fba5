import PropertyGraph.Json.Token

/-!
# Reading JSON text

The tokens of a text drive a stack machine whose frames are the arrays and objects still open. What is
looked at of a text may be nested to a certain depth.

## Main definitions

- `Json.Frame`, `Json.Reading` — an open array or object, and the state of the machine
- `Json.written?` — a text as it is written
- `Json.readAs?` — what a reader looks at in a text
- `Json.parse?` — the canonical value of a text
-/

namespace PropertyGraph

namespace Json

/-- An array or object that is still open; what it holds so far is kept reversed. -/
inductive Frame where
  | array (items : List Written)
  | object (members : List (Option String × Written)) (key : Option String)

/-- What may come next. -/
inductive Expects where
  /-- A value; `closable` if the array may also end here. -/
  | value (closable : Bool)
  /-- A key of the object whose members so far are given; `closable` if it may also end here. -/
  | key (members : List (Option String × Written)) (closable : Bool)
  | colon (members : List (Option String × Written)) (key : Option String)
  /-- A comma or the end of the innermost frame, after the value given. -/
  | separator (value : Written)

/-- The open frames, innermost first, and what may come next. An object whose next key is
awaited counts as open as well. -/
structure Reading where
  frames : List Frame
  expects : Expects

/-- Begin a value. -/
def Reading.openValue (frames : List Frame) : Token → Option Reading
  | .scalar w => some ⟨frames, .separator w⟩
  | .openArray => some ⟨.array [] :: frames, .value true⟩
  | .openObject => some ⟨frames, .key [] true⟩
  | _ => none

/-- Read one token. -/
def Reading.step (r : Reading) (t : Token) : Option Reading :=
  match r.expects, t with
  | .value true, .closeArray =>
    match r.frames with
    | .array [] :: outer => some ⟨outer, .separator (.array [])⟩
    | _ => none
  | .value _, t => Reading.openValue r.frames t
  | .key members true, .closeObject => some ⟨r.frames, .separator (.object members.reverse)⟩
  | .key members _, .scalar (.string k) => some ⟨r.frames, .colon members k⟩
  | .colon members k, .colon => some ⟨.object members k :: r.frames, .value false⟩
  | .separator v, .comma =>
    match r.frames with
    | .array items :: outer => some ⟨.array (v :: items) :: outer, .value false⟩
    | .object members k :: outer => some ⟨outer, .key ((k, v) :: members) false⟩
    | [] => none
  | .separator v, .closeArray =>
    match r.frames with
    | .array items :: outer => some ⟨outer, .separator (.array (v :: items).reverse)⟩
    | _ => none
  | .separator v, .closeObject =>
    match r.frames with
    | .object members k :: outer => some ⟨outer, .separator (.object ((k, v) :: members).reverse)⟩
    | _ => none
  | _, _ => none

/-- A text as it is written; none if it is malformed. -/
def written? (text : String) : Option Written := do
  let tokens ← tokens? text.toList
  let r ← tokens.foldlM Reading.step ⟨[], .value false⟩
  match r.frames, r.expects with
  | [], .separator w => some w
  | _, _ => none

/-- Arrays and objects may be nested this deep. -/
def maxDepth : Nat := 127

/-- What a reader looks at in a text, with the members of objects as they are written. -/
def readAs? (shape : Shape) (text : String) : Option Json := do
  (Written.restrict shape (← written? text)).value? maxDepth

/-- The value of a text, in canonical form. -/
def parse? (text : String) : Option Json := (readAs? .whole text).map canonical

end Json

end PropertyGraph
