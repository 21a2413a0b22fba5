import PropertyGraph.Error
import PropertyGraph.Regex.Match
import PropertyGraph.Regex.Reader
import PropertyGraph.Vocabulary

/-!
# Attribute filters

A filter is a flat list of conditions, one for each key. A key names a property and a
condition lists its allowed values; a key that ends in `.regex` names the property before that
ending, and its condition is a pattern that has to match from the start of the value's text.

## Main definitions

- `Condition`, `FilterEntry`, `AttributeFilter` — filters
- `AttributeFilter.insert` — state the condition of a key, in place of an earlier one
- `AttributeFilter.accepts` — whether a bag satisfies all conditions
-/

namespace PropertyGraph

/-- What a filter asks of one property. -/
inductive Condition where
  /-- The value is loosely equal to one of these; a missing value counts as unset. -/
  | oneOf (allowed : List Value)
  /-- There is a value, and the pattern matches its text; the expression anchors the pattern. -/
  | textMatches (pattern : String) (anchored : Regex)

/-- A condition under the key that it was stated with. -/
structure FilterEntry where
  key : String
  property : String
  condition : Condition

/-- Conditions on the properties of an element, in the order in which they were stated. -/
structure AttributeFilter where
  entries : List FilterEntry

/-- Whether a filter key holds a pattern: it ends in `.regex`, in any case of ASCII letters, and
something stands before the ending. -/
def isPatternKey (key : String) : Bool :=
  let cs := key.toList
  let n := patternSuffix.length
  n < cs.length && (cs.drop (cs.length - n)).map Char.toLower == patternSuffix.toList

/-- The property that a filter key names. -/
def propertyOfKey (key : String) : String :=
  if isPatternKey key then String.ofList (key.toList.take (key.length - patternSuffix.length)) else key

/-- The expression of a pattern that has to match from the start of a text. -/
def anchoredRegex? (pattern : String) : Option Regex := Regex.parse? ("^(?:" ++ pattern ++ ")")

/-- The condition that a key and a value state. A list states its items as allowed values. -/
def Condition.ofValue (key : String) (value : Value) : Except GraphError Condition :=
  if isPatternKey key then
    match value with
    | .string pattern =>
      match anchoredRegex? pattern with
      | some r => .ok (.textMatches pattern r)
      | none => .error (.invalidQuery (.malformedPattern key))
    | _ => .error (.invalidQuery (.patternNotText key))
  else
    match value with
    | .list items => .ok (.oneOf items)
    | v => .ok (.oneOf [v])

/-- Whether a value that a property reads as satisfies the condition. -/
def Condition.accepts (c : Condition) (actual : Option Value) : Bool :=
  match c with
  | .oneOf allowed => allowed.any fun a => a.looseEq (Value.ofOption actual)
  | .textMatches _ r => actual.any fun v => r.isMatch v.plainText

/-- The condition as JSON; a single allowed value stands for itself. -/
def Condition.toJson : Condition → Json
  | .oneOf [v] => v.toJson
  | .oneOf allowed => .array (Value.toJsonItems allowed)
  | .textMatches pattern _ => .string pattern

/-- Whether a bag satisfies the condition of an entry. -/
def FilterEntry.accepts (e : FilterEntry) (bag : Properties) : Bool :=
  e.condition.accepts (bag.get? e.property)

namespace AttributeFilter

/-- The filter without conditions. -/
def empty : AttributeFilter := ⟨[]⟩

/-- State the condition of a key, in place of an earlier one of that key. -/
def insert (f : AttributeFilter) (key : String) (value : Value) : Except GraphError AttributeFilter := do
  let c ← Condition.ofValue key value
  return ⟨f.entries.filter (·.key ≠ key) ++ [⟨key, propertyOfKey key, c⟩]⟩

/-- State conditions in order. -/
def insertAll (f : AttributeFilter) : List (String × Value) → Except GraphError AttributeFilter
  | [] => .ok f
  | (key, value) :: rest => do insertAll (← f.insert key value) rest

/-- The filter of a JSON object. -/
def ofJson : Json → Except GraphError AttributeFilter
  | .object members => empty.insertAll (Value.ofJsonMembers members)
  | j => .error (.invalidQuery (.filterNotAnObject j))

/-- The filter that a bag of properties states: each value is a condition. -/
def ofProperties (p : Properties) : Except GraphError AttributeFilter := empty.insertAll p.toList

/-- The keys, as they were stated. -/
def keys (f : AttributeFilter) : List String := f.entries.map (·.key)

/-- Whether a bag satisfies all conditions whose key is not to be ignored. -/
def acceptsIgnoring (f : AttributeFilter) (bag : Properties) (ignored : List String) : Bool :=
  (f.entries.filter fun e => !ignored.contains e.key).all (·.accepts bag)

/-- Whether a bag satisfies all conditions. -/
def accepts (f : AttributeFilter) (bag : Properties) : Bool := f.acceptsIgnoring bag []

/-- The filter as a JSON object. -/
def toJson (f : AttributeFilter) : Json :=
  .object (SortedMap.ofList (f.entries.map fun e => (e.key, e.condition.toJson))).entries

end AttributeFilter

end PropertyGraph
