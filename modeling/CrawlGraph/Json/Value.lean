import CrawlGraph.Json.Token

/-!
# JSON values

Tokens are read one by one, with the containers that are not closed yet kept in a list. So the
depth of a value is not limited.

1. `Value`.
2. The state between two tokens, and the step that a token makes.
3. `Value.ofTokens?` and `Value.parse?`: the value of a whole text.
-/

namespace CrawlGraph.Json

/-! ## 1. Values -/

/-- A JSON value. Strings and names of members are kept as what they mean, which is no text if half
    a surrogate pair is escaped in them. -/
inductive Value where
  | null
  | bool (value : Bool)
  | number (numeral : List Char)
  | string (text : Option (List Char))
  | array (elements : List Value)
  | object (members : List (Option (List Char) × Value))
  deriving Repr

/-- A member of an object: its name and its value. -/
abbrev Member := Option (List Char) × Value

/-! ## 2. Reading token by token -/

/-- A container around the value that is being read, with what it holds so far, the last in
    front. -/
inductive Outer where
  | array (elements : List Value)
  | object (members : List Member) (name : Option (List Char))

/-- What was read so far. -/
inductive Reader where
  /-- A value has to follow. -/
  | value (outer : List Outer)
  /-- An array was opened. -/
  | arrayStart (outer : List Outer)
  /-- An object was opened. -/
  | objectStart (outer : List Outer)
  /-- A member has to follow in an object with the given members. -/
  | member (members : List Member) (outer : List Outer)
  /-- A colon has to follow. -/
  | colon (members : List Member) (name : Option (List Char)) (outer : List Outer)
  /-- A value is complete. -/
  | complete (value : Value) (outer : List Outer)

namespace Reader

/-- The reader after a token that begins a value. -/
def begin? (outer : List Outer) : Token → Option Reader
  | .null => some (.complete .null outer)
  | .bool b => some (.complete (.bool b) outer)
  | .number numeral => some (.complete (.number numeral) outer)
  | .string text => some (.complete (.string text) outer)
  | .openBracket => some (.arrayStart outer)
  | .openBrace => some (.objectStart outer)
  | _ => none

/-- The reader after a token that follows a complete value. -/
def continue? (v : Value) : List Outer → Token → Option Reader
  | .array elements :: outer, .comma => some (.value (.array (v :: elements) :: outer))
  | .array elements :: outer, .closeBracket =>
    some (.complete (.array (v :: elements).reverse) outer)
  | .object members name :: outer, .comma => some (.member ((name, v) :: members) outer)
  | .object members name :: outer, .closeBrace =>
    some (.complete (.object ((name, v) :: members).reverse) outer)
  | _, _ => none

/-- The reader after one more token. -/
def step? : Reader → Token → Option Reader
  | .value outer, t => begin? outer t
  | .arrayStart outer, .closeBracket => some (.complete (.array []) outer)
  | .arrayStart outer, t => begin? (.array [] :: outer) t
  | .objectStart outer, .closeBrace => some (.complete (.object []) outer)
  | .objectStart outer, .string name => some (.colon [] name outer)
  | .member members outer, .string name => some (.colon members name outer)
  | .colon members name outer, .colon => some (.value (.object members name :: outer))
  | .complete v outer, t => continue? v outer t
  | _, _ => none

/-- The reader after more tokens. -/
def run? (r : Reader) : List Token → Option Reader
  | [] => some r
  | t :: ts => (r.step? t).bind fun r' => r'.run? ts

end Reader

/-! ## 3. Whole texts -/

/-- The value that tokens spell. -/
def Value.ofTokens? (ts : List Token) : Option Value :=
  match (Reader.value []).run? ts with
  | some (.complete v []) => some v
  | _ => none

/-- The value that a text spells. -/
def Value.parse? (cs : List Char) : Option Value := (tokens? cs).bind ofTokens?

end CrawlGraph.Json
