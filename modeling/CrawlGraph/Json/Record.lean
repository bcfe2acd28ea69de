import CrawlGraph.Json.Row
import CrawlGraph.Json.Value
import CrawlGraph.Record

/-!
# Records as JSON

A link and an edge are written as flat objects. They are read from an object that has each of the
members exactly once, in any order and among members with other names; or from an array of just
the values, in the order in which they are written.
-/

namespace CrawlGraph.Json

open CrawlGraph.Text

/-! ## 1. Reading the values of members -/

/-- The values of the named members, in the order of the names. -/
def Value.fields? (names : List String) : Value → Option (List Value)
  | .array elements => if elements.length = names.length then some elements else none
  | .object members =>
    if members.all (·.1.isSome) then
      names.mapM fun name =>
        match members.filter fun m => m.1 == some name.toList with
        | [m] => some m.2
        | _ => none
    else none
  | _ => none

/-- The text that a value is. -/
def Value.text? : Value → Option String
  | .string text => text.map String.ofList
  | _ => none

/-- The identifier that a value spells. -/
def Value.ident? : Value → Option Ident
  | .string text => text.bind Ident.read?
  | _ => none

/-- The integer that a numeral without point and exponent spells. Zero has no sign. -/
def integer? (numeral : List Char) : Option Int :=
  match numeral with
  | '-' :: digits => (decimalValue? digits).bind fun n => if n = 0 then none else some (-(n : Int))
  | digits => (decimalValue? digits).map Int.ofNat

/-- The point in time that a value is. -/
def Value.stamp? : Value → Option Stamp
  | .number numeral => (integer? numeral).bind Stamp.ofInt?
  | _ => none

/-! ## 2. Links -/

/-- The members of a link. -/
def linkRow (link : Link) : Row :=
  [("id", .text link.id.text), ("url", .text link.url),
    ("retrieved_at", .integer link.retrievedAt.toInt)]

/-- The link that a value describes. -/
def linkOf? (v : Value) : Option Link := do
  match ← v.fields? ["id", "url", "retrieved_at"] with
  | [id, url, retrievedAt] => pure ⟨← id.ident?, ← url.text?, ← retrievedAt.stamp?⟩
  | _ => none

/-- Reads a link. -/
def readLink? (s : String) : Option Link := (Value.parse? s.toList).bind linkOf?

/-! ## 3. Edges -/

/-- The members of an edge. -/
def edgeRow (edge : Edge) : Row :=
  [("id", .text edge.id.text), ("src", .text edge.src.text), ("dst", .text edge.dst.text),
    ("updated_at", .integer edge.updatedAt.toInt)]

/-- The edge that a value describes. -/
def edgeOf? (v : Value) : Option Edge := do
  match ← v.fields? ["id", "src", "dst", "updated_at"] with
  | [id, src, dst, updatedAt] =>
    pure ⟨← id.ident?, ← src.ident?, ← dst.ident?, ← updatedAt.stamp?⟩
  | _ => none

/-- Reads an edge. -/
def readEdge? (s : String) : Option Edge := (Value.parse? s.toList).bind edgeOf?

end CrawlGraph.Json
