import CrawlGraph.Json.Record
import CrawlGraph.Tables.Store

/-!
# Tables in a file

The bytes in which the two tables are kept in a file: a heading, then one JSON object on a line of
its own for each row of links and for each row of edges. A file without any bytes is as good as one
with two empty tables.

1. Values of any kind, each in two members.
2. Rows of links and of edges.
3. `toBytes` and `ofBytes?`, the whole file.
-/

namespace CrawlGraph.Tables

open CrawlGraph.Json

/-- The values of an object with exactly the named members, in the order of the names. -/
def exactFields? (names : List String) : Value → Option (List Value)
  | .object members =>
    if members.map (·.1) = names.map fun name => some name.toList then some (members.map (·.2))
    else none
  | _ => none

/-- The integer that a value is. -/
def integerOf? : Value → Option Int
  | .number numeral => integer? numeral
  | _ => none

/-- Whether a value is a certain text. -/
def isWord (word : String) (v : Value) : Bool := v.text? = some word

/-! ## 1. Values -/

/-- Bytes as characters, one for each. -/
def charsOf (bytes : List UInt8) : String := String.ofList (bytes.map fun b => Char.ofNat b.toNat)

/-- The bytes that characters stand for. -/
def bytesOf (s : String) : List UInt8 := s.toList.map fun c => UInt8.ofNat c.toNat

/-- The names of the members for a column. -/
def cellNames (column : String) : List String := [s!"{column} kind", column]

/-- The members for a value: what kind of value it is, and the value. A finite number has its
    exponent in place of its kind. -/
def cell (column : String) (value : Stored) : Row :=
  (cellNames column).zip <| match value with
    | .null => [.text "null", .text ""]
    | .int value => [.text "integer", .integer value.toInt]
    | .real (.finite mantissa exponent) => [.integer exponent, .integer mantissa]
    | .real (.infinite negative) =>
      [.text "infinite", .text (if negative then "below" else "above")]
    | .text bytes => [.text "text", .text (charsOf bytes)]
    | .blob bytes => [.text "bytes", .text (charsOf bytes)]

/-- The value that two members describe. -/
def readCell? (kind value : Value) : Option Stored :=
  match kind.text? with
  | none => do pure (.real (.finite (← integerOf? value) (← integerOf? kind)))
  | some "null" => some .null
  | some "integer" => value.stamp?.map .int
  | some "infinite" =>
    if isWord "below" value then some (.real (.infinite true))
    else if isWord "above" value then some (.real (.infinite false))
    else none
  | some "text" => value.text?.map fun s => .text (bytesOf s)
  | some "bytes" => value.text?.map fun s => .blob (bytesOf s)
  | some _ => none

/-! ## 2. Rows -/

/-- The members of a row of links. -/
def savedLink (row : LinkRow) : Row :=
  cell "link" row.id ++ cell "url" row.url ++ cell "time" row.retrievedAt

/-- The row of links that a value describes. -/
def readLinkRow? (v : Value) : Option LinkRow := do
  match ← exactFields? (cellNames "link" ++ cellNames "url" ++ cellNames "time") v with
  | [idKind, id, urlKind, url, timeKind, time] =>
    pure ⟨← readCell? idKind id, ← readCell? urlKind url, ← readCell? timeKind time⟩
  | _ => none

/-- The members of a row of edges. -/
def savedEdge (row : EdgeRow) : Row :=
  ("number", .integer row.rowid) :: (cell "edge" row.id ++ cell "src" row.src ++
    cell "dst" row.dst ++ cell "time" row.updatedAt)

/-- The row of edges that a value describes. -/
def readEdgeRow? (v : Value) : Option EdgeRow := do
  match ← exactFields? ("number" :: (cellNames "edge" ++ cellNames "src" ++ cellNames "dst" ++
      cellNames "time")) v with
  | [number, idKind, id, srcKind, src, dstKind, dst, timeKind, time] =>
    pure ⟨(← integerOf? number).toNat, ← readCell? idKind id, ← readCell? srcKind src,
      ← readCell? dstKind dst, ← readCell? timeKind time⟩
  | _ => none

/-! ## 3. The whole file -/

/-- The heading of a file of tables. -/
def heading : List Char := "crawl graph, form 1".toList

/-- The lines of a file of tables. -/
def savedLines (t : Tables) : List (List Char) :=
  heading :: ((t.links.getD []).map fun r => compact (savedLink r)) ++
    (t.edges.getD []).map fun r => compact (savedEdge r)

/-- The tables with the row of one more line, which is behind those that were read. -/
def takeRow? (t : Tables) (line : List Char) : Option Tables := do
  let v ← Value.parse? line
  match readLinkRow? v with
  | some row => pure { t with links := some ((t.links.getD []) ++ [row]) }
  | none => do
    let row ← readEdgeRow? v
    pure { t with edges := some ((t.edges.getD []) ++ [row]) }

/-- The bytes of a file of tables. -/
def toBytes (t : Tables) : List UInt8 :=
  Text.bytes (String.ofList (t.savedLines.flatMap (· ++ ['\n'])))

/-- The tables of the text of a file. -/
def ofSavedText? (cs : List Char) : Option Tables :=
  match cs.splitOn '\n' with
  | first :: rest =>
    if first = heading ∧ rest.getLast? = some [] then rest.dropLast.foldlM takeRow? Tables.empty
    else none
  | [] => none

/-- The tables of the bytes of a file, if they are tables. -/
def ofBytes? (bytes : List UInt8) : Option Tables :=
  if bytes = [] then some Tables.empty
  else (Text.ofBytes? bytes).bind fun s => ofSavedText? s.toList

end CrawlGraph.Tables
