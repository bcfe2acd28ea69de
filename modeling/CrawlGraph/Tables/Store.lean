import CrawlGraph.Store
import CrawlGraph.Tables.Stored

/-!
# The store in tables

The links and edges of a graph as rows of two tables, in the order of their creation. Identifiers
are kept as text, in their canonical form, which sorts as the identifiers do; so a range of
identifiers is a range of texts. Rows may also come from elsewhere: then a text need not be an
identifier, and a column need not hold a value of its kind. A table may even be missing.

1. `LinkRow`, `EdgeRow` and `Tables`.
2. Reading columns. A value that is not of the kind of its column cannot be read; a text that is no
   identifier is read, but makes no record.
3. Writing. Every upsert draws an identifier, also where a known URL or pair is only updated. A
   drawn identifier that is nil uses up an attempt, and so does one that the table holds already
   if the row is new. What the row then holds is read back from its columns, and comes into the
   hands of the caller last of all.
4. Reading rows. A row that is no record becomes the fault of the cursor; a row with a column that
   cannot be read makes the reading fail.
-/

namespace CrawlGraph

/-! ## 1. Rows and tables -/

/-- A row of the table of links. -/
structure LinkRow where
  id : Stored
  url : Stored
  retrievedAt : Stored
  deriving DecidableEq, Repr

/-- A row of the table of edges. Rows are numbered in the order of their creation. -/
structure EdgeRow where
  rowid : Nat
  id : Stored
  src : Stored
  dst : Stored
  updatedAt : Stored
  deriving DecidableEq, Repr

/-- The two tables. `none` stands for a table that is missing. -/
structure Tables where
  links : Option (List LinkRow) := some []
  edges : Option (List EdgeRow) := some []
  deriving DecidableEq, Repr

namespace Tables

/-- Two tables without rows. -/
def empty : Tables := {}

instance : Inhabited Tables := ⟨empty⟩

/-- The tables with an empty one in place of each that is missing. -/
def completed (t : Tables) : Tables := ⟨some (t.links.getD []), some (t.edges.getD [])⟩

/-- The number of the next row: one more than the highest number in use. -/
def nextRowid (rows : List EdgeRow) : Nat := (rows.map (·.rowid)).foldl max 0 + 1

/-! ## 2. Columns -/

/-- The error of a missing table. -/
def missingTable (op : Operation) (name : String) : StoreError :=
  .of op (.database s!"no such table: {name}")

/-- The error of a value that is not of the kind of its column, which has the given number among
    the columns that an operation reads, and the given name. -/
def badKind (op : Operation) (index : Nat) (name : String) (value : Stored) : StoreError :=
  .of op (.database s!"Invalid column type {value.kind} at index: {index}, name: {name}")

/-- The error of a text whose bytes are those of none. -/
def badText (op : Operation) (index : Nat) (bytes : List UInt8) : StoreError :=
  let fault := ((Text.fault? 0 bytes).map Text.ByteFault.message).getD ""
  .of op (.database s!"Conversion error from type Text at index: {index}, {fault}")

/-- Reads a column of texts. -/
def readText (op : Operation) (index : Nat) (name : String) (value : Stored) :
    Except StoreError String :=
  match value with
  | .text bytes =>
    match Text.ofBytes? bytes with
    | some s => .ok s
    | none => .error (badText op index bytes)
  | other => .error (badKind op index name other)

@[simp] theorem readText_ofString (op : Operation) (index : Nat) (name s : String) :
    readText op index name (.ofString s) = .ok s := by
  simp only [readText, Stored.ofString, Text.ofBytes?_bytes]

/-- Reads a column of times. -/
def readTime (op : Operation) (index : Nat) (name : String) (value : Stored) :
    Except StoreError Stamp :=
  match value with
  | .int time => .ok time
  | other => .error (badKind op index name other)

/-- The identifier that a text of a row stands for. -/
def decodeIdent (op : Operation) (text : String) : Except StoreError Ident :=
  match Ident.parse text with
  | .ok id => .ok id
  | .error e => .error (.badIdent op text e)

/-! ## 3. Writing -/

/-- Whether a row of the table of links has the identifier. -/
def hasLink (t : Tables) (text : String) : Bool :=
  (t.links.getD []).any fun r => r.id == .ofString text

/-- Whether a row of the table of edges has the identifier. -/
def hasEdge (t : Tables) (text : String) : Bool :=
  (t.edges.getD []).any fun r => r.id == .ofString text

/-- Whether a row of the table of links has the URL. -/
def knowsUrl (t : Tables) (url : String) : Bool :=
  (t.links.getD []).any fun r => r.url == .ofString url

/-- Whether a row of the table of edges has the pair. -/
def knowsPair (t : Tables) (src dst : String) : Bool :=
  (t.edges.getD []).any fun r => r.src == .ofString src && r.dst == .ofString dst

/-- Whether the identifier stands in the way of a row for the link: one of another row does, unless
    the row of its URL is there and only has to be updated. -/
def blocksLink (link : Link) (t : Tables) (id : Ident) : Bool :=
  !t.knowsUrl link.url && t.hasLink id.text

/-- Whether the identifier stands in the way of a row for the edge. Without a table of links no row
    can come in, and nothing does. -/
def blocksEdge (edge : Edge) (t : Tables) (id : Ident) : Bool :=
  t.links.isSome && !t.knowsPair edge.src.text edge.dst.text && t.hasEdge id.text

/-- The rows with the time of one URL replaced. -/
def setRetrieved (rows : List LinkRow) (url : String) (time : Stored) : List LinkRow :=
  rows.map fun r => if r.url = .ofString url then { r with retrievedAt := time } else r

/-- The rows with the time of one pair replaced. -/
def setUpdated (rows : List EdgeRow) (src dst : String) (time : Stored) : List EdgeRow :=
  rows.map fun r =>
    if r.src = .ofString src ∧ r.dst = .ofString dst then { r with updatedAt := time } else r

/-- Puts the link of a drawn identifier into the rows: updates the row of its URL or adds one. Gives
    the identifier and the time that the row holds then. -/
def writeLink (t : Tables) (id : Ident) (link : Link) :
    Except StoreError (Tables × Stored × Stored) :=
  match t.links with
  | none => .error (missingTable .upsertLink "links")
  | some rows =>
    match rows.find? fun r => r.url = .ofString link.url with
    | some row =>
      let time := row.retrievedAt.later link.retrievedAt
      .ok ({ t with links := some (setRetrieved rows link.url time) }, row.id, time)
    | none =>
      let row : LinkRow := ⟨id.text, link.url, link.retrievedAt⟩
      .ok ({ t with links := some (rows ++ [row]) }, row.id, row.retrievedAt)

/-- Puts the edge of a drawn identifier into the rows: updates the row of its pair or adds one.
    Gives the identifier and the time that the row holds then. -/
def writeEdge (t : Tables) (id : Ident) (now : Stamp) (edge : Edge) :
    Except StoreError (Tables × Stored × Stored) :=
  match t.edges with
  | none => .error (missingTable .upsertEdge "edges")
  | some rows =>
    if t.links.isNone then .error (missingTable .upsertEdge "main.links")
    else
      match rows.find? fun r =>
          r.src = .ofString edge.src.text ∧ r.dst = .ofString edge.dst.text with
      | some row =>
        let time := row.updatedAt.later now
        .ok ({ t with edges := some (setUpdated rows edge.src.text edge.dst.text time) },
          row.id, time)
      | none =>
        if t.hasLink edge.src.text && t.hasLink edge.dst.text then
          let row : EdgeRow := ⟨nextRowid rows, id.text, edge.src.text, edge.dst.text, now⟩
          .ok ({ t with edges := some (rows ++ [row]) }, row.id, row.updatedAt)
        else .error (.of .upsertEdge .unknownEndpoints)

/-- Carries out a statement. -/
def execute {α : Type} (f : Tables → Except StoreError (Tables × α)) :
    Action Tables StoreError α := fun s =>
  match f s.store with
  | .ok (store, a) => .ok a { s with store }
  | .error e => .error e s

/-- The identifier and the time of a row, read from its columns. -/
def returned (op : Operation) (timeName : String) (ident time : Stored) :
    Except StoreError (Ident × Stamp) := do
  let text ← readText op 0 "id" ident
  let stamp ← readTime op 1 timeName time
  let id ← decodeIdent op text
  pure (id, stamp)

/-- How records of a kind are stored: what stands in the way of a drawn identifier, the statement
    that writes the row, and where its identifier and its time belong in the record. -/
structure RowWriter (ρ : Type) where
  operation : Operation
  timeName : String
  blocks : ρ → Tables → Ident → Bool
  write : ρ → Ident → Tables → Except StoreError (Tables × Stored × Stored)
  setIdent : Ident → ρ → ρ
  setTime : Stamp → ρ → ρ

/-- Writes the row for a drawn identifier. The record of the caller then takes over what the row
    holds. -/
def RowWriter.put {ρ : Type} (w : RowWriter ρ) (id : Ident) : Writing Tables ρ Unit := do
  let given ← Writing.record
  let row ← Writing.onSession <| execute (w.write given id)
  let back ← MonadExcept.ofExcept (returned w.operation w.timeName row.1 row.2)
  Writing.assign (w.setIdent back.1)
  Writing.assign (w.setTime back.2)

/-- Stores the record of the caller. -/
def RowWriter.store {ρ : Type} (w : RowWriter ρ) : Writing Tables ρ Unit := do
  let given ← Writing.record
  let id ← Writing.onSession <| Action.drawIdent w.operation (w.blocks given)
  w.put id

def linkWriter : RowWriter Link where
  operation := .upsertLink
  timeName := "retrieved_at"
  blocks := blocksLink
  write link id t := t.writeLink id link
  setIdent id link := { link with id }
  setTime retrievedAt link := { link with retrievedAt }

def edgeWriter (now : Stamp) : RowWriter Edge where
  operation := .upsertEdge
  timeName := "updated_at"
  blocks := blocksEdge
  write edge id t := t.writeEdge id now edge
  setIdent id edge := { edge with id }
  setTime updatedAt edge := { edge with updatedAt }

def storeLink : Writing Tables Link Unit := linkWriter.store

def storeEdge : Writing Tables Edge Unit := do
  let now ← Writing.onSession Action.readClock
  (edgeWriter now).store

def removeStaleEdges (t : Tables) (src : Ident) (before : Stamp) : Except StoreError Tables :=
  match t.edges with
  | none => .error (missingTable .removeStaleEdges "edges")
  | some rows =>
    if t.links.isNone then .error (missingTable .removeStaleEdges "main.links")
    else .ok { t with
      edges := some (rows.filter fun r =>
        !(r.src = .ofString src.text ∧ r.updatedAt.isBefore before)) }

/-! ## 4. Reading -/

/-- The columns of a row of links, as they are read. -/
structure LinkColumns where
  id : String
  url : String
  retrievedAt : Stamp

/-- The columns of a row of edges, as they are read. -/
structure EdgeColumns where
  id : String
  src : String
  dst : String
  updatedAt : Stamp

/-- Reads the columns of a row of links. -/
def linkColumns (op : Operation) (row : LinkRow) : Except StoreError LinkColumns := do
  let id ← readText op 0 "id" row.id
  let url ← readText op 1 "url" row.url
  let retrievedAt ← readTime op 2 "retrieved_at" row.retrievedAt
  pure ⟨id, url, retrievedAt⟩

/-- Reads the columns of a row of edges. -/
def edgeColumns (op : Operation) (row : EdgeRow) : Except StoreError EdgeColumns := do
  let id ← readText op 0 "id" row.id
  let src ← readText op 1 "src" row.src
  let dst ← readText op 2 "dst" row.dst
  let updatedAt ← readTime op 3 "updated_at" row.updatedAt
  pure ⟨id, src, dst, updatedAt⟩

/-- The link that columns make up. -/
def decodeLink (op : Operation) (c : LinkColumns) : Except StoreError Link :=
  (decodeIdent op c.id).map fun id => ⟨id, c.url, c.retrievedAt⟩

/-- The edge that columns make up; the first text that is no identifier makes the error. -/
def decodeEdge (op : Operation) (c : EdgeColumns) : Except StoreError Edge := do
  let id ← decodeIdent op c.id
  let src ← decodeIdent op c.src
  let dst ← decodeIdent op c.dst
  pure ⟨id, src, dst, c.updatedAt⟩

def findLink (t : Tables) (id : Ident) : Except StoreError Link :=
  match t.links with
  | none => .error (missingTable .findLink "links")
  | some rows =>
    match rows.find? fun r => r.id = .ofString id.text with
    | none => .error (.of .findLink .notFound)
    | some row => linkColumns .findLink row >>= decodeLink .findLink

/-- The link rows in a range and before a time, in the order of their identifier texts. -/
def linkRows (rows : List LinkRow) (start stop : Ident) (before : Stamp) : List LinkRow :=
  (rows.filter fun r => r.id.isWithin start.text stop.text && r.retrievedAt.isBefore before)
    |>.mergeSort fun a b => a.id.textBytes ≤ b.id.textBytes

/-- The edge rows in a range and before a time, in the order of their source texts and, for one
    source, of their creation. -/
def edgeRows (rows : List EdgeRow) (start stop : Ident) (before : Stamp) : List EdgeRow :=
  (rows.filter fun r => r.src.isWithin start.text stop.text && r.updatedAt.isBefore before)
    |>.mergeSort fun a b => a.src.textBytes < b.src.textBytes ∨
      (a.src.textBytes = b.src.textBytes ∧ a.rowid ≤ b.rowid)

section

variable {ρ κ α : Type}

/-- A cursor over decoded rows, or over none with the first error as its fault. -/
def cursorOf (rows : List (Except StoreError α)) : Cursor α :=
  match rows.mapM id with
  | .ok records => .ofList records
  | .error e => .failed e

/-- A cursor over rows, the columns of all of which have to be read before any is decoded. -/
def readRows (columns : ρ → Except StoreError κ) (decode : κ → Except StoreError α)
    (rows : List ρ) : Except StoreError (Cursor α) :=
  (rows.mapM columns).map fun read => cursorOf (read.map decode)

end

def linksIn (t : Tables) (start stop : Ident) (before : Stamp) :
    Except StoreError (Cursor Link) :=
  match t.links with
  | none => .error (missingTable .links "links")
  | some rows => readRows (linkColumns .links) (decodeLink .links) (linkRows rows start stop before)

def edgesIn (t : Tables) (start stop : Ident) (before : Stamp) :
    Except StoreError (Cursor Edge) :=
  match t.edges with
  | none => .error (missingTable .edges "edges")
  | some rows => readRows (edgeColumns .edges) (decodeEdge .edges) (edgeRows rows start stop before)

instance : LinkStore Tables where
  storeLink := storeLink
  storeEdge := storeEdge
  findLink := findLink
  removeStaleEdges := removeStaleEdges
  links := linksIn
  edges := edgesIn

end Tables

end CrawlGraph
