import CrawlGraph.Store

/-!
# The store in memory

The links and edges of a graph behind four indices:

* `links`, the links by identifier, and `identOfUrl`, the identifiers by URL;
* `edges`, the edges by identifier, and `outgoing`, for each page the identifiers of the edges
  that leave it, in the order of their creation. A page that no edge leaves has no entry.

The operations are those of `LinkStore`. An identifier is drawn only for a record that is really
new, after all checks, and the clock is read only once both ends of an edge are known.
-/

namespace CrawlGraph

/-- The four indices of a graph in memory. -/
structure Memory where
  links : Std.TreeMap Ident Link := {}
  identOfUrl : Std.TreeMap String Ident := {}
  edges : Std.TreeMap Ident Edge := {}
  outgoing : Std.TreeMap Ident (List Ident) := {}

namespace Memory

/-- The graph without links and edges. -/
def empty : Memory := {}

instance : Inhabited Memory := ⟨empty⟩

/-- How many links there are. -/
def linkCount (m : Memory) : Nat := m.links.size

/-- How many edges there are. -/
def edgeCount (m : Memory) : Nat := m.edges.size

/-- The identifiers of the edges that leave a page. -/
def edgesFrom (m : Memory) (src : Ident) : List Ident := (m.outgoing[src]?).getD []

/-! ## 1. Links -/

/-- The graph with a link in place of what its identifier named. -/
def putLink (m : Memory) (link : Link) : Memory := { m with links := m.links.insert link.id link }

/-- The graph with a link under a new identifier and a new URL. -/
def addLink (m : Memory) (link : Link) : Memory :=
  { m with
    links := m.links.insert link.id link
    identOfUrl := m.identOfUrl.insert link.url link.id }

/-- The link as it is stored over an earlier one with the same URL. -/
def refreshedLink (existing link : Link) : Link :=
  { link with id := existing.id, retrievedAt := max link.retrievedAt existing.retrievedAt }

def storeLink : Writing Memory Link Unit := do
  let link ← Writing.record
  let m ← Writing.store
  match m.identOfUrl[link.url]? with
  | some id =>
    match m.links[id]? with
    | none => throw (.of .upsertLink (.invalidRecord s!"url index points at missing link {id}"))
    | some existing =>
      Writing.assign fun link => { link with id }
      let stored := refreshedLink { existing with id } link
      Writing.onSession <| Action.change fun m => .ok (m.putLink stored)
      Writing.assign fun link => { link with retrievedAt := stored.retrievedAt }
  | none =>
    let id ← Writing.onSession <| Action.drawIdent .upsertLink fun m id => m.links.contains id
    Writing.assign fun link => { link with id }
    let stored ← Writing.record
    Writing.onSession <| Action.change fun m => .ok (m.addLink stored)

def findLink (m : Memory) (id : Ident) : Except StoreError Link :=
  match m.links[id]? with
  | some link => .ok link
  | none => .error (.of .findLink .notFound)

/-! ## 2. Edges -/

/-- The graph with an edge in place of what its identifier named. -/
def putEdge (m : Memory) (edge : Edge) : Memory := { m with edges := m.edges.insert edge.id edge }

/-- The graph with an edge under a new identifier, last among those that leave its source. -/
def addEdge (m : Memory) (edge : Edge) : Memory :=
  { m with
    edges := m.edges.insert edge.id edge
    outgoing := m.outgoing.insert edge.src (m.edgesFrom edge.src ++ [edge.id]) }

/-- The edge from one page to another. -/
def edgeBetween? (m : Memory) (src dst : Ident) : Option Edge :=
  (m.edgesFrom src).findSome? fun id => (m.edges[id]?).filter fun e => e.dst == dst

def storeEdge : Writing Memory Edge Unit := do
  let edge ← Writing.record
  let m ← Writing.store
  if m.links.contains edge.src && m.links.contains edge.dst then
    let now ← Writing.onSession Action.readClock
    match m.edgeBetween? edge.src edge.dst with
    | some existing =>
      let stored := { existing with updatedAt := max existing.updatedAt now }
      Writing.onSession <| Action.change fun m => .ok (m.putEdge stored)
      Writing.assign fun _ => stored
    | none =>
      let id ← Writing.onSession <| Action.drawIdent .upsertEdge fun m id => m.edges.contains id
      Writing.assign fun edge => { edge with id }
      Writing.assign fun edge => { edge with updatedAt := now }
      let stored ← Writing.record
      Writing.onSession <| Action.change fun m => .ok (m.addEdge stored)
  else throw (.of .upsertEdge .unknownEndpoints)

/-- Whether the identifier names an edge that was confirmed at `before` or later. -/
def isConfirmed (m : Memory) (before : Stamp) (id : Ident) : Bool :=
  match m.edges[id]? with
  | some edge => before ≤ edge.updatedAt
  | none => false

/-- The graph without the edges from `src` that were last confirmed before a time. -/
def withoutStale (m : Memory) (src : Ident) (before : Stamp) : Memory :=
  let (kept, stale) := (m.edgesFrom src).partition (m.isConfirmed before)
  { m with
    edges := stale.foldl (fun edges id => edges.erase id) m.edges
    outgoing := if kept.isEmpty then m.outgoing.erase src else m.outgoing.insert src kept }

def removeStaleEdges (m : Memory) (src : Ident) (before : Stamp) : Except StoreError Memory :=
  .ok (m.withoutStale src before)

/-! ## 3. Ranges -/

/-- The entries of an ordered map with a key in a range, in the order of the keys. -/
def inRange {β : Type} (t : Std.TreeMap Ident β) (start stop : Ident) : List (Ident × β) :=
  t.toList.filter fun e => decide (start ≤ e.1 ∧ e.1 < stop)

def linkList (m : Memory) (start stop : Ident) (before : Stamp) : List Link :=
  ((inRange m.links start stop).map (·.2)).filter fun link => link.retrievedAt < before

def edgeList (m : Memory) (start stop : Ident) (before : Stamp) : List Edge :=
  (((inRange m.outgoing start stop).flatMap (·.2)).filterMap fun id => m.edges[id]?).filter
    fun edge => edge.updatedAt < before

instance : LinkStore Memory where
  storeLink := storeLink
  storeEdge := storeEdge
  findLink := findLink
  removeStaleEdges := removeStaleEdges
  links m start stop before := .ok (.ofList (m.linkList start stop before))
  edges m start stop before := .ok (.ofList (m.edgeList start stop before))

end Memory

end CrawlGraph
