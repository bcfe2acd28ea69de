import CrawlGraph.Cursor
import CrawlGraph.Supply

/-!
# The operations of a store

A store keeps links and edges. `LinkStore` lists what every kind of store can do; importing and
scanning are written over it, so they work on each kind alike.

Ranges are half open: they hold their lower bound and not their upper one. Writing needs a clock
and identifiers, so the writers act on a `Session`, a store together with its supply. They keep
whatever they changed or consumed before an error: a failed `EStateM` run has a state too.

1. `Action`, what is done to a session.
2. `Writing`, an action that also has the record of its caller in its hands, and changes it as it
   goes along.
3. `LinkStore`.
-/

namespace CrawlGraph

/-! ## 1. Actions -/

/-- A store with the clock and the identifiers that it draws from. -/
structure Session (σ : Type) where
  store : σ
  supply : Supply

/-- An action on a session. An error leaves the session as it is by then. -/
abbrev Action (σ ε α : Type) := EStateM ε (Session σ) α

namespace Action

variable {σ ε ε' α : Type}

/-- The action with another error in place of its own. -/
def mapError (f : ε → ε') (x : Action σ ε α) : Action σ ε' α := fun s =>
  match x s with
  | .ok a s' => .ok a s'
  | .error e s' => .error (f e) s'

/-- Reads the store. -/
def query (f : σ → Except ε α) : Action σ ε α := fun s =>
  match f s.store with
  | .ok a => .ok a s
  | .error e => .error e s

/-- Replaces the store. -/
def change (f : σ → Except ε σ) : Action σ ε Unit := fun s =>
  match f s.store with
  | .ok store => .ok () { s with store }
  | .error e => .error e s

/-- Reads the clock of the session. -/
def readClock : Action σ ε Stamp := fun s =>
  .ok s.supply.now { s with supply := s.supply.afterRead }

/-- Draws the identifier of a record, one that is neither nil nor taken. -/
def drawIdent (op : Operation) (taken : σ → Ident → Bool) : Action σ StoreError Ident := fun s =>
  match s.supply.fresh (taken s.store) maxAttempts with
  | (some id, supply) => .ok id { s with supply }
  | (none, supply) => .error (.of op (.identsExhausted maxAttempts)) { s with supply }

end Action

/-! ## 2. The record of the caller -/

/-- A session, and the record that the caller of an operation has lent to it. -/
structure Lent (σ ρ : Type) where
  session : Session σ
  record : ρ

/-- An action with a record in its hands. An error leaves both as they are by then. -/
abbrev Writing (σ ρ α : Type) := EStateM StoreError (Lent σ ρ) α

namespace Writing

variable {σ ρ α : Type}

/-- Acts on the session alone. -/
def onSession (x : Action σ StoreError α) : Writing σ ρ α := fun l =>
  match x l.session with
  | .ok a session => .ok a { l with session }
  | .error e session => .error e { l with session }

/-- The record as it is by now. -/
def record : Writing σ ρ ρ := fun l => .ok l.record l

/-- The store as it is by now. -/
def store : Writing σ ρ σ := fun l => .ok l.session.store l

/-- Changes the record. -/
def assign (f : ρ → ρ) : Writing σ ρ Unit := fun l => .ok () { l with record := f l.record }

/-- The action on a session that hands out a record and gives back what became of it. -/
def handed (x : Writing σ ρ Unit) (given : ρ) : Action σ StoreError ρ := fun s =>
  match x ⟨s, given⟩ with
  | .ok () l => .ok l.record l.session
  | .error e l => .error e l.session

/-- What becomes of a record that is handed out, also where the writing fails. -/
def recordAfter (x : Writing σ ρ Unit) (given : ρ) (s : Session σ) : ρ :=
  match x ⟨s, given⟩ with
  | .ok () l => l.record
  | .error _ l => l.record

end Writing

/-! ## 3. Stores -/

/-- What a store of links and edges can do. -/
class LinkStore (σ : Type) where
  /-- Stores a new link, or updates the one with the same URL: its identifier stays and the later
      retrieval time is kept. The link of the caller becomes the one that is stored. -/
  storeLink : Writing σ Link Unit
  /-- Stores a new edge, or confirms the one between the same pages. The edge of the caller becomes
      the one that is stored. -/
  storeEdge : Writing σ Edge Unit
  /-- The link with the given identifier. -/
  findLink : σ → Ident → Except StoreError Link
  /-- The store without the edges from a page that were last confirmed before a time. -/
  removeStaleEdges : σ → Ident → Stamp → Except StoreError σ
  /-- The links with an identifier in a range, retrieved before a time, in the order of their
      identifiers. -/
  links : σ → Ident → Ident → Stamp → Except StoreError (Cursor Link)
  /-- The edges from a page in a range, confirmed before a time, in the order of their sources
      and, for one source, of their creation. -/
  edges : σ → Ident → Ident → Stamp → Except StoreError (Cursor Edge)

namespace LinkStore

variable {σ : Type} [LinkStore σ]

/-- Stores a link. Gives the link as stored. -/
def upsertLink (link : Link) : Action σ StoreError Link := storeLink.handed link

/-- Stores an edge. Gives the edge as stored. -/
def upsertEdge (edge : Edge) : Action σ StoreError Edge := storeEdge.handed edge

end LinkStore

end CrawlGraph
