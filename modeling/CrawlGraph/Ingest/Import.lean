import CrawlGraph.Adjacency
import CrawlGraph.Ingest.Lines
import CrawlGraph.Store

/-!
# Importing crawl results

The lines of a crawl result are stored one after another. A source is stamped as retrieved at the
time of the import, a destination as never retrieved. What was stored before an error stays.

A pruning import then drops, for every source that it named, the edges that were last confirmed
before the import began.

1. `ImportError` and `ImportSummary`.
2. `storeAdjacency` stores one line, and `takeLine` counts it.
3. `importLines`, the whole import.
-/

namespace CrawlGraph.Ingest

variable {σ : Type} [LinkStore σ]

/-! ## 1. Outcomes -/

/-- Why an import ended early. -/
inductive ImportError where
  | unreadable (line : Nat) (fault : ReadFault)
  | link (url : String) (cause : StoreError)
  | edge (src dst : String) (cause : StoreError)
  | prune (id : Ident) (cause : StoreError)
  deriving DecidableEq

namespace ImportError

/-- What the import was about to do. -/
def context : ImportError → String
  | .unreadable line _ => s!"Failed to read line {line}"
  | .link url _ => s!"Failed to store {url}"
  | .edge src dst _ => s!"Failed to link {src} -> {dst}"
  | .prune id _ => s!"Failed to prune edges of {id.text}"

/-- The error of the store underneath, if there is one. -/
def cause? : ImportError → Option StoreError
  | .unreadable _ _ => none
  | .link _ cause => some cause
  | .edge _ _ cause => some cause
  | .prune _ cause => some cause

/-- The wordings of the error and of those underneath, from the outside in. -/
def chain : ImportError → List String
  | .unreadable line fault => [(unreadable line fault).context, fault.message]
  | .link url cause => (link url cause).context :: cause.chain
  | .edge src dst cause => (edge src dst cause).context :: cause.chain
  | .prune id cause => (prune id cause).context :: cause.chain

end ImportError

/-- What an import did. `links` counts the different pages that the lines named, and `edges` the
    hyperlinks with repetitions. -/
structure ImportSummary where
  lines : Nat := 0
  skipped : Nat := 0
  links : Nat := 0
  edges : Nat := 0
  prunedSources : Nat := 0
  deriving DecidableEq, Repr

/-! ## 2. One line -/

/-- Stores a page. -/
def storePage (url : String) (retrievedAt : Stamp) : Action σ ImportError Link :=
  (LinkStore.upsertLink (.unstored url retrievedAt)).mapError (.link url)

/-- Stores a destination and the hyperlink to it. -/
def storeDestination (src : Link) (url : String) : Action σ ImportError Unit := do
  let dst ← storePage url 0
  discard <| (LinkStore.upsertEdge (.unstored src.id dst.id)).mapError (.edge src.url dst.url)

/-- Stores what a line says. Gives the identifier of its source. -/
def storeAdjacency (now : Stamp) (a : Adjacency) : Action σ ImportError Ident := do
  let src ← storePage a.src now
  a.dsts.forM (storeDestination src)
  pure src.id

/-- How far an import has come. `urls` and `sources` hold repetitions. -/
structure Progress where
  lines : Nat := 0
  skipped : Nat := 0
  edges : Nat := 0
  urls : List String := []
  sources : List Ident := []

/-- Stores and counts one line. -/
def takeLine (now : Stamp) (p : Progress) (line : Line) : Action σ ImportError Progress :=
  match line with
  | .error fault => throw (.unreadable (p.lines + 1) fault)
  | .ok text =>
    match Adjacency.ofLine? text with
    | none => pure { p with lines := p.lines + 1, skipped := p.skipped + 1 }
    | some a => do
      let id ← storeAdjacency now a
      pure { p with
        lines := p.lines + 1
        edges := p.edges + a.dsts.length
        urls := a.src :: a.dsts ++ p.urls
        sources := id :: p.sources }

/-! ## 3. The whole import -/

/-- Drops the edges from a page that were last confirmed before a time. -/
def pruneSource (now : Stamp) (id : Ident) : Action σ ImportError Unit :=
  (Action.change fun store => LinkStore.removeStaleEdges store id now).mapError (.prune id)

/-- Stores the lines of a crawl result, and prunes their sources if asked to. -/
def importLines (lines : List Line) (now : Stamp) (prune : Bool) :
    Action σ ImportError ImportSummary := do
  let p ← lines.foldlM (takeLine now) {}
  let sources := if prune then (p.sources.mergeSort (· ≤ ·)).eraseDups else []
  sources.forM (pruneSource now)
  pure {
    lines := p.lines
    skipped := p.skipped
    links := p.urls.eraseDups.length
    edges := p.edges
    prunedSources := sources.length }

end CrawlGraph.Ingest
