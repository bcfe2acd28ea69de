import CrawlGraph.Partition
import CrawlGraph.Store

/-!
# Scanning a store

A scan cuts the whole identifier space into extents and counts the links and the edges in each of
them. If an extent cannot be read, the error of the first such extent is the answer; links are
read before edges.
-/

namespace CrawlGraph.Scan

variable {σ : Type} [LinkStore σ]

/-- What a scan found in one extent. -/
structure ExtentStats where
  index : Nat
  start : Ident
  stop : Ident
  links : Nat
  edges : Nat
  deriving DecidableEq

/-- Why a scan failed. -/
inductive ScanError where
  | partition (error : PartitionError)
  | store (error : StoreError)
  deriving DecidableEq

/-- The wordings of the error and of those underneath, from the outside in. -/
def ScanError.chain : ScanError → List String
  | .partition e => [e.message]
  | .store e => e.chain

/-- The links in a range, retrieved before a time. -/
def linksIn (store : σ) (start stop : Ident) (before : Stamp) : Except StoreError (List Link) := do
  (← LinkStore.links store start stop before).collect

/-- The edges from a range, confirmed before a time. -/
def edgesIn (store : σ) (start stop : Ident) (before : Stamp) : Except StoreError (List Edge) := do
  (← LinkStore.edges store start stop before).collect

/-- Counts what is in one extent. -/
def scanExtent (store : σ) (before : Stamp) (index : Nat) (extent : Ident × Ident) :
    Except StoreError ExtentStats := do
  let links ← linksIn store extent.1 extent.2 before
  let edges ← edgesIn store extent.1 extent.2 before
  pure ⟨index, extent.1, extent.2, links.length, edges.length⟩

/-- Counts what is in each extent of a partition. -/
def scanPartition (store : σ) (before : Stamp) (p : Partition) :
    Except StoreError (List ExtentStats) :=
  p.extents.zipIdx.mapM fun (extent, index) => scanExtent store before index extent

/-- Scans the whole identifier space in `count` extents. -/
def scan (store : σ) (count : Nat) (before : Stamp) : Except ScanError (List ExtentStats) :=
  match Partition.whole count with
  | .error e => .error (.partition e)
  | .ok p => (scanPartition store before p).mapError .store

end CrawlGraph.Scan
