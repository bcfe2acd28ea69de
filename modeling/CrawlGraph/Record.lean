import CrawlGraph.Ident.Text

/-!
# Records

The two kinds of record in the graph of a crawl: a `Link` is a page, known by its URL, and an
`Edge` is a hyperlink from one page to another. Times are in seconds since the start of 1970.
-/

namespace CrawlGraph

/-- A point in time, in seconds since the start of 1970. -/
abbrev Stamp := Int64

/-- The latest point in time. -/
def Stamp.latest : Stamp := Int64.maxValue

/-- The point in time with a number of seconds, if it is in range. -/
def Stamp.ofInt? (n : Int) : Option Stamp :=
  if Int64.minValue.toInt ≤ n ∧ n ≤ Int64.maxValue.toInt then some (Int64.ofInt n) else none

/-- A page of the crawl. `retrievedAt` is the latest time at which its URL was reported as
    retrieved. -/
@[ext] structure Link where
  id : Ident
  url : String
  retrievedAt : Stamp
  deriving DecidableEq

/-- A hyperlink from the page `src` to the page `dst`. `updatedAt` is the last time at which a
    crawl confirmed it. -/
@[ext] structure Edge where
  id : Ident
  src : Ident
  dst : Ident
  updatedAt : Stamp
  deriving DecidableEq

/-- A page that is not stored yet. -/
def Link.unstored (url : String) (retrievedAt : Stamp) : Link := ⟨.nil, url, retrievedAt⟩

/-- A hyperlink that is not stored yet. -/
def Edge.unstored (src dst : Ident) : Edge := ⟨.nil, src, dst, 0⟩

end CrawlGraph
