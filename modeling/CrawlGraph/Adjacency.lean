import CrawlGraph.Url.Reading

/-!
# Adjacency lines

A crawl result is a text of lines. A line names a page and, after it, the pages that it links to,
with white space between them. Empty lines and lines that begin with `#` say nothing, and neither
do lines whose first word names no page; a later word that names no page is left out.
-/

namespace CrawlGraph

open Text

/-- What a line of a crawl result says: the page `src` links to each of `dsts`. -/
structure Adjacency where
  src : String
  dsts : List String
  deriving DecidableEq, Repr

namespace Adjacency

/-- The adjacency that the words of a line spell. -/
def ofWords? : List String → Option Adjacency
  | [] => none
  | first :: rest => (Url.normalUrl? first).map fun src => ⟨src, rest.filterMap Url.normalUrl?⟩

/-- Whether the line only comments on others. -/
def isComment (cs : List Char) : Bool := (trim cs).head? = some '#'

/-- What a line says, if it says something. -/
def ofLine? (line : String) : Option Adjacency :=
  if isComment line.toList then none else ofWords? ((words line.toList).map String.ofList)

end Adjacency

end CrawlGraph
