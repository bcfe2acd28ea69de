import CrawlGraph.Json.Row
import CrawlGraph.Scan.Stats

/-!
# Reports of a scan

What a scan found, as a text with totals and one line for each extent, or as JSON. Totals are
64-bit numbers.
-/

namespace CrawlGraph.Scan

/-! ## 1. Text -/

/-- The line between the parts of a report. -/
def divider : String := String.ofList (List.replicate 52 '━')

/-- A number written to the right end of at least `width` places. -/
def padded (width n : Nat) : String :=
  let digits := Text.decimal n
  String.ofList (List.replicate (width - digits.length) ' ' ++ digits)

/-- The sum of some counts as a 64-bit number. -/
def total (counts : List Nat) : Nat := counts.foldr (· + ·) 0 % UInt64.size

/-- The totals of a scan. -/
def summaryText (stats : List ExtentStats) : String :=
  let links := total (stats.map (·.links))
  let edges := total (stats.map (·.edges))
  s!"# Summary:\n  Partitions: {stats.length}\n  Links: {links}\n  Edges: {edges}\n"

/-- The line of one extent. -/
def extentLine (s : ExtentStats) : String :=
  "  [" ++ padded 3 s.index ++ "] " ++ s.start.text ++ " .. " ++ s.stop.text ++
    "  links: " ++ padded 6 s.links ++ "  edges: " ++ padded 6 s.edges ++ "\n"

/-- The report of a scan. -/
def report (stats : List ExtentStats) : String :=
  divider ++ "\n\n" ++ summaryText stats ++ "\n" ++ divider ++ "\n\n" ++
    String.join (stats.map extentLine)

/-! ## 2. JSON -/

/-- The members of one extent. -/
def statsRow (s : ExtentStats) : Json.Row :=
  [("index", .integer s.index), ("from", .text s.start.text), ("to", .text s.stop.text),
    ("links", .integer s.links), ("edges", .integer s.edges)]

/-- The report of a scan as JSON. -/
def reportJson (stats : List ExtentStats) : String :=
  String.ofList (Json.prettyList (stats.map statsRow))

end CrawlGraph.Scan
