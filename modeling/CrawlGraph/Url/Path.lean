import CrawlGraph.Url.Percent

/-!
# Paths

The path of a URL is a row of segments. A segment `.` means the place where it stands and a
segment `..` means one step back, each also with its full stops percent-encoded. They are carried
out while the path is read, so a path that is kept holds neither.

1. Which segments are steps, and which names a drive.
2. `resolve` reads the segments one by one; `meetsDrive` watches it.
3. `segmentsOf` cuts the text of a path and `pathText` writes it.
-/

namespace CrawlGraph.Url

/-! ## 1. Kinds of segments -/

/-- The forms of a full stop. -/
def dotForms : List (List Char) := [".".toList, "%2e".toList]

/-- Whether the segment means the place where it stands. -/
def isStay (segment : List Char) : Bool := dotForms.contains (segment.map Char.toLower)

/-- Whether the segment means one step back. -/
def isBack (segment : List Char) : Bool :=
  (dotForms.flatMap fun a => dotForms.map (a ++ ·)).contains (segment.map Char.toLower)

/-- Whether the segment names a drive, which no step back leaves. -/
def isDrive (segment : List Char) : Bool :=
  match segment with
  | [letter, mark] => letter.isAlpha && (mark = ':' || mark = '|')
  | _ => false

/-! ## 2. Reading segment by segment -/

/-- The segments, the last one in front, after a step back. -/
def stepBack : List (List Char) → List (List Char)
  | [] => []
  | segment :: rest => if isDrive segment then segment :: rest else rest

/-- The segments, the last one in front, after one more segment is read. -/
def enter (done : List (List Char)) (segment : List Char) : List (List Char) :=
  if isBack segment then stepBack done
  else if isStay segment then done
  else percentEncode escapedInPath segment :: done

/-- The path after all of its segments are read. Where it ends in a step, it ends in an empty
    segment then. -/
def resolve (segments : List (List Char)) : List (List Char) :=
  let done := segments.foldl enter []
  let isStep := segments.getLast?.any fun s => isBack s || isStay s
  (if isStep then [] :: done else done).reverse

/-- Whether a drive comes first at some time while the segments are read. -/
def meetsDrive (done : List (List Char)) : List (List Char) → Bool
  | [] => false
  | segment :: rest =>
    (done.isEmpty && isDrive segment) || meetsDrive (enter done segment) rest

/-! ## 3. The text of a path -/

/-- Whether the character parts segments in a URL of a common scheme. -/
def isSlash (c : Char) : Bool := c = '/' || c = '\\'

/-- The segments of the text of a path. -/
def segmentsOf (cs : List Char) : List (List Char) :=
  match cs with
  | [] => [[]]
  | c :: rest => if isSlash c then rest.splitOnP isSlash else (c :: rest).splitOnP isSlash

/-- The text of a path. -/
def pathText (segments : List (List Char)) : List Char := segments.flatMap ('/' :: ·)

end CrawlGraph.Url
