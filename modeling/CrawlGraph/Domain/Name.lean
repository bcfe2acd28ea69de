import CrawlGraph.Domain.Label

/-!
# Host names

The ASCII form of an international host name, after Unicode Technical Standard #46 without its
transitional rules: the characters are mapped, the text is composed, each label is read in either
of its forms, and each is written in ASCII. Empty labels and long names are let through.
-/

namespace CrawlGraph.Domain

/-- The labels of a host name, unless it is no valid one. -/
def labels? (cs : List Char) : Option (List (List Char)) := do
  let mapped ← mapped? cs
  let labels ← ((normalForm mapped).splitOn '.').mapM Label.ofText?
  if directionsFit labels then some labels else none

/-- The ASCII form of a host name, unless it is no valid one. -/
def ascii? (cs : List Char) : Option (List Char) :=
  (labels? cs).map fun labels => ['.'].intercalate (labels.map Label.ascii)

end CrawlGraph.Domain
