import CrawlGraph.Ident.Text

/-!
# Partitions of the identifier space

Work on the whole graph is shared out by cutting a range of identifiers into extents of equal
width. Extents are half open and share their bounds, so each identifier of the range lies in
exactly one of them.

1. `Partition.ofRange` cuts a range; `PartitionError` says why a range cannot be cut.
2. Three views of a partition: `extents` lists the extents, `extent` gives the one with an index,
   and `indexOf` finds the one that holds an identifier.

Main statement: `lt_length_of_extent`, an extent is there only for an index below the count.
-/

namespace CrawlGraph

/-- Why a partition, or a part of it, is not to be had. -/
inductive PartitionError where
  | noParts
  | emptyRange (start stop : Ident)
  | tooManyParts (count : Nat)
  | indexOutOfBounds (index count : Nat)
  | outOfRange (id : Ident)
  deriving DecidableEq

/-- The wording of the error. -/
def PartitionError.message : PartitionError → String
  | .noParts => "partition count must be greater than zero"
  | .emptyRange start stop =>
    s!"range start {start.text} must be lower than range end {stop.text}"
  | .tooManyParts count => s!"range is too narrow to split into {count} partitions"
  | .indexOutOfBounds index count =>
    s!"partition index {index} out of bounds for {count} partitions"
  | .outOfRange id => s!"identifier {id.text} falls outside the partitioned range"

/-- A range of identifiers cut into extents. `bounds` are the upper bounds of the extents. -/
structure Partition where
  start : Ident
  stop : Ident
  bounds : List Ident
  deriving DecidableEq

namespace Partition

/-! ## 1. Cutting a range -/

/-- The range from `start` up to `stop` in `count` extents. All are as wide as the quotient says,
    but the last, which takes up the remainder too. -/
def ofRange (start stop : Ident) (count : Nat) : Except PartitionError Partition :=
  if count = 0 then .error .noParts
  else if stop ≤ start then .error (.emptyRange start stop)
  else
    let width := (stop.toNat - start.toNat) / count
    if width = 0 then .error (.tooManyParts count)
    else
      let inner := (List.range (count - 1)).map fun i => Ident.ofNat (start.toNat + width * (i + 1))
      .ok ⟨start, stop, inner ++ [stop]⟩

/-- The whole identifier space up to the highest identifier, in `count` extents. -/
def whole (count : Nat) : Except PartitionError Partition := ofRange .nil .max count

/-! ## 2. Views -/

/-- How many extents there are. -/
def count (p : Partition) : Nat := p.bounds.length

/-- The bounds of every extent, in order. -/
def extents (p : Partition) : List (Ident × Ident) := (p.start :: p.bounds).zip p.bounds

/-- The bounds of the extent with an index. -/
def extent (p : Partition) (index : Nat) : Except PartitionError (Ident × Ident) :=
  match p.bounds[index]? with
  | none => .error (.indexOutOfBounds index p.count)
  | some upper => .ok (if index = 0 then p.start else (p.bounds[index - 1]?).getD p.start, upper)

/-- Whether the extent with an index ends at an identifier or before it. -/
def endsBy (p : Partition) (id : Ident) (index : Nat) : Bool :=
  match p.bounds[index]? with
  | none => false
  | some upper => upper ≤ id

/-- The first number from `low` up to `high` that fails a test, if those that pass it come first.
    What is left to look at is halved with each test. -/
def firstFailing (test : Nat → Bool) (low high : Nat) : Nat :=
  if low < high then
    let middle := (low + high) / 2
    if test middle then firstFailing test (middle + 1) high else firstFailing test low middle
  else low
termination_by high - low

/-- The index of the extent that holds an identifier. -/
def indexOf (p : Partition) (id : Ident) : Except PartitionError Nat :=
  if id < p.start ∨ p.stop ≤ id then .error (.outOfRange id)
  else .ok (firstFailing (p.endsBy id) 0 p.count)

/-- **An extent is there only for an index below the count.** -/
theorem lt_length_of_extent {p : Partition} {index : Nat} {e : Ident × Ident}
    (h : p.extent index = .ok e) : index < p.count := by
  unfold extent at h
  split at h
  · simp at h
  · rename_i hi
    exact (List.getElem?_eq_some_iff.mp hi).1

end Partition

end CrawlGraph
