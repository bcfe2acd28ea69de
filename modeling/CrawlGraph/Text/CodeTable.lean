import CrawlGraph.Text.Blank
import CrawlGraph.Text.Digits

/-!
# Tables over code points

A property of characters is given by rows, each of which gives one value to a range of code
points; rows are listed in rising order and do not overlap. `CodeTable.find?` looks a code point
up by halving.

Tables are written as text. A word of it is one row: `5be` or `5d0-5ea` for the range in
hexadecimal, then, where the rows carry a value, `=` and the value.
-/

namespace CrawlGraph.Text

/-- Rows of first code point, last code point and value, in rising order. -/
structure CodeTable (α : Type) where
  rows : Array (Nat × Nat × α)

namespace CodeTable

variable {α : Type}

/-- The row of `code` among the rows with index from `low` up to `high`. -/
def findBetween (rows : Array (Nat × Nat × α)) (code low high : Nat) : Option (Nat × α) :=
  if low < high then
    let mid := (low + high) / 2
    match rows[mid]? with
    | none => none
    | some (first, last, a) =>
      if code < first then findBetween rows code low mid
      else if last < code then findBetween rows code (mid + 1) high
      else some (first, a)
  else none
termination_by high - low

/-- The first code point and the value of the row that `c` falls into. -/
def find? (t : CodeTable α) (c : Char) : Option (Nat × α) :=
  findBetween t.rows c.toNat 0 t.rows.size

/-- Whether `c` falls into some row. -/
def contains (t : CodeTable α) (c : Char) : Bool := (t.find? c).isSome

/-! ## Reading a table -/

/-- The bounds written as `5be` or `5d0-5ea`. -/
def rangeOf? (cs : List Char) : Option (Nat × Nat) := do
  match cs.splitOn '-' with
  | [a] => let n ← hexNumber? a; pure (n, n)
  | [a, b] => let m ← hexNumber? a; let n ← hexNumber? b; pure (m, n)
  | _ => none

/-- The row written as a range and the value after `=`, or no value. -/
def rowOf? (value? : List Char → Option α) (cs : List Char) : Option (Nat × Nat × α) := do
  let (range, value) := cs.span (· != '=')
  let (first, last) ← rangeOf? range
  let a ← value? (value.drop 1)
  pure (first, last, a)

/-- The table written in `text`, a row for each of its words. -/
def ofText (value? : List Char → Option α) (text : String) : CodeTable α :=
  ⟨((words text.toList).filterMap (rowOf? value?)).toArray⟩

/-- The set of code points written in `text`. -/
def setOfText (text : String) : CodeTable Unit := ofText (fun _ => some ()) text

end CodeTable

end CrawlGraph.Text
