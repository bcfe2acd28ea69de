import CrawlGraph.Record
import CrawlGraph.Tables.Binary64
import CrawlGraph.Text.Bytes

/-!
# Values of a column

A column of a table may hold a value of any kind, whatever it is meant for: a column for texts may
hold none, or bytes, and a column for integers may hold texts. A text is kept as bytes, which need
not be those of one.

1. `Stored`, and what a value is read as.
2. Times: values beside an integer, and the later one of two.
3. Texts: values in a range of texts, and their order.
-/

namespace CrawlGraph

/-- A value in a column. -/
inductive Stored where
  | null
  | int (value : Stamp)
  | real (value : Binary64)
  | text (bytes : List UInt8)
  | blob (bytes : List UInt8)
  deriving DecidableEq, Repr

namespace Stored

instance : Coe Stamp Stored := ⟨int⟩

/-- A text as a value. -/
def ofString (s : String) : Stored := .text (Text.bytes s)

instance : Coe String Stored := ⟨ofString⟩

theorem ofString_injective : Function.Injective ofString := fun _ _ h =>
  Text.bytes_injective (text.inj h)

@[simp] theorem ofString_inj {s t : String} : ofString s = ofString t ↔ s = t :=
  ⟨fun h => ofString_injective h, congrArg ofString⟩

/-! ## 1. Kinds -/

/-- What kind of value it is. -/
def kind : Stored → String
  | .null => "Null"
  | .int _ => "Integer"
  | .real _ => "Real"
  | .text _ => "Text"
  | .blob _ => "Blob"

/-- The integer that the value is, if it is one. -/
def stamp? : Stored → Option Stamp
  | .int value => some value
  | _ => none

/-- The text that the value is, if it is one. -/
def text? : Stored → Option String
  | .text bytes => Text.ofBytes? bytes
  | _ => none

@[simp] theorem text?_ofString (s : String) : (ofString s).text? = some s := Text.ofBytes?_bytes s

/-- A value is read as the one text that it is. -/
theorem text?_eq_some_iff {value : Stored} {s : String} :
    value.text? = some s ↔ value = ofString s := by
  cases value with
  | text bytes =>
    rw [text?, Text.ofBytes?_eq_some_iff, ofString, text.injEq]
  | _ => exact ⟨nofun, nofun⟩

/-! ## 2. Times -/

/-- Whether the value comes before an integer. Nothing is before it where there is no value, and no
    text and no bytes are. -/
def isBefore (s : Stored) (t : Stamp) : Bool :=
  match s with
  | .int value => value < t
  | .real value => value.isBelow t.toInt
  | .null | .text _ | .blob _ => false

/-- The later one of a value in the column and a time; the value if they are equal. -/
def later (s : Stored) (t : Stamp) : Stored := if s.isBefore t then .int t else s

@[simp] theorem isBefore_int (a t : Stamp) : (int a).isBefore t = decide (a < t) := rfl

@[simp] theorem later_int (a t : Stamp) : (int a).later t = .int (if a < t then t else a) := by
  simp only [later, isBefore_int, decide_eq_true_eq]
  split <;> rfl

/-! ## 3. Texts -/

/-- The bytes of a text. -/
def textBytes : Stored → List UInt8
  | .text bytes => bytes
  | _ => []

@[simp] theorem textBytes_ofString (s : String) : (ofString s).textBytes = Text.bytes s := rfl

/-- Whether the value is a text in a range of texts. Texts are compared byte by byte; numbers come
    before all of them, and bytes after. -/
def isWithin (s : Stored) (start stop : String) : Bool :=
  match s with
  | .text bytes => Text.bytes start ≤ bytes ∧ bytes < Text.bytes stop
  | _ => false

end Stored

end CrawlGraph
