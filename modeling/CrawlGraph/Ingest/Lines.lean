import CrawlGraph.Disk.OsError
import CrawlGraph.Text.Bytes

/-!
# Lines of a byte text

A byte text is cut into lines at each line feed, and each line is read as UTF-8 on its own. A
carriage return right before a line feed belongs to the line end. Bytes after the last line feed
are a line of their own, if there are any.
-/

namespace CrawlGraph.Ingest

/-- Why a line cannot be read. -/
inductive ReadFault where
  | notText
  | device (error : OsError)
  deriving DecidableEq, Repr

/-- The wording of the reason. -/
def ReadFault.message : ReadFault → String
  | .notText => "stream did not contain valid UTF-8"
  | .device e => e.message

/-- A line, or why it cannot be read. -/
abbrev Line := Except ReadFault String

/-- The line of the given bytes. -/
def decodeLine (bytes : List UInt8) : Line :=
  match Text.ofBytes? bytes with
  | some s => .ok s
  | none => .error .notText

/-- The bytes without a carriage return at their end. -/
def withoutReturn (bytes : List UInt8) : List UInt8 :=
  if bytes.getLast? = some 13 then bytes.dropLast else bytes

/-- The bytes of each line, without its line end. -/
def byteLines (bytes : List UInt8) : List (List UInt8) :=
  let pieces := bytes.splitOn 10
  let last := pieces.getLast?.getD []
  pieces.dropLast.map withoutReturn ++ (if last = [] then [] else [last])

/-- The lines of a byte text. -/
def linesOf (bytes : List UInt8) : List Line := (byteLines bytes).map decodeLine

end CrawlGraph.Ingest
