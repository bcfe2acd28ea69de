import Std.Time.DateTime
import CrawlGraph.Console.Run

/-!
# The program

The command line on the machine that the program runs on. All that is done here is to hand the
operations of a `Machine` on to the operating system.
-/

namespace CrawlGraph

/-- The number and the wording of an error of the operating system. Numbers may come negated. -/
def OsError.ofRaw (code : UInt32) (text : String) : OsError :=
  .ofCode code.toInt32.toInt.natAbs text

/-- The error of the operating system in an exception. -/
def OsError.ofException : IO.Error → OsError
  | .noFileOrDirectory _ code text | .alreadyExists _ code text | .inappropriateType _ code text
  | .permissionDenied _ code text | .invalidArgument _ code text | .interrupted _ code text
  | .resourceExhausted _ code text | .noSuchThing _ code text | .otherError code text
  | .resourceBusy code text | .resourceVanished code text | .unsupportedOperation code text
  | .hardwareFault code text | .unsatisfiedConstraints code text | .illegalOperation code text
  | .protocolError code text | .timeExpired code text => .ofRaw code text
  | .unexpectedEof => ⟨0, "unexpected end of file"⟩
  | .userError text => ⟨0, text⟩

/-- The result of an action, or the error of the operating system that it ended in. -/
def caught {α : Type} (x : IO α) : IO (Except OsError α) := do
  try
    return .ok (← x)
  catch e => return .error (.ofException e)

/-- The bytes of a file. -/
def fileBytes (path : String) : IO (Except OsError (List UInt8)) := do
  return (← caught (IO.FS.readBinFile path)).map fun bytes => bytes.data.toList

/-- Whether a file or a directory can be opened, or is there and may not be. -/
def isThere (path : String) : IO Bool := do
  match ← caught (IO.FS.Handle.mk path .read) with
  | .ok _ => return true
  | .error e => return e = .notPermitted

/-- Whether a directory is at a path: it can be opened, but not be read. -/
def isDirectoryAt (path : String) : IO Bool := do
  match ← caught (do (← IO.FS.Handle.mk path .read).read 1) with
  | .ok _ => return false
  | .error e => return e = .isDirectory

/-- The time of the system clock. -/
def systemTime : IO Stamp := do
  return Int64.ofInt (← Std.Time.Timestamp.now).toSecondsSinceUnixEpoch.val

/-- Waits until the system clock has moved past a second. -/
partial def waitPast (start : Stamp) : IO Stamp := do
  let now ← systemTime
  if start < now then return now
  IO.sleep 20
  waitPast start

/-- Reads bytes up to a line feed, which is the last of them, or to the end of the input. -/
partial def bytesOfLine (input : IO.FS.Stream) (bytes : ByteArray) : IO ByteArray := do
  let next ← input.read 1
  let bytes := bytes ++ next
  if next.isEmpty || next.data.contains 10 then return bytes
  bytesOfLine input bytes

/-- The number that some bytes stand for, the first weighing most. -/
def bytesNumber (bytes : List UInt8) : Nat := bytes.foldl (fun n b => 256 * n + b.toNat) 0

instance : Machine IO where
  pathExists := isThere
  readFile := fileBytes
  writeFile path bytes := caught (IO.FS.writeBinFile path ⟨bytes.toArray⟩)
  removeFile path := do
    if ← isDirectoryAt path then return .error .isDirectory
    caught (IO.FS.removeFile path)
  makeDirectory path := caught (IO.FS.createDir path)
  isDirectory := isDirectoryAt
  put text := do
    let out ← IO.getStdout
    out.putStr text
    out.flush
  complain := IO.eprint
  typedLine := do
    match ← caught (do bytesOfLine (← IO.getStdin) .empty) with
    | .ok bytes => return Ingest.decodeLine bytes.data.toList
    | .error e => return .error (.device e)
  home := do return (← IO.getEnv "HOME").getD "~"
  now := systemTime
  nextSecond := do waitPast (← systemTime)
  idents := do
    let start := bytesNumber (← IO.getRandomBytes 16).data.toList
    let step := 2 * bytesNumber (← IO.getRandomBytes 16).data.toList + 1
    return fun n => .ofRandom (start + n * step)

end CrawlGraph

/-- Runs the command line. -/
def main (words : List String) : IO UInt32 := CrawlGraph.Console.run words
