import CrawlGraph.Disk.Location
import CrawlGraph.Disk.OsError
import CrawlGraph.Ingest.Lines
import CrawlGraph.Record

/-!
# The machine under a command

What a command needs from the machine that it runs on: files, a terminal, a clock and identifiers.
Commands are written over this class, so that they run on a real machine and on a value alike.

1. `Machine`.
2. `Machine.makeDirectories`, which makes a directory and those on the way to it.
-/

namespace CrawlGraph

/-! ## 1. What a machine does -/

/-- A machine that commands run on. -/
class Machine (m : Type → Type) where
  /-- Whether something is at a path. -/
  pathExists : String → m Bool
  /-- The bytes of a file. -/
  readFile : String → m (Except OsError (List UInt8))
  /-- Gives a file new bytes; makes it if it is not there. -/
  writeFile : String → List UInt8 → m (Except OsError Unit)
  /-- Removes a file. -/
  removeFile : String → m (Except OsError Unit)
  /-- Makes a directory in one that is there. -/
  makeDirectory : String → m (Except OsError Unit)
  /-- Whether a directory is at a path. -/
  isDirectory : String → m Bool
  /-- Writes to the standard output. -/
  put : String → m Unit
  /-- Writes to the standard error. -/
  complain : String → m Unit
  /-- Reads one line that is typed, with its line end; nothing at the end of the input. -/
  typedLine : m Ingest.Line
  /-- The home directory. -/
  home : m String
  /-- Reads the clock. -/
  now : m Stamp
  /-- Waits until the clock has moved past the second that it shows. Gives its new reading. -/
  nextSecond : m Stamp
  /-- A sequence of identifiers to draw from. -/
  idents : m (Nat → Ident)

/-- A command that may fail runs on the same machine. -/
instance {m : Type → Type} {ε : Type} [Monad m] [Machine m] : Machine (ExceptT ε m) where
  pathExists path := ExceptT.lift (Machine.pathExists path)
  readFile path := ExceptT.lift (Machine.readFile path)
  writeFile path bytes := ExceptT.lift (Machine.writeFile path bytes)
  removeFile path := ExceptT.lift (Machine.removeFile path)
  makeDirectory path := ExceptT.lift (Machine.makeDirectory path)
  isDirectory path := ExceptT.lift (Machine.isDirectory path)
  put text := ExceptT.lift (Machine.put text)
  complain text := ExceptT.lift (Machine.complain text)
  typedLine := ExceptT.lift Machine.typedLine
  home := ExceptT.lift Machine.home
  now := ExceptT.lift Machine.now
  nextSecond := ExceptT.lift Machine.nextSecond
  idents := ExceptT.lift Machine.idents

/-! ## 2. Directories on the way -/

/-- Makes the first of some directories, each of which lies in the one after it. Those behind are
    only made where they are not there, and one that is there already is none to make. -/
def Machine.makeNested {m : Type → Type} [Monad m] [Machine m] :
    List String → m (Except OsError Unit)
  | [] => pure (.ok ())
  | path :: above => do
    match ← Machine.makeDirectory path with
    | .ok () => pure (.ok ())
    | .error e =>
      if e = .notFound then
        match ← makeNested above with
        | .error e => pure (.error e)
        | .ok () =>
          match ← Machine.makeDirectory path with
          | .ok () => pure (.ok ())
          | .error e => do
            if ← Machine.isDirectory path then pure (.ok ()) else pure (.error e)
      else if ← Machine.isDirectory path then pure (.ok ())
      else pure (.error e)

/-- Makes a directory and those on the way to it. -/
def Machine.makeDirectories {m : Type → Type} [Monad m] [Machine m] (path : String) :
    m (Except OsError Unit) :=
  makeNested ((Disk.directoriesTo path.toList).map String.ofList)

end CrawlGraph
