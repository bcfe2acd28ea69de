import CrawlGraph.Console.Machine
import CrawlGraph.Tables.Saved

/-!
# The file of a store

A store is kept in one file. While it is open its tables are held in memory, and companion files
may lie beside it; closing it writes the tables back and clears the companions away. A file that
was removed meanwhile is not made again.

1. `StoreForm`, the form in which an engine keeps tables in a file and beside it.
2. Opening and closing.
3. Removing.
-/

namespace CrawlGraph

/-! ## 1. The form of a file -/

/-- What lies beside the file of a store: the journal of a change that was not finished, the log of
    changes that are not in the file yet, and the index of the log. -/
structure Beside where
  journal : Option (List UInt8)
  log : Option (List UInt8)
  index : Option (List UInt8)

/-- The form in which an engine keeps tables. -/
class StoreForm where
  /-- The tables of a file, given what lies beside it. -/
  read? : List UInt8 → Beside → Option Tables
  /-- The bytes of a file that is closed, when nothing is left beside it. -/
  write : Tables → List UInt8

/-- The form that keeps everything in the file. -/
instance StoreForm.plain : StoreForm where
  read? bytes _ := Tables.ofBytes? bytes
  write := Tables.toBytes

namespace StoreFile

variable {m : Type → Type} [Monad m] [Machine m]

/-! ## 2. Opening and closing -/

/-- What the names of the companions of a file end in: those of its log and of the index of it. -/
def companionEnds : List String := ["-wal", "-shm"]

/-- The companions of a file. -/
def companions (path : String) : List String := companionEnds.map (path ++ ·)

/-- The journal of a file. -/
def journal (path : String) : String := path ++ "-journal"

/-- The error of a file that cannot be opened. -/
def unopenable (path : String) : StoreError :=
  .of .openStore (.database s!"unable to open database file: {path}")

/-- The error of a file that holds no tables. -/
def foreign : StoreError := .of .openStore (.database "file is not a database")

/-- The bytes of a file, if it is there. -/
def contents (path : String) : m (Except OsError (Option (List UInt8))) := do
  match ← Machine.readFile path with
  | .ok bytes => pure (.ok (some bytes))
  | .error e => pure (if e = .notFound then .ok none else .error e)

/-- The bytes of a file, which is made if it is not there. -/
def ensured (path : String) : m (Except OsError (List UInt8)) := do
  match ← contents path with
  | .ok (some bytes) => pure (.ok bytes)
  | .ok none =>
    match ← Machine.writeFile path [] with
    | .ok () => pure (.ok [])
    | .error e => pure (.error e)
  | .error e => pure (.error e)

/-- Whether a journal is cleared away when the file beside it is opened: a file without any bytes
    has no changes to take back, and other changes are taken back unless the journal begins with a
    zero. -/
def clearsJournal (bytes journal : List UInt8) : Bool :=
  bytes = [] || journal.head?.any (· ≠ 0)

/-- The bytes of the journal of a file, if it has one. Clears it away if that is due. -/
def takeJournal (path : String) (bytes : List UInt8) :
    m (Except OsError (Option (List UInt8))) := do
  match ← contents (journal path) with
  | .ok (some found) =>
    if clearsJournal bytes found then
      match ← Machine.removeFile (journal path) with
      | .ok () => pure (.ok (some found))
      | .error e => pure (.error e)
    else pure (.ok (some found))
  | other => pure other

/-- The bytes of some files as far as they are there. -/
def contentsOf : List String → m (Except OsError (List (Option (List UInt8))))
  | [] => pure (.ok [])
  | path :: rest => do
    match ← contents path with
    | .ok bytes =>
      match ← contentsOf rest with
      | .ok more => pure (.ok (bytes :: more))
      | .error e => pure (.error e)
    | .error e => pure (.error e)

/-- The tables that were read, or the error of a file that holds none. -/
def decoded [StoreForm] (path : String) (bytes : List UInt8) (beside : Beside) :
    m (Except StoreError Tables) := do
  match StoreForm.read? bytes beside with
  | none => pure (.error foreign)
  | some tables =>
    match ← Machine.writeFile path (StoreForm.write tables.completed) with
    | .ok () => pure (.ok tables.completed)
    | .error _ => pure (.error (unopenable path))

/-- Opens the store in a file, which is made if it is not there. A table that is missing comes
    back empty. -/
def openStore [StoreForm] (path : String) : m (Except StoreError Tables) := do
  match ← ensured path with
  | .error _ => pure (.error (unopenable path))
  | .ok bytes =>
    match ← takeJournal path bytes with
    | .error _ => pure (.error (unopenable path))
    | .ok journal =>
      match ← contentsOf (companions path) with
      | .ok [log, index] => decoded path bytes ⟨journal, log, index⟩
      | _ => pure (.error (unopenable path))

/-- Closes the store in a file. -/
def closeStore [StoreForm] (path : String) (tables : Tables) : m Unit := do
  if ← Machine.pathExists path then
    discard <| Machine.writeFile path (StoreForm.write tables)
    (companions path).forM fun companion => discard <| Machine.removeFile companion

/-! ## 3. Removing -/

/-- Removes the given files as far as they are there. -/
def removePresent : List String → m (Except OsError Unit)
  | [] => pure (.ok ())
  | path :: rest => do
    if ← Machine.pathExists path then
      match ← Machine.removeFile path with
      | .ok () => removePresent rest
      | .error e => pure (.error e)
    else removePresent rest

/-- Removes the file of a store and then its companions. -/
def removeStore (path : String) : m (Except OsError Unit) := do
  match ← Machine.removeFile path with
  | .ok () => removePresent (companions path)
  | .error e => pure (.error e)

end StoreFile

end CrawlGraph
