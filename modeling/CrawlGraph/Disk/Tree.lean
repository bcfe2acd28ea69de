import Std.Data.TreeMap
import CrawlGraph.Disk.OsError

/-!
# Directory trees

A tree of directories and files as a value. A place in it is the list of the names from the root
down; the root itself is always a directory.

1. `Tree` and what stands at a place.
2. `locate` follows a path: every name but the last has to be that of a directory, `.` stays, `..`
   goes up, and a slash at the end asks for a directory too.
3. The operations: reading, writing and removing a file, and making a directory.
-/

namespace CrawlGraph.Disk

/-! ## 1. Trees -/

/-- What stands at a place. -/
inductive Node where
  | directory
  | file (bytes : List UInt8)
  deriving DecidableEq, Repr

/-- The names from the root down to a place. -/
abbrev Place := List String

/-- A tree of directories and files. -/
structure Tree where
  nodes : Std.TreeMap Place Node := {}

namespace Tree

instance : Inhabited Tree := ⟨{}⟩

/-- What stands at a place. -/
def node? (t : Tree) (place : Place) : Option Node :=
  if place = [] then some .directory else t.nodes[place]?

/-- Whether a directory stands at a place, or the error for going through it. -/
def enter (t : Tree) (place : Place) : Except OsError Unit :=
  match t.node? place with
  | some .directory => .ok ()
  | some (.file _) => .error .notDirectory
  | none => .error .notFound

/-! ## 2. Paths -/

/-- Follows names from a place. -/
def follow (t : Tree) (place : Place) : List String → Except OsError Place
  | [] => .ok place
  | name :: rest => do
    t.enter place
    t.follow (if name = "." then place else if name = ".." then place.dropLast else place ++ [name])
      rest

/-- The names of a path. A slash at the end is a full stop more. -/
def namesOf (path : String) : List String :=
  let names := (path.toList.splitOn '/').filter (· ≠ [])
  let last := if path.toList.getLast? = some '/' then ["."] else []
  names.map String.ofList ++ last

/-- The place of a path that is followed from `here`, unless it begins at the root. -/
def locate (t : Tree) (here : Place) (path : String) : Except OsError Place :=
  if path = "" then .error .notFound
  else t.follow (if path.toList.head? = some '/' then [] else here) (namesOf path)

/-! ## 3. Operations -/

/-- Whether something stands at the end of a path. -/
def contains (t : Tree) (here : Place) (path : String) : Bool :=
  match t.locate here path with
  | .ok place => (t.node? place).isSome
  | .error _ => false

/-- The bytes of a file. -/
def read (t : Tree) (here : Place) (path : String) : Except OsError (List UInt8) := do
  let place ← t.locate here path
  match t.node? place with
  | some (.file bytes) => .ok bytes
  | some .directory => .error .isDirectory
  | none => .error .notFound

/-- The tree with a file of the given bytes, old or new. -/
def write (t : Tree) (here : Place) (path : String) (bytes : List UInt8) : Except OsError Tree := do
  let place ← t.locate here path
  match t.node? place with
  | some .directory => .error .isDirectory
  | _ => .ok ⟨t.nodes.insert place (.file bytes)⟩

/-- The tree without a file. -/
def remove (t : Tree) (here : Place) (path : String) : Except OsError Tree := do
  let place ← t.locate here path
  match t.node? place with
  | some (.file _) => .ok ⟨t.nodes.erase place⟩
  | some .directory => .error .isDirectory
  | none => .error .notFound

/-- The tree with one more directory, in one that is there. -/
def makeDirectory (t : Tree) (here : Place) (path : String) : Except OsError Tree := do
  let place ← t.locate here path
  match t.node? place with
  | some _ => .error .alreadyExists
  | none => .ok ⟨t.nodes.insert place .directory⟩

/-- Whether a directory stands at the end of a path. -/
def isDirectory (t : Tree) (here : Place) (path : String) : Bool :=
  match t.locate here path with
  | .ok place => t.node? place = some .directory
  | .error _ => false

end Tree

end CrawlGraph.Disk
