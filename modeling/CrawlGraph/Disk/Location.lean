/-!
# Where a store lies

A store is one file in a directory that the user names. The name is taken as it is written; only a
`~` in front stands for the home directory.

1. `expandHome`.
2. `components`, what a path is made of.
3. `joined`, the place of a file in a directory, `directoryOf` and `parent?`, the directory of a
   place, and `directoriesTo`, all that a place names on its way.
4. `storePath` and `storeDirectory`.
-/

namespace CrawlGraph.Disk

/-! ## 1. The home directory -/

/-- The name with the home directory in place of a `~` that stands alone or before a slash. -/
def expandHome (home : List Char) (dir : List Char) : List Char :=
  match dir with
  | ['~'] => home
  | '~' :: '/' :: rest => home ++ '/' :: rest
  | _ => dir

/-! ## 2. Components -/

/-- A component of a path. -/
inductive Component where
  /-- The root of all places. -/
  | root
  /-- The directory that the path is followed from. -/
  | here
  /-- The directory above. -/
  | above
  /-- What lies in the directory under a name. -/
  | name (text : List Char)
  deriving DecidableEq, Repr

/-- What a path begins with that is no part of it to take off: the slash of the root, or the full
    stop of the working directory. -/
def lead (path : List Char) : List Char :=
  match path with
  | '/' :: _ => ['/']
  | ['.'] => ['.']
  | '.' :: '/' :: _ => ['.']
  | _ => []

/-- The parts of a path behind its lead, as the slashes cut it. -/
def partsOf (path : List Char) : List (List Char) := (path.drop (lead path).length).splitOn '/'

/-- Whether a part says nothing: an empty one, or a full stop. -/
def isVoid (part : List Char) : Bool := part = [] || part = ['.']

/-- The components that the lead of a path stands for. -/
def leadComponents (lead : List Char) : List Component :=
  if lead = ['/'] then [.root] else if lead = ['.'] then [.here] else []

/-- The component that a part stands for, unless it is void. -/
def component? (part : List Char) : Option Component :=
  if isVoid part then none
  else if part = ['.', '.'] then some .above
  else some (.name part)

/-- The components of a path. Slashes beyond the first of several say nothing, and a full stop says
    something at the very front alone. -/
def components (path : List Char) : List Component :=
  leadComponents (lead path) ++ (partsOf path).filterMap component?

/-! ## 3. Files in directories -/

/-- The place of a file in a directory. -/
def joined (dir file : List Char) : List Char :=
  if dir = [] ∨ dir.getLast? = some '/' then dir ++ file else dir ++ '/' :: file

/-- The parts between slashes, without the void ones at the end. -/
def withoutVoidEnd (parts : List (List Char)) : List (List Char) :=
  (parts.reverse.dropWhile isVoid).reverse

/-- The directory of a place, which is the text before its last part that is not void. -/
def directoryOf (path : List Char) : List Char :=
  let parts := withoutVoidEnd (partsOf path)
  lead path ++ ['/'].intercalate (withoutVoidEnd parts.dropLast)

/-- The directory of a place, which is its path without the last component. The root is in no
    directory, and neither is a path without components. -/
def parent? (path : List Char) : Option (List Char) :=
  match (components path).getLast? with
  | none | some .root => none
  | some .here => some []
  | some _ => some (directoryOf path)

/-- The places of some parts, given backwards, and of those before each of them. -/
def placesOf (front : List Char) : List (List Char) → List (List Char)
  | [] => []
  | part :: above =>
    let rest := placesOf front above
    if isVoid part then rest
    else (front ++ ['/'].intercalate (part :: above).reverse) :: rest

/-- The directories that a place names on its way, the place itself first. -/
def directoriesTo (path : List Char) : List (List Char) :=
  placesOf (lead path) (partsOf path).reverse

/-! ## 4. The file of a store -/

/-- The name of the file of a store. -/
def storeName : List Char := "linkgraph.db".toList

/-- The file of the store in a directory. -/
def storePath (home dir : List Char) : List Char := joined (expandHome home dir) storeName

/-- The directory that the file of the store in a directory is in, in its own words. -/
def storeDirectory (home dir : List Char) : List Char := directoryOf (storePath home dir)

end CrawlGraph.Disk
