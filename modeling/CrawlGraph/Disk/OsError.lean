/-!
# Errors of the operating system

An error of the operating system is a number with a wording.
-/

namespace CrawlGraph

/-- An error of the operating system. -/
structure OsError where
  code : Nat
  text : String
  deriving DecidableEq, Repr

namespace OsError

/-- Something on the way to a file, or the file, is not there. -/
def notFound : OsError := ⟨2, "No such file or directory"⟩

/-- There is something already where a new thing should go. -/
def alreadyExists : OsError := ⟨17, "File exists"⟩

/-- Something on the way to a file is a file itself. -/
def notDirectory : OsError := ⟨20, "Not a directory"⟩

/-- A directory stands where a file is needed. -/
def isDirectory : OsError := ⟨21, "Is a directory"⟩

/-- There is no permission to do it. -/
def notPermitted : OsError := ⟨13, "Permission denied"⟩

/-- The errors with a fixed wording. -/
def known : List OsError := [notFound, notPermitted, alreadyExists, notDirectory, isDirectory]

/-- The error with a number, which has the given wording unless its wording is fixed. -/
def ofCode (code : Nat) (text : String) : OsError :=
  (known.find? fun e => e.code == code).getD ⟨code, text⟩

/-- The wording of an error. -/
def message (e : OsError) : String := s!"{e.text} (os error {e.code})"

end OsError

end CrawlGraph
