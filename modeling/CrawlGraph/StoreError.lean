import CrawlGraph.Ident.Text
import CrawlGraph.Text.Quoted

/-!
# What can go wrong in a store

An error of a store names the operation that failed and its cause. `StoreError.message` is the
one place that words it.
-/

namespace CrawlGraph

/-- The names of the store operations, as errors give them. -/
inductive Operation where
  | upsertLink | findLink | upsertEdge | removeStaleEdges | links | edges | openStore | initSchema
  deriving DecidableEq, Repr

/-- The name of an operation in an error. -/
def Operation.name : Operation → String
  | .upsertLink => "upsert link"
  | .findLink => "find link"
  | .upsertEdge => "upsert edge"
  | .removeStaleEdges => "remove stale edges"
  | .links => "links"
  | .edges => "edges"
  | .openStore => "open"
  | .initSchema => "init schema"

/-- Why an operation failed. -/
inductive Cause where
  /-- No record has the identifier asked for. -/
  | notFound
  /-- An edge names a page that the store does not hold. -/
  | unknownEndpoints
  /-- All of `attempts` drawn identifiers were nil or taken. -/
  | identsExhausted (attempts : Nat)
  /-- A stored row is no record. -/
  | invalidRecord (reason : String)
  /-- The tables could not carry out the operation. -/
  | database (detail : String)
  deriving DecidableEq, Repr

/-- A failed operation and the cause of its failure. -/
structure StoreError where
  operation : String
  cause : Cause
  deriving DecidableEq, Repr

namespace StoreError

/-- The error of an operation. -/
def of (op : Operation) (cause : Cause) : StoreError := ⟨op.name, cause⟩

/-- The error of a stored text that should be an identifier and is none. -/
def badIdent (op : Operation) (text : String) (e : Ident.ReadError) : StoreError :=
  of op (.invalidRecord s!"bad identifier {Text.quoted text}: {e.message}")

/-- The wording of an error. -/
def message (e : StoreError) : String :=
  e.operation ++ match e.cause with
    | .notFound => ": not found"
    | .unknownEndpoints => ": unknown source and/or destination for edge"
    | .identsExhausted attempts => s!": no unused identifier after {attempts} attempts"
    | .invalidRecord reason => s!": invalid record: {reason}"
    | .database detail => s!": database error: {detail}"

/-- The error underneath, where there is one. -/
def source? (e : StoreError) : Option String :=
  match e.cause with
  | .database detail => some detail
  | _ => none

/-- The wordings of an error and of the error underneath, from the outside in. -/
def chain (e : StoreError) : List String := e.message :: e.source?.toList

/-- Whether a record that was asked for is missing. -/
def isNotFound (e : StoreError) : Bool :=
  match e.cause with
  | .notFound => true
  | _ => false

/-- Whether an edge named a page that the store does not hold. -/
def isUnknownEndpoints (e : StoreError) : Bool :=
  match e.cause with
  | .unknownEndpoints => true
  | _ => false

@[simp] theorem operation_of (op : Operation) (cause : Cause) :
    (of op cause).operation = op.name := rfl

@[simp] theorem cause_of (op : Operation) (cause : Cause) : (of op cause).cause = cause := rfl

end StoreError

end CrawlGraph
