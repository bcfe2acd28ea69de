import CrawlGraph.StoreError

/-!
# Cursors

A cursor goes once through a list of records that was fixed when it was made, so it can be kept
while the store changes. It may carry a fault in place of records, and it can be closed.

1. The type, its makers, and the seven operations. An advance succeeds exactly when the cursor
   stands on a record afterwards.
2. Two ways to take all that is left: `collect`, which reports a fault, and `drain`, which does
   not.

Main statements: `collect_ofList` and `drain_ofList` (nothing is lost on the way),
`collect_failed` (a fault is never taken for an empty list).
-/

namespace CrawlGraph

/-- A cursor over records. `pending` are the records that it has not reached. -/
structure Cursor (α : Type) where
  pending : List α
  current : Option α
  fault : Option StoreError
  closed : Bool
  deriving DecidableEq

namespace Cursor

variable {α : Type}

/-! ## 1. Operations -/

/-- A cursor that stands before the first of the records. -/
def ofList (records : List α) : Cursor α := ⟨records, none, none, false⟩

/-- A cursor without records that reports a fault. -/
def failed (fault : StoreError) : Cursor α := ⟨[], none, some fault, false⟩

/-- How many records the cursor has not reached. -/
def remaining (c : Cursor α) : Nat := c.pending.length

/-- Moves to the next record, or off the records if there is none, a fault is pending, or the
    cursor is closed. -/
def advance (c : Cursor α) : Cursor α :=
  if c.closed || c.fault.isSome then { c with current := none }
  else match c.pending with
    | [] => { c with current := none }
    | a :: rest => { c with pending := rest, current := some a }

/-- Moves to the next record and gives it. -/
def next (c : Cursor α) : Option α × Cursor α := (c.advance.current, c.advance)

/-- Takes the fault out of the cursor, which has no records left afterwards. -/
def takeFault (c : Cursor α) : Option StoreError × Cursor α :=
  (c.fault, { c with pending := [], current := none, fault := none })

/-- Gives up the records that are left. Closing again changes nothing. -/
def close (c : Cursor α) : Cursor α :=
  if c.closed then c else { c with pending := [], current := none, closed := true }

theorem remaining_advance {c : Cursor α} {a : α} (h : c.advance.current = some a) :
    c.remaining = c.advance.remaining + 1 := by
  unfold advance at h ⊢
  split at h
  · simp at h
  · rename_i hc
    split at h
    · simp at h
    · rename_i hp
      simp [hc, hp, remaining]

/-! ## 2. Taking all that is left -/

/-- The records that advancing still reaches, and the cursor after the advance that failed. -/
def gather (c : Cursor α) : List α × Cursor α :=
  match _h : c.advance.current with
  | some a => (a :: (gather c.advance).1, (gather c.advance).2)
  | none => ([], c.advance)
termination_by c.remaining
decreasing_by all_goals (rw [remaining_advance _h]; omega)

/-- All records that are left, or the pending fault. The cursor is closed afterwards. -/
def collect (c : Cursor α) : Except StoreError (List α) :=
  match (gather c).2.takeFault with
  | (some fault, _) => .error fault
  | (none, _) => .ok (gather c).1

/-- All records that are left, with no word about a fault. -/
def drain (c : Cursor α) : List α :=
  match _h : c.next with
  | (some a, c') => a :: drain c'
  | (none, _) => []
termination_by c.remaining
decreasing_by
  simp only [next, Prod.mk.injEq] at _h
  obtain ⟨h, rfl⟩ := _h
  rw [remaining_advance h]
  omega

theorem gather_open (records : List α) (current : Option α) :
    gather ⟨records, current, none, false⟩ = (records, ⟨[], none, none, false⟩) := by
  induction records generalizing current with
  | nil => rw [gather]; simp [advance]
  | cons a rest ih => rw [gather]; simp [advance, ih]

/-- **A fresh cursor gives back its list.** -/
theorem collect_ofList (records : List α) : (ofList records).collect = .ok records := by
  simp [collect, ofList, gather_open, takeFault]

/-- **A fault is never taken for an empty list.** -/
theorem collect_failed (fault : StoreError) :
    (failed fault : Cursor α).collect = .error fault := by
  have h : gather (failed fault : Cursor α) = ([], failed fault) := by
    rw [gather]; simp [advance, failed]
  rw [collect, h]
  rfl

theorem drain_open (records : List α) (current : Option α) :
    drain ⟨records, current, none, false⟩ = records := by
  induction records generalizing current with
  | nil => rw [drain]; simp [next, advance]
  | cons a rest ih => rw [drain]; simp [next, advance, ih]

theorem drain_ofList (records : List α) : (ofList records).drain = records :=
  drain_open records none

end Cursor

end CrawlGraph
