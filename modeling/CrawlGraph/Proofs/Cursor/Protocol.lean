import CrawlGraph.Cursor
import Mathlib

/-!
# Calls of a cursor in any order

A cursor may be moved, asked, closed and relieved of its fault in any order. This module says what
each call answers after any others, for a cursor over records and for one with a fault.

1. `Move` and `Sight`, a call and what it answers; runs of calls, and the records that they reach.
2. `Sound`: a cursor that is closed or has a fault holds no records. What one call does to such a
   cursor.
3. What a run of calls does, by induction on the run.
4. `Protocol` and `protocol_of_made`.
-/

namespace CrawlGraph.Cursor

variable {α : Type}

/-! ## 1. Calls -/

/-- A call of a cursor. -/
inductive Move where
  | advance | current | next | remaining | fault | takeFault | close
  deriving DecidableEq

/-- Whether the call asks for the next record. -/
def Move.steps : Move → Bool
  | .advance | .next => true
  | _ => false

/-- Whether the call gives up the records that are left. -/
def Move.ends : Move → Bool
  | .takeFault | .close => true
  | _ => false

/-- What a cursor answers to a call. -/
inductive Sight (α : Type) where
  | moved (found : Bool)
  | record (record : Option α)
  | count (n : Nat)
  | fault (fault : Option StoreError)
  | closed
  deriving DecidableEq

/-- What the cursor answers to a call. -/
def answer (c : Cursor α) : Move → Sight α
  | .advance => .moved c.advance.current.isSome
  | .current => .record c.current
  | .next => .record c.next.1
  | .remaining => .count c.remaining
  | .fault => .fault c.fault
  | .takeFault => .fault c.takeFault.1
  | .close => .closed

/-- The cursor after a call. -/
def after (c : Cursor α) : Move → Cursor α
  | .advance => c.advance
  | .next => c.next.2
  | .takeFault => c.takeFault.2
  | .close => c.close
  | .current | .remaining | .fault => c

/-- The cursor after some calls. -/
def afterAll (c : Cursor α) (moves : List Move) : Cursor α := moves.foldl after c

/-- The record that a call reaches: none, unless it asks for the next record and succeeds. -/
def reached (c : Cursor α) : Move → Option α
  | .advance => c.advance.current
  | .next => c.next.1
  | _ => none

/-- The records that some calls reach, one after another. -/
def visited (c : Cursor α) : List Move → List α
  | [] => []
  | m :: moves => (c.reached m).toList ++ (c.after m).visited moves

/-! ## 2. One call -/

/-- **What holds of every cursor that calls lead to**: once closed, or while it has a fault, it
    holds no records and stands on none. -/
structure Sound (c : Cursor α) : Prop where
  pending_nil : (c.closed || c.fault.isSome) = true → c.pending = []
  current_none : (c.closed || c.fault.isSome) = true → c.current = none

theorem sound_ofList (records : List α) : (ofList records).Sound := ⟨nofun, nofun⟩

theorem sound_failed (fault : StoreError) : (failed fault : Cursor α).Sound :=
  ⟨fun _ => rfl, fun _ => rfl⟩

variable {c : Cursor α}

/-- Advancing takes the first record that is left, whether or not the cursor is closed. -/
theorem Sound.advance_eq (h : c.Sound) :
    c.advance = { c with pending := c.pending.tail, current := c.pending.head? } := by
  unfold advance
  split
  · rename_i ended
    rw [h.pending_nil ended]
    rfl
  · split
    · rename_i hp
      rw [hp]
      rfl
    · rename_i a rest hp
      rw [hp]
      rfl

theorem Sound.close_eq (h : c.Sound) :
    c.close = { c with pending := [], current := none, closed := true } := by
  obtain ⟨pending, current, fault, closed⟩ := c
  cases closed with
  | true =>
    have hp := h.pending_nil rfl
    have hc := h.current_none rfl
    dsimp only at hp hc
    rw [hp, hc]
    rfl
  | false => rfl

theorem Sound.after (h : c.Sound) (m : Move) : (c.after m).Sound := by
  have step : c.advance.Sound := by
    rw [h.advance_eq]
    constructor
    · intro ended
      exact congrArg List.tail (h.pending_nil ended)
    · intro ended
      exact congrArg List.head? (h.pending_nil ended)
  cases m with
  | advance | next => exact step
  | takeFault => exact ⟨fun _ => rfl, fun _ => rfl⟩
  | close =>
    change c.close.Sound
    rw [h.close_eq]
    exact ⟨fun _ => rfl, fun _ => rfl⟩
  | current | remaining | fault => exact h

/-- A call that asks for the next record reaches the first one that is left. -/
theorem Sound.reached_eq (h : c.Sound) (m : Move) :
    c.reached m = if m.steps then c.pending.head? else none := by
  cases m with
  | advance | next =>
    change c.advance.current = _
    rw [h.advance_eq]
    rfl
  | current | remaining | fault | takeFault | close => rfl

theorem Sound.pending_after (h : c.Sound) (m : Move) :
    (c.after m).pending =
      if m.ends then [] else if m.steps then c.pending.tail else c.pending := by
  cases m with
  | advance | next =>
    change c.advance.pending = _
    rw [h.advance_eq]
    rfl
  | close =>
    change c.close.pending = _
    rw [h.close_eq]
    rfl
  | current | remaining | fault | takeFault => rfl

/-- A call that moves the cursor takes it to the record that the call reaches. -/
theorem Sound.current_after (h : c.Sound) (m : Move) :
    (c.after m).current = if m.steps || m.ends then c.reached m else c.current := by
  cases m with
  | close =>
    change c.close.current = _
    rw [h.close_eq]
    rfl
  | advance | next | current | remaining | fault | takeFault => rfl

theorem fault_after (c : Cursor α) (m : Move) :
    (c.after m).fault = if m = .takeFault then none else c.fault := by
  have step : c.advance.fault = c.fault := by
    unfold advance
    split
    · rfl
    · split <;> rfl
  cases m with
  | advance | next => exact step
  | close =>
    change c.close.fault = _
    unfold close
    split <;> rfl
  | current | remaining | fault | takeFault => rfl

theorem closed_after (hc : c.closed = true) (m : Move) : (c.after m).closed = true := by
  have step : c.advance.closed = true := by
    unfold advance
    split
    · exact hc
    · split <;> exact hc
  cases m with
  | advance | next => exact step
  | close =>
    change c.close.closed = true
    rw [close, if_pos hc, hc]
  | current | remaining | fault | takeFault => exact hc

/-! ## 3. Runs -/

theorem afterAll_cons (c : Cursor α) (m : Move) (moves : List Move) :
    c.afterAll (m :: moves) = (c.after m).afterAll moves := rfl

theorem afterAll_append (c : Cursor α) (moves later : List Move) :
    c.afterAll (moves ++ later) = (c.afterAll moves).afterAll later :=
  List.foldl_append

theorem Sound.afterAll (h : c.Sound) (moves : List Move) : (c.afterAll moves).Sound := by
  induction moves generalizing c with
  | nil => exact h
  | cons m moves ih => exact ih (h.after m)

/-- The records that are left are those behind the ones that were reached, until they are given
    up. -/
theorem Sound.pending_afterAll (h : c.Sound) (moves : List Move) :
    (c.afterAll moves).pending =
      if moves.any Move.ends then [] else c.pending.drop (c.visited moves).length := by
  induction moves generalizing c with
  | nil => rfl
  | cons m moves ih =>
    rw [afterAll_cons, ih (h.after m), h.pending_after, visited,
      h.reached_eq, List.any_cons]
    cases hends : m.ends with
    | true => simp
    | false =>
      cases hsteps : m.steps with
      | false => simp
      | true =>
        cases c.pending with
        | nil => simp
        | cons a rest => simp

/-- **The records are reached in their order.** -/
theorem Sound.visited_prefix (h : c.Sound) (moves : List Move) : c.visited moves <+: c.pending := by
  induction moves generalizing c with
  | nil => exact List.nil_prefix
  | cons m moves ih =>
    have later := ih (h.after m)
    rw [h.pending_after] at later
    rw [visited, h.reached_eq]
    cases hends : m.ends with
    | true =>
      have idle : m.steps = false := by
        cases m with
        | takeFault | close => rfl
        | advance | current | next | remaining | fault => cases hends
      rw [hends, if_pos rfl] at later
      rw [idle, List.prefix_nil.mp later]
      exact List.nil_prefix
    | false =>
      rw [hends] at later
      cases hsteps : m.steps with
      | false =>
        rw [hsteps] at later
        exact later
      | true =>
        rw [hsteps] at later
        cases hp : c.pending with
        | nil =>
          rw [hp] at later
          exact later
        | cons a rest =>
          rw [hp] at later
          exact (List.prefix_cons_inj a).mpr later

theorem Sound.pending_eq_nil (h : c.Sound) (hp : c.pending = []) (moves : List Move) :
    (c.afterAll moves).pending = [] := by
  rw [h.pending_afterAll, hp, List.drop_nil, ite_self]

theorem fault_afterAll (c : Cursor α) (moves : List Move) :
    (c.afterAll moves).fault = if .takeFault ∈ moves then none else c.fault := by
  induction moves generalizing c with
  | nil => rfl
  | cons m moves ih =>
    rw [afterAll_cons, ih, fault_after]
    by_cases hm : m = .takeFault
    · simp [hm]
    · simp [hm, Ne.symm hm]

theorem closed_afterAll (hc : c.closed = true) (moves : List Move) :
    (c.afterAll moves).closed = true := by
  induction moves generalizing c with
  | nil => exact hc
  | cons m moves ih => exact ih (closed_after hc m)

/-- Calls that only ask leave the cursor as it is. -/
theorem afterAll_idle (c : Cursor α) {idle : List Move}
    (h : ∀ m ∈ idle, (m.steps || m.ends) = false) : c.afterAll idle = c := by
  induction idle with
  | nil => rfl
  | cons m idle ih =>
    have hm := h m List.mem_cons_self
    have same : c.after m = c := by
      cases m with
      | current | remaining | fault => rfl
      | advance | next | takeFault | close => cases hm
    rw [afterAll_cons, same]
    exact ih fun m' hm' => h m' (List.mem_cons_of_mem m hm')

/-! ## 4. The protocol -/

/-- **What the calls of a cursor answer**, in whatever order they come. The cursor was made over
    records, or with a fault and no records. -/
structure Protocol (start : Cursor α) (records : List α) (fault? : Option StoreError) : Prop where
  /-- The records are reached in their order, none twice and none left out. -/
  visited_prefix : ∀ moves, start.visited moves <+: records
  /-- A call for the next record reaches it, if there is one and nothing gave it up. -/
  reached : ∀ moves m, m.steps = true → (start.afterAll moves).reached m =
    if moves.any Move.ends then none else records[(start.visited moves).length]?
  /-- `advance` tells whether it reached a record. -/
  advance : ∀ moves, (start.afterAll moves).answer .advance =
    .moved ((start.afterAll moves).reached .advance).isSome
  /-- `next` gives the record that it reached. -/
  next : ∀ moves, (start.afterAll moves).answer .next =
    .record ((start.afterAll moves).reached .next)
  /-- A cursor that was only asked stands on no record. -/
  unmoved : ∀ idle : List Move, (∀ m ∈ idle, (m.steps || m.ends) = false) →
    (start.afterAll idle).answer .current = .record none
  /-- A cursor that was moved stands where the last call that moved it took it: on the record which
      that call reached, if it reached one. -/
  stands : ∀ (moves : List Move) m idle, (m.steps || m.ends) = true →
    (∀ m' ∈ idle, (m'.steps || m'.ends) = false) →
    (start.afterAll (moves ++ m :: idle)).answer .current =
      .record ((start.afterAll moves).reached m)
  /-- After a failed call for the next record, and after the records were given up, every call for
      the next record fails. -/
  ended : ∀ moves m later m',
    m.ends = true ∨ m.steps = true ∧ (start.afterAll moves).reached m = none → m'.steps = true →
    (start.afterAll (moves ++ m :: later)).reached m' = none
  remaining : ∀ moves, (start.afterAll moves).answer .remaining =
    .count (if moves.any Move.ends then 0 else records.length - (start.visited moves).length)
  /-- A fault is shown until it is taken. -/
  fault : ∀ moves, (start.afterAll moves).answer .fault =
    .fault (if .takeFault ∈ moves then none else fault?)
  /-- A fault is given out once, also by a cursor that was closed before. -/
  takeFault : ∀ moves, (start.afterAll moves).answer .takeFault =
    .fault (if .takeFault ∈ moves then none else fault?)
  /-- To close a closed cursor changes nothing. -/
  close_again : ∀ moves later, (start.afterAll (moves ++ .close :: later)).after .close =
    start.afterAll (moves ++ .close :: later)

/-- A sound cursor that stands on no record keeps the protocol. -/
theorem Sound.protocol (h : c.Sound) (hc : c.current = none) : c.Protocol c.pending c.fault where
  visited_prefix := h.visited_prefix
  reached moves m hm := by
    rw [(h.afterAll moves).reached_eq, if_pos hm, h.pending_afterAll]
    split
    · rfl
    · rw [List.head?_drop]
  advance _ := rfl
  next _ := rfl
  unmoved idle hidle := by
    rw [afterAll_idle c hidle]
    exact congrArg Sight.record hc
  stands moves m idle hm hidle := by
    rw [afterAll_append, afterAll_cons, afterAll_idle _ hidle]
    refine congrArg Sight.record ?_
    rw [(h.afterAll moves).current_after, if_pos hm]
  ended moves m later m' hm hm' := by
    have hs := h.afterAll moves
    have hnil : ((c.afterAll moves).after m).pending = [] := by
      rw [hs.pending_after]
      rcases hm with hm | ⟨hm, hnone⟩
      · rw [if_pos hm]
      · rw [hs.reached_eq, if_pos hm, List.head?_eq_none_iff] at hnone
        simp [hnone]
    rw [afterAll_append, afterAll_cons,
      ((hs.after m).afterAll later).reached_eq, if_pos hm', (hs.after m).pending_eq_nil hnil]
    rfl
  remaining moves := by
    refine congrArg Sight.count ?_
    rw [Cursor.remaining, h.pending_afterAll]
    split
    · rfl
    · rw [List.length_drop]
  fault moves := congrArg Sight.fault (fault_afterAll c moves)
  takeFault moves := congrArg Sight.fault (fault_afterAll c moves)
  close_again moves later := by
    have hclosed : (c.afterAll (moves ++ .close :: later)).closed = true := by
      rw [afterAll_append, afterAll_cons]
      refine closed_afterAll ?_ later
      change (c.afterAll moves).close.closed = true
      rw [(h.afterAll moves).close_eq]
    exact if_pos hclosed

/-- **Every cursor keeps the protocol**, over any records and with any fault, and under any calls.
    One over records never shows a fault; one with a fault never reaches a record. -/
theorem protocol_of_made :
    (∀ records : List α, (ofList records).Protocol records none) ∧
      ∀ fault : StoreError, (failed fault : Cursor α).Protocol [] (some fault) :=
  ⟨fun records => (sound_ofList records).protocol rfl,
    fun fault => (sound_failed fault).protocol rfl⟩

end CrawlGraph.Cursor
