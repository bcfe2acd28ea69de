import CrawlGraph.Proofs.Backends
import CrawlGraph.Proofs.Cursor.Protocol
import CrawlGraph.Proofs.Tables.StoredForm

/-!
# Taking all that a cursor has left

Collecting and draining go on from wherever the calls before them left the cursor. Both take the
records that it has not reached; collecting also reports a fault that was not taken.

1. What both give from a cursor that calls lead to: `Sound.collect_eq` and `Sound.drain_eq`.
2. What a store holds in a range, and that a reading which succeeds gives all of it.
3. `Drains` and `drained_of_made`.
-/

namespace CrawlGraph

namespace Cursor

variable {α : Type} {c : Cursor α}

/-! ## 1. From any state -/

section

variable {a : α} {rest : List α} {current : Option α} {fault : Option StoreError} {closed : Bool}

theorem Sound.advance_nil (h : (Cursor.mk ([] : List α) current fault closed).Sound) :
    (Cursor.mk [] current fault closed).advance = ⟨[], none, fault, closed⟩ :=
  h.advance_eq

theorem Sound.advance_cons (h : (Cursor.mk (a :: rest) current fault closed).Sound) :
    (Cursor.mk (a :: rest) current fault closed).advance = ⟨rest, some a, fault, closed⟩ :=
  h.advance_eq

theorem Sound.of_cons (h : (Cursor.mk (a :: rest) current fault closed).Sound) :
    (Cursor.mk rest (some a) fault closed).Sound :=
  h.advance_cons ▸ h.after .advance

end

/-- Advancing until it fails reaches all records that are left, and the fault stays. -/
theorem Sound.gather_eq (h : c.Sound) :
    c.gather = (c.pending, { c with pending := [], current := none }) := by
  obtain ⟨pending, current, fault, closed⟩ := c
  induction pending generalizing current with
  | nil =>
    rw [gather]
    split
    · rename_i a ha
      rw [h.advance_nil] at ha
      cases ha
    · rw [h.advance_nil]
  | cons a rest ih =>
    rw [gather]
    split
    · rename_i b hb
      rw [h.advance_cons] at hb ⊢
      cases hb
      rw [ih (some a) h.of_cons]
    · rename_i hnone
      rw [h.advance_cons] at hnone
      cases hnone

/-- **Collecting reports the fault that was not taken**, and gives the records that are left if
    there is none. -/
theorem Sound.collect_eq (h : c.Sound) :
    c.collect = match c.fault with
      | some fault => .error fault
      | none => .ok c.pending := by
  rw [collect, h.gather_eq, takeFault]
  cases c.fault <;> rfl

/-- **Draining gives the records that are left**; a cursor with a fault has none. -/
theorem Sound.drain_eq (h : c.Sound) : c.drain = c.pending := by
  obtain ⟨pending, current, fault, closed⟩ := c
  induction pending generalizing current with
  | nil =>
    rw [drain]
    split
    · rename_i a c' ha
      rw [next, h.advance_nil] at ha
      cases ha
    · rfl
  | cons a rest ih =>
    rw [drain]
    split
    · rename_i b c' hb
      rw [next, h.advance_cons] at hb
      cases hb
      exact congrArg (a :: ·) (ih (some a) h.of_cons)
    · rename_i c' hnone
      rw [next, h.advance_cons] at hnone
      cases hnone

end Cursor

/-! ## 2. Readings of a store -/

namespace Backend

/-- The links that a store holds in a range and before a time; `none` stands for a row that is no
    link. -/
def linkEntries (b : Backend) (store : b.Store) (start stop : Ident) (before : Stamp) :
    List (Option Link) :=
  match b, store with
  | .memory, (m : Memory) =>
    (m.links.toList.filter fun e =>
      start ≤ e.1 ∧ e.1 < stop ∧ e.2.retrievedAt < before).map fun e => some e.2
  | .tables, (t : Tables) =>
    ((t.links.getD []).filter fun row =>
      row.id.isWithin start.text stop.text && row.retrievedAt.isBefore before).map LinkRow.link?

/-- The edges that a store holds for the pages of a range and before a time; `none` stands for a row
    that is no edge. -/
def edgeEntries (b : Backend) (store : b.Store) (start stop : Ident) (before : Stamp) :
    List (Option Edge) :=
  match b, store with
  | .memory, (m : Memory) =>
    ((m.outgoing.toList.filter fun e => start ≤ e.1 ∧ e.1 < stop).flatMap fun e =>
      (e.2.filterMap fun id => m.edges[id]?).filter fun edge => edge.updatedAt < before).map some
  | .tables, (t : Tables) =>
    ((t.edges.getD []).filter fun row =>
      row.src.isWithin start.text stop.text && row.updatedAt.isBefore before).map EdgeRow.edge?

end Backend

/-- **A reading is all or nothing**: the records that it gives are all the entries, each of them a
    record, and the cursor that they came from had them all and no fault. -/
def AllOrNothing {α : Type} (reading : Except StoreError (Cursor α)) (entries : List (Option α)) :
    Prop :=
  ∀ records, (reading >>= Cursor.collect) = .ok records →
    reading = .ok (.ofList records) ∧ entries.Perm (records.map some)

/-- A reading of the rows of a table is all or nothing, whatever order it puts them in. -/
theorem allOrNothing_of_rows {ρ α : Type} {reading : Except StoreError (Cursor α)}
    {table : Option (List ρ)} {selected : List ρ → List ρ} {record? : ρ → Option α} {p : ρ → Bool}
    (reads : (reading >>= Cursor.collect).toOption =
      table.bind fun rows => (selected rows).mapM record?)
    (faultless : ∀ records, (reading >>= Cursor.collect) = .ok records →
      reading = .ok (.ofList records))
    (perm : ∀ rows, (selected rows).Perm (rows.filter p)) :
    AllOrNothing reading (((table.getD []).filter p).map record?) := by
  intro records h
  refine ⟨faultless records h, ?_⟩
  rw [h] at reads
  obtain ⟨rows, held, read⟩ := Option.bind_eq_some_iff.mp reads.symm
  rw [← map_eq_of_mapM_eq_some read, held]
  exact (perm rows).symm.map _

theorem allOrNothing_links (b : Backend) (store : b.Store) (start stop : Ident) (before : Stamp) :
    AllOrNothing (LinkStore.links store start stop before)
      (b.linkEntries store start stop before) := by
  cases b with
  | memory =>
    intro links h
    change Scan.linksIn (σ := Memory) store start stop before = .ok links at h
    rw [Memory.linksIn_eq] at h
    cases h
    refine ⟨rfl, .of_eq ?_⟩
    simp only [Backend.linkEntries, Memory.linkList, Memory.inRange, List.filter_map,
      List.filter_filter, List.map_map]
    refine congrArg (List.map _) (List.filter_congr fun e _ => ?_)
    simp only [Bool.decide_and, Function.comp_apply, Bool.and_comm, Bool.and_left_comm]
  | tables =>
    exact allOrNothing_of_rows (Tables.toOption_linksIn store start stop before)
      (fun _ => Tables.linksIn_of_read) fun _ => List.mergeSort_perm _ _

theorem allOrNothing_edges (b : Backend) (store : b.Store) (start stop : Ident) (before : Stamp) :
    AllOrNothing (LinkStore.edges store start stop before)
      (b.edgeEntries store start stop before) := by
  cases b with
  | memory =>
    intro edges h
    change Scan.edgesIn (σ := Memory) store start stop before = .ok edges at h
    rw [Memory.edgesIn_eq] at h
    cases h
    refine ⟨rfl, .of_eq (congrArg (List.map some) ?_)⟩
    rw [Memory.edgeList, List.filterMap_flatMap, List.filter_flatMap]
    rfl
  | tables =>
    exact allOrNothing_of_rows (Tables.toOption_edgesIn store start stop before)
      (fun _ => Tables.edgesIn_of_read) fun _ => List.mergeSort_perm _ _

/-! ## 3. Any state of any cursor -/

namespace Cursor

variable {α : Type}

/-- **What is left for those who take all of it**, after any calls of a cursor that was made over
    records, or with a fault and no records. -/
structure Drains (start : Cursor α) (records : List α) (fault? : Option StoreError) : Prop where
  /-- A fault that was not taken is what collecting gives, and draining gives nothing. -/
  faulty : ∀ moves fault, (start.afterAll moves).fault = some fault →
    (start.afterAll moves).collect = .error fault ∧ (start.afterAll moves).drain = []
  /-- Otherwise both give the records that were not reached, or none once they were given up. -/
  faultless : ∀ moves, (start.afterAll moves).fault = none →
    let left := if moves.any Move.ends then [] else records.drop (start.visited moves).length
    (start.afterAll moves).collect = .ok left ∧ (start.afterAll moves).drain = left
  /-- The fault is there until it is taken. -/
  fault : ∀ moves, (start.afterAll moves).fault = if .takeFault ∈ moves then none else fault?

theorem Sound.drains {c : Cursor α} (h : c.Sound) : c.Drains c.pending c.fault where
  faulty moves fault hf := by
    have hs := h.afterAll moves
    rw [hs.collect_eq, hs.drain_eq, hf, hs.pending_nil (by simp [hf])]
    exact ⟨rfl, rfl⟩
  faultless moves hf := by
    have hs := h.afterAll moves
    rw [hs.collect_eq, hs.drain_eq, hf, h.pending_afterAll]
    exact ⟨rfl, rfl⟩
  fault := fault_afterAll c

/-- **Taking all that is left loses nothing**, whatever calls came before: a fault comes out, or
    else every record that was not reached. So a fresh cursor gives back its list, and no store
    gives some of the records of a range for all of them. -/
theorem drained_of_made :
    (∀ records : List α, (ofList records).Drains records none ∧
      (ofList records).collect = .ok records ∧ (ofList records).drain = records) ∧
    (∀ fault : StoreError, (failed fault : Cursor α).Drains [] (some fault)) ∧
    ∀ (b : Backend) (store : b.Store) (start stop : Ident) (before : Stamp),
      AllOrNothing (LinkStore.links store start stop before)
        (b.linkEntries store start stop before) ∧
      AllOrNothing (LinkStore.edges store start stop before)
        (b.edgeEntries store start stop before) := by
  refine ⟨fun records => ?_, fun fault => (sound_failed fault).drains,
    fun b store start stop before => ?_⟩
  · exact ⟨(sound_ofList records).drains, collect_ofList records, drain_ofList records⟩
  · exact ⟨allOrNothing_links b store start stop before,
      allOrNothing_edges b store start stop before⟩

end Cursor

end CrawlGraph
