import CrawlGraph.Proofs.Contract.Calls
import CrawlGraph.Proofs.Contract.Draws
import CrawlGraph.Proofs.Ident.Canonical
import CrawlGraph.Tables.Store

/-!
# How an upsert into tables ends

An upsert draws an identifier, and then carries out one statement with it. The statement writes
first, and gives the row back to be read afterwards; only what was read comes into the record of the
caller. This is so for rows of any kind, and whatever rows there are.

1. `put_of_refused`, `put_of_unread` and `put_of_read`, from the drawn identifier on; and
   `put_of_canonical`, a row of the form that the statements write.
2. `store_cases`, the draws in front of it.
3. `Ending`, all of it together.
-/

namespace CrawlGraph.Tables

variable {ρ : Type} {w : RowWriter ρ} {given : ρ} {s : Session Tables} {id : Ident}

/-! ## 1. The statement -/

/-- A statement that is refused has changed nothing. -/
theorem put_of_refused {e : StoreError} (refused : w.write given id s.store = .error e) :
    w.put id ⟨s, given⟩ = .error e ⟨s, given⟩ := by
  simp only [RowWriter.put, bind, EStateM.bind, Writing.record, Writing.onSession, execute, refused]

/-- A row that cannot be read back was written, but nothing of it reaches the caller. -/
theorem put_of_unread {t : Tables} {row : Stored × Stored} {e : StoreError}
    (written : w.write given id s.store = .ok (t, row))
    (unread : returned w.operation w.timeName row.1 row.2 = .error e) :
    w.put id ⟨s, given⟩ = .error e ⟨{ s with store := t }, given⟩ := by
  simp only [RowWriter.put, bind, EStateM.bind, Writing.record, Writing.onSession, execute, written,
    unread]
  rfl

/-- A row that is read back gives its identifier and its time to the record of the caller. -/
theorem put_of_read {t : Tables} {row : Stored × Stored} {back : Ident × Stamp}
    (written : w.write given id s.store = .ok (t, row))
    (read : returned w.operation w.timeName row.1 row.2 = .ok back) :
    w.put id ⟨s, given⟩ = .ok ()
      ⟨{ s with store := t }, w.setTime back.2 (w.setIdent back.1 given)⟩ := by
  simp only [RowWriter.put, bind, EStateM.bind, Writing.record, Writing.onSession, execute, written,
    read]
  rfl

theorem returned_int (op : Operation) (timeName : String) (id : Ident) (t : Stamp) :
    returned op timeName (.ofString id.text) (.int t) = .ok (id, t) := by
  simp only [returned, bind, Except.bind, readText_ofString, readTime, decodeIdent,
    Ident.parse_text]
  rfl

/-- A row of the canonical form is read back. -/
theorem put_of_canonical {t : Tables} {ident : Ident} {time : Stamp}
    (written : w.write given id s.store = .ok (t, .ofString ident.text, .int time)) :
    w.put id ⟨s, given⟩ = .ok ()
      ⟨{ s with store := t }, w.setTime time (w.setIdent ident given)⟩ :=
  put_of_read written (returned_int _ _ ident time)

/-! ## 2. Draws -/

/-- **An upsert takes the first draw that can be used**; without one among the draws that are
    allowed, it fails and leaves the tables and the record as they were. -/
theorem store_cases (w : RowWriter ρ) (given : ρ) (s : Session Tables) :
    (∃ k, IsLeast (s.supply.usable (fun id => w.blocks given s.store id = true) maxAttempts) k ∧
      w.store ⟨s, given⟩ = w.put (s.supply.draw k)
        ⟨{ s with supply := s.supply.afterDraws (k + 1) }, given⟩) ∨
    (s.supply.usable (fun id => w.blocks given s.store id = true) maxAttempts = ∅ ∧
      w.store ⟨s, given⟩ = .error (.of w.operation (.identsExhausted maxAttempts))
        ⟨{ s with supply := s.supply.afterDraws maxAttempts }, given⟩) := by
  rcases Action.drawIdent_cases w.operation (w.blocks given) s with
    ⟨k, first, hdraw⟩ | ⟨unusable, hdraw⟩
  · refine .inl ⟨k, first, ?_⟩
    simp only [RowWriter.store, bind, EStateM.bind, Writing.record, Writing.onSession, hdraw]
  · refine .inr ⟨unusable, ?_⟩
    simp only [RowWriter.store, bind, EStateM.bind, Writing.record, Writing.onSession, hdraw]

/-! ## 3. Endings -/

/-- **How an upsert ends**, with its answer, the tables and the record of the caller afterwards. -/
inductive Ending (w : RowWriter ρ) (given : ρ) (t : Tables) :
    Except StoreError ρ → Tables → ρ → Prop where
  | exhausted : Ending w given t (.error (.of w.operation (.identsExhausted maxAttempts))) t given
  | refused {id : Ident} {e : StoreError} (free : ¬w.blocks given t id = true)
    (h : w.write given id t = .error e) : Ending w given t (.error e) t given
  | unread {id : Ident} {t' : Tables} {row : Stored × Stored} {e : StoreError}
    (free : ¬w.blocks given t id = true) (h : w.write given id t = .ok (t', row))
    (unread : returned w.operation w.timeName row.1 row.2 = .error e) :
    Ending w given t (.error e) t' given
  | read {id : Ident} {t' : Tables} {row : Stored × Stored} {back : Ident × Stamp}
    (free : ¬w.blocks given t id = true) (h : w.write given id t = .ok (t', row))
    (read : returned w.operation w.timeName row.1 row.2 = .ok back) :
    Ending w given t (.ok (w.setTime back.2 (w.setIdent back.1 given))) t'
      (w.setTime back.2 (w.setIdent back.1 given))

theorem ending_store (w : RowWriter ρ) (given : ρ) (s : Session Tables) :
    Ending w given s.store ((w.store.handed given).answer s)
      ((w.store.handed given).after s).store (w.store.recordAfter given s) := by
  let P (answer : Except StoreError ρ) (s' : Session Tables) (record : ρ) : Prop :=
    Ending w given s.store answer s'.store record
  change P _ _ _
  rcases store_cases w given s with ⟨k, first, run⟩ | ⟨-, run⟩
  · have free : ¬w.blocks given s.store (s.supply.draw k) = true := first.1.2.2
    cases hw : w.write given (s.supply.draw k) s.store with
    | error e => exact Writing.ended_of_error (run.trans (put_of_refused hw)) (.refused free hw)
    | ok written =>
      cases hback : returned w.operation w.timeName written.2.1 written.2.2 with
      | error e =>
        exact Writing.ended_of_error (run.trans (put_of_unread hw hback)) (.unread free hw hback)
      | ok back =>
        exact Writing.ended_of_ok (run.trans (put_of_read hw hback)) (.read free hw hback)
  · exact Writing.ended_of_error run .exhausted

/-- Storing an edge reads the clock, and is an upsert from there on. -/
theorem storeEdge_eq (edge : Edge) (s : Session Tables) :
    LinkStore.storeEdge ⟨s, edge⟩ =
      (edgeWriter s.supply.now).store ⟨{ s with supply := s.supply.afterRead }, edge⟩ := rfl

theorem ending_upsertLink (link : Link) (s : Session Tables) :
    Ending linkWriter link s.store (Action.answer (LinkStore.upsertLink link) s)
      (Action.after (LinkStore.upsertLink link) s).store
      (LinkStore.storeLink.recordAfter link s) :=
  ending_store linkWriter link s

theorem ending_upsertEdge (edge : Edge) (s : Session Tables) :
    Ending (edgeWriter s.supply.now) edge s.store (Action.answer (LinkStore.upsertEdge edge) s)
      (Action.after (LinkStore.upsertEdge edge) s).store
      (LinkStore.storeEdge.recordAfter edge s) := by
  have ending := ending_store (edgeWriter s.supply.now) edge
    { s with supply := s.supply.afterRead }
  simp only [Action.answer, Action.after, Writing.handed, Writing.recordAfter] at ending
  rw [← storeEdge_eq] at ending
  exact ending

end CrawlGraph.Tables
