import CrawlGraph.Proofs.Memory.Lawful
import CrawlGraph.Proofs.Tables.Lawful

/-!
# The two kinds of store

The store in memory and the store in tables give the same answers, as long as both draw the same
identifiers for new records, read the same clock and do not run out of identifiers.

1. `Comparable`: what two sessions have to share for a call. Stores that keep the contract agree on
   comparable calls, and so on runs of them.
2. `memory_agrees_with_tables`.
3. `Backend`, a choice of one of the two kinds.
-/

namespace CrawlGraph

/-! ## 1. Agreement -/

section

variable {σ τ : Type} [LinkStore σ] [LawfulStore σ] [LinkStore τ] [LawfulStore τ]

/-- **What two sessions share when a call is made in both**: the reading of the clock, if the call
    uses it, and the identifier of a new record. Neither runs out of identifiers. -/
structure Comparable (m : Session σ) (t : Session τ) (call : Call) : Prop where
  reading : (LawfulStore.content m.store).Stamps call → m.supply.now = t.supply.now
  ident : (LawfulStore.content m.store).Creates call → ∀ r r' : Reply,
    m.answer call = .ok r → t.answer call = .ok r' → r.ident? = r'.ident?
  left : ¬Content.Exhausted (m.answer call)
  right : ¬Content.Exhausted (t.answer call)

/-- Whether all calls of a run are comparable. -/
def ComparableAlong (m : Session σ) (t : Session τ) : List Call → Prop
  | [] => True
  | call :: calls => Comparable m t call ∧ ComparableAlong (m.after call) (t.after call) calls

variable {m : Session σ} {t : Session τ}

/-- Stores with one content agree on a comparable call and have one content after it. -/
theorem Comparable.agree {call : Call} (hm : LawfulStore.Valid m.store)
    (ht : LawfulStore.Valid t.store)
    (same : LawfulStore.content m.store = LawfulStore.content t.store)
    (h : Comparable m t call) :
    m.answer call = t.answer call ∧
      LawfulStore.content (m.after call).store = LawfulStore.content (t.after call).store := by
  have step := LawfulStore.step call ht
  rw [← same] at step
  exact (LawfulStore.step call hm).unique (LawfulStore.sound hm) step h.reading h.ident h.left
    h.right

/-- Stores with one content agree along a run of comparable calls. -/
theorem ComparableAlong.agree {calls : List Call} (hm : LawfulStore.Valid m.store)
    (ht : LawfulStore.Valid t.store)
    (same : LawfulStore.content m.store = LawfulStore.content t.store)
    (h : ComparableAlong m t calls) :
    m.answers calls = t.answers calls ∧
      LawfulStore.content (m.afterAll calls).store =
        LawfulStore.content (t.afterAll calls).store := by
  induction calls generalizing m t with
  | nil => exact ⟨rfl, same⟩
  | cons call calls ih =>
    obtain ⟨hcall, hcalls⟩ := h
    obtain ⟨hanswer, hcontent⟩ := hcall.agree hm ht same
    obtain ⟨hanswers, hlast⟩ := ih (LawfulStore.valid_after call hm)
      (LawfulStore.valid_after call ht) hcontent hcalls
    exact ⟨by rw [Session.answers, Session.answers, hanswer, hanswers], hlast⟩

omit [LawfulStore τ] in
/-- Calls that succeed alike, at one reading of the clock, are comparable. -/
theorem comparable_of_reply {call : Call} (r : Reply) (reading : m.supply.now = t.supply.now)
    (left : (m.answer call).toOption = some r) (right : (t.answer call).toOption = some r) :
    Comparable m t call := by
  have left := eq_ok_of_toOption left
  have right := eq_ok_of_toOption right
  refine ⟨fun _ => reading, fun _ a a' ha ha' => ?_, ?_, ?_⟩
  · rw [left] at ha
    rw [right] at ha'
    cases ha
    cases ha'
    rfl
  · intro h
    obtain ⟨e, attempts, he, -⟩ := h
    rw [left] at he
    cases he
  · intro h
    obtain ⟨e, attempts, he, -⟩ := h
    rw [right] at he
    cases he

end

/-! ## 2. Memory and tables -/

/-- **The store in memory agrees with the store in tables.** Whatever calls led to two states with
    the same content, a comparable call is answered alike and leads to the same content again; and
    so two runs from the empty stores, call by call comparable, are answered alike. -/
theorem memory_agrees_with_tables (forMemory forTables : Supply) :
    (∀ (m : Session Memory) (t : Session Tables) (call : Call),
      Session.Reached ⟨Memory.empty, forMemory⟩ m → Session.Reached ⟨Tables.empty, forTables⟩ t →
      m.store.content = t.store.content → Comparable m t call →
      m.answer call = t.answer call ∧
        (m.after call).store.content = (t.after call).store.content) ∧
    ∀ calls : List Call,
      ComparableAlong (⟨Memory.empty, forMemory⟩ : Session Memory)
        (⟨Tables.empty, forTables⟩ : Session Tables) calls →
      Session.answers ⟨Memory.empty, forMemory⟩ calls =
          Session.answers ⟨Tables.empty, forTables⟩ calls ∧
        (Session.afterAll ⟨Memory.empty, forMemory⟩ calls).store.content =
          (Session.afterAll ⟨Tables.empty, forTables⟩ calls).store.content := by
  constructor
  · intro m t call hm ht same h
    exact h.agree (LawfulStore.valid_of_reached hm) (LawfulStore.valid_of_reached ht) same
  · intro calls h
    refine h.agree Memory.valid_empty (LawfulStore.valid_empty : LawfulStore.Valid Tables.empty) ?_
    exact Memory.content_empty.trans Tables.content_empty.symm

/-- Two pages and a hyperlink, stored and read in both kinds of store. The hyperlink is confirmed at
    time 0 and then removed as stale. -/
theorem memory_agrees_with_tables_hyperlink :
    let m : Session Memory := ⟨Memory.empty, .counting⟩
    let t : Session Tables := ⟨Tables.empty, .counting⟩
    let calls : List Call := [.upsertLink (.unstored "http://a/" 3),
      .upsertLink (.unstored "http://b/" 0), .upsertEdge (.unstored (.ofNat 1) (.ofNat 2)),
      .edges .nil .max 9]
    let removal : Call := .removeStaleEdges (.ofNat 1) 1
    ComparableAlong m t calls ∧ m.answers calls = t.answers calls ∧
      ((m.afterAll calls).after removal).store.content =
        ((t.afterAll calls).after removal).store.content := by
  intro m t calls removal
  have comparable : ComparableAlong m t calls := by
    refine ⟨comparable_of_reply (.link ⟨.ofNat 1, "http://a/", 3⟩) rfl ?_ ?_,
      comparable_of_reply (.link ⟨.ofNat 2, "http://b/", 0⟩) ?_ ?_ ?_,
      comparable_of_reply (.edge ⟨.ofNat 3, .ofNat 1, .ofNat 2, 0⟩) ?_ ?_ ?_,
      comparable_of_reply (.edges [⟨.ofNat 3, .ofNat 1, .ofNat 2, 0⟩]) ?_ ?_ ?_, trivial⟩
    all_goals decide +kernel
  obtain ⟨single, run⟩ := memory_agrees_with_tables .counting .counting
  obtain ⟨answers, same⟩ := run calls comparable
  have removed : Comparable (m.afterAll calls) (t.afterAll calls) removal := by
    refine comparable_of_reply .done ?_ ?_ ?_
    all_goals decide +kernel
  exact ⟨comparable, answers,
    (single _ _ removal (.afterAll .start calls) (.afterAll .start calls) same removed).2⟩

/-! ## 3. Either kind -/

/-- A kind of store. -/
inductive Backend where
  | memory
  | tables
  deriving DecidableEq

namespace Backend

/-- The stores of a kind. -/
abbrev Store : Backend → Type
  | memory => Memory
  | tables => Tables

instance (b : Backend) : LinkStore b.Store :=
  match b with
  | memory => inferInstanceAs (LinkStore Memory)
  | tables => inferInstanceAs (LinkStore Tables)

instance (b : Backend) : LawfulStore b.Store :=
  match b with
  | memory => inferInstanceAs (LawfulStore Memory)
  | tables => inferInstanceAs (LawfulStore Tables)

/-- The store of a kind without records. -/
def empty (b : Backend) : b.Store := LawfulStore.empty

/-- The records that a store holds. -/
def content {b : Backend} (store : b.Store) : Content := LawfulStore.content store

end Backend

end CrawlGraph
