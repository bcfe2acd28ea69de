import CrawlGraph.Proofs.Contract.Content

/-!
# Stores that keep the contract

A kind of store keeps the contract if its states have a content, and every call from a valid state
leads to a valid state, with the outcome that the call has for the content. What is proved from
these laws holds for every kind of store.

1. `LawfulStore`.
2. What the laws say about a single operation that an action carries out.
3. What they say about every session that calls lead to.
-/

namespace CrawlGraph

/-! ## 1. The laws -/

/-- A kind of store that keeps the contract. -/
class LawfulStore (σ : Type) [LinkStore σ] where
  /-- The store without records. -/
  empty : σ
  /-- The records that a store holds. -/
  content : σ → Content
  /-- What is true of the store between calls. -/
  Valid : σ → Prop
  valid_empty : Valid empty
  content_empty : content empty = .empty
  sound : ∀ {store : σ}, Valid store → (content store).Sound
  valid_after : ∀ {s : Session σ} (c : Call), Valid s.store → Valid (s.after c).store
  later_after : ∀ {s : Session σ} (c : Call), Valid s.store → s.supply.Later (s.after c).supply
  step : ∀ {s : Session σ} (c : Call), Valid s.store →
    (content s.store).Step s.supply.now c (s.answer c) (content (s.after c).store)

namespace LawfulStore

variable {σ : Type} [LinkStore σ] [LawfulStore σ] {s s' : Session σ}

/-! ## 2. Single operations -/

/-- What an operation leaves behind: a valid store and a supply that only moved on. -/
structure Carried (s s' : Session σ) : Prop where
  valid : Valid s'.store
  later : s.supply.Later s'.supply

theorem carried_after (h : Valid s.store) (c : Call) : Carried s (s.after c) :=
  ⟨valid_after c h, later_after c h⟩

/-- Storing a link that does not fail writes back a link that was stored. -/
theorem exists_linkStored (h : Valid s.store) {link : Link} {reply : Reply}
    (ok : s.answer (.upsertLink link) = .ok reply) :
    ∃ stored, reply = .link stored ∧ (content s.store).LinkStored link (.ok stored)
      (content (s.after (.upsertLink link)).store) := by
  obtain ⟨a, hstep, he⟩ := step (.upsertLink link) h
  rw [ok] at he
  cases a with
  | error e => cases he
  | ok stored => exact ⟨stored, Except.ok.inj he, hstep⟩

/-- A link that was written back was stored. -/
theorem linkStored_of_answer (h : Valid s.store) {link stored : Link}
    (ok : s.answer (.upsertLink link) = .ok (.link stored)) :
    (content s.store).LinkStored link (.ok stored)
      (content (s.after (.upsertLink link)).store) := by
  obtain ⟨_, he, hstored⟩ := exists_linkStored h ok
  cases he
  exact hstored

/-- Storing an edge that does not fail writes back an edge that was stored. -/
theorem exists_edgeStored (h : Valid s.store) {edge : Edge} {reply : Reply}
    (ok : s.answer (.upsertEdge edge) = .ok reply) :
    ∃ stored, reply = .edge stored ∧
      (content s.store).EdgeStored s.supply.now edge (.ok stored)
        (content (s.after (.upsertEdge edge)).store) := by
  obtain ⟨a, hstep, he⟩ := step (.upsertEdge edge) h
  rw [ok] at he
  cases a with
  | error e => cases he
  | ok stored => exact ⟨stored, Except.ok.inj he, hstep⟩

/-- An edge that was written back was stored. -/
theorem edgeStored_of_answer (h : Valid s.store) {edge stored : Edge}
    (ok : s.answer (.upsertEdge edge) = .ok (.edge stored)) :
    (content s.store).EdgeStored s.supply.now edge (.ok stored)
      (content (s.after (.upsertEdge edge)).store) := by
  obtain ⟨_, he, hstored⟩ := exists_edgeStored h ok
  cases he
  exact hstored

theorem linkStored (h : Valid s.store) {link stored : Link}
    (run : LinkStore.upsertLink link s = .ok stored s') :
    Carried s s' ∧ (content s.store).LinkStored link (.ok stored) (content s'.store) := by
  have hs' : s.after (.upsertLink link) = s' := by
    rw [Session.after_upsertLink, Action.after_of_ok run]
  have ha : s.answer (.upsertLink link) = .ok (.link stored) := by
    rw [Session.answer_upsertLink, Action.answer_of_ok run]
    rfl
  exact hs' ▸ ⟨carried_after h _, linkStored_of_answer h ha⟩

theorem edgeStored (h : Valid s.store) {edge stored : Edge}
    (run : LinkStore.upsertEdge edge s = .ok stored s') :
    Carried s s' ∧
      (content s.store).EdgeStored s.supply.now edge (.ok stored) (content s'.store) := by
  have hs' : s.after (.upsertEdge edge) = s' := by
    rw [Session.after_upsertEdge, Action.after_of_ok run]
  have ha : s.answer (.upsertEdge edge) = .ok (.edge stored) := by
    rw [Session.answer_upsertEdge, Action.answer_of_ok run]
    rfl
  exact hs' ▸ ⟨carried_after h _, edgeStored_of_answer h ha⟩

theorem staleRemoved (h : Valid s.store) {src : Ident} {before : Stamp} {u : Unit}
    (run : Action.change (fun store => LinkStore.removeStaleEdges store src before) s = .ok u s') :
    Carried s s' ∧ content s'.store = (content s.store).withoutStale src before := by
  have hs' : s.after (.removeStaleEdges src before) = s' :=
    (Action.after_map _ _ _).trans (Action.after_of_ok run)
  obtain ⟨-, hstep⟩ := step (.removeStaleEdges src before) h
  exact ⟨hs' ▸ carried_after h _, hs' ▸ hstep⟩

theorem cause_of_error (h : Valid s.store) {c : Call} {e : StoreError}
    (failed : s.answer c = .error e) :
    ∃ cause ∈ Content.causes c, e = .of c.operation cause :=
  (step c h).cause_of_error failed

/-! ## 3. Runs -/

/-- **Every session that calls lead to is valid**, and still draws from the supply that the first
    one drew from. -/
theorem carried_of_reached {first : Session σ} (hv : Valid first.store) (h : first.Reached s) :
    Carried first s := by
  induction h with
  | start => exact ⟨hv, .refl _⟩
  | call c _ ih => exact ⟨valid_after c ih.valid, ih.later.trans (later_after c ih.valid)⟩
  | elapse _ later ih => exact ⟨ih.valid, ih.later.trans later⟩

/-- Every session that calls lead to from the empty store is valid. -/
theorem valid_of_reached {supply : Supply} (h : Session.Reached ⟨empty, supply⟩ s) :
    Valid s.store :=
  (carried_of_reached valid_empty h).valid

end LawfulStore

end CrawlGraph
