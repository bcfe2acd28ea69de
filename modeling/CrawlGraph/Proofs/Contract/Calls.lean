import CrawlGraph.Scan.Stats
import Mathlib

/-!
# Calls of a store and runs of calls

What a user of a store can do with it, as one type: a `Call` is an operation with its arguments,
and a `Reply` is what a call that succeeds gives back. A session is driven by calls one after
another, each of which may fail; between two calls others may use the clock and the identifiers.

1. `Action.answer` and `Action.after`, the two halves of what an action does, with a rule for each
   way in which actions are built; and how a writing ends for its caller.
2. `Call`, `Reply` and the step of a session, `Session.answer` and `Session.after`.
3. `Session.Reached`, the sessions that calls lead to.
-/

namespace CrawlGraph

/-! ## 1. What an action does -/

namespace Action

variable {σ ε ε' α β : Type}

/-- What the action gives back, or its error. -/
def answer (x : Action σ ε α) (s : Session σ) : Except ε α :=
  match x s with
  | .ok a _ => .ok a
  | .error e _ => .error e

/-- The session after the action. -/
def after (x : Action σ ε α) (s : Session σ) : Session σ :=
  match x s with
  | .ok _ s' => s'
  | .error _ s' => s'

theorem answer_of_ok {x : Action σ ε α} {s s' : Session σ} {a : α} (h : x s = .ok a s') :
    x.answer s = .ok a := by
  rw [answer, h]

theorem after_of_ok {x : Action σ ε α} {s s' : Session σ} {a : α} (h : x s = .ok a s') :
    x.after s = s' := by
  rw [after, h]

theorem answer_of_error {x : Action σ ε α} {s s' : Session σ} {e : ε} (h : x s = .error e s') :
    x.answer s = .error e := by
  rw [answer, h]

theorem after_of_error {x : Action σ ε α} {s s' : Session σ} {e : ε} (h : x s = .error e s') :
    x.after s = s' := by
  rw [after, h]

/-- An action that gives something back has succeeded. -/
theorem exists_of_answer {x : Action σ ε α} {s : Session σ} {a : α}
    (h : (x.answer s).toOption = some a) : ∃ s', x s = .ok a s' := by
  cases hx : x s with
  | ok b s' =>
    rw [answer_of_ok hx] at h
    cases h
    exact ⟨s', rfl⟩
  | error e s' =>
    rw [answer_of_error hx] at h
    cases h

@[simp] theorem answer_map (f : α → β) (x : Action σ ε α) (s : Session σ) :
    (f <$> x : Action σ ε β).answer s = (x.answer s).map f := by
  simp only [answer, Functor.map, EStateM.map]
  cases x s <;> rfl

@[simp] theorem after_map (f : α → β) (x : Action σ ε α) (s : Session σ) :
    (f <$> x : Action σ ε β).after s = x.after s := by
  simp only [after, Functor.map, EStateM.map]
  cases x s <;> rfl

@[simp] theorem answer_query (f : σ → Except ε α) (s : Session σ) :
    (query f).answer s = f s.store := by
  simp only [answer, query]
  cases f s.store <;> rfl

@[simp] theorem after_query (f : σ → Except ε α) (s : Session σ) : (query f).after s = s := by
  simp only [after, query]
  cases f s.store <;> rfl

theorem bind_of_ok {x : Action σ ε α} {f : α → Action σ ε β} {s s' : Session σ} {a : α}
    (h : x s = .ok a s') : (x >>= f) s = f a s' := by
  simp only [bind, EStateM.bind, h]

theorem bind_of_error {x : Action σ ε α} {f : α → Action σ ε β} {s s' : Session σ} {e : ε}
    (h : x s = .error e s') : (x >>= f) s = .error e s' := by
  simp only [bind, EStateM.bind, h]

/-- A run that succeeds has succeeded in its first part and in the rest. -/
theorem bind_eq_ok {x : Action σ ε α} {f : α → Action σ ε β} {s s' : Session σ} {b : β}
    (h : (x >>= f) s = .ok b s') : ∃ a t, x s = .ok a t ∧ f a t = .ok b s' := by
  simp only [bind, EStateM.bind] at h
  split at h
  · rename_i a t hx
    exact ⟨a, t, hx, h⟩
  · cases h

theorem discard_eq_ok {x : Action σ ε α} {s s' : Session σ} {u : Unit}
    (h : (discard x : Action σ ε Unit) s = .ok u s') : ∃ a, x s = .ok a s' := by
  simp only [discard, Functor.mapConst, Function.comp_apply, EStateM.map] at h
  split at h
  · rename_i a t hx
    cases h
    exact ⟨a, hx⟩
  · cases h

theorem pure_eq_ok {a b : α} {s s' : Session σ}
    (h : (pure a : Action σ ε α) s = .ok b s') : a = b ∧ s = s' := by
  cases h
  exact ⟨rfl, rfl⟩

theorem mapError_eq_ok {g : ε → ε'} {x : Action σ ε α} {s s' : Session σ} {a : α}
    (h : x.mapError g s = .ok a s') : x s = .ok a s' := by
  unfold mapError at h
  split at h
  · rename_i hx
    cases h
    exact hx
  · cases h

end Action

namespace Writing

variable {σ ρ : Type} {x : Writing σ ρ Unit} {given record : ρ} {s s' : Session σ}
  {P : Except StoreError ρ → Session σ → ρ → Prop}

/-- What is true of a writing that succeeds: it gives the record back as it has left it. -/
theorem ended_of_ok (run : x ⟨s, given⟩ = .ok () ⟨s', record⟩) (h : P (.ok record) s' record) :
    P ((x.handed given).answer s) ((x.handed given).after s) (x.recordAfter given s) := by
  have handed_run : x.handed given s = .ok record s' := by
    rw [handed, run]
  rw [Action.answer_of_ok handed_run, Action.after_of_ok handed_run, recordAfter, run]
  exact h

/-- What is true of a writing that fails: it leaves in the record what it has written by then. -/
theorem ended_of_error {e : StoreError} (run : x ⟨s, given⟩ = .error e ⟨s', record⟩)
    (h : P (.error e) s' record) :
    P ((x.handed given).answer s) ((x.handed given).after s) (x.recordAfter given s) := by
  have handed_run : x.handed given s = .error e s' := by
    rw [handed, run]
  rw [Action.answer_of_error handed_run, Action.after_of_error handed_run, recordAfter, run]
  exact h

end Writing

/-! ## 2. Calls -/

/-- A call of a store. -/
inductive Call where
  | upsertLink (link : Link)
  | findLink (id : Ident)
  | upsertEdge (edge : Edge)
  | removeStaleEdges (src : Ident) (before : Stamp)
  | links (start stop : Ident) (before : Stamp)
  | edges (start stop : Ident) (before : Stamp)
  deriving DecidableEq

/-- The operation that a call asks for. -/
def Call.operation : Call → Operation
  | .upsertLink _ => .upsertLink
  | .findLink _ => .findLink
  | .upsertEdge _ => .upsertEdge
  | .removeStaleEdges _ _ => .removeStaleEdges
  | .links _ _ _ => .links
  | .edges _ _ _ => .edges

/-- What a call gives back: the record as written, or all the records of the cursor. -/
inductive Reply where
  | link (link : Link)
  | edge (edge : Edge)
  | done
  | links (links : List Link)
  | edges (edges : List Edge)
  deriving DecidableEq

/-- The identifier of the record that is given back, if the reply is one record. -/
def Reply.ident? : Reply → Option Ident
  | .link l => some l.id
  | .edge e => some e.id
  | _ => none

/-- The record that is submitted with a call. -/
def Call.record? : Call → Option Reply
  | .upsertLink link => some (.link link)
  | .upsertEdge edge => some (.edge edge)
  | _ => none

section Step

variable {σ : Type} [LinkStore σ]

/-- Carries out a call. -/
def Call.perform : Call → Action σ StoreError Reply
  | .upsertLink link => Reply.link <$> LinkStore.upsertLink link
  | .findLink id => Action.query fun store => (LinkStore.findLink store id).map .link
  | .upsertEdge edge => Reply.edge <$> LinkStore.upsertEdge edge
  | .removeStaleEdges src before =>
    (fun _ => Reply.done) <$>
      Action.change fun store => LinkStore.removeStaleEdges store src before
  | .links start stop before =>
    Action.query fun store => (Scan.linksIn store start stop before).map .links
  | .edges start stop before =>
    Action.query fun store => (Scan.edgesIn store start stop before).map .edges

namespace Session

/-- What the session answers to a call. -/
def answer (s : Session σ) (c : Call) : Except StoreError Reply := Action.answer c.perform s

/-- The session after a call. -/
def after (s : Session σ) (c : Call) : Session σ := Action.after c.perform s

/-- The record in the hands of the caller after a call that was given one. -/
def recordAfter? (s : Session σ) : Call → Option Reply
  | .upsertLink link => some (.link (LinkStore.storeLink.recordAfter link s))
  | .upsertEdge edge => some (.edge (LinkStore.storeEdge.recordAfter edge s))
  | _ => none

/-- What the session answers to calls, one after another. -/
def answers (s : Session σ) : List Call → List (Except StoreError Reply)
  | [] => []
  | c :: calls => s.answer c :: (s.after c).answers calls

/-- The session after some calls. -/
def afterAll (s : Session σ) (calls : List Call) : Session σ := calls.foldl after s

variable (s : Session σ)

@[simp] theorem answer_upsertLink (link : Link) :
    s.answer (.upsertLink link) = (Action.answer (LinkStore.upsertLink link) s).map .link :=
  Action.answer_map _ _ _

@[simp] theorem after_upsertLink (link : Link) :
    s.after (.upsertLink link) = Action.after (LinkStore.upsertLink link) s :=
  Action.after_map _ _ _

@[simp] theorem answer_upsertEdge (edge : Edge) :
    s.answer (.upsertEdge edge) = (Action.answer (LinkStore.upsertEdge edge) s).map .edge :=
  Action.answer_map _ _ _

@[simp] theorem after_upsertEdge (edge : Edge) :
    s.after (.upsertEdge edge) = Action.after (LinkStore.upsertEdge edge) s :=
  Action.after_map _ _ _

@[simp] theorem answer_findLink (id : Ident) :
    s.answer (.findLink id) = (LinkStore.findLink s.store id).map .link := by
  rw [answer, Call.perform, Action.answer_query]

@[simp] theorem after_findLink (id : Ident) : s.after (.findLink id) = s := by
  rw [after, Call.perform, Action.after_query]

@[simp] theorem answer_links (start stop : Ident) (before : Stamp) :
    s.answer (.links start stop before) = (Scan.linksIn s.store start stop before).map .links := by
  rw [answer, Call.perform, Action.answer_query]

@[simp] theorem after_links (start stop : Ident) (before : Stamp) :
    s.after (.links start stop before) = s := by
  rw [after, Call.perform, Action.after_query]

@[simp] theorem answer_edges (start stop : Ident) (before : Stamp) :
    s.answer (.edges start stop before) = (Scan.edgesIn s.store start stop before).map .edges := by
  rw [answer, Call.perform, Action.answer_query]

@[simp] theorem after_edges (start stop : Ident) (before : Stamp) :
    s.after (.edges start stop before) = s := by
  rw [after, Call.perform, Action.after_query]

variable {s}

/-- Removing succeeds where the store has a result. -/
theorem answer_removeStaleEdges {src : Ident} {before : Stamp} {store : σ}
    (h : LinkStore.removeStaleEdges s.store src before = .ok store) :
    s.answer (.removeStaleEdges src before) = .ok .done := by
  refine (Action.answer_map _ _ _).trans ?_
  simp only [Action.answer, Action.change, h]
  rfl

theorem after_removeStaleEdges {src : Ident} {before : Stamp} {store : σ}
    (h : LinkStore.removeStaleEdges s.store src before = .ok store) :
    s.after (.removeStaleEdges src before) = { s with store } := by
  refine (Action.after_map _ _ _).trans ?_
  simp only [Action.after, Action.change, h]

end Session

end Step

/-! ## 3. Runs -/

/-- The same clock and source of identifiers at a later time: nothing is given back. -/
structure Supply.Later (s s' : Supply) : Prop where
  clock : s'.clock = s.clock
  idents : s'.idents = s.idents
  reads : s.reads ≤ s'.reads
  draws : s.draws ≤ s'.draws

namespace Supply

theorem Later.refl (s : Supply) : s.Later s := ⟨rfl, rfl, Nat.le_refl _, Nat.le_refl _⟩

theorem Later.trans {s s' s'' : Supply} (h : s.Later s') (h' : s'.Later s'') : s.Later s'' :=
  ⟨h'.clock.trans h.clock, h'.idents.trans h.idents, h.reads.trans h'.reads,
    h.draws.trans h'.draws⟩

theorem later_afterRead (s : Supply) : s.Later s.afterRead :=
  ⟨rfl, rfl, Nat.le_succ _, Nat.le_refl _⟩

theorem later_awaitLater (start : Stamp) (patience : Nat) (s : Supply) :
    s.Later (awaitLater start patience s).2 := by
  induction patience generalizing s with
  | zero => exact .refl s
  | succ n ih =>
    rw [awaitLater]
    split
    · exact later_afterRead s
    · exact (later_afterRead s).trans (ih _)

end Supply

/-- **The sessions that calls lead to.** Between two calls, others may read the clock and draw
    identifiers. -/
inductive Session.Reached {σ : Type} [LinkStore σ] (first : Session σ) : Session σ → Prop where
  | start : Reached first first
  | call {s : Session σ} (c : Call) (h : Reached first s) : Reached first (s.after c)
  | elapse {s : Session σ} {supply : Supply} (h : Reached first s)
      (later : s.supply.Later supply) : Reached first { s with supply }

/-- The supply whose clock and identifiers count from zero; the clock stops after a while. -/
def Supply.counting : Supply := ⟨fun n => Int64.ofNat (min n 1000), Ident.ofNat, 0, 0⟩

theorem Session.Reached.afterAll {σ : Type} [LinkStore σ] {first s : Session σ}
    (h : first.Reached s) (calls : List Call) : first.Reached (s.afterAll calls) := by
  induction calls generalizing s with
  | nil => exact h
  | cons c calls ih => exact ih (h.call c)

end CrawlGraph
