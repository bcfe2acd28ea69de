import CrawlGraph.Proofs.Contract.LawfulStore

/-!
# The past of a session

Calls lead from one session to another. The calls that were made, each with the session that it was
made in, are the past of the later session: what it answered at the time, what the clock showed and
what was held before can all be read off it.

1. `Moment` and `Session.Course`, the past that leads to a session.
2. What a moment stored: a link under a URL, or an edge between two pages.
-/

namespace CrawlGraph

/-! ## 1. Courses -/

/-- A call, and the session that it was made in. -/
structure Moment (σ : Type) where
  session : Session σ
  call : Call

section Course

variable {σ : Type} [LinkStore σ]

namespace Moment

/-- The answer to the call. -/
def answer (m : Moment σ) : Except StoreError Reply := m.session.answer m.call

/-- What the clock shows when the call is made. -/
def reading (m : Moment σ) : Stamp := m.session.supply.now

end Moment

namespace Session

/-- **The past of a session that calls lead to**, in the order of the calls. Between two calls,
    others may read the clock and draw identifiers. -/
inductive Course (first : Session σ) : List (Moment σ) → Session σ → Prop where
  | start : Course first [] first
  | call {past : List (Moment σ)} {s : Session σ} (c : Call) (h : Course first past s) :
    Course first (past ++ [⟨s, c⟩]) (s.after c)
  | elapse {past : List (Moment σ)} {s : Session σ} {supply : Supply} (h : Course first past s)
    (later : s.supply.Later supply) : Course first past { s with supply }

variable {first s : Session σ} {past : List (Moment σ)}

theorem Course.reached (h : first.Course past s) : first.Reached s := by
  induction h with
  | start => exact .start
  | call c _ ih => exact .call c ih
  | elapse _ later ih => exact .elapse ih later

/-- The moments in which calls are made one after another. -/
def moments (s : Session σ) : List Call → List (Moment σ)
  | [] => []
  | c :: calls => ⟨s, c⟩ :: (s.after c).moments calls

theorem Course.afterAll (h : first.Course past s) (calls : List Call) :
    first.Course (past ++ s.moments calls) (s.afterAll calls) := by
  induction calls generalizing past s with
  | nil => rwa [moments, List.append_nil]
  | cons c calls ih =>
    have rest := ih (.call c h)
    rwa [List.append_assoc] at rest

theorem course_moments (s : Session σ) (calls : List Call) :
    s.Course (s.moments calls) (s.afterAll calls) :=
  Course.start.afterAll calls

end Session

/-! ## 2. What was stored -/

namespace Moment

variable (m : Moment σ)

/-- The link that the call stored under a URL, as it was submitted and as it was written back. -/
def linkStored? (url : String) : Option (Link × Link) :=
  match m.call, m.answer with
  | .upsertLink link, .ok (.link stored) => if link.url = url then some (link, stored) else none
  | _, _ => none

/-- The edge that the call stored between two pages, as it was written back. -/
def edgeStored? (src dst : Ident) : Option Edge :=
  match m.call, m.answer with
  | .upsertEdge edge, .ok (.edge stored) =>
    if edge.src = src ∧ edge.dst = dst then some stored else none
  | _, _ => none

variable {m}

theorem linkStored?_eq_some {url : String} {given stored : Link} :
    m.linkStored? url = some (given, stored) ↔
      m.call = .upsertLink given ∧ m.answer = .ok (.link stored) ∧ given.url = url := by
  unfold linkStored?
  split
  · rename_i link k hcall hanswer
    rw [hcall, hanswer, Option.ite_none_right_eq_some]
    simp only [Option.some.injEq, Prod.mk.injEq, Call.upsertLink.injEq, Except.ok.injEq,
      Reply.link.injEq]
    constructor
    · intro h
      obtain ⟨hurl, rfl, rfl⟩ := h
      exact ⟨rfl, rfl, hurl⟩
    · intro h
      obtain ⟨rfl, rfl, hurl⟩ := h
      exact ⟨hurl, rfl, rfl⟩
  · rename_i hne
    refine ⟨nofun, fun h => ?_⟩
    exact absurd h.2.1 (hne given stored h.1)

theorem edgeStored?_eq_some {src dst : Ident} {stored : Edge} :
    m.edgeStored? src dst = some stored ↔ ∃ edge : Edge,
      m.call = .upsertEdge edge ∧ m.answer = .ok (.edge stored) ∧ edge.src = src ∧
        edge.dst = dst := by
  unfold edgeStored?
  split
  · rename_i edge k hcall hanswer
    rw [hcall, hanswer, Option.ite_none_right_eq_some]
    simp only [Option.some.injEq, Call.upsertEdge.injEq, Except.ok.injEq, Reply.edge.injEq]
    constructor
    · intro h
      obtain ⟨⟨hsrc, hdst⟩, rfl⟩ := h
      exact ⟨edge, rfl, rfl, hsrc, hdst⟩
    · intro h
      obtain ⟨_, rfl, rfl, hsrc, hdst⟩ := h
      exact ⟨⟨hsrc, hdst⟩, rfl⟩
  · rename_i hne
    refine ⟨nofun, fun h => ?_⟩
    obtain ⟨edge, hcall, hanswer, -⟩ := h
    exact absurd hanswer (hne edge stored hcall)

/-- Whether the store held an edge from one page to the other before the call. -/
def Holds [LawfulStore σ] (m : Moment σ) (src dst : Ident) : Prop :=
  ∃ edge ∈ (LawfulStore.content m.session.store).edgesFrom src, edge.dst = dst

end Moment

end Course

end CrawlGraph
