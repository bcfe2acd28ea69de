import CrawlGraph.Proofs.Contract.Draws
import CrawlGraph.Proofs.Memory.Invariant

/-!
# What an upsert into the graph in memory does

Every upsert ends in one of a few ways. Each is listed with its condition, its answer, and the
session that it leaves behind, down to the last draw and reading.

1. `creating`, the part in which a new record comes in.
2. `LinkOutcome`: storing a link.
3. `EdgeOutcome`: storing an edge.
-/

namespace CrawlGraph.Memory

variable {m : Memory} {s : Session Memory}

/-! ## 1. New records -/

/-- Drawing an identifier that is not taken, and adding the record that is named by it. -/
def creating {ρ : Type} (op : Operation) (taken : Memory → Ident → Bool) (named : Ident → ρ → ρ)
    (add : Memory → ρ → Memory) : Writing Memory ρ Unit := do
  let id ← Writing.onSession <| Action.drawIdent op taken
  Writing.assign (named id)
  let stored ← Writing.record
  Writing.onSession <| Action.change fun m => .ok (add m stored)

/-- **A new record comes in** under the first draw that can be used, or there is no such draw. Only
    then the record of the caller is still what it was. -/
theorem creating_cases {ρ : Type} (op : Operation) (taken : Memory → Ident → Bool)
    (named : Ident → ρ → ρ) (add : Memory → ρ → Memory) (s : Session Memory) (given : ρ) :
    (∃ k, IsLeast (s.supply.usable (fun id => taken s.store id = true) maxAttempts) k ∧
      creating op taken named add ⟨s, given⟩ = .ok ()
        ⟨⟨add s.store (named (s.supply.draw k) given), s.supply.afterDraws (k + 1)⟩,
          named (s.supply.draw k) given⟩) ∨
    (s.supply.usable (fun id => taken s.store id = true) maxAttempts = ∅ ∧
      creating op taken named add ⟨s, given⟩ = .error (.of op (.identsExhausted maxAttempts))
        ⟨{ s with supply := s.supply.afterDraws maxAttempts }, given⟩) := by
  rcases Action.drawIdent_cases op taken s with ⟨k, first, hdraw⟩ | ⟨unusable, hdraw⟩
  · refine .inl ⟨k, first, ?_⟩
    simp only [creating, bind, EStateM.bind, Writing.onSession, hdraw]
    rfl
  · refine .inr ⟨unusable, ?_⟩
    simp only [creating, bind, EStateM.bind, Writing.onSession, hdraw]

/-! ## 2. Links -/

/-- **What storing a link does**: its answer, the session behind it, and the link of the caller. -/
inductive LinkOutcome (s : Session Memory) (link : Link) :
    Except StoreError Link → Session Memory → Link → Prop where
  /-- The link with the URL is refreshed, and no identifier is drawn. -/
  | refreshed {old : Link} (held : s.store.links[old.id]? = some old) (url : old.url = link.url) :
    LinkOutcome s link (.ok (refreshedLink old link))
      { s with store := s.store.putLink (refreshedLink old link) } (refreshedLink old link)
  /-- A link with a new URL comes in under the first draw that can be used. -/
  | created {k : Nat}
    (new : ∀ (id : Ident) (old : Link), s.store.links[id]? = some old → old.url ≠ link.url)
    (first : IsLeast (s.supply.usable (fun id => s.store.links.contains id = true) maxAttempts) k) :
    LinkOutcome s link (.ok { link with id := s.supply.draw k })
      ⟨s.store.addLink { link with id := s.supply.draw k }, s.supply.afterDraws (k + 1)⟩
      { link with id := s.supply.draw k }
  /-- No draw can be used. -/
  | exhausted
    (new : ∀ (id : Ident) (old : Link), s.store.links[id]? = some old → old.url ≠ link.url)
    (unusable : s.supply.usable (fun id => s.store.links.contains id = true) maxAttempts = ∅) :
    LinkOutcome s link (.error (.of .upsertLink (.identsExhausted maxAttempts)))
      { s with supply := s.supply.afterDraws maxAttempts } link

theorem linkOutcome_upsertLink (hv : s.store.Valid) (link : Link) :
    LinkOutcome s link (Action.answer (LinkStore.upsertLink link) s)
      (Action.after (LinkStore.upsertLink link) s) (LinkStore.storeLink.recordAfter link s) := by
  cases hu : s.store.identOfUrl[link.url]? with
  | some id =>
    obtain ⟨old, hold, hurl⟩ := (hv.url_iff _ _).mp hu
    have hid : id = old.id := (hv.link_key _ _ hold).2.symm
    subst hid
    have run : LinkStore.storeLink ⟨s, link⟩ = .ok ()
        ⟨{ s with store := s.store.putLink (refreshedLink old link) }, refreshedLink old link⟩ := by
      simp only [LinkStore.storeLink, storeLink, bind, EStateM.bind, Writing.record, Writing.store,
        hu, hold]
      rfl
    exact Writing.ended_of_ok run (.refreshed hold hurl)
  | none =>
    have new := hv.url_eq_none_iff.mp hu
    have run : LinkStore.storeLink ⟨s, link⟩ = creating .upsertLink
        (fun m id => m.links.contains id) (fun id link => { link with id }) addLink ⟨s, link⟩ := by
      simp only [LinkStore.storeLink, storeLink, bind, EStateM.bind, Writing.record, Writing.store,
        hu]
      rfl
    rcases creating_cases .upsertLink (fun m id => m.links.contains id)
      (fun id link => { link with id }) addLink s link with ⟨k, first, added⟩ | ⟨unusable, failed⟩
    · exact Writing.ended_of_ok (run.trans added) (.created new first)
    · exact Writing.ended_of_error (run.trans failed) (.exhausted new unusable)

/-- A link that is not stored changes nothing but the supply. -/
theorem LinkOutcome.failed {link : Link} {answer : Except StoreError Link} {s' : Session Memory}
    {record : Link} (h : LinkOutcome s link answer s' record) {e : StoreError}
    (he : answer = .error e) :
    s'.store = s.store ∧ record = link ∧ e = .of .upsertLink (.identsExhausted maxAttempts) := by
  cases h with
  | refreshed held url => cases he
  | created new first => cases he
  | exhausted new unusable =>
    cases he
    exact ⟨rfl, rfl, rfl⟩

/-! ## 3. Edges -/

theorem edge_of_edgeBetween? (hv : m.Valid) {src dst : Ident} {edge : Edge}
    (h : m.edgeBetween? src dst = some edge) :
    m.edges[edge.id]? = some edge ∧ edge.src = src ∧ edge.dst = dst := by
  obtain ⟨id, hmem, hid⟩ := List.exists_of_findSome?_eq_some h
  obtain ⟨he, hd⟩ := Option.filter_eq_some_iff.mp hid
  obtain ⟨e, he', hs⟩ := hv.listed _ _ hmem
  rw [he] at he'
  cases he'
  refine ⟨?_, hs, by simpa using hd⟩
  rwa [(hv.edge_key _ _ he).2]

theorem ne_of_edgeBetween?_eq_none (hv : m.Valid) {src dst : Ident}
    (h : m.edgeBetween? src dst = none) (id : Ident) (edge : Edge) (he : m.edges[id]? = some edge)
    (hs : edge.src = src) : edge.dst ≠ dst := by
  intro hd
  have hmem := hv.mem_listed _ _ he
  rw [hs] at hmem
  have hn := List.findSome?_eq_none_iff.mp h id hmem
  rw [he] at hn
  simp [Option.filter, hd] at hn

/-- **What storing an edge does**: its answer, the session behind it, and the edge of the caller. -/
inductive EdgeOutcome (s : Session Memory) (edge : Edge) :
    Except StoreError Edge → Session Memory → Edge → Prop where
  /-- One of its pages is not held; neither clock nor identifiers are used. -/
  | unknown (ends : ¬(s.store.links.contains edge.src = true ∧
      s.store.links.contains edge.dst = true)) :
    EdgeOutcome s edge (.error (.of .upsertEdge .unknownEndpoints)) s edge
  /-- The edge between its pages is refreshed, and no identifier is drawn. -/
  | refreshed {old : Edge} (held : s.store.edges[old.id]? = some old) (src : old.src = edge.src)
    (dst : old.dst = edge.dst) :
    EdgeOutcome s edge (.ok { old with updatedAt := max old.updatedAt s.supply.now })
      ⟨s.store.putEdge { old with updatedAt := max old.updatedAt s.supply.now },
        s.supply.afterRead⟩
      { old with updatedAt := max old.updatedAt s.supply.now }
  /-- An edge between pages that are not joined comes in under the first draw that can be used. -/
  | created {k : Nat} (src : s.store.links.contains edge.src = true)
    (dst : s.store.links.contains edge.dst = true)
    (new : ∀ (id : Ident) (old : Edge), s.store.edges[id]? = some old → old.src = edge.src →
      old.dst ≠ edge.dst)
    (first : IsLeast (s.supply.usable (fun id => s.store.edges.contains id = true) maxAttempts) k) :
    EdgeOutcome s edge (.ok { edge with id := s.supply.draw k, updatedAt := s.supply.now })
      ⟨s.store.addEdge { edge with id := s.supply.draw k, updatedAt := s.supply.now },
        s.supply.afterRead.afterDraws (k + 1)⟩
      { edge with id := s.supply.draw k, updatedAt := s.supply.now }
  /-- No draw can be used. -/
  | exhausted (src : s.store.links.contains edge.src = true)
    (dst : s.store.links.contains edge.dst = true)
    (new : ∀ (id : Ident) (old : Edge), s.store.edges[id]? = some old → old.src = edge.src →
      old.dst ≠ edge.dst)
    (unusable : s.supply.usable (fun id => s.store.edges.contains id = true) maxAttempts = ∅) :
    EdgeOutcome s edge (.error (.of .upsertEdge (.identsExhausted maxAttempts)))
      { s with supply := s.supply.afterRead.afterDraws maxAttempts } edge

theorem edgeOutcome_upsertEdge (hv : s.store.Valid) (edge : Edge) :
    EdgeOutcome s edge (Action.answer (LinkStore.upsertEdge edge) s)
      (Action.after (LinkStore.upsertEdge edge) s) (LinkStore.storeEdge.recordAfter edge s) := by
  cases hends : s.store.links.contains edge.src && s.store.links.contains edge.dst with
  | false =>
    have run : LinkStore.storeEdge ⟨s, edge⟩ =
        .error (.of .upsertEdge .unknownEndpoints) ⟨s, edge⟩ := by
      simp only [LinkStore.storeEdge, storeEdge, bind, EStateM.bind, Writing.record, Writing.store,
        hends]
      rfl
    refine Writing.ended_of_error run (.unknown ?_)
    rw [← Bool.and_eq_true_iff, hends]
    exact Bool.false_ne_true
  | true =>
    cases hb : s.store.edgeBetween? edge.src edge.dst with
    | some old =>
      obtain ⟨hold, hs, hd⟩ := edge_of_edgeBetween? hv hb
      have run : LinkStore.storeEdge ⟨s, edge⟩ = .ok ()
          ⟨⟨s.store.putEdge { old with updatedAt := max old.updatedAt s.supply.now },
            s.supply.afterRead⟩, { old with updatedAt := max old.updatedAt s.supply.now }⟩ := by
        simp only [LinkStore.storeEdge, storeEdge, bind, EStateM.bind, Writing.record,
          Writing.store, hends, hb, if_true]
        rfl
      exact Writing.ended_of_ok run (.refreshed hold hs hd)
    | none =>
      obtain ⟨hsrc, hdst⟩ := Bool.and_eq_true_iff.mp hends
      have new := ne_of_edgeBetween?_eq_none hv hb
      -- reading the clock does not change what is drawn next
      have run : LinkStore.storeEdge ⟨s, edge⟩ = creating .upsertEdge
          (fun m id => m.edges.contains id)
          (fun id edge => { edge with id, updatedAt := s.supply.now }) addEdge
          ⟨{ s with supply := s.supply.afterRead }, edge⟩ := by
        simp only [LinkStore.storeEdge, storeEdge, bind, EStateM.bind, Writing.record,
          Writing.store, hends, hb, if_true]
        rfl
      rcases creating_cases .upsertEdge (fun m id => m.edges.contains id)
        (fun id edge => { edge with id, updatedAt := s.supply.now }) addEdge
        { s with supply := s.supply.afterRead } edge with ⟨k, first, added⟩ | ⟨unusable, failed⟩
      · exact Writing.ended_of_ok (run.trans added) (.created hsrc hdst new first)
      · exact Writing.ended_of_error (run.trans failed) (.exhausted hsrc hdst new unusable)

/-- An edge that is not stored changes nothing but the supply. -/
theorem EdgeOutcome.failed {edge : Edge} {answer : Except StoreError Edge} {s' : Session Memory}
    {record : Edge} (h : EdgeOutcome s edge answer s' record) {e : StoreError}
    (he : answer = .error e) :
    s'.store = s.store ∧ record = edge ∧ (e = .of .upsertEdge .unknownEndpoints ∨
      e = .of .upsertEdge (.identsExhausted maxAttempts)) := by
  cases h with
  | unknown ends =>
    cases he
    exact ⟨rfl, rfl, .inl rfl⟩
  | refreshed held src dst => cases he
  | created src dst new first => cases he
  | exhausted src dst new unusable =>
    cases he
    exact ⟨rfl, rfl, .inr rfl⟩

/-- An edge is refused for its pages just if one of them is not held. -/
theorem EdgeOutcome.unknown_iff (hv : s.store.Valid) {edge : Edge} {answer : Except StoreError Edge}
    {s' : Session Memory} {record : Edge} (h : EdgeOutcome s edge answer s' record) :
    answer = .error (.of .upsertEdge .unknownEndpoints) ↔
      ¬(s.store.links.contains edge.src = true ∧ s.store.links.contains edge.dst = true) := by
  cases h with
  | unknown ends => exact iff_of_true rfl ends
  | refreshed held src dst =>
    refine iff_of_false nofun fun ends => ends ?_
    rw [← src, ← dst]
    exact hv.edge_ends _ _ held
  | created src dst new first => exact iff_of_false nofun fun ends => ends ⟨src, dst⟩
  | exhausted src dst new unusable => exact iff_of_false nofun fun ends => ends ⟨src, dst⟩

end CrawlGraph.Memory
