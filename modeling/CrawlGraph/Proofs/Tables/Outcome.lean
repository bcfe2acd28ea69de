import CrawlGraph.Proofs.Contract.Stamps
import CrawlGraph.Proofs.Tables.Ending
import CrawlGraph.Proofs.Tables.Records

/-!
# What an upsert into tables does

An upsert draws an identifier first, whatever it is for; only then the tables decide what becomes of
the row. Each way in which it can end is listed with its condition, its answer, the session that it
leaves behind, down to the last draw and reading, and the record in the hands of the caller.

1. What the statements do to the tables of records.
2. `LinkOutcome`: storing a link.
3. `EdgeOutcome`: storing an edge.
-/

namespace CrawlGraph

/-- The later one of two integers is the greater one. -/
theorem Stored.later_int_eq_max (a t : Stamp) : (int a).later t = .int (max a t) := by
  rw [later_int]
  split
  · rename_i h
    rw [Stamp.max_eq_right (Int64.le_of_lt h)]
  · rename_i h
    rw [Stamp.max_eq_left (Int64.not_lt.mp h)]

namespace Tables

variable {r : Records}

/-! ## 1. Statements -/

theorem hasLink_tables (r : Records) (id : Ident) :
    r.tables.hasLink id.text = decide (id ∈ r.links.map (·.id)) := by
  rw [Bool.eq_iff_iff]
  simp [hasLink, Records.tables, LinkRow.of]

theorem hasEdge_tables (r : Records) (id : Ident) :
    r.tables.hasEdge id.text = decide (id ∈ r.edges.map (·.2.id)) := by
  rw [Bool.eq_iff_iff]
  simp [hasEdge, Records.tables, EdgeRow.of]

theorem knowsUrl_tables (r : Records) (url : String) :
    r.tables.knowsUrl url = decide (url ∈ r.links.map (·.url)) := by
  rw [Bool.eq_iff_iff]
  simp [knowsUrl, Records.tables, LinkRow.of]

theorem knowsPair_tables (r : Records) (src dst : Ident) :
    r.tables.knowsPair src.text dst.text =
      decide ((src, dst) ∈ r.edges.map fun e => (e.2.src, e.2.dst)) := by
  rw [Bool.eq_iff_iff]
  simp [knowsPair, Records.tables, EdgeRow.of]

/-- Writing the link of a known URL updates its row. -/
theorem writeLink_of_known (hv : r.Valid) {old link : Link} (h : old ∈ r.links)
    (hurl : old.url = link.url) (id : Ident) :
    let stored : Link :=
      { link with id := old.id, retrievedAt := max link.retrievedAt old.retrievedAt }
    r.tables.writeLink id link = .ok ((r.refreshLink stored).tables, ↑old.id.text,
      ↑stored.retrievedAt) := by
  intro stored
  have hfind : (r.links.map LinkRow.of).find? (fun row => row.url = .ofString link.url) =
      some (LinkRow.of old) := by
    refine find?_of_unique (List.mem_map_of_mem h) ?_ ?_
    · simp [LinkRow.of, hurl]
    · intro row hrow hu
      obtain ⟨l, hl, rfl⟩ := List.mem_map.mp hrow
      simp only [LinkRow.of, Stored.ofString_inj, decide_eq_true_eq] at hu
      rw [hv.eq_of_url hl h (hu.trans hurl.symm)]
  have htime : (LinkRow.of old).retrievedAt.later link.retrievedAt = .int stored.retrievedAt :=
    (Stored.later_int_eq_max _ _).trans (congrArg _ (Stamp.max_comm _ _))
  have hrows : setRetrieved (r.links.map LinkRow.of) link.url (.int stored.retrievedAt) =
      (r.refreshLink stored).links.map LinkRow.of := by
    simp only [setRetrieved, Records.refreshLink, List.map_map]
    refine List.map_congr_left fun l hl => ?_
    simp only [Function.comp_apply]
    by_cases hu : l.url = link.url
    · rw [if_pos (by simp [LinkRow.of, hu]), if_pos (by simp [stored, hu]),
        hv.eq_of_url hl h (hu.trans hurl.symm)]
      simp only [LinkRow.of, stored, hurl]
    · rw [if_neg (by simpa [LinkRow.of] using hu), if_neg (by simpa [stored] using hu)]
  simp only [writeLink, Records.tables, hfind, htime, hrows]
  rfl

/-- Writing the link of a new URL adds a row. -/
theorem writeLink_of_new {link : Link} (h : link.url ∉ r.links.map (·.url)) (id : Ident) :
    r.tables.writeLink id link =
      .ok ((r.addLink { link with id }).tables, ↑id.text, ↑link.retrievedAt) := by
  have hfind : (r.links.map LinkRow.of).find? (fun row => row.url = .ofString link.url) =
      none := by
    refine List.find?_eq_none.mpr fun row hrow hu => ?_
    obtain ⟨l, hl, rfl⟩ := List.mem_map.mp hrow
    simp only [LinkRow.of, Stored.ofString_inj, decide_eq_true_eq] at hu
    exact h (hu ▸ List.mem_map_of_mem hl)
  simp only [writeLink, Records.tables, hfind, Records.addLink, List.map_append,
    List.map_singleton]
  rfl

/-- Writing the edge between pages that are joined already updates its row. -/
theorem writeEdge_of_known (hv : r.Valid) {n : Nat} {old edge : Edge} (h : (n, old) ∈ r.edges)
    (hsrc : old.src = edge.src) (hdst : old.dst = edge.dst) (id : Ident) (now : Stamp) :
    let stored : Edge := { old with updatedAt := max old.updatedAt now }
    r.tables.writeEdge id now edge = .ok ((r.refreshEdge stored).tables, ↑old.id.text,
      ↑stored.updatedAt) := by
  intro stored
  have hfind : (r.edges.map EdgeRow.of).find?
      (fun row => row.src = .ofString edge.src.text ∧ row.dst = .ofString edge.dst.text) =
      some (EdgeRow.of (n, old)) := by
    refine find?_of_unique (List.mem_map_of_mem h) ?_ ?_
    · simp [EdgeRow.of, hsrc, hdst]
    · intro row hrow hp
      obtain ⟨e, he, rfl⟩ := List.mem_map.mp hrow
      simp only [EdgeRow.of, Stored.ofString_inj, Ident.text_inj, decide_eq_true_eq] at hp
      rw [hv.eq_of_pair he h (hp.1.trans hsrc.symm) (hp.2.trans hdst.symm)]
  have htime : (EdgeRow.of (n, old)).updatedAt.later now = .int stored.updatedAt :=
    Stored.later_int_eq_max _ _
  have hrows : setUpdated (r.edges.map EdgeRow.of) edge.src.text edge.dst.text
      (.int stored.updatedAt) = (r.refreshEdge stored).edges.map EdgeRow.of := by
    simp only [setUpdated, Records.refreshEdge, List.map_map]
    refine List.map_congr_left fun e he => ?_
    simp only [Function.comp_apply]
    by_cases hp : e.2.src = edge.src ∧ e.2.dst = edge.dst
    · rw [if_pos (by simp [EdgeRow.of, hp]), if_pos (by simp [stored, hp, hsrc, hdst]),
        hv.eq_of_pair he h (hp.1.trans hsrc.symm) (hp.2.trans hdst.symm)]
      rfl
    · rw [if_neg (by simpa [EdgeRow.of] using hp), if_neg (by simpa [stored, hsrc, hdst] using hp)]
  simp only [writeEdge, Records.tables, hfind, htime, hrows]
  rfl

/-- Writing an edge between pages that are not joined yet adds a row, if both are held. -/
theorem writeEdge_of_new {edge : Edge}
    (h : ∀ e ∈ r.edges, e.2.src = edge.src → e.2.dst ≠ edge.dst) (id : Ident) (now : Stamp) :
    r.tables.writeEdge id now edge =
      if edge.src ∈ r.links.map (·.id) ∧ edge.dst ∈ r.links.map (·.id) then
        .ok ((r.addEdge { edge with id, updatedAt := now }).tables, ↑id.text, ↑now)
      else .error (.of .upsertEdge .unknownEndpoints) := by
  have hfind : (r.edges.map EdgeRow.of).find?
      (fun row => row.src = .ofString edge.src.text ∧ row.dst = .ofString edge.dst.text) =
      none := by
    refine List.find?_eq_none.mpr fun row hrow hp => ?_
    obtain ⟨e, he, rfl⟩ := List.mem_map.mp hrow
    simp only [EdgeRow.of, Stored.ofString_inj, Ident.text_inj, decide_eq_true_eq] at hp
    exact h e he hp.1 hp.2
  have hends : (r.tables.hasLink edge.src.text && r.tables.hasLink edge.dst.text) =
      decide (edge.src ∈ r.links.map (·.id) ∧ edge.dst ∈ r.links.map (·.id)) := by
    rw [hasLink_tables, hasLink_tables, Bool.decide_and]
  unfold writeEdge
  simp only [hends, decide_eq_true_eq]
  simp only [Records.tables, hfind, Records.addEdge, List.map_append, List.map_singleton]
  rfl

/-! ## 2. Links -/

/-- The identifiers of links stand in the way of a link with a new URL. -/
def BlocksLink (r : Records) (link : Link) (id : Ident) : Prop :=
  (∀ other ∈ r.links, other.url ≠ link.url) ∧ ∃ other ∈ r.links, other.id = id

theorem blocksLink_tables (r : Records) (link : Link) (id : Ident) :
    blocksLink link r.tables id = true ↔ BlocksLink r link id := by
  rw [blocksLink, knowsUrl_tables, hasLink_tables]
  simp [BlocksLink]

/-- **What storing a link does**: its answer, the session behind it, and the link of the caller. -/
inductive LinkOutcome (r : Records) (s : Session Tables) (link : Link) :
    Except StoreError Link → Session Tables → Link → Prop where
  /-- The link with the URL is refreshed; the identifier that was drawn is lost. -/
  | refreshed {k : Nat} {old : Link}
    (first : IsLeast (s.supply.usable (BlocksLink r link) maxAttempts) k)
    (held : old ∈ r.links) (url : old.url = link.url) :
    LinkOutcome r s link
      (.ok { link with id := old.id, retrievedAt := max link.retrievedAt old.retrievedAt })
      ⟨(r.refreshLink
        { link with id := old.id, retrievedAt := max link.retrievedAt old.retrievedAt }).tables,
        s.supply.afterDraws (k + 1)⟩
      { link with id := old.id, retrievedAt := max link.retrievedAt old.retrievedAt }
  /-- A link with a new URL comes in. -/
  | created {k : Nat} (first : IsLeast (s.supply.usable (BlocksLink r link) maxAttempts) k)
    (new : ∀ other ∈ r.links, other.url ≠ link.url) :
    LinkOutcome r s link (.ok { link with id := s.supply.draw k })
      ⟨(r.addLink { link with id := s.supply.draw k }).tables, s.supply.afterDraws (k + 1)⟩
      { link with id := s.supply.draw k }
  /-- No draw can be used, not even to refresh the link. -/
  | exhausted (unusable : s.supply.usable (BlocksLink r link) maxAttempts = ∅) :
    LinkOutcome r s link (.error (.of .upsertLink (.identsExhausted maxAttempts)))
      { s with supply := s.supply.afterDraws maxAttempts } link

variable {s : Session Tables}

theorem linkOutcome_upsertLink (hv : r.Valid) (hs : s.store = r.tables) (link : Link) :
    LinkOutcome r s link (Action.answer (LinkStore.upsertLink link) s)
      (Action.after (LinkStore.upsertLink link) s) (LinkStore.storeLink.recordAfter link s) := by
  have blocks : ∀ id, linkWriter.blocks link s.store id = true ↔ BlocksLink r link id := by
    intro id
    rw [hs]
    exact blocksLink_tables r link id
  rcases store_cases linkWriter link s with ⟨k, first, drawn⟩ | ⟨unusable, failed⟩
  · rw [Supply.usable_congr _ blocks] at first
    by_cases known : ∃ old ∈ r.links, old.url = link.url
    · obtain ⟨old, hold, hurl⟩ := known
      let stored : Link :=
        { link with id := old.id, retrievedAt := max link.retrievedAt old.retrievedAt }
      have written : s.store.writeLink (s.supply.draw k) link = .ok
          ((r.refreshLink stored).tables, .ofString old.id.text, .int stored.retrievedAt) := by
        rw [hs]
        exact writeLink_of_known hv hold hurl _
      have run : LinkStore.storeLink ⟨s, link⟩ = .ok ()
          ⟨⟨(r.refreshLink stored).tables, s.supply.afterDraws (k + 1)⟩, stored⟩ :=
        drawn.trans (put_of_canonical written)
      exact Writing.ended_of_ok run (.refreshed first hold hurl)
    · have new : ∀ old ∈ r.links, old.url ≠ link.url := fun old ho hu => known ⟨old, ho, hu⟩
      let stored : Link := { link with id := s.supply.draw k }
      have written : s.store.writeLink (s.supply.draw k) link = .ok
          ((r.addLink stored).tables, .ofString stored.id.text, .int link.retrievedAt) := by
        rw [hs]
        exact writeLink_of_new (by simpa using new) _
      have run : LinkStore.storeLink ⟨s, link⟩ = .ok ()
          ⟨⟨(r.addLink stored).tables, s.supply.afterDraws (k + 1)⟩, stored⟩ :=
        drawn.trans (put_of_canonical written)
      exact Writing.ended_of_ok run (.created first new)
  · rw [Supply.usable_congr _ blocks] at unusable
    have run : LinkStore.storeLink ⟨s, link⟩ =
        .error (.of .upsertLink (.identsExhausted maxAttempts))
          ⟨{ s with supply := s.supply.afterDraws maxAttempts }, link⟩ := failed
    exact Writing.ended_of_error run (.exhausted unusable)

/-- A link that is not stored changes nothing but the supply. -/
theorem LinkOutcome.failed {link : Link} {answer : Except StoreError Link} {s' : Session Tables}
    {record : Link} (h : LinkOutcome r s link answer s' record) {e : StoreError}
    (he : answer = .error e) :
    s'.store = s.store ∧ record = link ∧ e = .of .upsertLink (.identsExhausted maxAttempts) := by
  cases h with
  | refreshed first held url => cases he
  | created first new => cases he
  | exhausted unusable =>
    cases he
    exact ⟨rfl, rfl, rfl⟩

/-! ## 3. Edges -/

/-- The identifiers of edges stand in the way of an edge between pages that are not joined. -/
def BlocksEdge (r : Records) (edge : Edge) (id : Ident) : Prop :=
  (∀ e ∈ r.edges, e.2.src = edge.src → e.2.dst ≠ edge.dst) ∧ ∃ e ∈ r.edges, e.2.id = id

theorem blocksEdge_tables (r : Records) (edge : Edge) (id : Ident) :
    blocksEdge edge r.tables id = true ↔ BlocksEdge r edge id := by
  rw [blocksEdge, knowsPair_tables, hasEdge_tables]
  simp [BlocksEdge, Records.tables]

/-- **What storing an edge does**: its answer, the session behind it, and the edge of the caller.
    The clock is read in any case. -/
inductive EdgeOutcome (r : Records) (s : Session Tables) (edge : Edge) :
    Except StoreError Edge → Session Tables → Edge → Prop where
  /-- The edge between its pages is refreshed; the identifier that was drawn is lost. -/
  | refreshed {k n : Nat} {old : Edge}
    (first : IsLeast (s.supply.usable (BlocksEdge r edge) maxAttempts) k)
    (held : (n, old) ∈ r.edges) (src : old.src = edge.src) (dst : old.dst = edge.dst) :
    EdgeOutcome r s edge (.ok { old with updatedAt := max old.updatedAt s.supply.now })
      ⟨(r.refreshEdge { old with updatedAt := max old.updatedAt s.supply.now }).tables,
        s.supply.afterRead.afterDraws (k + 1)⟩
      { old with updatedAt := max old.updatedAt s.supply.now }
  /-- One of its pages is not held; the identifier that was drawn is lost. -/
  | unknown {k : Nat} (first : IsLeast (s.supply.usable (BlocksEdge r edge) maxAttempts) k)
    (new : ∀ e ∈ r.edges, e.2.src = edge.src → e.2.dst ≠ edge.dst)
    (ends : ¬(edge.src ∈ r.links.map (·.id) ∧ edge.dst ∈ r.links.map (·.id))) :
    EdgeOutcome r s edge (.error (.of .upsertEdge .unknownEndpoints))
      { s with supply := s.supply.afterRead.afterDraws (k + 1) } edge
  /-- An edge between pages that are not joined comes in. -/
  | created {k : Nat} (first : IsLeast (s.supply.usable (BlocksEdge r edge) maxAttempts) k)
    (new : ∀ e ∈ r.edges, e.2.src = edge.src → e.2.dst ≠ edge.dst)
    (src : edge.src ∈ r.links.map (·.id)) (dst : edge.dst ∈ r.links.map (·.id)) :
    EdgeOutcome r s edge (.ok { edge with id := s.supply.draw k, updatedAt := s.supply.now })
      ⟨(r.addEdge { edge with id := s.supply.draw k, updatedAt := s.supply.now }).tables,
        s.supply.afterRead.afterDraws (k + 1)⟩
      { edge with id := s.supply.draw k, updatedAt := s.supply.now }
  /-- No draw can be used, whatever the edge. -/
  | exhausted (unusable : s.supply.usable (BlocksEdge r edge) maxAttempts = ∅) :
    EdgeOutcome r s edge (.error (.of .upsertEdge (.identsExhausted maxAttempts)))
      { s with supply := s.supply.afterRead.afterDraws maxAttempts } edge

theorem edgeOutcome_upsertEdge (hv : r.Valid) (hs : s.store = r.tables) (edge : Edge) :
    EdgeOutcome r s edge (Action.answer (LinkStore.upsertEdge edge) s)
      (Action.after (LinkStore.upsertEdge edge) s) (LinkStore.storeEdge.recordAfter edge s) := by
  have blocks : ∀ id,
      (edgeWriter s.supply.now).blocks edge s.store id = true ↔ BlocksEdge r edge id := by
    intro id
    rw [hs]
    exact blocksEdge_tables r edge id
  rcases store_cases (edgeWriter s.supply.now) edge { s with supply := s.supply.afterRead } with
    ⟨k, first, drawn⟩ | ⟨unusable, failed⟩
  · rw [Supply.usable_congr _ blocks] at first
    have drawn := (storeEdge_eq edge s).trans drawn
    by_cases known : ∃ e ∈ r.edges, e.2.src = edge.src ∧ e.2.dst = edge.dst
    · obtain ⟨⟨n, old⟩, hold, hsrc, hdst⟩ := known
      let stored : Edge := { old with updatedAt := max old.updatedAt s.supply.now }
      have written : s.store.writeEdge (s.supply.afterRead.draw k) s.supply.now edge = .ok
          ((r.refreshEdge stored).tables, .ofString old.id.text, .int stored.updatedAt) := by
        rw [hs]
        exact writeEdge_of_known hv hold hsrc hdst _ _
      have taken_over : { edge with id := old.id, updatedAt := stored.updatedAt } = stored :=
        Edge.ext rfl hsrc.symm hdst.symm rfl
      have run : LinkStore.storeEdge ⟨s, edge⟩ = .ok ()
          ⟨⟨(r.refreshEdge stored).tables, s.supply.afterRead.afterDraws (k + 1)⟩, stored⟩ := by
        rw [drawn, put_of_canonical written]
        exact congrArg (fun record => EStateM.Result.ok () (Lent.mk _ record)) taken_over
      exact Writing.ended_of_ok run (.refreshed first hold hsrc hdst)
    · have new : ∀ e ∈ r.edges, e.2.src = edge.src → e.2.dst ≠ edge.dst := fun e he hsrc hdst =>
        known ⟨e, he, hsrc, hdst⟩
      have written := writeEdge_of_new new (s.supply.afterRead.draw k) s.supply.now
      rw [← hs] at written
      by_cases ends : edge.src ∈ r.links.map (·.id) ∧ edge.dst ∈ r.links.map (·.id)
      · rw [if_pos ends] at written
        let stored : Edge := { edge with id := s.supply.draw k, updatedAt := s.supply.now }
        have run : LinkStore.storeEdge ⟨s, edge⟩ = .ok ()
            ⟨⟨(r.addEdge stored).tables, s.supply.afterRead.afterDraws (k + 1)⟩, stored⟩ :=
          drawn.trans (put_of_canonical written)
        exact Writing.ended_of_ok run (.created first new ends.1 ends.2)
      · rw [if_neg ends] at written
        have run : LinkStore.storeEdge ⟨s, edge⟩ = .error (.of .upsertEdge .unknownEndpoints)
            ⟨{ s with supply := s.supply.afterRead.afterDraws (k + 1) }, edge⟩ :=
          drawn.trans (put_of_refused written)
        exact Writing.ended_of_error run (.unknown first new ends)
  · rw [Supply.usable_congr _ blocks] at unusable
    have run : LinkStore.storeEdge ⟨s, edge⟩ =
        .error (.of .upsertEdge (.identsExhausted maxAttempts))
          ⟨{ s with supply := s.supply.afterRead.afterDraws maxAttempts }, edge⟩ :=
      (storeEdge_eq edge s).trans failed
    exact Writing.ended_of_error run (.exhausted unusable)

/-- An edge that is not stored changes nothing but the supply. -/
theorem EdgeOutcome.failed {edge : Edge} {answer : Except StoreError Edge} {s' : Session Tables}
    {record : Edge} (h : EdgeOutcome r s edge answer s' record) {e : StoreError}
    (he : answer = .error e) :
    s'.store = s.store ∧ record = edge ∧ (e = .of .upsertEdge .unknownEndpoints ∨
      e = .of .upsertEdge (.identsExhausted maxAttempts)) := by
  cases h with
  | refreshed first held src dst => cases he
  | unknown first new ends =>
    cases he
    exact ⟨rfl, rfl, .inl rfl⟩
  | created first new src dst => cases he
  | exhausted unusable =>
    cases he
    exact ⟨rfl, rfl, .inr rfl⟩

/-- The clock is read once. -/
theorem EdgeOutcome.reads {edge : Edge} {answer : Except StoreError Edge} {s' : Session Tables}
    {record : Edge} (h : EdgeOutcome r s edge answer s' record) :
    s'.supply.reads = s.supply.reads + 1 := by
  cases h with
  | refreshed first held src dst => rfl
  | unknown first new ends => rfl
  | created first new src dst => rfl
  | exhausted unusable => rfl

end Tables

end CrawlGraph
