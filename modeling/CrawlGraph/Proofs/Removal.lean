import CrawlGraph.Proofs.Backends
import CrawlGraph.Proofs.Contract.Stamps

/-!
# Removing stale edges

After a crawl of a page, the hyperlinks that it did not confirm again are removed. In memory that
changes an index of edges and an adjacency list, which may go as a whole; in tables it is one
statement. What is left is the same.

1. `Edge.Stale`, which edges are removed, and what is left of a content.
2. `Memory.SameEntries` and `Backend.Alike`: stores that hold the same, entry by entry.
3. Runs of removals: what is left depends only on which edges they find stale (`alike_of_removing`).
4. What becomes of an edge that is stored again: `Created` and `Refreshed`.
5. `Removal`, and `removal_of_reached`.
-/

namespace CrawlGraph

open LawfulStore (content Valid step sound valid_after)

/-! ## 1. Stale edges -/

/-- Whether an edge leaves the page and was last confirmed before the time. -/
def Edge.Stale (src : Ident) (before : Stamp) (e : Edge) : Prop :=
  e.src = src ∧ e.updatedAt < before

instance (src : Ident) (before : Stamp) : DecidablePred (Edge.Stale src before) := fun e =>
  inferInstanceAs (Decidable (e.src = src ∧ e.updatedAt < before))

/-- The edges that are stale at the later of two times are those that are stale at one of them. -/
theorem Edge.stale_max {src : Ident} {before later : Stamp} {e : Edge} :
    Edge.Stale src (max before later) e ↔ Edge.Stale src before e ∨ Edge.Stale src later e := by
  rw [Edge.Stale, Stamp.lt_max_iff, and_or_left]
  rfl

namespace Content

variable {c : Content} {src page : Ident} {before : Stamp}

/-- **Removal leaves the edges that are not stale**, in their order. -/
theorem edgesFrom_withoutStale_eq_filter (sound : c.Sound) :
    (c.withoutStale src before).edgesFrom page =
      (c.edgesFrom page).filter fun e => ¬Edge.Stale src before e := by
  rw [edgesFrom_withoutStale]
  split
  · rename_i h
    subst h
    refine List.filter_congr fun e he => decide_eq_decide.mpr ?_
    rw [Edge.Stale, and_iff_right (sound.edge_src page e he), Int64.not_lt]
  · rename_i h
    refine (List.filter_eq_self.mpr fun e he => decide_eq_true ?_).symm
    intro stale
    exact h ((sound.edge_src page e he).symm.trans stale.1)

end Content

section

variable {σ : Type} [LinkStore σ]

/-- Removal takes nothing from the supply. -/
theorem Session.supply_after_removeStaleEdges (s : Session σ) (src : Ident) (before : Stamp) :
    (s.after (.removeStaleEdges src before)).supply = s.supply := by
  refine (congrArg Session.supply (Action.after_map _ _ s)).trans ?_
  unfold Action.after Action.change
  dsimp only
  cases LinkStore.removeStaleEdges s.store src before <;> rfl

variable [LawfulStore σ] {s : Session σ} {src page : Ident} {before : Stamp}

theorem links_of_removed (hv : Valid s.store) :
    (content (s.after (.removeStaleEdges src before)).store).links = (content s.store).links := by
  obtain ⟨-, hstep⟩ := step (.removeStaleEdges src before) hv
  rw [hstep]
  rfl

theorem hasLink_of_removed (hv : Valid s.store) {id : Ident} :
    (content (s.after (.removeStaleEdges src before)).store).HasLink id ↔
      (content s.store).HasLink id := by
  unfold Content.HasLink
  rw [links_of_removed hv]

theorem edgesFrom_of_removed (hv : Valid s.store) :
    (content (s.after (.removeStaleEdges src before)).store).edgesFrom page =
      ((content s.store).edgesFrom page).filter fun e => ¬Edge.Stale src before e := by
  obtain ⟨-, hstep⟩ := step (.removeStaleEdges src before) hv
  rw [hstep]
  exact Content.edgesFrom_withoutStale_eq_filter (sound hv)

end

/-! ## 2. Stores that hold the same -/

/-- **The four indices have the same entries.** -/
structure Memory.SameEntries (m m' : Memory) : Prop where
  links : ∀ id : Ident, m.links[id]? = m'.links[id]?
  idents : ∀ url : String, m.identOfUrl[url]? = m'.identOfUrl[url]?
  edges : ∀ id : Ident, m.edges[id]? = m'.edges[id]?
  outgoing : ∀ src : Ident, m.outgoing[src]? = m'.outgoing[src]?

namespace Memory

variable {m m' : Memory}

namespace Valid

theorem link_entry_iff (hv : m.Valid) {id : Ident} {link : Link} :
    m.links[id]? = some link ↔ link ∈ m.content.links ∧ link.id = id := by
  constructor
  · intro h
    exact ⟨⟨id, h⟩, (hv.link_key _ _ h).2⟩
  · rintro ⟨⟨id', h⟩, rfl⟩
    exact hv.link_self h

theorem edge_entry_iff (hv : m.Valid) {id : Ident} {edge : Edge} :
    m.edges[id]? = some edge ↔ edge ∈ m.content.edgesFrom edge.src ∧ edge.id = id := by
  rw [mem_content_edges hv, and_iff_left rfl]
  constructor
  · intro h
    have hid := (hv.edge_key _ _ h).2
    exact ⟨hid.symm ▸ h, hid⟩
  · rintro ⟨h, rfl⟩
    exact h

/-- An adjacency list names the edges that leave its page. -/
theorem map_id_edgesFrom (hv : m.Valid) (src : Ident) :
    (m.content.edgesFrom src).map (·.id) = m.edgesFrom src := by
  rw [content, List.map_filterMap]
  refine (List.filterMap_congr fun id hid => ?_).trans List.filterMap_some
  obtain ⟨edge, he, -⟩ := hv.listed src id hid
  rw [he, Option.map_some, (hv.edge_key _ _ he).2]

/-- A page that no edge leaves has no adjacency list. -/
theorem outgoing_entry (hv : m.Valid) (src : Ident) :
    m.outgoing[src]? = if m.edgesFrom src = [] then none else some (m.edgesFrom src) := by
  cases hout : m.outgoing[src]? with
  | none => rw [edgesFrom, hout, Option.getD_none, if_pos rfl]
  | some ids =>
    have hne : ids ≠ [] := by
      rintro rfl
      exact hv.ne_nil src hout
    rw [edgesFrom_of_outgoing hout, if_neg hne]

/-- **The content settles every entry** of a store that is valid. -/
theorem sameEntries (hv : m.Valid) (hv' : m'.Valid) (h : m.content = m'.content) :
    m.SameEntries m' := by
  have links : ∀ id : Ident, m.links[id]? = m'.links[id]? := fun id => Option.ext fun link => by
    rw [hv.link_entry_iff, hv'.link_entry_iff, h]
  refine ⟨links, fun url => Option.ext fun id => ?_, fun id => Option.ext fun edge => ?_,
    fun src => ?_⟩
  · rw [hv.url_iff, hv'.url_iff]
    simp only [links]
  · rw [hv.edge_entry_iff, hv'.edge_entry_iff, h]
  · rw [hv.outgoing_entry, hv'.outgoing_entry, ← hv.map_id_edgesFrom, ← hv'.map_id_edgesFrom, h]

end Valid

end Memory

/-- **Stores of a kind that hold the same**: the indices have the same entries, or the tables the
    same rows. -/
def Backend.Alike : {b : Backend} → b.Store → b.Store → Prop
  | .memory, m, m' => Memory.SameEntries m m'
  | .tables, t, t' => t = t'

/-- Sessions with stores that hold the same, and with the same supply. -/
structure Session.Alike {b : Backend} (s t : Session b.Store) : Prop where
  content : LawfulStore.content s.store = LawfulStore.content t.store
  store : Backend.Alike s.store t.store
  supply : s.supply = t.supply

/-! ## 3. Runs of removals -/

/-- Whether one of the removals, each from a page at a time, finds the edge stale. -/
def StaleFor (removals : List (Ident × Stamp)) (e : Edge) : Prop :=
  ∃ p ∈ removals, Edge.Stale p.1 p.2 e

instance (removals : List (Ident × Stamp)) : DecidablePred (StaleFor removals) := fun e =>
  inferInstanceAs (Decidable (∃ p ∈ removals, Edge.Stale p.1 p.2 e))

@[simp] theorem staleFor_cons {p : Ident × Stamp} {removals : List (Ident × Stamp)} {e : Edge} :
    StaleFor (p :: removals) e ↔ Edge.Stale p.1 p.2 e ∨ StaleFor removals e := by
  simp only [StaleFor, List.mem_cons, exists_eq_or_imp]

@[simp] theorem not_staleFor_nil {e : Edge} : ¬StaleFor [] e := by
  rintro ⟨p, hp, -⟩
  cases hp

/-- The session after some removals. -/
def Session.removing {σ : Type} [LinkStore σ] (s : Session σ) (removals : List (Ident × Stamp)) :
    Session σ :=
  removals.foldl (fun s p => s.after (.removeStaleEdges p.1 p.2)) s

section

variable {σ : Type} [LinkStore σ] [LawfulStore σ] {s : Session σ}

theorem valid_of_removing (hv : Valid s.store) (removals : List (Ident × Stamp)) :
    Valid (s.removing removals).store := by
  induction removals generalizing s with
  | nil => exact hv
  | cons p removals ih => exact ih (valid_after _ hv)

omit [LawfulStore σ] in
theorem supply_of_removing (removals : List (Ident × Stamp)) :
    (s.removing removals).supply = s.supply := by
  induction removals generalizing s with
  | nil => rfl
  | cons p removals ih => exact ih.trans (s.supply_after_removeStaleEdges p.1 p.2)

theorem links_of_removing (hv : Valid s.store) (removals : List (Ident × Stamp)) :
    (content (s.removing removals).store).links = (content s.store).links := by
  induction removals generalizing s with
  | nil => rfl
  | cons p removals ih => exact (ih (valid_after _ hv)).trans (links_of_removed hv)

/-- **A run of removals leaves the edges that none of them finds stale.** -/
theorem edgesFrom_of_removing (hv : Valid s.store) (removals : List (Ident × Stamp))
    (page : Ident) : (content (s.removing removals).store).edgesFrom page =
      ((content s.store).edgesFrom page).filter fun e => ¬StaleFor removals e := by
  induction removals generalizing s with
  | nil => exact (List.filter_eq_self.mpr fun e _ => decide_eq_true not_staleFor_nil).symm
  | cons p removals ih =>
    refine (ih (valid_after _ hv)).trans ?_
    rw [edgesFrom_of_removed hv, List.filter_filter]
    refine List.filter_congr fun e _ => ?_
    rw [← Bool.decide_and, decide_eq_decide, staleFor_cons, not_or, and_comm]

end

/-- The rows of a run of removals are those of the edges that none of them finds stale. -/
theorem Tables.store_of_removing {r : Records} {s : Session Tables} (hs : s.store = r.tables)
    (removals : List (Ident × Stamp)) : (s.removing removals).store =
      (Records.mk r.links (r.edges.filter fun e => ¬StaleFor removals e.2)).tables := by
  induction removals generalizing s r with
  | nil =>
    have all : r.edges.filter (fun e => ¬StaleFor [] e.2) = r.edges :=
      List.filter_eq_self.mpr fun e _ => decide_eq_true not_staleFor_nil
    rw [all]
    exact hs
  | cons p removals ih =>
    have run : LinkStore.removeStaleEdges s.store p.1 p.2 =
        .ok (r.withoutStale p.1 p.2).tables := by
      rw [hs]
      exact removeStaleEdges_tables r p.1 p.2
    have first : (s.after (.removeStaleEdges p.1 p.2)).store = (r.withoutStale p.1 p.2).tables := by
      rw [Session.after_removeStaleEdges run]
    refine (ih first).trans (congrArg (fun edges => (Records.mk r.links edges).tables) ?_)
    rw [Records.withoutStale, List.filter_filter]
    refine List.filter_congr fun e _ => ?_
    rw [← decide_not, ← Bool.decide_and, decide_eq_decide, staleFor_cons, not_or, and_comm]
    rfl

/-- **Runs of removals that find the same edges stale lead to the same.** -/
theorem alike_of_removing {b : Backend} {s : Session b.Store} (hv : Valid s.store)
    (removals removals' : List (Ident × Stamp))
    (h : ∀ e, StaleFor removals e ↔ StaleFor removals' e) :
    Session.Alike (s.removing removals) (s.removing removals') := by
  have same : content (s.removing removals).store = content (s.removing removals').store := by
    refine Content.ext ?_ (funext fun page => ?_)
    · rw [links_of_removing hv, links_of_removing hv]
    · rw [edgesFrom_of_removing hv, edgesFrom_of_removing hv]
      simp only [h]
  refine ⟨same, ?_, ?_⟩
  · -- the content settles the indices, but not the numbers of rows
    cases b with
    | memory =>
      exact Memory.Valid.sameEntries (valid_of_removing hv _) (valid_of_removing hv _) same
    | tables =>
      obtain ⟨r, -, hs⟩ := hv
      change Session.store _ = Session.store _
      rw [Tables.store_of_removing hs, Tables.store_of_removing hs]
      simp only [h]
  · rw [supply_of_removing, supply_of_removing]

/-! ## 4. Storing an edge again -/

/-- Whether an edge with the identifier is held. -/
def Content.HasEdge (c : Content) (id : Ident) : Prop := ∃ page, ∃ e ∈ c.edgesFrom page, e.id = id

theorem Memory.hasEdge_iff {m : Memory} (hv : m.Valid) {id : Ident} :
    m.content.HasEdge id ↔ m.edges.contains id = true := by
  rw [Std.TreeMap.contains_eq_isSome_getElem?, Option.isSome_iff_exists]
  constructor
  · rintro ⟨page, e, he, rfl⟩
    exact ⟨e, ((mem_content_edges hv).mp he).1⟩
  · rintro ⟨e, he⟩
    obtain ⟨held, hid⟩ := hv.edge_entry_iff.mp he
    exact ⟨e.src, e, held, hid⟩

theorem Records.hasEdge_iff {r : Records} {id : Ident} :
    r.content.HasEdge id ↔ ∃ e ∈ r.edges, e.2.id = id := by
  constructor
  · rintro ⟨page, e, he, rfl⟩
    obtain ⟨n, hn, -⟩ := mem_edgesFrom.mp he
    exact ⟨(n, e), hn, rfl⟩
  · rintro ⟨⟨n, e⟩, he, rfl⟩
    exact ⟨e.src, e, mem_edgesFrom.mpr ⟨n, he, rfl⟩, rfl⟩

/-- **The edge is a new one**, the last that leaves its page, and has the first identifier drawn
    that can be used. Without such a draw nothing is stored. -/
inductive Created {σ : Type} [LinkStore σ] [LawfulStore σ] (s : Session σ) (edge : Edge) :
    Except StoreError Reply → Content → Prop where
  | created {k : Nat} (first : IsLeast (s.supply.usable (content s.store).HasEdge maxAttempts) k) :
    Created s edge (.ok (.edge { edge with id := s.supply.draw k, updatedAt := s.supply.now }))
      ((content s.store).addEdge { edge with id := s.supply.draw k, updatedAt := s.supply.now })
  | exhausted (unusable : s.supply.usable (content s.store).HasEdge maxAttempts = ∅) :
    Created s edge (.error (.of .upsertEdge (.identsExhausted maxAttempts))) (content s.store)

/-- **The edge is the old one**, in its old place and under its old identifier. Tables draw an
    identifier all the same, and store nothing if they draw nil only. -/
inductive Refreshed {b : Backend} (s : Session b.Store) (old : Edge) :
    Except StoreError Reply → Content → Prop where
  | refreshed :
    Refreshed s old (.ok (.edge { old with updatedAt := max old.updatedAt s.supply.now }))
      ((content s.store).refreshEdge { old with updatedAt := max old.updatedAt s.supply.now })
  | exhausted (tables : b = .tables) (nil : ∀ k < maxAttempts, s.supply.draw k = .nil) :
    Refreshed s old (.error (.of .upsertEdge (.identsExhausted maxAttempts))) (content s.store)

section

variable {σ : Type} [LinkStore σ] [LawfulStore σ] {s : Session σ} {edge stored : Edge}

theorem content_of_created (hv : Valid s.store)
    (new : ∀ e ∈ (content s.store).edgesFrom edge.src, e.dst ≠ edge.dst)
    (ok : s.answer (.upsertEdge edge) = .ok (.edge stored)) :
    content (s.after (.upsertEdge edge)).store = (content s.store).addEdge stored := by
  have outcome := LawfulStore.edgeStored_of_answer hv ok
  generalize content (s.after (.upsertEdge edge)).store = c at outcome ⊢
  cases outcome with
  | refreshed held dst => exact absurd dst (new _ held)
  | created src dst new ne_nil unused => rfl

theorem content_of_refreshed (hv : Valid s.store) {old : Edge}
    (held : old ∈ (content s.store).edgesFrom edge.src) (dst : old.dst = edge.dst)
    (ok : s.answer (.upsertEdge edge) = .ok (.edge stored)) :
    content (s.after (.upsertEdge edge)).store = (content s.store).refreshEdge stored := by
  have outcome := LawfulStore.edgeStored_of_answer hv ok
  generalize content (s.after (.upsertEdge edge)).store = c at outcome ⊢
  cases outcome with
  | refreshed held dst => rfl
  | created src dst' new ne_nil unused => exact absurd dst (new _ held)

theorem content_of_failed (hv : Valid s.store) {e : StoreError}
    (failed : s.answer (.upsertEdge edge) = .error e) :
    content (s.after (.upsertEdge edge)).store = content s.store := by
  have outcome := step (.upsertEdge edge) hv
  generalize content (s.after (.upsertEdge edge)).store = c at outcome ⊢
  obtain ⟨a, outcome, ha⟩ := outcome
  rw [failed] at ha
  cases outcome with
  | refreshed held dst => cases ha
  | created src dst new ne_nil unused => cases ha
  | unknown ends => rfl
  | exhausted => rfl

end

theorem Tables.content_of_records {r : Records} {s : Session Tables} (hv : r.Valid)
    (hs : s.store = r.tables) : LawfulStore.content s.store = r.content :=
  (congrArg Tables.content hs).trans (Records.content_tables hv)

/-- The answer gives the edge the first identifier drawn that is neither nil nor taken, or says that
    none was found. -/
def AnswersNew (taken : Ident → Prop) (supply : Supply) (edge : Edge)
    (answer : Except StoreError Reply) : Prop :=
  (∃ k, IsLeast (supply.usable taken maxAttempts) k ∧
    answer = .ok (.edge { edge with id := supply.draw k, updatedAt := supply.now })) ∨
  (supply.usable taken maxAttempts = ∅ ∧
    answer = .error (.of .upsertEdge (.identsExhausted maxAttempts)))

/-- The first edge between two pages comes in under a new identifier. -/
theorem Memory.EdgeOutcome.answersNew {s s' : Session Memory} (hv : s.store.Valid) {edge : Edge}
    {answer : Except StoreError Edge} {record : Edge}
    (h : EdgeOutcome s edge answer s' record)
    (src : s.store.content.HasLink edge.src) (dst : s.store.content.HasLink edge.dst)
    (new : ∀ e ∈ s.store.content.edgesFrom edge.src, e.dst ≠ edge.dst) :
    AnswersNew s.store.content.HasEdge s.supply edge (answer.map .edge) := by
  rw [AnswersNew, Supply.usable_congr _ fun _ => hasEdge_iff hv]
  cases h with
  | unknown ends => exact absurd ⟨(hasLink_iff hv).mp src, (hasLink_iff hv).mp dst⟩ ends
  | refreshed held src dst => exact absurd dst (new _ ((mem_content_edges hv).mpr ⟨held, src⟩))
  | created src dst new first => exact .inl ⟨_, first, rfl⟩
  | exhausted src dst new unusable => exact .inr ⟨unusable, rfl⟩

/-- The first edge between two pages comes in under a new identifier. -/
theorem Tables.EdgeOutcome.answersNew {r : Records} {s s' : Session Tables} {edge : Edge}
    {answer : Except StoreError Edge} {record : Edge}
    (h : EdgeOutcome r s edge answer s' record)
    (src : r.content.HasLink edge.src) (dst : r.content.HasLink edge.dst)
    (new : ∀ e ∈ r.content.edgesFrom edge.src, e.dst ≠ edge.dst) :
    AnswersNew r.content.HasEdge s.supply edge (answer.map .edge) := by
  have fresh : ∀ e ∈ r.edges, e.2.src = edge.src → e.2.dst ≠ edge.dst := fun e he hsrc =>
    new _ (Records.mem_edgesFrom.mpr ⟨e.1, he, hsrc⟩)
  have blocks : ∀ id, r.content.HasEdge id ↔ BlocksEdge r edge id := fun id =>
    Records.hasEdge_iff.trans (and_iff_right fresh).symm
  rw [AnswersNew, Supply.usable_congr _ blocks]
  cases h with
  | refreshed first held src dst => exact absurd dst (fresh _ held src)
  | unknown first new ends =>
    exact absurd ⟨Records.hasLink_iff.mp src, Records.hasLink_iff.mp dst⟩ ends
  | created first new src dst => exact .inl ⟨_, first, rfl⟩
  | exhausted unusable => exact .inr ⟨unusable, rfl⟩

/-- In memory, the edge between two pages that are joined already is refreshed in any case. -/
theorem Memory.EdgeOutcome.answer_of_joined {s s' : Session Memory} (hv : s.store.Valid)
    {edge old : Edge} {answer : Except StoreError Edge} {record : Edge}
    (h : EdgeOutcome s edge answer s' record)
    (held : old ∈ s.store.content.edgesFrom edge.src) (dst : old.dst = edge.dst) :
    answer = .ok { old with updatedAt := max old.updatedAt s.supply.now } := by
  obtain ⟨entry, src⟩ := (mem_content_edges hv).mp held
  cases h with
  | unknown ends => exact absurd (src ▸ dst ▸ hv.edge_ends _ _ entry) ends
  | refreshed held' src' dst' =>
    have held' := (mem_content_edges hv).mpr ⟨held', src'⟩
    rw [(sound_content hv).eq_of_dst held held' (dst.trans dst'.symm)]
  | created src' dst' new first => exact absurd dst (new _ _ entry src)
  | exhausted src' dst' new unusable => exact absurd dst (new _ _ entry src)

/-- In tables, the edge between two pages that are joined already is refreshed if an identifier can
    be drawn at all. -/
theorem Tables.EdgeOutcome.answer_of_joined {r : Records} {s s' : Session Tables} (hv : r.Valid)
    {edge old : Edge} {answer : Except StoreError Edge} {record : Edge}
    (h : EdgeOutcome r s edge answer s' record)
    (held : old ∈ r.content.edgesFrom edge.src) (dst : old.dst = edge.dst) :
    answer = .ok { old with updatedAt := max old.updatedAt s.supply.now } ∨
      ((∀ k < maxAttempts, s.supply.draw k = .nil) ∧
        answer = .error (.of .upsertEdge (.identsExhausted maxAttempts))) := by
  obtain ⟨n, row, src⟩ := Records.mem_edgesFrom.mp held
  cases h with
  | refreshed first held' src' dst' =>
    cases hv.eq_of_pair row held' (src.trans src'.symm) (dst.trans dst'.symm)
    exact .inl rfl
  | unknown first new ends => exact absurd dst (new _ row src)
  | created first new src' dst' => exact absurd dst (new _ row src)
  | exhausted unusable =>
    refine .inr ⟨fun k hk => by_contra fun ne_nil => ?_, rfl⟩
    have usable : k ∈ s.supply.usable (BlocksEdge r edge) maxAttempts :=
      ⟨hk, ne_nil, fun blocked => blocked.1 _ row src dst⟩
    rw [unusable] at usable
    exact usable

variable {b : Backend} {s : Session b.Store} {edge : Edge}

theorem created_of_new (hv : Valid s.store) (src : (content s.store).HasLink edge.src)
    (dst : (content s.store).HasLink edge.dst)
    (new : ∀ e ∈ (content s.store).edgesFrom edge.src, e.dst ≠ edge.dst) :
    Created s edge (s.answer (.upsertEdge edge))
      (content (s.after (.upsertEdge edge)).store) := by
  have answer : AnswersNew (content s.store).HasEdge s.supply edge
      (s.answer (.upsertEdge edge)) := by
    rw [Session.answer_upsertEdge]
    cases b with
    | memory => exact (Memory.edgeOutcome_upsertEdge hv edge).answersNew hv src dst new
    | tables =>
      obtain ⟨r, hr, hs⟩ := hv
      rw [Tables.content_of_records hr hs] at src dst new ⊢
      exact (Tables.edgeOutcome_upsertEdge hr hs edge).answersNew src dst new
  rcases answer with ⟨k, first, ok⟩ | ⟨unusable, failed⟩
  · rw [content_of_created hv new ok, ok]
    exact .created first
  · rw [content_of_failed hv failed, failed]
    exact .exhausted unusable

theorem refreshed_of_joined (hv : Valid s.store) {old : Edge}
    (held : old ∈ (content s.store).edgesFrom edge.src) (dst : old.dst = edge.dst) :
    Refreshed s old (s.answer (.upsertEdge edge))
      (content (s.after (.upsertEdge edge)).store) := by
  have answer : s.answer (.upsertEdge edge) =
        .ok (.edge { old with updatedAt := max old.updatedAt s.supply.now }) ∨
      (b = .tables ∧ (∀ k < maxAttempts, s.supply.draw k = .nil) ∧
        s.answer (.upsertEdge edge) =
          .error (.of .upsertEdge (.identsExhausted maxAttempts))) := by
    rw [Session.answer_upsertEdge]
    cases b with
    | memory =>
      have outcome := Memory.edgeOutcome_upsertEdge hv edge
      exact .inl (congrArg (Except.map Reply.edge) (outcome.answer_of_joined hv held dst))
    | tables =>
      obtain ⟨r, hr, hs⟩ := hv
      rw [Tables.content_of_records hr hs] at held
      rcases (Tables.edgeOutcome_upsertEdge hr hs edge).answer_of_joined hr held dst with
        ok | ⟨nil, failed⟩
      · exact .inl (congrArg (Except.map Reply.edge) ok)
      · exact .inr ⟨rfl, nil, congrArg (Except.map Reply.edge) failed⟩
  rcases answer with ok | ⟨tables, nil, failed⟩
  · rw [content_of_refreshed hv held dst ok, ok]
    exact .refreshed
  · rw [content_of_failed hv failed, failed]
    exact .exhausted tables nil

variable {src : Ident} {before : Stamp} {old : Edge}

/-- **An edge that was removed comes in as a new one**, whatever clock and identifiers follow. -/
theorem created_of_removed (hv : Valid s.store)
    (held : old ∈ (content s.store).edgesFrom edge.src) (dst : edge.dst = old.dst)
    (stale : Edge.Stale src before old) (next : Supply) :
    let t : Session b.Store := ⟨(s.after (.removeStaleEdges src before)).store, next⟩
    Created t edge (t.answer (.upsertEdge edge)) (content (t.after (.upsertEdge edge)).store) := by
  intro t
  have ends := (sound hv).edge_ends _ old held
  rw [(sound hv).edge_src _ old held, ← dst] at ends
  refine created_of_new (s := t) (valid_after _ hv) ((hasLink_of_removed hv).mpr ends.1)
    ((hasLink_of_removed hv).mpr ends.2) fun e he hd => ?_
  -- only the edge that was removed joined the pages, so none of those that are left does
  change e ∈ (content (s.after (.removeStaleEdges src before)).store).edgesFrom edge.src at he
  rw [edgesFrom_of_removed hv] at he
  obtain ⟨he, kept⟩ := List.mem_filter.mp he
  rw [(sound hv).eq_of_dst he held (hd.trans dst)] at kept
  exact of_decide_eq_true kept stale

/-- **An edge that was kept is still there to be refreshed**, whatever clock and identifiers
    follow. -/
theorem refreshed_of_kept (hv : Valid s.store)
    (held : old ∈ (content s.store).edgesFrom edge.src) (dst : edge.dst = old.dst)
    (kept : ¬Edge.Stale src before old) (next : Supply) :
    let t : Session b.Store := ⟨(s.after (.removeStaleEdges src before)).store, next⟩
    Refreshed t old (t.answer (.upsertEdge edge)) (content (t.after (.upsertEdge edge)).store) := by
  intro t
  refine refreshed_of_joined (s := t) (valid_after _ hv) ?_ dst.symm
  change old ∈ (content (s.after (.removeStaleEdges src before)).store).edgesFrom edge.src
  rw [edgesFrom_of_removed hv]
  exact List.mem_filter.mpr ⟨held, decide_eq_true kept⟩

/-! ## 5. Removal -/

/-- **What removing the stale edges of a page does.** -/
structure Removal {b : Backend} (s : Session b.Store) (src : Ident) (before : Stamp) : Prop where
  answer : s.answer (.removeStaleEdges src before) = .ok .done
  supply : (s.after (.removeStaleEdges src before)).supply = s.supply
  links : (content (s.after (.removeStaleEdges src before)).store).links = (content s.store).links
  /-- The edges that leave any page stay as they are and in their order, but for the stale ones. -/
  edges : ∀ page, (content (s.after (.removeStaleEdges src before)).store).edgesFrom page =
    ((content s.store).edgesFrom page).filter fun e => ¬(e.src = src ∧ e.updatedAt < before)
  twice : ∀ later, Session.Alike
    ((s.after (.removeStaleEdges src before)).after (.removeStaleEdges src later))
    (s.after (.removeStaleEdges src (max before later)))
  again : Session.Alike
    ((s.after (.removeStaleEdges src before)).after (.removeStaleEdges src before))
    (s.after (.removeStaleEdges src before))
  commute : ∀ src' before', Session.Alike
    ((s.after (.removeStaleEdges src before)).after (.removeStaleEdges src' before'))
    ((s.after (.removeStaleEdges src' before')).after (.removeStaleEdges src before))
  /-- Whatever clock and identifiers follow, an edge that was removed comes in as a new one, and any
      other is still there to be refreshed. -/
  stored : ∀ page, ∀ old ∈ (content s.store).edgesFrom page, ∀ edge : Edge, edge.src = old.src →
    edge.dst = old.dst → ∀ next : Supply,
    let t : Session b.Store := ⟨(s.after (.removeStaleEdges src before)).store, next⟩
    if old.src = src ∧ old.updatedAt < before then
      Created t edge (t.answer (.upsertEdge edge)) (content (t.after (.upsertEdge edge)).store)
    else
      Refreshed t old (t.answer (.upsertEdge edge)) (content (t.after (.upsertEdge edge)).store)

theorem removal_of_valid (hv : Valid s.store) (src : Ident) (before : Stamp) :
    Removal s src before := by
  constructor
  case answer => exact (step (.removeStaleEdges src before) hv).1
  case supply => exact s.supply_after_removeStaleEdges src before
  case links => exact links_of_removed hv
  case edges => exact fun page => edgesFrom_of_removed hv
  case twice =>
    intro later
    refine alike_of_removing hv [(src, before), (src, later)] [(src, max before later)] fun e => ?_
    simp [Edge.stale_max]
  case again =>
    refine alike_of_removing hv [(src, before), (src, before)] [(src, before)] fun e => ?_
    simp
  case commute =>
    intro src' before'
    refine alike_of_removing hv [(src, before), (src', before')] [(src', before'), (src, before)]
      fun e => ?_
    simp [or_comm]
  case stored =>
    intro page old held edge hsrc hdst next t
    rw [← (sound hv).edge_src page old held, ← hsrc] at held
    split
    · rename_i stale
      exact created_of_removed hv held hdst stale next
    · rename_i kept
      exact refreshed_of_kept hv held hdst kept next

/-- **Removal of stale edges** from any page, known or not, at any time, in every state that calls
    lead to from an empty store of either kind. -/
theorem removal_of_reached (b : Backend) (supply : Supply) (s : Session b.Store)
    (h : Session.Reached ⟨b.empty, supply⟩ s) (src : Ident) (before : Stamp) :
    Removal s src before :=
  removal_of_valid (LawfulStore.valid_of_reached h) src before

/-- Of two hyperlinks of a page, the first was confirmed before time 1 and is removed. Stored again,
    it is the last one of the page and bears another identifier; the second one is refreshed. -/
theorem removal_of_two_hyperlinks :
    let first : Session Memory := ⟨Memory.empty, .counting⟩
    let page : Ident := .ofNat 1
    let other : Ident := .ofNat 2
    let s := first.afterAll [.upsertLink (.unstored "http://a/" 3),
      .upsertLink (.unstored "http://b/" 0), .upsertEdge (.unstored page other),
      .upsertEdge (.unstored page page)]
    let t := s.after (.removeStaleEdges page 1)
    first.Reached s ∧ Removal (b := .memory) s page 1 ∧
      s.answer (.edges .nil .max 9) =
        .ok (.edges [⟨.ofNat 3, page, other, 0⟩, ⟨.ofNat 4, page, page, 1⟩]) ∧
      t.answer (.edges .nil .max 9) = .ok (.edges [⟨.ofNat 4, page, page, 1⟩]) ∧
      (t.afterAll [.upsertEdge (.unstored page other), .upsertEdge (.unstored page page)]).answer
          (.edges .nil .max 9) =
        .ok (.edges [⟨.ofNat 4, page, page, 3⟩, ⟨.ofNat 5, page, other, 2⟩]) := by
  intro first page other s t
  have reached : first.Reached s := Session.Reached.start.afterAll _
  have before : (s.answer (.edges .nil .max 9)).toOption =
      some (.edges [⟨.ofNat 3, page, other, 0⟩, ⟨.ofNat 4, page, page, 1⟩]) := by
    decide +kernel
  have left : (t.answer (.edges .nil .max 9)).toOption =
      some (.edges [⟨.ofNat 4, page, page, 1⟩]) := by
    decide +kernel
  have stored : ((t.afterAll [.upsertEdge (.unstored page other),
      .upsertEdge (.unstored page page)]).answer (.edges .nil .max 9)).toOption =
      some (.edges [⟨.ofNat 4, page, page, 3⟩, ⟨.ofNat 5, page, other, 2⟩]) := by
    decide +kernel
  exact ⟨reached, removal_of_reached .memory .counting s reached page 1, eq_ok_of_toOption before,
    eq_ok_of_toOption left, eq_ok_of_toOption stored⟩

end CrawlGraph
