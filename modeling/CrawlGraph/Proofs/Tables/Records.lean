import CrawlGraph.Proofs.Contract.Ledger
import CrawlGraph.Proofs.Tables.Reading

/-!
# Tables that hold records

Tables that only the operations wrote hold canonical rows, and are as good as two lists of records:
`Records`. The edges among them come with their row numbers.

1. `Tables.content`, the records that the rows of tables are.
2. `Records`, their tables, and when they are `Valid`.
3. The changes of records, each of which keeps them valid, and what each does to the content.
-/

namespace CrawlGraph

/-! ## 1. Content -/

/-- The records in the tables: the links in any order, and the edges that leave a page in the order
    of their rows. -/
def Tables.content (t : Tables) : Content where
  links := {link | ∃ row ∈ t.links.getD [], row.link? = some link}
  edgesFrom src := (((t.edges.getD []).filter fun row => row.src = .ofString src.text).mergeSort
    fun a b => a.rowid ≤ b.rowid).filterMap EdgeRow.edge?

/-! ## 2. Records -/

/-- Links, and edges with their row numbers. -/
structure Records where
  links : List Link
  edges : List (Nat × Edge)

namespace Records

variable (r : Records)

/-- The tables of the records. -/
def tables : Tables := ⟨some (r.links.map LinkRow.of), some (r.edges.map EdgeRow.of)⟩

/-- What the records say. -/
def content : Content where
  links := {link | link ∈ r.links}
  edgesFrom src := (r.edges.map (·.2)).filter fun e => e.src = src

/-- **When records can stand together in tables.** -/
structure Valid : Prop where
  link_ne_nil : ∀ link ∈ r.links, link.id ≠ .nil
  link_ids : (r.links.map (·.id)).Nodup
  urls : (r.links.map (·.url)).Nodup
  edge_ne_nil : ∀ e ∈ r.edges, e.2.id ≠ .nil
  edge_ids : (r.edges.map (·.2.id)).Nodup
  pairs : (r.edges.map fun e => (e.2.src, e.2.dst)).Nodup
  ends : ∀ e ∈ r.edges, e.2.src ∈ r.links.map (·.id) ∧ e.2.dst ∈ r.links.map (·.id)
  rowids : r.edges.Pairwise fun a b => a.1 < b.1

/-- The records without their row numbers. -/
def ledger : Ledger := ⟨r.links, r.edges.map (·.2)⟩

/-- The content of records is that of their ledger, so that a change of records that is one of
    ledgers changes the content as it does for ledgers. -/
theorem content_ledger : r.ledger.content = r.content := rfl

theorem valid_nil : (Records.mk [] []).Valid := by
  constructor <;> simp

variable {r}

theorem Valid.eq_of_id (hv : r.Valid) {l l' : Link} (h : l ∈ r.links) (h' : l' ∈ r.links)
    (he : l.id = l'.id) : l = l' :=
  List.inj_on_of_nodup_map hv.link_ids h h' he

theorem Valid.eq_of_url (hv : r.Valid) {l l' : Link} (h : l ∈ r.links) (h' : l' ∈ r.links)
    (he : l.url = l'.url) : l = l' :=
  List.inj_on_of_nodup_map hv.urls h h' he

theorem Valid.eq_of_edge_id (hv : r.Valid) {e e' : Nat × Edge} (h : e ∈ r.edges)
    (h' : e' ∈ r.edges) (he : e.2.id = e'.2.id) : e = e' :=
  List.inj_on_of_nodup_map hv.edge_ids h h' he

theorem Valid.eq_of_pair (hv : r.Valid) {e e' : Nat × Edge} (h : e ∈ r.edges) (h' : e' ∈ r.edges)
    (hs : e.2.src = e'.2.src) (hd : e.2.dst = e'.2.dst) : e = e' :=
  List.inj_on_of_nodup_map hv.pairs h h' (Prod.ext hs hd)

/-- Different records have different tables. -/
theorem tables_injective : Function.Injective tables := by
  intro r r' h
  simp only [tables, Tables.mk.injEq, Option.some.injEq] at h
  obtain ⟨hlinks, hedges⟩ := h
  have hlinks := LinkRow.of_injective.list_map hlinks
  have hedges := EdgeRow.of_injective.list_map hedges
  cases r
  cases r'
  exact congrArg₂ Records.mk hlinks hedges

/-- The tables of valid records hold just these. -/
theorem content_tables (hv : r.Valid) : r.tables.content = r.content := by
  refine Content.ext ?_ (funext fun src => ?_)
  · ext link
    simp only [Tables.content, tables, Option.getD_some, List.mem_map, Set.mem_ofPred_eq, content]
    constructor
    · intro h
      obtain ⟨_, ⟨l, hl, rfl⟩, h⟩ := h
      rw [LinkRow.link?_of] at h
      cases h
      exact hl
    · intro h
      exact ⟨_, ⟨link, h, rfl⟩, LinkRow.link?_of link⟩
  · have hp : (fun row : EdgeRow => decide (row.src = .ofString src.text)) ∘ EdgeRow.of =
        fun e : Nat × Edge => decide (e.2.src = src) := by
      funext e
      simp [EdgeRow.of]
    -- rows stand in the order of their numbers already
    have hs : ((r.edges.filter fun e => e.2.src = src).map EdgeRow.of).Pairwise
        fun a b => decide (a.rowid ≤ b.rowid) = true := by
      rw [List.pairwise_map]
      refine (hv.rowids.filter _).imp fun h => ?_
      exact decide_eq_true (Nat.le_of_lt h)
    simp only [Tables.content, tables, Option.getD_some, List.filter_map, hp, content]
    rw [List.mergeSort_of_pairwise hs, List.filterMap_map]
    have he : EdgeRow.edge? ∘ EdgeRow.of = some ∘ Prod.snd := by
      funext e
      rw [Function.comp_apply, EdgeRow.edge?_of, Function.comp_apply]
    rw [he, List.filterMap_eq_map]
    rfl

theorem mem_edgesFrom {src : Ident} {edge : Edge} :
    edge ∈ r.content.edgesFrom src ↔ ∃ n, (n, edge) ∈ r.edges ∧ edge.src = src := by
  simp only [content, List.mem_filter, List.mem_map, decide_eq_true_eq]
  constructor
  · intro h
    obtain ⟨⟨⟨n, e⟩, he, rfl⟩, hs⟩ := h
    exact ⟨n, he, hs⟩
  · intro h
    obtain ⟨n, he, hs⟩ := h
    exact ⟨⟨_, he, rfl⟩, hs⟩

theorem hasLink_iff {id : Ident} : r.content.HasLink id ↔ id ∈ r.links.map (·.id) := by
  rw [List.mem_map]
  rfl

/-- **What valid records say is sound.** -/
theorem sound_content (hv : r.Valid) : r.content.Sound where
  link_ne_nil := hv.link_ne_nil
  link_ident link h other h' he := hv.eq_of_id h h' he
  link_url link h other h' he := hv.eq_of_url h h' he
  edge_ne_nil src edge h := by
    obtain ⟨n, he, -⟩ := mem_edgesFrom.mp h
    exact hv.edge_ne_nil _ he
  edge_src src edge h := by
    obtain ⟨-, -, hs⟩ := mem_edgesFrom.mp h
    exact hs
  edge_ends src edge h := by
    obtain ⟨n, he, -⟩ := mem_edgesFrom.mp h
    rw [hasLink_iff, hasLink_iff]
    exact hv.ends _ he
  edge_ident src edge h src' other h' he := by
    obtain ⟨n, hn, -⟩ := mem_edgesFrom.mp h
    obtain ⟨n', hn', -⟩ := mem_edgesFrom.mp h'
    exact congrArg Prod.snd (hv.eq_of_edge_id hn hn' he)
  edge_pair src := by
    have hp := List.Nodup.of_map _ hv.pairs
    simp only [content, List.filter_map, List.map_map]
    refine List.Nodup.map_on ?_ (hp.filter _)
    intro e he e' he' hd
    obtain ⟨he, hs⟩ := List.mem_filter.mp he
    obtain ⟨he', hs'⟩ := List.mem_filter.mp he'
    simp only [Function.comp_apply, decide_eq_true_eq] at hs hs'
    exact hv.eq_of_pair he he' (hs.trans hs'.symm) hd

/-! ## 3. Changes -/

variable (r)

/-- The records with a link in place of the one with its URL. -/
def refreshLink (link : Link) : Records :=
  { r with links := r.links.map fun l => if l.url = link.url then link else l }

/-- The records with one more link. -/
def addLink (link : Link) : Records := { r with links := r.links ++ [link] }

/-- The records with an edge in place of the one between the same pages. -/
def refreshEdge (edge : Edge) : Records :=
  { r with
    edges := r.edges.map fun e =>
      if e.2.src = edge.src ∧ e.2.dst = edge.dst then (e.1, edge) else e }

/-- The number that the row of the next edge gets. -/
def nextRowid : Nat := Tables.nextRowid (r.edges.map EdgeRow.of)

/-- The records with one more edge. -/
def addEdge (edge : Edge) : Records := { r with edges := r.edges ++ [(r.nextRowid, edge)] }

/-- The records without the edges from a page that were last confirmed before a time. -/
def withoutStale (src : Ident) (before : Stamp) : Records :=
  { r with edges := r.edges.filter fun e => !(e.2.src = src ∧ e.2.updatedAt < before) }

variable {r}

namespace Valid

/-- A refreshed link differs from the earlier one in its time only. -/
theorem map_refreshLink (hv : r.Valid) {old link : Link} (h : old ∈ r.links)
    (hurl : link.url = old.url) {β : Type} (g : Link → β) (hg : g link = g old) :
    (r.refreshLink link).links.map g = r.links.map g :=
  map_replace g fun l hl hu => by rw [hv.eq_of_url hl h (hu.trans hurl), hg]

theorem refreshLink (hv : r.Valid) {old link : Link} (h : old ∈ r.links) (hid : link.id = old.id)
    (hurl : link.url = old.url) : (r.refreshLink link).Valid where
  link_ne_nil l hl := by
    have hmem : l.id ∈ (r.refreshLink link).links.map (·.id) := List.mem_map_of_mem hl
    rw [hv.map_refreshLink h hurl _ hid, List.mem_map] at hmem
    obtain ⟨l', hl', he⟩ := hmem
    exact he ▸ hv.link_ne_nil l' hl'
  link_ids := by
    rw [hv.map_refreshLink h hurl _ hid]
    exact hv.link_ids
  urls := by
    rw [hv.map_refreshLink h hurl _ hurl]
    exact hv.urls
  edge_ne_nil := hv.edge_ne_nil
  edge_ids := hv.edge_ids
  pairs := hv.pairs
  ends := by
    rw [hv.map_refreshLink h hurl _ hid]
    exact hv.ends
  rowids := hv.rowids

theorem addLink (hv : r.Valid) {link : Link} (hnil : link.id ≠ .nil)
    (hid : link.id ∉ r.links.map (·.id)) (hurl : link.url ∉ r.links.map (·.url)) :
    (r.addLink link).Valid where
  link_ne_nil l hl := by
    rcases List.mem_append.mp hl with hl | hl
    · exact hv.link_ne_nil l hl
    · rwa [List.mem_singleton.mp hl]
  link_ids := by
    rw [Records.addLink, List.map_append, List.map_singleton]
    exact hv.link_ids.append (List.nodup_singleton _) (List.disjoint_singleton.mpr hid)
  urls := by
    rw [Records.addLink, List.map_append, List.map_singleton]
    exact hv.urls.append (List.nodup_singleton _) (List.disjoint_singleton.mpr hurl)
  edge_ne_nil := hv.edge_ne_nil
  edge_ids := hv.edge_ids
  pairs := hv.pairs
  ends e he := by
    rw [Records.addLink, List.map_append]
    exact ⟨List.mem_append_left _ (hv.ends e he).1, List.mem_append_left _ (hv.ends e he).2⟩
  rowids := hv.rowids

end Valid

theorem content_refreshLink (link : Link) {old : Link} (h : old ∈ r.links)
    (hurl : link.url = old.url) : (r.refreshLink link).content = r.content.putLink link :=
  Ledger.content_refreshLink (l := r.ledger) link h hurl.symm

theorem content_addLink (link : Link) (hurl : link.url ∉ r.links.map (·.url)) :
    (r.addLink link).content = r.content.putLink link :=
  Ledger.content_addLink (l := r.ledger) link fun _ hl hu => hurl (hu ▸ List.mem_map_of_mem hl)

namespace Valid

/-- A refreshed edge differs from the earlier one in its time only. -/
theorem map_refreshEdge (hv : r.Valid) {n : Nat} {old edge : Edge} (h : (n, old) ∈ r.edges)
    (hsrc : edge.src = old.src) (hdst : edge.dst = old.dst) {β : Type} (g : Nat × Edge → β)
    (hg : g (n, edge) = g (n, old)) : (r.refreshEdge edge).edges.map g = r.edges.map g :=
  map_replace g fun e he hp => by
    rw [hv.eq_of_pair he h (hp.1.trans hsrc) (hp.2.trans hdst), hg]

/-- After an edge was refreshed, every edge stands for an earlier one between the same pages. -/
theorem exists_of_refreshEdge (hv : r.Valid) {n : Nat} {old edge : Edge} (h : (n, old) ∈ r.edges)
    (hid : edge.id = old.id) (hsrc : edge.src = old.src) (hdst : edge.dst = old.dst)
    {e : Nat × Edge} (he : e ∈ (r.refreshEdge edge).edges) :
    ∃ e' ∈ r.edges, (e'.2.id, e'.2.src, e'.2.dst) = (e.2.id, e.2.src, e.2.dst) := by
  have hmem : (e.2.id, e.2.src, e.2.dst) ∈
      (r.refreshEdge edge).edges.map fun e => (e.2.id, e.2.src, e.2.dst) :=
    List.mem_map_of_mem he
  rwa [hv.map_refreshEdge h hsrc hdst (fun e => (e.2.id, e.2.src, e.2.dst))
    (by simp only [hid, hsrc, hdst]), List.mem_map] at hmem

theorem refreshEdge (hv : r.Valid) {n : Nat} {old edge : Edge} (h : (n, old) ∈ r.edges)
    (hid : edge.id = old.id) (hsrc : edge.src = old.src) (hdst : edge.dst = old.dst) :
    (r.refreshEdge edge).Valid where
  link_ne_nil := hv.link_ne_nil
  link_ids := hv.link_ids
  urls := hv.urls
  edge_ne_nil e he := by
    obtain ⟨e', he', heq⟩ := hv.exists_of_refreshEdge h hid hsrc hdst he
    simp only [Prod.mk.injEq] at heq
    exact heq.1 ▸ hv.edge_ne_nil e' he'
  edge_ids := by
    rw [hv.map_refreshEdge h hsrc hdst (·.2.id) hid]
    exact hv.edge_ids
  pairs := by
    rw [hv.map_refreshEdge h hsrc hdst (fun e => (e.2.src, e.2.dst)) (by simp only [hsrc, hdst])]
    exact hv.pairs
  ends e he := by
    obtain ⟨e', he', heq⟩ := hv.exists_of_refreshEdge h hid hsrc hdst he
    simp only [Prod.mk.injEq] at heq
    rw [← heq.2.1, ← heq.2.2]
    exact hv.ends e' he'
  rowids := by
    have hrow := hv.rowids
    rw [← List.pairwise_map (f := Prod.fst), ← hv.map_refreshEdge h hsrc hdst Prod.fst rfl,
      List.pairwise_map] at hrow
    exact hrow

end Valid

theorem ledger_refreshEdge (edge : Edge) :
    (r.refreshEdge edge).ledger = r.ledger.refreshEdge edge := by
  refine Ledger.ext rfl ?_
  simp only [ledger, refreshEdge, Ledger.refreshEdge, List.map_map]
  refine List.map_congr_left fun e _ => ?_
  simp only [Function.comp_apply]
  split <;> rfl

theorem content_refreshEdge (edge : Edge) :
    (r.refreshEdge edge).content = r.content.refreshEdge edge := by
  rw [← content_ledger, ledger_refreshEdge]
  exact Ledger.content_refreshEdge edge

theorem rowid_lt_nextRowid {e : Nat × Edge} (h : e ∈ r.edges) : e.1 < r.nextRowid := by
  have hmax : ∀ (ns : List Nat) (n : Nat), n ≤ ns.foldl max n ∧ ∀ m ∈ ns, m ≤ ns.foldl max n := by
    intro ns
    induction ns with
    | nil => simp
    | cons k ns ih =>
      intro n
      have hk := ih (max n k)
      refine ⟨(Nat.le_max_left n k).trans hk.1, fun m hm => ?_⟩
      rcases List.mem_cons.mp hm with rfl | hm
      · exact (Nat.le_max_right n m).trans hk.1
      · exact hk.2 m hm
  refine Nat.lt_succ_of_le ((hmax _ 0).2 e.1 ?_)
  rw [List.map_map]
  exact List.mem_map_of_mem h

theorem Valid.addEdge (hv : r.Valid) {edge : Edge} (hnil : edge.id ≠ .nil)
    (hid : edge.id ∉ r.edges.map (·.2.id)) (hsrc : edge.src ∈ r.links.map (·.id))
    (hdst : edge.dst ∈ r.links.map (·.id))
    (hpair : ∀ e ∈ r.edges, e.2.src = edge.src → e.2.dst ≠ edge.dst) : (r.addEdge edge).Valid where
  link_ne_nil := hv.link_ne_nil
  link_ids := hv.link_ids
  urls := hv.urls
  edge_ne_nil e he := by
    rcases List.mem_append.mp he with he | he
    · exact hv.edge_ne_nil e he
    · rwa [List.mem_singleton.mp he]
  edge_ids := by
    rw [Records.addEdge, List.map_append, List.map_singleton]
    exact hv.edge_ids.append (List.nodup_singleton _) (List.disjoint_singleton.mpr hid)
  pairs := by
    rw [Records.addEdge, List.map_append, List.map_singleton]
    refine hv.pairs.append (List.nodup_singleton _) (List.disjoint_singleton.mpr ?_)
    rw [List.mem_map]
    intro h
    obtain ⟨e, he, heq⟩ := h
    simp only [Prod.mk.injEq] at heq
    exact hpair e he heq.1 heq.2
  ends e he := by
    rcases List.mem_append.mp he with he | he
    · exact hv.ends e he
    · rw [List.mem_singleton.mp he]
      exact ⟨hsrc, hdst⟩
  rowids := by
    refine List.pairwise_append.mpr ⟨hv.rowids, List.pairwise_singleton _ _, fun e he e' he' => ?_⟩
    rw [List.mem_singleton.mp he']
    exact rowid_lt_nextRowid he

theorem ledger_addEdge (edge : Edge) : (r.addEdge edge).ledger = r.ledger.addEdge edge :=
  Ledger.ext rfl List.map_append

theorem content_addEdge (edge : Edge) : (r.addEdge edge).content = r.content.addEdge edge := by
  rw [← content_ledger, ledger_addEdge]
  exact Ledger.content_addEdge edge

theorem Valid.withoutStale (hv : r.Valid) (src : Ident) (before : Stamp) :
    (r.withoutStale src before).Valid where
  link_ne_nil := hv.link_ne_nil
  link_ids := hv.link_ids
  urls := hv.urls
  edge_ne_nil e he := hv.edge_ne_nil e (List.mem_of_mem_filter he)
  edge_ids := hv.edge_ids.sublist (List.filter_sublist.map _)
  pairs := hv.pairs.sublist (List.filter_sublist.map _)
  ends e he := hv.ends e (List.mem_of_mem_filter he)
  rowids := hv.rowids.filter _

theorem ledger_withoutStale (src : Ident) (before : Stamp) :
    (r.withoutStale src before).ledger = r.ledger.withoutStale src before := by
  refine Ledger.ext rfl ?_
  simp only [ledger, withoutStale, Ledger.withoutStale, List.filter_map]
  rfl

theorem content_withoutStale (src : Ident) (before : Stamp) :
    (r.withoutStale src before).content = r.content.withoutStale src before := by
  rw [← content_ledger, ledger_withoutStale]
  exact Ledger.content_withoutStale src before

end Records

end CrawlGraph
