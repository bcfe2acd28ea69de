import CrawlGraph.Proofs.Tables.Lawful

/-!
# The form in which tables hold records

Ranges of texts, the check of both ends of an edge, and the reading of rows all rely on rows of one
form. Calls write rows of this form only, whatever fails, is refreshed, removed or created again in
between, and so a stored row never makes a call fail.

1. `StoredForm`, the form, and that the tables of valid records have it.
2. Every call does to the records in tables what it does to a ledger, so the rows of the tables
   stand in the order of creation (`exists_records_of_course`).
3. `Faultless`: what can go wrong with rows of the stored form.
4. `stored_form_of_course`.
-/

namespace CrawlGraph.Tables

/-! ## 1. Rows -/

/-- Whether a value is the canonical text of an identifier other than nil. -/
def IsCanonical (value : Stored) : Prop := ∃ id : Ident, id ≠ .nil ∧ value = .ofString id.text

/-- **The stored form of rows** that were written for the records of a ledger: identifiers stand as
    canonical text, an edge leads from a row of the table of links to another, nothing is there
    twice, times are integers, and rows are numbered in the order of creation. -/
structure StoredForm (l : Ledger) (links : List LinkRow) (edges : List EdgeRow) : Prop where
  link_ids : ∀ row ∈ links, IsCanonical row.id
  edge_ids : ∀ row ∈ edges, IsCanonical row.id
  edge_ends : ∀ row ∈ edges, IsCanonical row.src ∧ IsCanonical row.dst
  referenced : ∀ row ∈ edges, row.src ∈ links.map (·.id) ∧ row.dst ∈ links.map (·.id)
  link_ids_once : (links.map (·.id)).Nodup
  urls_once : (links.map (·.url)).Nodup
  edge_ids_once : (edges.map (·.id)).Nodup
  pairs_once : (edges.map fun row => (row.src, row.dst)).Nodup
  link_times : ∀ row ∈ links, ∃ t, row.retrievedAt = .int t
  edge_times : ∀ row ∈ edges, ∃ t, row.updatedAt = .int t
  links_created : links.map LinkRow.link? = l.links.map some
  edges_created : edges.map EdgeRow.edge? = l.edges.map some
  rowids : edges.Pairwise fun a b => a.rowid < b.rowid

variable {r : Records}

/-- How an identifier stands in a row. -/
def identValue (id : Ident) : Stored := .ofString id.text

theorem identValue_injective : Function.Injective identValue :=
  Stored.ofString_injective.comp Ident.text_injective

theorem map_id_linkRows (links : List Link) :
    (links.map LinkRow.of).map (·.id) = (links.map (·.id)).map identValue := by
  rw [List.map_map, List.map_map]
  rfl

theorem isCanonical_of_mem_ids (hv : r.Valid) {id : Ident} (h : id ∈ r.links.map (·.id)) :
    IsCanonical (identValue id) := by
  obtain ⟨link, hl, rfl⟩ := List.mem_map.mp h
  exact ⟨link.id, hv.link_ne_nil link hl, rfl⟩

/-- **The rows of valid records have the stored form.** -/
theorem storedForm_of_valid (hv : r.Valid) :
    StoredForm r.ledger (r.links.map LinkRow.of) (r.edges.map EdgeRow.of) where
  link_ids row hrow := by
    obtain ⟨link, hl, rfl⟩ := List.mem_map.mp hrow
    exact isCanonical_of_mem_ids hv (List.mem_map_of_mem hl)
  edge_ids row hrow := by
    obtain ⟨e, he, rfl⟩ := List.mem_map.mp hrow
    exact ⟨e.2.id, hv.edge_ne_nil e he, rfl⟩
  edge_ends row hrow := by
    obtain ⟨e, he, rfl⟩ := List.mem_map.mp hrow
    obtain ⟨hsrc, hdst⟩ := hv.ends e he
    exact ⟨isCanonical_of_mem_ids hv hsrc, isCanonical_of_mem_ids hv hdst⟩
  referenced row hrow := by
    obtain ⟨e, he, rfl⟩ := List.mem_map.mp hrow
    obtain ⟨hsrc, hdst⟩ := hv.ends e he
    rw [map_id_linkRows]
    exact ⟨List.mem_map_of_mem hsrc, List.mem_map_of_mem hdst⟩
  link_ids_once := by
    rw [map_id_linkRows]
    exact hv.link_ids.map identValue_injective
  urls_once := by
    have hurl : (r.links.map LinkRow.of).map (·.url) = (r.links.map (·.url)).map .ofString := by
      rw [List.map_map, List.map_map]
      rfl
    rw [hurl]
    exact hv.urls.map Stored.ofString_injective
  edge_ids_once := by
    have htext : (r.edges.map EdgeRow.of).map (·.id) = (r.edges.map (·.2.id)).map identValue := by
      rw [List.map_map, List.map_map]
      rfl
    rw [htext]
    exact hv.edge_ids.map identValue_injective
  pairs_once := by
    have htext : (r.edges.map EdgeRow.of).map (fun row => (row.src, row.dst)) =
        (r.edges.map fun e => (e.2.src, e.2.dst)).map (Prod.map identValue identValue) := by
      rw [List.map_map, List.map_map]
      rfl
    rw [htext]
    exact hv.pairs.map (identValue_injective.prodMap identValue_injective)
  link_times row hrow := by
    obtain ⟨link, -, rfl⟩ := List.mem_map.mp hrow
    exact ⟨link.retrievedAt, rfl⟩
  edge_times row hrow := by
    obtain ⟨e, -, rfl⟩ := List.mem_map.mp hrow
    exact ⟨e.2.updatedAt, rfl⟩
  links_created := by
    have hlink : LinkRow.link? ∘ LinkRow.of = some := by
      funext link
      rw [Function.comp_apply, LinkRow.link?_of]
    rw [List.map_map, hlink, Records.ledger]
  edges_created := by
    have hedge : EdgeRow.edge? ∘ EdgeRow.of = some ∘ Prod.snd := by
      funext e
      rw [Function.comp_apply, EdgeRow.edge?_of, Function.comp_apply]
    rw [List.map_map, hedge, Records.ledger, List.map_map]
  rowids := List.pairwise_map.mpr hv.rowids

/-! ## 2. Calls -/

variable {s : Session Tables}

/-- Storing a link does to the records what it does to their ledger. -/
theorem LinkOutcome.recorded (hv : r.Valid) (hs : s.store = r.tables) {link : Link}
    {answer : Except StoreError Link} {s' : Session Tables} {record : Link}
    (h : LinkOutcome r s link answer s' record) :
    ∃ r' : Records, s'.store = r'.tables ∧
      r'.ledger = r.ledger.record s.supply.now (.upsertLink link) (answer.map .link) := by
  cases h with
  | @refreshed k old first held url =>
    refine ⟨r.refreshLink _, rfl, Eq.symm ?_⟩
    have only : ∀ other ∈ r.links, other.url = link.url → other = old := fun other ho hu =>
      hv.eq_of_url ho held (hu.trans url.symm)
    exact Ledger.storeLink_of_known (l := r.ledger) held url only old.id
  | created first new =>
    exact ⟨r.addLink _, rfl, (Ledger.storeLink_of_new (l := r.ledger) new _).symm⟩
  | exhausted unusable => exact ⟨r, hs, rfl⟩

/-- Storing an edge does to the records what it does to their ledger. -/
theorem EdgeOutcome.recorded (hv : r.Valid) (hs : s.store = r.tables) {edge : Edge}
    {answer : Except StoreError Edge} {s' : Session Tables} {record : Edge}
    (h : EdgeOutcome r s edge answer s' record) :
    ∃ r' : Records, s'.store = r'.tables ∧
      r'.ledger = r.ledger.record s.supply.now (.upsertEdge edge) (answer.map .edge) := by
  cases h with
  | @refreshed k n old first held src dst =>
    refine ⟨r.refreshEdge _, rfl, (Records.ledger_refreshEdge _).trans (Eq.symm ?_)⟩
    have only : ∀ other ∈ r.ledger.edges, other.src = edge.src → other.dst = edge.dst →
        other = old := by
      intro other ho hsrc hdst
      obtain ⟨e, he, rfl⟩ := List.mem_map.mp ho
      exact congrArg Prod.snd (hv.eq_of_pair he held (hsrc.trans src.symm) (hdst.trans dst.symm))
    exact Ledger.storeEdge_of_known (List.mem_map_of_mem held) src dst only old.id _
  | @created k first new src dst =>
    refine ⟨r.addEdge _, rfl, (Records.ledger_addEdge _).trans (Eq.symm ?_)⟩
    have hnew : ∀ other ∈ r.ledger.edges, other.src = edge.src → other.dst ≠ edge.dst := by
      intro other ho
      obtain ⟨e, he, rfl⟩ := List.mem_map.mp ho
      exact new e he
    exact Ledger.storeEdge_of_new hnew _ _
  | unknown first new ends => exact ⟨r, hs, rfl⟩
  | exhausted unusable => exact ⟨r, hs, rfl⟩

/-- **Every call does to the records in the tables what it does to their ledger.** -/
theorem exists_recorded (hv : r.Valid) (hs : s.store = r.tables) (c : Call) :
    ∃ r' : Records, (s.after c).store = r'.tables ∧
      r'.ledger = r.ledger.record s.supply.now c (s.answer c) := by
  cases c with
  | upsertLink link =>
    rw [Session.after_upsertLink, Session.answer_upsertLink]
    exact (linkOutcome_upsertLink hv hs link).recorded hv hs
  | upsertEdge edge =>
    rw [Session.after_upsertEdge, Session.answer_upsertEdge]
    exact (edgeOutcome_upsertEdge hv hs edge).recorded hv hs
  | removeStaleEdges src before =>
    have run : LinkStore.removeStaleEdges s.store src before =
        .ok (r.withoutStale src before).tables := by
      rw [hs]
      exact removeStaleEdges_tables r src before
    rw [Session.after_removeStaleEdges run, Session.answer_removeStaleEdges run]
    exact ⟨r.withoutStale src before, rfl, Records.ledger_withoutStale src before⟩
  | findLink id =>
    rw [Session.after_findLink]
    exact ⟨r, hs, rfl⟩
  | links start stop before =>
    rw [Session.after_links]
    exact ⟨r, hs, rfl⟩
  | edges start stop before =>
    rw [Session.after_edges]
    exact ⟨r, hs, rfl⟩

/-- **The tables hold the records of the past**, in the order of their creation. -/
theorem exists_records_of_course {supply : Supply} {past : List (Moment Tables)}
    (h : Session.Course ⟨empty, supply⟩ past s) :
    ∃ r : Records, r.Valid ∧ s.store = r.tables ∧ r.ledger = Ledger.ofPast past := by
  induction h with
  | start => exact ⟨⟨[], []⟩, Records.valid_nil, rfl, rfl⟩
  | elapse _ _ ih => exact ih
  | call c h ih =>
    obtain ⟨r, hv, hs, hledger⟩ := ih
    obtain ⟨r', hv', hs', -⟩ := exists_step hv hs c
    obtain ⟨r'', hs'', hrecord⟩ := exists_recorded hv hs c
    have same : r' = r'' := Records.tables_injective (hs'.symm.trans hs'')
    subst same
    refine ⟨r', hv', hs', ?_⟩
    rw [hrecord, hledger, Ledger.ofPast, Ledger.ofPast, List.foldl_append]
    rfl

/-! ## 3. Failures -/

/-- **What rows of the stored form do not cause**: a link is not found only where none has the
    identifier, reading a range gives a cursor without a fault, and no call blames a stored record
    or the tables. -/
structure Faultless (s : Session Tables) : Prop where
  findLink : ∀ id e, s.answer (.findLink id) = .error e → e = .of .findLink .notFound
  links : ∀ start stop before, ∃ links,
    LinkStore.links s.store start stop before = .ok (Cursor.ofList links)
  edges : ∀ start stop before, ∃ edges,
    LinkStore.edges s.store start stop before = .ok (Cursor.ofList edges)
  failed : ∀ call e, s.answer call = .error e →
    (∀ reason, e.cause ≠ .invalidRecord reason) ∧ ∀ detail, e.cause ≠ .database detail

theorem cursorOf_of_collect {α : Type} {rows : List (Except StoreError α)} {records : List α}
    (h : (cursorOf rows).collect = .ok records) : cursorOf rows = .ofList records := by
  rw [collect_cursorOf] at h
  rw [cursorOf, h]

/-- Records that were read come from a cursor without a fault. -/
theorem readRows_of_read {ρ κ α : Type} {columns : ρ → Except StoreError κ}
    {decode : κ → Except StoreError α} {rows : List ρ} {records : List α}
    (h : (readRows columns decode rows >>= Cursor.collect) = .ok records) :
    readRows columns decode rows = .ok (.ofList records) := by
  unfold readRows at h ⊢
  cases hread : rows.mapM columns with
  | error e =>
    rw [hread] at h
    cases h
  | ok read =>
    rw [hread] at h
    exact congrArg Except.ok (cursorOf_of_collect h)

theorem linksIn_of_read {t : Tables} {start stop : Ident} {before : Stamp} {links : List Link}
    (h : Scan.linksIn t start stop before = .ok links) :
    t.linksIn start stop before = .ok (.ofList links) := by
  change (linksIn t start stop before >>= Cursor.collect) = _ at h
  unfold linksIn at h ⊢
  cases hrows : t.links with
  | none =>
    rw [hrows] at h
    cases h
  | some rows =>
    rw [hrows] at h
    exact readRows_of_read h

theorem edgesIn_of_read {t : Tables} {start stop : Ident} {before : Stamp} {edges : List Edge}
    (h : Scan.edgesIn t start stop before = .ok edges) :
    t.edgesIn start stop before = .ok (.ofList edges) := by
  change (edgesIn t start stop before >>= Cursor.collect) = _ at h
  unfold edgesIn at h ⊢
  cases hrows : t.edges with
  | none =>
    rw [hrows] at h
    cases h
  | some rows =>
    rw [hrows] at h
    exact readRows_of_read h

/-- **The tables of valid records cause no failure.** -/
theorem faultless_of_valid (hv : r.Valid) (hs : s.store = r.tables) : Faultless s := by
  have hvalid : LawfulStore.Valid s.store := ⟨r, hv, hs⟩
  constructor
  case findLink =>
    intro id e h
    obtain ⟨cause, hcause, rfl⟩ := LawfulStore.cause_of_error hvalid h
    rw [List.mem_singleton.mp hcause]
    rfl
  case links =>
    intro start stop before
    obtain ⟨links, run, -⟩ := exists_linksIn hv start stop before
    rw [hs]
    exact ⟨links, linksIn_of_read run⟩
  case edges =>
    intro start stop before
    obtain ⟨edges, run, -⟩ := exists_edgesIn hv start stop before
    rw [hs]
    exact ⟨edges, edgesIn_of_read run⟩
  case failed =>
    intro call e h
    obtain ⟨cause, hcause, rfl⟩ := LawfulStore.cause_of_error hvalid h
    rw [StoreError.cause_of]
    -- neither cause is among those of any call
    constructor
    · intro reason he
      rw [he] at hcause
      cases call <;> simp [Content.causes] at hcause
    · intro detail he
      rw [he] at hcause
      cases call <;> simp [Content.causes] at hcause

/-! ## 4. Every past -/

/-- **Rows keep the stored form**, after any calls from the empty tables; and whatever clock and
    identifiers follow, no call fails because of a row. -/
theorem stored_form_of_course (supply : Supply) (past : List (Moment Tables)) (s : Session Tables)
    (h : Session.Course ⟨empty, supply⟩ past s) :
    (∃ links edges, s.store = ⟨some links, some edges⟩ ∧
      StoredForm (Ledger.ofPast past) links edges) ∧
    ∀ next, Faultless ⟨s.store, next⟩ := by
  obtain ⟨r, hv, hs, hledger⟩ := exists_records_of_course h
  refine ⟨⟨r.links.map LinkRow.of, r.edges.map EdgeRow.of, hs, ?_⟩, fun next => ?_⟩
  · rw [← hledger]
    exact storedForm_of_valid hv
  · exact faultless_of_valid (s := ⟨s.store, next⟩) hv hs

/-- Two pages with hyperlinks both ways; the first hyperlink is pruned and comes back, behind the
    other one. A nil draw is lost on the way, and a hyperlink to an unknown page is refused. -/
theorem stored_form_of_recreated :
    let supply : Supply := ⟨fun n => Int64.ofNat n,
      Supply.listed .nil ([1, 0, 2, 3, 4, 5, 6].map Ident.ofNat), 0, 0⟩
    let first : Session Tables := ⟨empty, supply⟩
    let a : Ident := .ofNat 1
    let b : Ident := .ofNat 2
    let calls : List Call := [.upsertLink (.unstored "http://a/" 3),
      .upsertLink (.unstored "http://b/" 0), .upsertEdge (.unstored a b),
      .upsertEdge (.unstored b a), .removeStaleEdges a 1, .upsertEdge (.unstored a .nil),
      .upsertEdge (.unstored a b)]
    let past := first.moments calls
    let s := first.afterAll calls
    first.Course past s ∧
      (Ledger.ofPast past).edges = [⟨.ofNat 4, b, a, 1⟩, ⟨.ofNat 6, a, b, 3⟩] ∧
      (∃ links edges, s.store = ⟨some links, some edges⟩ ∧
        StoredForm (Ledger.ofPast past) links edges) ∧
      Faultless s := by
  intro supply first a b calls past s
  have course : first.Course past s := Session.course_moments first calls
  have hledger : (Ledger.ofPast past).edges = [⟨.ofNat 4, b, a, 1⟩, ⟨.ofNat 6, a, b, 3⟩] := by
    decide +kernel
  clear_value past s
  obtain ⟨form, faultless⟩ := stored_form_of_course supply past s course
  exact ⟨course, hledger, form, faultless s.supply⟩

end CrawlGraph.Tables
