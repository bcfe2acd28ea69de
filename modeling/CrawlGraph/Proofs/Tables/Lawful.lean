import CrawlGraph.Proofs.Contract.LawfulStore
import CrawlGraph.Proofs.Tables.Outcome

/-!
# The store in tables keeps the contract

1. Removing edges, and finding a link.
2. Reading a range.
3. The step of a call, and the instance of `LawfulStore`.
-/

namespace CrawlGraph.Tables

variable {r : Records}

/-! ## 1. Single statements -/

theorem removeStaleEdges_tables (r : Records) (src : Ident) (before : Stamp) :
    r.tables.removeStaleEdges src before = .ok (r.withoutStale src before).tables := by
  simp only [removeStaleEdges, Records.tables, Records.withoutStale, List.filter_map]
  have hp : (fun row : EdgeRow =>
      !decide (row.src = .ofString src.text ∧ row.updatedAt.isBefore before)) ∘ EdgeRow.of =
        fun e => !decide (e.2.src = src ∧ e.2.updatedAt < before) := by
    funext e
    rw [Function.comp_apply, Bool.not_inj_iff, decide_eq_decide]
    simp only [EdgeRow.of, Stored.ofString_inj, Ident.text_inj, Stored.isBefore_int,
      decide_eq_true_eq]
  rw [hp]
  rfl

theorem linkFound_findLink (hv : r.Valid) (id : Ident) :
    r.content.LinkFound id (r.tables.findLink id) := by
  by_cases h : ∃ link ∈ r.links, link.id = id
  · obtain ⟨link, hl, rfl⟩ := h
    have hfind : (r.links.map LinkRow.of).find? (fun row => row.id = .ofString link.id.text) =
        some (LinkRow.of link) := by
      refine find?_of_unique (List.mem_map_of_mem hl) (decide_eq_true rfl) ?_
      intro row hrow he
      obtain ⟨l, hl', rfl⟩ := List.mem_map.mp hrow
      simp only [LinkRow.of, Stored.ofString_inj, Ident.text_inj, decide_eq_true_eq] at he
      rw [hv.eq_of_id hl' hl he]
    have hrun : r.tables.findLink link.id = .ok link := by
      simp only [findLink, Records.tables, hfind]
      exact eq_ok_of_toOption ((toOption_linkColumns _ _).trans (LinkRow.link?_of link))
    rw [hrun]
    exact .found hl rfl
  · have hfind : (r.links.map LinkRow.of).find? (fun row => row.id = .ofString id.text) =
        none := by
      refine List.find?_eq_none.mpr fun row hrow he => ?_
      obtain ⟨l, hl, rfl⟩ := List.mem_map.mp hrow
      simp only [LinkRow.of, Stored.ofString_inj, Ident.text_inj, decide_eq_true_eq] at he
      exact h ⟨l, hl, he⟩
    have hrun : r.tables.findLink id = .error (.of .findLink .notFound) := by
      simp only [findLink, Records.tables, hfind]
    rw [hrun]
    exact .missing fun l hl he => h ⟨l, hl, he⟩

/-! ## 2. Reading a range -/

/-- Reading links gives those in the range, in the order of their identifiers. -/
theorem exists_linksIn (hv : r.Valid) (start stop : Ident) (before : Stamp) :
    ∃ links, Scan.linksIn r.tables start stop before = .ok links ∧
      r.content.LinksRead start stop before links := by
  let inside := r.links.filter fun l => start ≤ l.id ∧ l.id < stop ∧ l.retrievedAt < before
  let links := inside.mergeSort fun a b => a.id ≤ b.id
  have hrows : linkRows (r.links.map LinkRow.of) start stop before = links.map LinkRow.of := by
    have hp : (fun row : LinkRow => row.id.isWithin start.text stop.text &&
        row.retrievedAt.isBefore before) ∘ LinkRow.of =
        fun l => decide (start ≤ l.id ∧ l.id < stop ∧ l.retrievedAt < before) := by
      funext l
      simp only [Function.comp_apply, LinkRow.of, Stored.isWithin_ofString, Stored.isBefore_int,
        Ident.text_le_iff, Ident.text_lt_iff, ← Bool.decide_and, and_assoc]
    rw [linkRows, List.filter_map, hp]
    refine (List.map_mergeSort fun a _ b _ => ?_).symm
    simp only [LinkRow.of, Stored.textBytes_ofString, Text.bytes_le_iff, Ident.text_le_iff]
  refine ⟨links, eq_ok_of_toOption ?_, ?_, ?_⟩
  · rw [toOption_linksIn]
    simp only [Records.tables, Option.bind_some, hrows]
    rw [mapM_map_eq_some LinkRow.of LinkRow.link? id LinkRow.link?_of, List.map_id]
  · have hle : links.Pairwise fun a b => decide (a.id ≤ b.id) = true :=
      List.pairwise_mergeSort (fun a b c hab hbc => by
        rw [decide_eq_true_eq] at hab hbc ⊢
        exact Nat.le_trans hab hbc) (fun a b => by
        rw [Bool.or_eq_true, decide_eq_true_eq, decide_eq_true_eq]
        exact Nat.le_total _ _) inside
    -- different links have different identifiers
    have hne : links.Pairwise fun a b => a.id ≠ b.id := by
      have hids : (links.map (·.id)).Nodup :=
        ((List.mergeSort_perm _ _).map _).nodup_iff.mpr
          (hv.link_ids.sublist (List.filter_sublist.map _))
      exact List.pairwise_map.mp hids
    refine hle.imp₂ (fun a b h hn => ?_) hne
    exact Nat.lt_of_le_of_ne (of_decide_eq_true h) fun he => hn (Ident.ext he)
  · intro link
    rw [List.mem_mergeSort, List.mem_filter, decide_eq_true_eq]
    rfl

/-- Whether an edge is read before another one: by source, and then by row number. -/
def precedes (a b : Nat × Edge) : Bool := a.2.src < b.2.src ∨ (a.2.src = b.2.src ∧ a.1 ≤ b.1)

theorem precedes_eq (a b : Nat × Edge) : precedes a b =
    decide ((EdgeRow.of a).src.textBytes < (EdgeRow.of b).src.textBytes ∨
      ((EdgeRow.of a).src.textBytes = (EdgeRow.of b).src.textBytes ∧
        (EdgeRow.of a).rowid ≤ (EdgeRow.of b).rowid)) := by
  rw [precedes, decide_eq_decide]
  simp only [EdgeRow.of, Stored.textBytes_ofString, Text.bytes_lt_iff, Text.bytes_injective.eq_iff,
    Ident.text_lt_iff, Ident.text_inj]

theorem precedes_trans (a b c : Nat × Edge) :
    precedes a b = true → precedes b c = true → precedes a c = true := by
  rw [precedes_eq, precedes_eq, precedes_eq]
  exact edgeRow_trans _ _ _

theorem precedes_total (a b : Nat × Edge) : (precedes a b || precedes b a) = true := by
  rw [precedes_eq, precedes_eq]
  exact edgeRow_total _ _

/-- Reading edges gives those from the range, source after source. -/
theorem exists_edgesIn (hv : r.Valid) (start stop : Ident) (before : Stamp) :
    ∃ edges, Scan.edgesIn r.tables start stop before = .ok edges ∧
      r.content.EdgesRead start stop before edges := by
  let inside := r.edges.filter fun e =>
    start ≤ e.2.src ∧ e.2.src < stop ∧ e.2.updatedAt < before
  have hrows : edgeRows (r.edges.map EdgeRow.of) start stop before =
      (inside.mergeSort precedes).map EdgeRow.of := by
    have hp : (fun row : EdgeRow => row.src.isWithin start.text stop.text &&
        row.updatedAt.isBefore before) ∘ EdgeRow.of =
        fun e => decide (start ≤ e.2.src ∧ e.2.src < stop ∧ e.2.updatedAt < before) := by
      funext e
      simp only [Function.comp_apply, EdgeRow.of, Stored.isWithin_ofString, Stored.isBefore_int,
        Ident.text_le_iff, Ident.text_lt_iff, ← Bool.decide_and, and_assoc]
    rw [edgeRows, List.filter_map, hp]
    refine (List.map_mergeSort fun a _ b _ => ?_).symm
    exact precedes_eq a b
  refine ⟨(inside.mergeSort precedes).map (·.2), eq_ok_of_toOption ?_, ?_, fun src => ?_⟩
  · rw [toOption_edgesIn]
    simp only [Records.tables, Option.bind_some, hrows]
    exact mapM_map_eq_some EdgeRow.of EdgeRow.edge? Prod.snd EdgeRow.edge?_of _
  · rw [List.pairwise_map]
    refine (List.pairwise_mergeSort precedes_trans precedes_total inside).imp fun h => ?_
    rcases of_decide_eq_true h with hlt | ⟨heq, -⟩
    · exact Nat.le_of_lt hlt
    · rw [heq]
      exact Nat.le_refl _
  · -- the edges of one source stand in the order of their row numbers already
    have hsorted : (inside.filter fun e => e.2.src = src).Pairwise fun a b =>
        precedes a b = true := by
      refine ((hv.rowids.filter _).filter _).imp_of_mem fun ha hb hlt => ?_
      have ha' := of_decide_eq_true (List.mem_filter.mp ha).2
      have hb' := of_decide_eq_true (List.mem_filter.mp hb).2
      exact decide_eq_true (.inr ⟨ha'.trans hb'.symm, Nat.le_of_lt hlt⟩)
    rw [List.filter_map]
    change ((inside.mergeSort precedes).filter fun e => decide (e.2.src = src)).map _ = _
    rw [filter_mergeSort precedes_trans precedes_total, List.mergeSort_of_pairwise hsorted]
    simp only [Records.content, List.filter_map, List.filter_filter, inside]
    split
    · rename_i hr
      refine congrArg _ (List.filter_congr fun e _ => ?_)
      by_cases hs : e.2.src = src
      · simp [hs, hr]
      · simp [hs]
    · rename_i hr
      rw [List.map_eq_nil_iff, List.filter_eq_nil_iff]
      intro e _ he
      simp only [Bool.and_eq_true, decide_eq_true_eq] at he
      obtain ⟨rfl, hstart, hstop, -⟩ := he
      exact hr ⟨hstart, hstop⟩

/-! ## 3. Calls -/

variable {s : Session Tables}

/-- The outcome of storing a link is one that the contract allows. -/
theorem LinkOutcome.lawful (hv : r.Valid) (hs : s.store = r.tables) {link : Link}
    {answer : Except StoreError Link} {s' : Session Tables} {record : Link}
    (h : LinkOutcome r s link answer s' record) :
    ∃ r' : Records, r'.Valid ∧ s'.store = r'.tables ∧ s.supply.Later s'.supply ∧
      r.content.LinkStored link answer r'.content := by
  cases h with
  | @refreshed k old first held url =>
    let stored : Link :=
      { link with id := old.id, retrievedAt := max link.retrievedAt old.retrievedAt }
    refine ⟨r.refreshLink stored, hv.refreshLink held rfl url.symm, rfl,
      Supply.later_afterDraws _ _, ?_⟩
    rw [Records.content_refreshLink stored held url.symm]
    exact .refreshed held url
  | @created k first new =>
    obtain ⟨⟨-, hnil, hfree⟩, -⟩ := first
    have unused : ∀ other ∈ r.links, other.id ≠ s.supply.draw k := fun other ho he =>
      hfree ⟨new, other, ho, he⟩
    have hid : s.supply.draw k ∉ r.links.map (·.id) := by simpa using unused
    have hurl : link.url ∉ r.links.map (·.url) := by simpa using new
    let stored : Link := { link with id := s.supply.draw k }
    refine ⟨r.addLink stored, hv.addLink hnil hid hurl, rfl, Supply.later_afterDraws _ _, ?_⟩
    rw [Records.content_addLink stored hurl]
    exact .created new hnil unused
  | exhausted unusable => exact ⟨r, hv, hs, Supply.later_afterDraws _ _, .exhausted⟩

/-- The outcome of storing an edge is one that the contract allows. -/
theorem EdgeOutcome.lawful (hv : r.Valid) (hs : s.store = r.tables) {edge : Edge}
    {answer : Except StoreError Edge} {s' : Session Tables} {record : Edge}
    (h : EdgeOutcome r s edge answer s' record) :
    ∃ r' : Records, r'.Valid ∧ s'.store = r'.tables ∧ s.supply.Later s'.supply ∧
      r.content.EdgeStored s.supply.now edge answer r'.content := by
  have later : ∀ n, s.supply.Later (s.supply.afterRead.afterDraws n) := fun n =>
    (Supply.later_afterRead _).trans (Supply.later_afterDraws _ n)
  cases h with
  | @refreshed k n old first held src dst =>
    let stored : Edge := { old with updatedAt := max old.updatedAt s.supply.now }
    refine ⟨r.refreshEdge stored, hv.refreshEdge held rfl rfl rfl, rfl, later _, ?_⟩
    rw [Records.content_refreshEdge]
    exact .refreshed (Records.mem_edgesFrom.mpr ⟨n, held, src⟩) dst
  | unknown first new ends =>
    refine ⟨r, hv, hs, later _, .unknown ?_⟩
    rwa [Records.hasLink_iff, Records.hasLink_iff]
  | @created k first new src dst =>
    obtain ⟨⟨-, hnil, hfree⟩, -⟩ := first
    have unused : ∀ e ∈ r.edges, e.2.id ≠ s.supply.draw k := fun e he hid =>
      hfree ⟨new, e, he, hid⟩
    have hid : s.supply.draw k ∉ r.edges.map (·.2.id) := by
      intro hid
      obtain ⟨e, he, hid⟩ := List.mem_map.mp hid
      exact unused e he hid
    let stored : Edge := { edge with id := s.supply.draw k, updatedAt := s.supply.now }
    refine ⟨r.addEdge stored, hv.addEdge hnil hid src dst new, rfl, later _, ?_⟩
    rw [Records.content_addEdge]
    refine .created (Records.hasLink_iff.mpr src) (Records.hasLink_iff.mpr dst) ?_ hnil ?_
    · intro other ho hd
      obtain ⟨n, hn, hsrc⟩ := Records.mem_edgesFrom.mp ho
      exact new _ hn hsrc hd
    · intro page other ho he
      obtain ⟨n, hn, -⟩ := Records.mem_edgesFrom.mp ho
      exact unused _ hn he
  | exhausted unusable => exact ⟨r, hv, hs, later _, .exhausted⟩

/-- **A call turns the tables of valid records into those of others**, moves the supply on, and has
    the outcome of the contract. -/
theorem exists_step (hv : r.Valid) (hs : s.store = r.tables) (c : Call) :
    ∃ r' : Records, r'.Valid ∧ (s.after c).store = r'.tables ∧
      s.supply.Later (s.after c).supply ∧
      r.content.Step s.supply.now c (s.answer c) r'.content := by
  cases c with
  | upsertLink link =>
    rw [Session.after_upsertLink, Session.answer_upsertLink]
    obtain ⟨r', hv', hs', later, hstep⟩ := (linkOutcome_upsertLink hv hs link).lawful hv hs
    exact ⟨r', hv', hs', later, _, hstep, rfl⟩
  | upsertEdge edge =>
    rw [Session.after_upsertEdge, Session.answer_upsertEdge]
    obtain ⟨r', hv', hs', later, hstep⟩ := (edgeOutcome_upsertEdge hv hs edge).lawful hv hs
    exact ⟨r', hv', hs', later, _, hstep, rfl⟩
  | findLink id =>
    rw [Session.after_findLink, Session.answer_findLink]
    refine ⟨r, hv, hs, .refl _, _, linkFound_findLink hv id, ?_, rfl⟩
    rw [hs]
    rfl
  | removeStaleEdges src before =>
    have run : LinkStore.removeStaleEdges s.store src before =
        .ok (r.withoutStale src before).tables := by
      rw [hs]
      exact removeStaleEdges_tables r src before
    rw [Session.after_removeStaleEdges run, Session.answer_removeStaleEdges run]
    exact ⟨r.withoutStale src before, hv.withoutStale src before, rfl, .refl _, rfl,
      Records.content_withoutStale src before⟩
  | links start stop before =>
    rw [Session.after_links, Session.answer_links]
    obtain ⟨links, run, hread⟩ := exists_linksIn hv start stop before
    refine ⟨r, hv, hs, .refl _, links, hread, ?_, rfl⟩
    rw [hs, run]
    rfl
  | edges start stop before =>
    rw [Session.after_edges, Session.answer_edges]
    obtain ⟨edges, run, hread⟩ := exists_edgesIn hv start stop before
    refine ⟨r, hv, hs, .refl _, edges, hread, ?_, rfl⟩
    rw [hs, run]
    rfl

/-- Tables are valid if they are those of valid records. -/
def Valid (t : Tables) : Prop := ∃ r : Records, r.Valid ∧ t = r.tables

theorem content_empty : empty.content = .empty := by
  refine (Records.content_tables Records.valid_nil).trans (Content.ext ?_ rfl)
  ext link
  simp [Records.content, Content.empty]

instance : LawfulStore Tables where
  empty := empty
  content := content
  Valid := Valid
  valid_empty := ⟨⟨[], []⟩, Records.valid_nil, rfl⟩
  content_empty := content_empty
  sound := by
    intro t h
    obtain ⟨r, hv, rfl⟩ := h
    rw [Records.content_tables hv]
    exact Records.sound_content hv
  valid_after := by
    intro s c h
    obtain ⟨r, hv, hs⟩ := h
    obtain ⟨r', hv', hs', -⟩ := exists_step hv hs c
    exact ⟨r', hv', hs'⟩
  later_after := by
    intro s c h
    obtain ⟨r, hv, hs⟩ := h
    obtain ⟨-, -, -, later, -⟩ := exists_step hv hs c
    exact later
  step := by
    intro s c h
    obtain ⟨r, hv, hs⟩ := h
    obtain ⟨r', hv', hs', -, hstep⟩ := exists_step hv hs c
    rw [hs, hs', Records.content_tables hv, Records.content_tables hv']
    exact hstep

end CrawlGraph.Tables
