import CrawlGraph.Proofs.Ingest.Imported
import CrawlGraph.Proofs.Ingest.Parts

/-!
# The order of the lines does not matter

Imports of the same lines in another order create their pages and hyperlinks in another order, under
other identifiers. What they leave is the same, by URL: a time is the latest of those that were
given, and pruning looks at these times only.

1. Stores that grew by the same entries.
2. Pruning by URL.
3. What the import of some lines reports.
4. `Preserves`, and `order_irrelevant_of_reached`.
-/

namespace CrawlGraph.Ingest

open LawfulStore (content Valid)

variable {first c c' : Content} {es es' : List (Entry × Stamp)}

/-! ## 1. The same entries -/

/-- **The times that a store holds depend only on which entries there were**, and not on their
    order. -/
theorem Grown.times_eq (h : Grown first es c) (h' : Grown first es' c')
    (same : ∀ x, x ∈ es ↔ x ∈ es') :
    c.retrievals = c'.retrievals ∧ c.confirmations = c'.confirmations := by
  have pages : ∀ url, pageTimes first es url = pageTimes first es' url := by
    intro url
    unfold pageTimes
    simp only [List.mem_map, same]
  have edges : ∀ p, edgeTimes first es p = edgeTimes first es' p := by
    intro p
    unfold edgeTimes
    simp only [same]
  constructor
  · ext ⟨url, t⟩
    rw [h.mem_retrievals, h'.mem_retrievals, pages]
  · ext ⟨p, t⟩
    rw [h.mem_confirmations, h'.mem_confirmations, edges]

section

variable {σ : Type} [LinkStore σ] [LawfulStore σ] {s t u : Session σ} {now : Stamp}

/-- Where the clock stands still, the entries tell their readings. -/
theorem Entered.mem_iff (hv : Valid s.store) (h : Entered s es t) {r : Stamp}
    (still : ∀ n, s.supply.clock n = r) (x : Entry × Stamp) :
    x ∈ es ↔ x.1 ∈ es.map Prod.fst ∧ x.2 = r := by
  constructor
  · intro hx
    exact ⟨List.mem_map_of_mem hx, h.reading_eq hv still hx⟩
  · rintro ⟨hx, ht⟩
    obtain ⟨y, hy, he⟩ := List.mem_map.mp hx
    have same : y = x := Prod.ext he ((h.reading_eq hv still hy).trans ht.symm)
    exact same ▸ hy

/-! ## 2. Pruning -/

theorem mem_pruned {prune : Bool} {p : Progress} {id : Ident} :
    id ∈ pruned prune p ↔ prune = true ∧ id ∈ p.sources := by
  unfold pruned
  cases prune with
  | false => simp
  | true => simp [List.mem_eraseDups, List.mem_mergeSort]

/-- The URLs of the pages that some lines speak of. -/
def sourceUrls (said : List Adjacency) : Finset String := (said.map fun a => a.src).toFinset

theorem mem_sourceUrls {said : List Adjacency} {url : String} :
    url ∈ sourceUrls said ↔ ∃ a ∈ said, a.src = url := by
  simp [sourceUrls]

/-- A page is among the noted ones just if its URL is a source. -/
theorem Tally.mem_sources {lines : List Line} {p : Progress} (h : Tally lines p c) (sound : c.Sound)
    {id : Ident} {url : String} (hn : c.Named id url) :
    id ∈ p.sources ↔ url ∈ sourceUrls (kept lines) := by
  rw [mem_sourceUrls]
  constructor
  · intro hid
    obtain ⟨a, ha, hn'⟩ := h.noted id hid
    exact ⟨a, ha, hn'.url_eq sound hn⟩
  · rintro ⟨a, ha, rfl⟩
    obtain ⟨id', hid, hn'⟩ := h.sources a ha
    exact hn'.id_eq sound hn ▸ hid

/-- **Pruning some pages** takes the hyperlinks from these away that bear an earlier time. -/
theorem joins_of_prune {ids : List Ident} (hv : Valid t.store)
    (run : ids.forM (pruneSource now) t = .ok () u) {p : String × String} {edge : Edge} :
    (content u.store).Joins p edge ↔
      (content t.store).Joins p edge ∧ (edge.src ∈ ids → now ≤ edge.updatedAt) := by
  obtain ⟨-, hlinks, hedges⟩ := edgesFrom_of_prune hv run
  have named : ∀ id url, (content u.store).Named id url ↔ (content t.store).Named id url := by
    intro id url
    unfold Content.Named
    rw [hlinks]
  have mem : edge ∈ (content u.store).edgesFrom edge.src ↔
      edge ∈ (content t.store).edgesFrom edge.src ∧ (edge.src ∈ ids → now ≤ edge.updatedAt) := by
    rw [hedges]
    by_cases hid : edge.src ∈ ids
    · rw [if_pos hid, List.mem_filter, decide_eq_true_eq]
      simp only [hid, true_imp_iff]
    · rw [if_neg hid]
      simp only [hid, false_imp_iff, and_true]
  constructor
  · intro h
    obtain ⟨hmem, late⟩ := mem.mp h.mem
    exact ⟨⟨hmem, (named _ _).mp h.src, (named _ _).mp h.dst⟩, late⟩
  · rintro ⟨h, late⟩
    exact ⟨mem.mpr ⟨h.mem, late⟩, (named _ _).mpr h.src, (named _ _).mpr h.dst⟩

/-- The confirmations that pruning leaves, by URL. -/
theorem mem_confirmations_of_prune {lines : List Line} {p : Progress} {prune : Bool}
    (hv : Valid t.store) (tally : Tally lines p (content t.store))
    (run : (pruned prune p).forM (pruneSource now) t = .ok () u) {q : String × String}
    {x : Stamp} : (q, x) ∈ (content u.store).confirmations ↔
      (q, x) ∈ (content t.store).confirmations ∧
        (prune = true → q.1 ∈ sourceUrls (kept lines) → now ≤ x) := by
  have pruned_iff : ∀ edge, (content t.store).Joins q edge →
      (edge.src ∈ pruned prune p ↔ prune = true ∧ q.1 ∈ sourceUrls (kept lines)) := by
    intro edge he
    rw [mem_pruned, tally.mem_sources (LawfulStore.sound hv) he.src]
  constructor
  · rintro ⟨edge, he, rfl⟩
    obtain ⟨he, late⟩ := (joins_of_prune hv run).mp he
    exact ⟨⟨edge, he, rfl⟩, fun hp hq => late ((pruned_iff edge he).mpr ⟨hp, hq⟩)⟩
  · rintro ⟨⟨edge, he, rfl⟩, late⟩
    refine ⟨edge, (joins_of_prune hv run).mpr ⟨he, fun hid => ?_⟩, rfl⟩
    obtain ⟨hp, hq⟩ := (pruned_iff edge he).mp hid
    exact late hp hq

theorem retrievals_of_prune {ids : List Ident} (hv : Valid t.store)
    (run : ids.forM (pruneSource now) t = .ok () u) :
    (content u.store).retrievals = (content t.store).retrievals := by
  obtain ⟨-, hlinks, -⟩ := edgesFrom_of_prune hv run
  unfold Content.retrievals
  rw [hlinks]

end

/-! ## 3. What is reported -/

/-- A page is pruned once, however often it is a source. -/
theorem Tally.length_pruned {lines : List Line} {p : Progress} (h : Tally lines p c)
    (sound : c.Sound) (prune : Bool) :
    (pruned prune p).length = if prune then (sourceUrls (kept lines)).card else 0 := by
  cases prune with
  | false => rfl
  | true =>
    have hset : (p.sources.mergeSort (· ≤ ·)).toFinset = p.sources.toFinset := by
      ext id
      simp
    have pages : ∀ id ∈ p.sources.toFinset, ∃ url ∈ sourceUrls (kept lines), c.Named id url := by
      intro id hid
      obtain ⟨a, ha, hn⟩ := h.noted id (List.mem_toFinset.mp hid)
      exact ⟨a.src, mem_sourceUrls.mpr ⟨a, ha, rfl⟩, hn⟩
    have urls : ∀ url ∈ sourceUrls (kept lines), ∃ id ∈ p.sources.toFinset, c.Named id url := by
      intro url hurl
      obtain ⟨a, ha, rfl⟩ := mem_sourceUrls.mp hurl
      obtain ⟨id, hid, hn⟩ := h.sources a ha
      exact ⟨id, List.mem_toFinset.mpr hid, hn⟩
    rw [if_pos rfl]
    change ((p.sources.mergeSort (· ≤ ·)).eraseDups).length = _
    rw [length_eraseDups, hset]
    refine Nat.le_antisymm
      (Finset.card_le_card_of_forall_subsingleton c.Named pages ?_)
      (Finset.card_le_card_of_forall_subsingleton' c.Named urls ?_)
    · intro url _ id hid id' hid'
      exact hid.2.id_eq sound hid'.2
    · intro id _ url hurl url' hurl'
      exact hurl.2.url_eq sound hurl'.2

section

variable {lines lines' : List Line}

theorem kept_perm (perm : lines.Perm lines') : (kept lines).Perm (kept lines') :=
  perm.filterMap kept?

theorem sourceUrls_eq_of_perm (perm : lines.Perm lines') :
    sourceUrls (kept lines) = sourceUrls (kept lines') :=
  List.toFinset_eq_of_perm _ _ ((kept_perm perm).map _)

/-- The counts of lines do not depend on their order. -/
theorem Counted.eq_of_perm {summary summary' : ImportSummary} (perm : lines.Perm lines')
    (h : Counted lines summary) (h' : Counted lines' summary')
    (prunedSources : summary.prunedSources = summary'.prunedSources) : summary = summary' := by
  have hkept := kept_perm perm
  have hlines : summary.lines = summary'.lines := by
    rw [h.lines, h'.lines, perm.length_eq]
  have hskipped : summary.skipped = summary'.skipped := by
    rw [h.skipped, h'.skipped, perm.countP_eq]
  have hedges : summary.edges = summary'.edges := by
    rw [h.edges, h'.edges, (hkept.map _).sum_eq]
  have hurls : (mentioned (kept lines)).Perm (mentioned (kept lines')) := hkept.flatMap_right _
  have hlinks : summary.links = summary'.links := by
    rw [h.links, h'.links, List.toFinset_eq_of_perm _ _ hurls]
  cases summary
  cases summary'
  cases hlines
  cases hskipped
  cases hedges
  cases hlinks
  cases prunedSources
  rfl

end

/-! ## 4. Two imports -/

/-- **What was stored keeps its identifier**: every page, and the hyperlinks that are left. -/
structure Preserves (first last : Content) : Prop where
  pages : ∀ id url, first.Named id url → last.Named id url
  hyperlinks : ∀ p old edge, first.Joins p old → last.Joins p edge → edge.id = old.id

section

variable {σ : Type} [LinkStore σ] [LawfulStore σ] {s last : Session σ} {now r : Stamp}
  {lines : List Line} {prune : Bool} {summary : ImportSummary}

/-- **What an import leaves under a clock that stands still**, by way of the content before it
    prunes. -/
structure Settled (lines : List Line) (now : Stamp) (prune : Bool) (r : Stamp)
    (first last : Content) (es : List (Entry × Stamp)) (mid : Content) : Prop where
  grown : Grown first es mid
  entered : ∀ x, x ∈ es ↔ x.1 ∈ entries now (kept lines) ∧ x.2 = r
  retrievals : last.retrievals = mid.retrievals
  confirmations : ∀ q x, (q, x) ∈ last.confirmations ↔ (q, x) ∈ mid.confirmations ∧
    (prune = true → q.1 ∈ sourceUrls (kept lines) → now ≤ x)
  preserves : Preserves first last

theorem settled_of_importLines (hv : Valid s.store) (still : ∀ n, s.supply.clock n = r)
    (run : importLines lines now prune s = .ok summary last) :
    (∃ es mid, Settled lines now prune r (content s.store) (content last.store) es mid) ∧
      Counted lines summary ∧
      summary.prunedSources = if prune then (sourceUrls (kept lines)).card else 0 := by
  obtain ⟨es, p, t, entered, done, tally, hprune, rfl⟩ := stages_of_importLines hv run
  have hv' := (entered.carried hv).valid
  have sound := LawfulStore.sound hv'
  have grown := grown_of_entered hv entered
  obtain ⟨-, hlinks, -⟩ := edgesFrom_of_prune hv' hprune
  refine ⟨⟨es, content t.store, grown, fun x => ?_, retrievals_of_prune hv' hprune,
    fun q x => mem_confirmations_of_prune hv' tally hprune, fun id url hn => ?_,
    fun q old edge ho he => ?_⟩, tally.counted _, tally.length_pruned sound prune⟩
  · rw [← done]
    exact entered.mem_iff hv still x
  · unfold Content.Named
    rw [hlinks]
    exact grown.named id url hn
  · exact grown.edge_ident q old edge ho ((joins_of_prune hv' hprune).mp he).1

end

theorem Settled.times_eq {lines lines' : List Line} {now r : Stamp} {prune : Bool}
    {last last' mid mid' : Content} (perm : lines.Perm lines')
    (h : Settled lines now prune r first last es mid)
    (h' : Settled lines' now prune r first last' es' mid') :
    last.retrievals = last'.retrievals ∧ last.confirmations = last'.confirmations := by
  have hentries : ∀ x, x ∈ es ↔ x ∈ es' := by
    intro x
    have hperm : (entries now (kept lines)).Perm (entries now (kept lines')) :=
      (kept_perm perm).flatMap_right _
    rw [h.entered, h'.entered, hperm.mem_iff]
  obtain ⟨retrievals, confirmations⟩ := h.grown.times_eq h'.grown hentries
  constructor
  · rw [h.retrievals, h'.retrievals, retrievals]
  · ext ⟨q, x⟩
    rw [h.confirmations, h'.confirmations, confirmations, sourceUrls_eq_of_perm perm]

/-- **The order of the lines does not matter.** Two imports of the same lines, each in its own order
    and with its own identifiers, from one store that calls led to and under a clock that stands
    still: if both succeed, they report the same, leave the same times by URL, and keep the
    identifiers from before. -/
theorem order_irrelevant_of_reached (b : Backend) (supply : Supply) (s : Session b.Store)
    (reached : Session.Reached ⟨b.empty, supply⟩ s) (r : Stamp) (next next' : Supply)
    (still : ∀ n, next.clock n = r) (still' : ∀ n, next'.clock n = r) (lines lines' : List Line)
    (perm : lines.Perm lines') (now : Stamp) (prune : Bool) (summary summary' : ImportSummary)
    (last last' : Session b.Store)
    (run : importLines lines now prune ⟨s.store, next⟩ = .ok summary last)
    (run' : importLines lines' now prune ⟨s.store, next'⟩ = .ok summary' last') :
    summary = summary' ∧
      (Backend.content last.store).retrievals = (Backend.content last'.store).retrievals ∧
      (Backend.content last.store).confirmations = (Backend.content last'.store).confirmations ∧
      Preserves (Backend.content s.store) (Backend.content last.store) ∧
      Preserves (Backend.content s.store) (Backend.content last'.store) := by
  have hv := LawfulStore.valid_of_reached reached
  obtain ⟨⟨es, mid, settled⟩, counted, hpruned⟩ :=
    settled_of_importLines (s := ⟨s.store, next⟩) hv still run
  obtain ⟨⟨es', mid', settled'⟩, counted', hpruned'⟩ :=
    settled_of_importLines (s := ⟨s.store, next'⟩) hv still' run'
  obtain ⟨retrievals, confirmations⟩ := settled.times_eq perm settled'
  have reports : summary = summary' := by
    refine counted.eq_of_perm perm counted' ?_
    rw [hpruned, hpruned', sourceUrls_eq_of_perm perm]
  exact ⟨reports, retrievals, confirmations, settled.preserves, settled'.preserves⟩

/-- A page links to a second one. A crawl finds that it links to a third one instead, which links
    back to it. Either line may come first. -/
theorem order_irrelevant_of_two_lines :
    let first : Session Memory := ⟨Memory.empty, .counting⟩
    let s := first.afterAll [.upsertLink (.unstored "http://[::1]/" 0),
      .upsertLink (.unstored "http://[::2]/" 0), .upsertEdge (.unstored (.ofNat 1) (.ofNat 2))]
    let next : Supply := ⟨fun _ => 5, fun n => .ofNat (n + 9), 0, 0⟩
    let lines : List Line := [.ok "http://[::1] http://[::3]", .ok "http://[::3] http://[::1]"]
    let lines' := lines.reverse
    ∃ summary, ∃ last last' : Session Memory,
      importLines lines 5 true ⟨s.store, next⟩ = .ok summary last ∧
        importLines lines' 5 true ⟨s.store, next⟩ = .ok summary last' ∧
        last.store.content.retrievals = last'.store.content.retrievals ∧
        last.store.content.confirmations = last'.store.content.confirmations := by
  intro first s next lines lines'
  have reached : first.Reached s := Session.Reached.start.afterAll _
  have hv : Valid s.store := LawfulStore.valid_of_reached reached
  have still : ∀ n, next.clock n = 5 := fun _ => rfl
  have perm : lines.Perm lines' := lines.reverse_perm.symm
  have answer : (Action.answer (importLines lines 5 false) ⟨s.store, next⟩).toOption =
      some ⟨2, 0, 2, 2, 0⟩ := by
    decide +kernel
  have answer' : (Action.answer (importLines lines' 5 false) ⟨s.store, next⟩).toOption =
      some ⟨2, 0, 2, 2, 0⟩ := by
    decide +kernel
  -- the two imports are not to be told apart by running them
  clear_value lines' lines next s
  obtain ⟨t, unpruned⟩ := Action.exists_of_answer answer
  obtain ⟨t', unpruned'⟩ := Action.exists_of_answer answer'
  obtain ⟨summary, last, run⟩ := importLines_succeeds (s := ⟨s.store, next⟩) hv unpruned true
  obtain ⟨summary', last', run'⟩ := importLines_succeeds (s := ⟨s.store, next⟩) hv unpruned' true
  obtain ⟨rfl, retrievals, confirmations, -, -⟩ :=
    order_irrelevant_of_reached .memory .counting s reached 5 next next still still lines lines'
      perm 5 true summary summary' last last' run run'
  exact ⟨summary, last, last', run, run', retrievals, confirmations⟩

end CrawlGraph.Ingest
