import CrawlGraph.Proofs.Ingest.Order

/-!
# Importing the same lines again

An import leaves every page and hyperlink of its lines in place, but for those hyperlinks that it
stores and prunes at once, since the clock is behind the time of the import. A second import of the
same lines refreshes the former to what they are, and creates the latter only to prune them again.

1. `Absorbed`: what an import leaves of its own lines (`Settled.absorbed`).
2. `Overlaid`: storing the entries again brings in such hyperlinks only, and each after those that
   were left (`Overlaid.entered`).
3. Pruning takes them away again (`Overlaid.prune_eq`), and `unchanged_of_second_import`.
-/

namespace CrawlGraph.Ingest

open LawfulStore (content Valid Carried)

variable {said : List Adjacency} {now r : Stamp} {prune : Bool} {base c c' : Content}

/-! ## 1. What the first import leaves -/

/-- **The content has taken up what some lines say**, by an import at `now` under a clock that shows
    `r`. Only hyperlinks that it prunes as soon as they are stored can be missing. -/
structure Absorbed (said : List Adjacency) (now r : Stamp) (prune : Bool) (c : Content) :
    Prop where
  /-- Pages bear the times of their entries, or later ones. -/
  pages : ∀ url t, .page url t ∈ entries now said →
    ∃ link ∈ c.links, link.url = url ∧ t ≤ link.retrievedAt
  /-- Hyperlinks bear the reading of the clock, or a later time. -/
  late : ∀ p ∈ reported said, ∀ edge, c.Joins p edge → r ≤ edge.updatedAt
  joined : ∀ p ∈ reported said, (∃ edge, c.Joins p edge) ∨ (prune = true ∧ r < now)
  /-- Nothing is left to prune. -/
  pruned : prune = true → ∀ a ∈ said, ∀ page, c.Named page a.src →
    ∀ edge ∈ c.edgesFrom page, now ≤ edge.updatedAt

theorem Settled.absorbed {lines : List Line} {first last mid : Content}
    {es : List (Entry × Stamp)} (sound : last.Sound)
    (h : Settled lines now prune r first last es mid) :
    Absorbed (kept lines) now r prune last := by
  have source : ∀ p ∈ reported (kept lines), p.1 ∈ sourceUrls (kept lines) := by
    rintro p ⟨a, ha, hsrc, -⟩
    exact mem_sourceUrls.mpr ⟨a, ha, hsrc⟩
  have given : ∀ p ∈ reported (kept lines), r ∈ edgeTimes first es p := by
    intro p hp
    exact .inr ((h.entered _).mpr ⟨(mem_entries_hyperlink now).mpr hp, rfl⟩)
  constructor
  case pages =>
    intro url t ht
    have given : t ∈ pageTimes first es url :=
      .inr (List.mem_map_of_mem ((h.entered (_, r)).mpr ⟨ht, rfl⟩))
    obtain ⟨link, hl, rfl⟩ := h.grown.page_held url ⟨t, given⟩
    have bears : (link.url, link.retrievedAt) ∈ last.retrievals := by
      rw [h.retrievals]
      exact ⟨link, hl, rfl, rfl⟩
    obtain ⟨link', hl', hurl, htime⟩ := bears
    refine ⟨link', hl', hurl, ?_⟩
    rw [htime]
    exact (h.grown.page_time link hl).2 given
  case late =>
    intro p hp edge he
    have bears := (h.confirmations p edge.updatedAt).mp ⟨edge, he, rfl⟩
    exact (h.grown.mem_confirmations.mp bears.1).2 (given p hp)
  case joined =>
    intro p hp
    obtain ⟨edge, he⟩ := h.grown.edge_held p ⟨r, given p hp⟩
    by_cases hearly : prune = true ∧ edge.updatedAt < now
    · have late : r ≤ edge.updatedAt := (h.grown.edge_time p edge he).2 (given p hp)
      exact .inr ⟨hearly.1, Std.lt_of_le_of_lt late hearly.2⟩
    · have left : (p, edge.updatedAt) ∈ last.confirmations :=
        (h.confirmations p _).mpr ⟨⟨edge, he, rfl⟩, fun hprune _ =>
          Int64.not_lt.mp fun hlt => hearly ⟨hprune, hlt⟩⟩
      obtain ⟨edge', he', -⟩ := left
      exact .inl ⟨edge', he'⟩
  case pruned =>
    intro hprune a ha page hn edge he
    obtain ⟨p, hp⟩ := sound.exists_joins he
    have hpage : edge.src = page := sound.edge_src page edge he
    have hsrc : p.1 = a.src := hp.src.url_eq sound (hpage ▸ hn)
    have bears := (h.confirmations p edge.updatedAt).mp ⟨edge, hp, rfl⟩
    exact bears.2 hprune (mem_sourceUrls.mpr ⟨a, ha, hsrc.symm⟩)

/-! ## 2. Storing the entries again -/

/-- **The content with some edges more**, each at the end of the list of a page that is pruned, and
    too early to stay. -/
structure Overlaid (said : List Adjacency) (now r : Stamp) (prune : Bool) (base c : Content) :
    Prop where
  links : c.links = base.links
  edges : ∀ page, ∃ extra, c.edgesFrom page = base.edgesFrom page ++ extra ∧
    ∀ edge ∈ extra, edge.updatedAt = r ∧ r < now ∧ prune = true ∧ ∃ a ∈ said, base.Named page a.src

theorem Overlaid.refl (c : Content) : Overlaid said now r prune c c :=
  ⟨rfl, fun _ => ⟨[], (List.append_nil _).symm, fun _ h => absurd h List.not_mem_nil⟩⟩

theorem Overlaid.named_iff (h : Overlaid said now r prune base c) {id : Ident} {url : String} :
    c.Named id url ↔ base.Named id url := by
  unfold Content.Named
  rw [h.links]

/-- A page that is stored again is as it was. -/
theorem Overlaid.storePage (h : Overlaid said now r prune base c)
    (absorbed : Absorbed said now r prune base) (sound : c.Sound) {url : String} {t : Stamp}
    (asked : .page url t ∈ entries now said) {stored : Link}
    (hstored : c.LinkStored (.unstored url t) (.ok stored) c') : c' = c := by
  obtain ⟨link, hl, hurl, hlate⟩ := absorbed.pages url t asked
  rw [← h.links] at hl
  cases hstored with
  | created new _ _ => exact absurd hurl (new link hl)
  | @refreshed old held hu =>
    have hold : link = old := sound.link_url link hl old held (hurl.trans hu.symm)
    have same : (⟨old.id, url, max t old.retrievedAt⟩ : Link) = old :=
      Link.ext rfl hu.symm (Stamp.max_eq_right (hold ▸ hlate))
    change c.putLink ⟨old.id, url, max t old.retrievedAt⟩ = c
    rw [same]
    exact Content.putLink_self sound held

/-- A hyperlink that is stored again is as it was, or else is one of those to be pruned. -/
theorem Overlaid.storeEdge (h : Overlaid said now r prune base c)
    (absorbed : Absorbed said now r prune base) (sound : c.Sound) {p : String × String}
    (asked : p ∈ reported said) {src dst : Ident} (hsrc : c.Named src p.1) (hdst : c.Named dst p.2)
    {stored : Edge} (hstored : c.EdgeStored r (.unstored src dst) (.ok stored) c') :
    Overlaid said now r prune base c' := by
  obtain ⟨extra, hextra, early⟩ := h.edges src
  cases hstored with
  | @refreshed old held hd =>
    have hold : old.src = src := sound.edge_src src old held
    have late : r ≤ old.updatedAt := by
      rcases List.mem_append.mp (hextra ▸ held) with hbase | hnew
      · exact absorbed.late p asked old
          ⟨hold ▸ hbase, hold ▸ h.named_iff.mp hsrc, hd ▸ h.named_iff.mp hdst⟩
      · exact Int64.le_of_eq (early old hnew).1.symm
    have same : { old with updatedAt := max old.updatedAt r } = old :=
      Edge.ext rfl rfl rfl (Stamp.max_eq_left late)
    rw [same, Content.refreshEdge_self sound (hold ▸ held)]
    exact h
  | @created id _ _ new ne_nil unused =>
    -- the base does not join the pages, so this one goes as soon as the import prunes
    have missing : ¬∃ edge, base.Joins p edge := by
      rintro ⟨edge, he⟩
      have hs : edge.src = src := (h.named_iff.mpr he.src).id_eq sound hsrc
      have mem : edge ∈ c.edgesFrom src := by
        rw [hextra]
        exact List.mem_append_left _ (hs ▸ he.mem)
      exact new edge mem ((h.named_iff.mpr he.dst).id_eq sound hdst)
    obtain ⟨hprune, hearly⟩ := (absorbed.joined p asked).resolve_left missing
    obtain ⟨a, ha, hp, -⟩ := asked
    refine ⟨h.links, fun page => ?_⟩
    rw [Content.edgesFrom_addEdge]
    split
    · rename_i hpage
      subst hpage
      refine ⟨extra ++ [_], by rw [← List.append_assoc, ← hextra]; rfl, fun edge he => ?_⟩
      rcases List.mem_append.mp he with he | he
      · exact early edge he
      · rw [List.mem_singleton.mp he]
        exact ⟨rfl, hearly, hprune, a, ha, h.named_iff.mp (hp ▸ hsrc)⟩
    · exact h.edges page

section

variable {σ : Type} [LinkStore σ] [LawfulStore σ] {s t u : Session σ}

theorem Overlaid.enter (hv : Valid s.store) (h : Overlaid said now r prune base (content s.store))
    (absorbed : Absorbed said now r prune base) (reading : s.supply.now = r) {entry : Entry}
    (asked : entry ∈ entries now said) {call : Call} (asks : entry.Asks (content s.store) call)
    {reply : Reply} (stored : s.answer call = .ok reply) :
    Overlaid said now r prune base (content (s.after call).store) := by
  have sound := LawfulStore.sound hv
  cases asks with
  | page url t =>
    obtain ⟨link, -, ha⟩ := LawfulStore.exists_linkStored hv stored
    rw [h.storePage absorbed sound asked ha]
    exact h
  | @hyperlink src dst p q hsrc hdst =>
    obtain ⟨edge, -, ha⟩ := LawfulStore.exists_edgeStored hv stored
    rw [reading] at ha
    exact h.storeEdge absorbed sound (p := (p, q)) ((mem_entries_hyperlink now).mp asked) hsrc hdst
      ha

/-- **Storing entries of the lines again**, under the same reading of the clock. -/
theorem Overlaid.entered (hv : Valid s.store) (h : Overlaid said now r prune base (content s.store))
    (absorbed : Absorbed said now r prune base) (still : ∀ n, s.supply.clock n = r)
    {es : List (Entry × Stamp)} (run : Entered s es t)
    (asked : ∀ entry ∈ es.map Prod.fst, entry ∈ entries now said) :
    Overlaid said now r prune base (content t.store) := by
  induction run with
  | nil s => exact h
  | @cons s _ entry call _ _ asks stored _ ih =>
    have carried := LawfulStore.carried_after hv call
    have next := h.enter hv absorbed (still _) (asked entry List.mem_cons_self) asks stored
    exact ih carried.valid next (carried.later.clock ▸ still) fun e he =>
      asked e (List.mem_cons_of_mem _ he)

/-! ## 3. Pruning again -/

/-- **Pruning the pages of the lines again** leaves what the first import left. -/
theorem Overlaid.prune_eq {lines : List Line} {p : Progress} (hv : Valid t.store)
    (h : Overlaid (kept lines) now r prune base (content t.store))
    (absorbed : Absorbed (kept lines) now r prune base) (tally : Tally lines p (content t.store))
    (run : (pruned prune p).forM (pruneSource now) t = .ok () u) : content u.store = base := by
  obtain ⟨-, hlinks, hedges⟩ := edgesFrom_of_prune hv run
  refine Content.ext (hlinks.trans h.links) (funext fun page => ?_)
  obtain ⟨extra, hextra, early⟩ := h.edges page
  rw [hedges, hextra]
  split
  · rename_i hid
    obtain ⟨hprune, hnoted⟩ := mem_pruned.mp hid
    obtain ⟨a, ha, hn⟩ := tally.noted page hnoted
    have stay : (base.edgesFrom page).filter (fun e => now ≤ e.updatedAt) = base.edgesFrom page :=
      List.filter_eq_self.mpr fun e he =>
        decide_eq_true (absorbed.pruned hprune a ha page (h.named_iff.mp hn) e he)
    have go : extra.filter (fun e => now ≤ e.updatedAt) = [] := by
      refine List.filter_eq_nil_iff.mpr fun e he hlate => ?_
      obtain ⟨htime, hearly, -⟩ := early e he
      exact Int64.not_le.mpr (htime ▸ hearly) (of_decide_eq_true hlate)
    rw [List.filter_append, stay, go, List.append_nil]
  · rename_i hid
    have none : extra = [] := by
      refine List.eq_nil_iff_forall_not_mem.mpr fun e he => hid ?_
      obtain ⟨-, -, hprune, a, ha, hn⟩ := early e he
      obtain ⟨id, hnoted, hn'⟩ := tally.sources a ha
      have same : id = page := hn'.id_eq (LawfulStore.sound hv) (h.named_iff.mpr hn)
      exact mem_pruned.mpr ⟨hprune, same ▸ hnoted⟩
    rw [none, List.append_nil]

theorem carried_of_prune {ids : List Ident} (hv : Valid t.store)
    (run : ids.forM (pruneSource now) t = .ok () u) : Carried t u := by
  induction ids generalizing t with
  | nil =>
    obtain ⟨-, rfl⟩ := Action.pure_eq_ok run
    exact ⟨hv, .refl _⟩
  | cons id ids ih =>
    obtain ⟨_, t', hfirst, run⟩ := Action.bind_eq_ok run
    obtain ⟨carried, -⟩ := LawfulStore.staleRemoved hv (Action.mapError_eq_ok hfirst)
    have rest := ih carried.valid run
    exact ⟨rest.valid, carried.later.trans rest.later⟩

/-- An import leaves a valid store and a supply that only moved on. -/
theorem carried_of_importLines (hv : Valid s.store) {lines : List Line} {summary : ImportSummary}
    (run : importLines lines now prune s = .ok summary u) : Carried s u := by
  obtain ⟨es, p, t, entered, -, -, hprune, -⟩ := stages_of_importLines hv run
  have first := entered.carried hv
  have rest := carried_of_prune first.valid hprune
  exact ⟨rest.valid, first.later.trans rest.later⟩

/-- An import of lines that are taken up already leaves all records as they are. -/
theorem content_eq_of_absorbed (hv : Valid s.store) {lines : List Line} {summary : ImportSummary}
    (absorbed : Absorbed (kept lines) now r prune (content s.store))
    (still : ∀ n, s.supply.clock n = r)
    (run : importLines lines now prune s = .ok summary u) :
    content u.store = content s.store := by
  obtain ⟨es, p, t, entered, done, tally, hprune, -⟩ := stages_of_importLines hv run
  have overlaid := (Overlaid.refl (content s.store)).entered hv absorbed still entered fun e he =>
    done ▸ he
  exact overlaid.prune_eq (entered.carried hv).valid absorbed tally hprune

end

/-- **Importing the same lines again changes nothing.** Of two imports that follow each other, with
    the same lines, time and choice to prune, and under a clock that stands still, from any state
    that calls led to: if both succeed, the second one reports what the first one did, and leaves
    all pages and hyperlinks as it found them. -/
theorem unchanged_of_second_import (b : Backend) (supply : Supply) (s : Session b.Store)
    (reached : Session.Reached ⟨b.empty, supply⟩ s) (r : Stamp) (next again : Supply)
    (still : ∀ n, next.clock n = r) (still' : ∀ n, again.clock n = r) (lines : List Line)
    (now : Stamp) (prune : Bool) (summary summary' : ImportSummary) (mid last : Session b.Store)
    (run : importLines lines now prune ⟨s.store, next⟩ = .ok summary mid)
    (run' : importLines lines now prune ⟨mid.store, again⟩ = .ok summary' last) :
    summary' = summary ∧ Backend.content last.store = Backend.content mid.store := by
  have hv := LawfulStore.valid_of_reached reached
  have hv' := (carried_of_importLines (s := ⟨s.store, next⟩) hv run).valid
  obtain ⟨⟨es, c, settled⟩, counted, hpruned⟩ :=
    settled_of_importLines (s := ⟨s.store, next⟩) hv still run
  obtain ⟨-, counted', hpruned'⟩ :=
    settled_of_importLines (s := ⟨mid.store, again⟩) hv' still' run'
  have absorbed := settled.absorbed (LawfulStore.sound hv')
  exact ⟨counted'.eq_of_perm (.refl lines) counted (hpruned'.trans hpruned.symm),
    content_eq_of_absorbed (s := ⟨mid.store, again⟩) hv' absorbed still' run'⟩

/-- A page links to a second one, as was confirmed at time 12. A crawl that names it with a link to
    a third one is imported twice at time 9, when the clock shows 5. Each import creates the new
    hyperlink and prunes it. -/
theorem unchanged_of_pruned_again :
    let first : Session Memory := ⟨Memory.empty, ⟨fun _ => 12, Ident.ofNat, 0, 0⟩⟩
    let s := first.afterAll [.upsertLink (.unstored "http://[::1]/" 0),
      .upsertLink (.unstored "http://[::2]/" 0), .upsertEdge (.unstored (.ofNat 1) (.ofNat 2))]
    let next : Supply := ⟨fun _ => 5, fun n => .ofNat (n + 9), 0, 0⟩
    let lines : List Line := [.ok "http://[::1] http://[::3] http://[::2]"]
    ∃ summary, ∃ mid last : Session Memory,
      importLines lines 9 true ⟨s.store, next⟩ = .ok summary mid ∧
        importLines lines 9 true mid = .ok summary last ∧
        last.store.content = mid.store.content ∧ summary = ⟨1, 0, 3, 2, 1⟩ ∧
        mid.answer (.edges .nil .max 99) = .ok (.edges [⟨.ofNat 3, .ofNat 1, .ofNat 2, 12⟩]) ∧
        last.supply.draws = mid.supply.draws + 1 := by
  intro first s next lines
  have reached : first.Reached s := Session.Reached.start.afterAll _
  have hv : Valid s.store := LawfulStore.valid_of_reached reached
  have still : ∀ n, next.clock n = 5 := fun _ => rfl
  let mid := Action.after (importLines lines 9 true) ⟨s.store, next⟩
  have answer : (Action.answer (importLines lines 9 true) ⟨s.store, next⟩).toOption =
      some ⟨1, 0, 3, 2, 1⟩ := by
    decide +kernel
  have answer' : (Action.answer (importLines lines 9 true) mid).toOption =
      some ⟨1, 0, 3, 2, 1⟩ := by
    decide +kernel
  have edges : (mid.answer (.edges .nil .max 99)).toOption =
      some (.edges [⟨.ofNat 3, .ofNat 1, .ofNat 2, 12⟩]) := by
    decide +kernel
  have draws : (Action.after (importLines lines 9 true) mid).supply.draws =
      mid.supply.draws + 1 := by
    decide +kernel
  have hmid : mid = Action.after (importLines lines 9 true) ⟨s.store, next⟩ := rfl
  -- the imports are not to be run again
  clear_value mid lines next s
  obtain ⟨_, run⟩ := Action.exists_of_answer answer
  obtain ⟨last, run'⟩ := Action.exists_of_answer answer'
  rw [Action.after_of_ok run] at hmid
  subst hmid
  rw [Action.after_of_ok run'] at draws
  have later := (carried_of_importLines (s := ⟨s.store, next⟩) hv run).later
  have still' : ∀ n, mid.supply.clock n = 5 := later.clock ▸ still
  obtain ⟨-, same⟩ := unchanged_of_second_import .memory _ s reached 5 next mid.supply still still'
    lines 9 true _ _ mid last run run'
  exact ⟨_, mid, last, run, run', same, rfl, eq_ok_of_toOption edges, draws⟩

end CrawlGraph.Ingest
