import CrawlGraph.Proofs.Ingest.Entries

/-!
# What an import stores and reports

A URL can occur in a crawl result any number of times, as a source and as a destination, and it may
be known from before. Each occurrence is stored on its own. What is left in the end depends only on
which entries there were: a page bears the latest of its times, and so does a hyperlink.

1. The times that pages and hyperlinks were given, and `Grown`, what a store holds after some
   entries.
2. One more entry.
3. All entries of an import.
4. `Counted` and `Imported`, what an import reports and leaves, and `imported_of_importLines`.
-/

namespace CrawlGraph.Ingest

open LawfulStore (content Valid Carried)

/-! ## 1. Given times -/

/-- The times that a page was given: the one from before, and those of the entries. -/
def pageTimes (first : Content) (es : List (Entry × Stamp)) (url : String) : Set Stamp :=
  {t | (url, t) ∈ first.retrievals ∨ .page url t ∈ es.map Prod.fst}

/-- The times that a hyperlink was given: the one from before, and the readings of the clock at its
    entries. -/
def edgeTimes (first : Content) (es : List (Entry × Stamp)) (p : String × String) : Set Stamp :=
  {t | (p, t) ∈ first.confirmations ∨ (.hyperlink p.1 p.2, t) ∈ es}

/-- **What a store holds after some entries.** Pages and hyperlinks are held if they were held
    before or are among the entries. They bear the latest time that they were given, and those from
    before keep their identifiers. -/
structure Grown (first : Content) (es : List (Entry × Stamp)) (c : Content) : Prop where
  named : ∀ id url, first.Named id url → c.Named id url
  page_held : ∀ url, (pageTimes first es url).Nonempty → ∃ link ∈ c.links, link.url = url
  page_time : ∀ link ∈ c.links, IsGreatest (pageTimes first es link.url) link.retrievedAt
  edge_held : ∀ p, (edgeTimes first es p).Nonempty → ∃ edge, c.Joins p edge
  edge_time : ∀ p edge, c.Joins p edge → IsGreatest (edgeTimes first es p) edge.updatedAt
  edge_ident : ∀ p old edge, first.Joins p old → c.Joins p edge → edge.id = old.id

variable {first c c' : Content} {es : List (Entry × Stamp)}

/-- The latest of some times is the only one. -/
theorem latest_unique {times : Set Stamp} {t t' : Stamp} (h : IsGreatest times t)
    (h' : IsGreatest times t') : t = t' :=
  Int64.le_antisymm (h'.2 h.1) (h.2 h'.1)

/-- A time more is the latest one, or else the latest one before it is. -/
theorem latest_insert {times times' : Set Stamp} {t last : Stamp}
    (times_iff : ∀ x, x ∈ times' ↔ x ∈ times ∨ x = t)
    (h : (times = ∅ ∧ last = t) ∨ ∃ old, IsGreatest times old ∧ last = max old t) :
    IsGreatest times' last := by
  rcases h with ⟨rfl, rfl⟩ | ⟨old, latest, rfl⟩
  · refine ⟨(times_iff last).mpr (.inr rfl), fun x hx => ?_⟩
    rcases (times_iff x).mp hx with hx | rfl
    · exact absurd hx (Set.notMem_empty x)
    · exact Int64.le_refl x
  · refine ⟨(times_iff _).mpr ?_, fun x hx => ?_⟩
    · rcases Stamp.max_eq_or old t with h | h
      · rw [h]
        exact .inl latest.1
      · exact .inr h
    · rcases (times_iff x).mp hx with hx | rfl
      · exact Int64.le_trans (latest.2 hx) (Stamp.le_max_left old t)
      · exact Stamp.le_max_right old x

/-- Before the first entry, a store holds what it holds. -/
theorem grown_nil (sound : first.Sound) : Grown first [] first where
  named _ _ hn := hn
  page_held url h := by
    obtain ⟨t, ⟨link, hl, hurl, -⟩ | h⟩ := h
    · exact ⟨link, hl, hurl⟩
    · exact absurd h List.not_mem_nil
  page_time link hl := by
    refine ⟨.inl ⟨link, hl, rfl, rfl⟩, fun t ht => ?_⟩
    rcases ht with ⟨other, ho, hurl, rfl⟩ | h
    · rw [sound.link_url other ho link hl hurl]
      exact Int64.le_refl _
    · exact absurd h List.not_mem_nil
  edge_held p h := by
    obtain ⟨t, ⟨edge, he, -⟩ | h⟩ := h
    · exact ⟨edge, he⟩
    · exact absurd h List.not_mem_nil
  edge_time p edge he := by
    refine ⟨.inl ⟨edge, he, rfl⟩, fun t ht => ?_⟩
    rcases ht with ⟨other, ho, rfl⟩ | h
    · rw [ho.unique sound he]
      exact Int64.le_refl _
    · exact absurd h List.not_mem_nil
  edge_ident p old edge ho he := by rw [ho.unique sound he]

/-! ## 2. One more entry -/

theorem mem_pageTimes_append {entry : Entry} {now : Stamp} {url : String} {t : Stamp} :
    t ∈ pageTimes first (es ++ [(entry, now)]) url ↔
      t ∈ pageTimes first es url ∨ entry = .page url t := by
  unfold pageTimes
  simp only [Set.mem_ofPred_eq, List.map_append, List.mem_append, List.map_cons, List.map_nil,
    List.mem_singleton, or_assoc, eq_comm (a := entry)]

theorem mem_edgeTimes_append {entry : Entry} {now : Stamp} {p : String × String} {t : Stamp} :
    t ∈ edgeTimes first (es ++ [(entry, now)]) p ↔
      t ∈ edgeTimes first es p ∨ (entry = .hyperlink p.1 p.2 ∧ t = now) := by
  unfold edgeTimes
  simp only [Set.mem_ofPred_eq, List.mem_append, List.mem_singleton, Prod.mk.injEq, or_assoc,
    eq_comm (a := entry)]

/-- An entry that is not the page leaves its times alone. -/
theorem pageTimes_append_of_ne {entry : Entry} {url : String} (ne : ∀ t, entry ≠ .page url t)
    (now : Stamp) : pageTimes first (es ++ [(entry, now)]) url = pageTimes first es url := by
  ext t
  rw [mem_pageTimes_append]
  simp only [ne, or_false]

/-- An entry that is not the hyperlink leaves its times alone. -/
theorem edgeTimes_append_of_ne {entry : Entry} {p : String × String}
    (ne : entry ≠ .hyperlink p.1 p.2) (now : Stamp) :
    edgeTimes first (es ++ [(entry, now)]) p = edgeTimes first es p := by
  ext t
  rw [mem_edgeTimes_append]
  simp only [ne, false_and, or_false]

/-- A page that is stored bears the latest of its times, with the given one among them. -/
theorem Grown.latest_page (h : Grown first es c) {url : String} {t : Stamp} {stored : Link}
    (hstored : c.LinkStored (.unstored url t) (.ok stored) c') (now : Stamp) :
    IsGreatest (pageTimes first (es ++ [(.page url t, now)]) url) stored.retrievedAt := by
  have times_iff : ∀ x, x ∈ pageTimes first (es ++ [(.page url t, now)]) url ↔
      x ∈ pageTimes first es url ∨ x = t := by
    intro x
    rw [mem_pageTimes_append, Entry.page.injEq, and_iff_right rfl, eq_comm (a := t)]
  refine latest_insert times_iff ?_
  rcases hstored.time with ⟨new, htime⟩ | ⟨old, hold, hurl, htime⟩
  · refine .inl ⟨Set.not_nonempty_iff_eq_empty.mp fun hne => ?_, htime⟩
    obtain ⟨other, ho, hu⟩ := h.page_held url hne
    exact new other ho hu
  · have latest := h.page_time old hold
    rw [hurl] at latest
    exact .inr ⟨old.retrievedAt, latest, htime.trans (Stamp.max_comm _ _)⟩

theorem Grown.storePage (sound : c.Sound) (sound' : c'.Sound) (h : Grown first es c) {url : String}
    {t : Stamp} {stored : Link} (hstored : c.LinkStored (.unstored url t) (.ok stored) c')
    (now : Stamp) : Grown first (es ++ [(.page url t, now)]) c' := by
  obtain ⟨named, hnamed, hurl, -⟩ := hstored.grows sound
  have edges : ∀ p, edgeTimes first (es ++ [(.page url t, now)]) p = edgeTimes first es p := by
    intro p
    have ne : Entry.page url t ≠ .hyperlink p.1 p.2 := nofun
    exact edgeTimes_append_of_ne ne now
  have links : ∀ link, link ∈ c'.links → link = stored ∨ (link ∈ c.links ∧ link.url ≠ url) := by
    intro link hl
    cases hstored with
    | refreshed held hu => exact hl
    | created new ne_nil unused => exact hl
  constructor
  case named => exact fun id u hn => named id u (h.named id u hn)
  case page_held =>
    rintro u ⟨x, hx⟩
    rcases mem_pageTimes_append.mp hx with hx | hx
    · obtain ⟨link, hl, rfl⟩ := h.page_held u ⟨x, hx⟩
      obtain ⟨link', hl', -, hu'⟩ := named link.id link.url ⟨link, hl, rfl, rfl⟩
      exact ⟨link', hl', hu'⟩
    · cases hx
      obtain ⟨link', hl', -, hu'⟩ := hnamed
      exact ⟨link', hl', hu'⟩
  case page_time =>
    intro link hl
    rcases links link hl with rfl | ⟨hold, hne⟩
    · rw [hurl]
      exact h.latest_page hstored now
    · rw [pageTimes_append_of_ne fun t he => hne (Entry.page.inj he).1.symm]
      exact h.page_time link hold
  case edge_held =>
    intro p hp
    rw [edges] at hp
    obtain ⟨edge, he⟩ := h.edge_held p hp
    exact ⟨edge, (hstored.joins_iff sound sound').mpr he⟩
  case edge_time =>
    intro p edge he
    rw [edges]
    exact h.edge_time p edge ((hstored.joins_iff sound sound').mp he)
  case edge_ident =>
    intro p old edge ho he
    exact h.edge_ident p old edge ho ((hstored.joins_iff sound sound').mp he)

/-- A hyperlink that is stored bears the latest of its times, with the reading of the clock among
    them, and keeps its identifier from before. -/
theorem Grown.latest_hyperlink (sound : c.Sound) (h : Grown first es c) {p : String × String}
    {src dst : Ident} (hsrc : c.Named src p.1) (hdst : c.Named dst p.2) {now : Stamp}
    {stored : Edge} (hstored : c.EdgeStored now (.unstored src dst) (.ok stored) c') :
    IsGreatest (edgeTimes first (es ++ [(.hyperlink p.1 p.2, now)]) p) stored.updatedAt ∧
      ∀ old, first.Joins p old → stored.id = old.id := by
  have times_iff : ∀ x, x ∈ edgeTimes first (es ++ [(.hyperlink p.1 p.2, now)]) p ↔
      x ∈ edgeTimes first es p ∨ x = now := by
    intro x
    rw [mem_edgeTimes_append, and_iff_right rfl]
  rcases hstored.time sound hsrc hdst with ⟨new, htime⟩ | ⟨held, hheld, hid, htime⟩
  · have none : ¬(edgeTimes first es p).Nonempty := by
      intro hne
      obtain ⟨other, ho⟩ := h.edge_held p hne
      exact new other ho
    refine ⟨latest_insert times_iff (.inl ⟨Set.not_nonempty_iff_eq_empty.mp none, htime⟩), ?_⟩
    intro old ho
    exact absurd ⟨old.updatedAt, .inl ⟨old, ho, rfl⟩⟩ none
  · refine ⟨latest_insert times_iff (.inr ⟨held.updatedAt, h.edge_time p held hheld, htime⟩), ?_⟩
    intro old ho
    rw [hid]
    exact h.edge_ident p old held ho hheld

theorem Grown.storeEdge (sound : c.Sound) (sound' : c'.Sound) (h : Grown first es c)
    {p : String × String} {src dst : Ident} (hsrc : c.Named src p.1) (hdst : c.Named dst p.2)
    {now : Stamp} {stored : Edge}
    (hstored : c.EdgeStored now (.unstored src dst) (.ok stored) c') :
    Grown first (es ++ [(.hyperlink p.1 p.2, now)]) c' := by
  have hc := hstored.confirmed sound
  have joins : ∀ q edge, c'.Joins q edge ↔ (q = p ∧ edge = stored) ∨ (q ≠ p ∧ c.Joins q edge) :=
    fun q edge => hstored.joins_iff sound sound' hsrc hdst
  have pages : ∀ url, pageTimes first (es ++ [(.hyperlink p.1 p.2, now)]) url =
      pageTimes first es url := by
    intro url
    have ne : ∀ t, Entry.hyperlink p.1 p.2 ≠ .page url t := fun _ => nofun
    exact pageTimes_append_of_ne ne now
  have others : ∀ q, q ≠ p → edgeTimes first (es ++ [(.hyperlink p.1 p.2, now)]) q =
      edgeTimes first es q := by
    intro q hqp
    refine edgeTimes_append_of_ne (fun he => hqp ?_) now
    obtain ⟨h1, h2⟩ := Entry.hyperlink.inj he
    exact Prod.ext h1.symm h2.symm
  obtain ⟨latest, ident⟩ := h.latest_hyperlink sound hsrc hdst hstored
  constructor
  case named => exact fun id u hn => hc.named_iff.mpr (h.named id u hn)
  case page_held =>
    intro url hu
    rw [pages] at hu
    rw [hc.links]
    exact h.page_held url hu
  case page_time =>
    intro link hl
    rw [pages]
    rw [hc.links] at hl
    exact h.page_time link hl
  case edge_held =>
    intro q hq
    by_cases hqp : q = p
    · exact ⟨stored, (joins q stored).mpr (.inl ⟨hqp, rfl⟩)⟩
    · rw [others q hqp] at hq
      obtain ⟨edge, he⟩ := h.edge_held q hq
      exact ⟨edge, (joins q edge).mpr (.inr ⟨hqp, he⟩)⟩
  case edge_time =>
    intro q edge he
    rcases (joins q edge).mp he with ⟨rfl, rfl⟩ | ⟨hqp, he⟩
    · exact latest
    · rw [others q hqp]
      exact h.edge_time q edge he
  case edge_ident =>
    intro q old edge ho he
    rcases (joins q edge).mp he with ⟨rfl, rfl⟩ | ⟨-, he⟩
    · exact ident old ho
    · exact h.edge_ident q old edge ho he

/-! ## 3. All entries -/

section

variable {σ : Type} [LinkStore σ] [LawfulStore σ] {s t : Session σ}

theorem Grown.enter (hv : Valid s.store) (h : Grown first es (content s.store)) {entry : Entry}
    {call : Call} {reply : Reply} (asks : entry.Asks (content s.store) call)
    (stored : s.answer call = .ok reply) :
    Grown first (es ++ [(entry, s.supply.now)]) (content (s.after call).store) := by
  have sound := LawfulStore.sound hv
  have sound' := LawfulStore.sound (LawfulStore.valid_after call hv)
  cases asks with
  | page url retrievedAt =>
    obtain ⟨link, -, ha⟩ := LawfulStore.exists_linkStored hv stored
    exact h.storePage sound sound' ha s.supply.now
  | @hyperlink src dst p q hsrc hdst =>
    obtain ⟨edge, -, ha⟩ := LawfulStore.exists_edgeStored hv stored
    exact h.storeEdge sound sound' (p := (p, q)) hsrc hdst ha

theorem Grown.entered (hv : Valid s.store) (h : Grown first es (content s.store))
    {es' : List (Entry × Stamp)} (run : Entered s es' t) :
    Grown first (es ++ es') (content t.store) := by
  induction run generalizing es with
  | nil s => rwa [List.append_nil]
  | cons asks stored rest ih =>
    have hrest := ih (LawfulStore.valid_after _ hv) (h.enter hv asks stored)
    rwa [List.append_assoc] at hrest

/-- **Storing entries** from a valid store. -/
theorem grown_of_entered (hv : Valid s.store) (run : Entered s es t) :
    Grown (content s.store) es (content t.store) :=
  (grown_nil (LawfulStore.sound hv)).entered hv run

end

/-- A page bears a time just if it is the latest one that it was given. -/
theorem Grown.mem_retrievals (h : Grown first es c) {url : String} {t : Stamp} :
    (url, t) ∈ c.retrievals ↔ IsGreatest (pageTimes first es url) t := by
  constructor
  · rintro ⟨link, hl, rfl, rfl⟩
    exact h.page_time link hl
  · intro latest
    obtain ⟨link, hl, rfl⟩ := h.page_held url ⟨t, latest.1⟩
    exact ⟨link, hl, rfl, latest_unique (h.page_time link hl) latest⟩

/-- A hyperlink bears a time just if it is the latest one that it was given. -/
theorem Grown.mem_confirmations (h : Grown first es c) {p : String × String} {t : Stamp} :
    (p, t) ∈ c.confirmations ↔ IsGreatest (edgeTimes first es p) t := by
  constructor
  · rintro ⟨edge, he, rfl⟩
    exact h.edge_time p edge he
  · intro latest
    obtain ⟨edge, he⟩ := h.edge_held p ⟨t, latest.1⟩
    exact ⟨edge, he, latest_unique (h.edge_time p edge he) latest⟩

/-! ## 4. An import that does not prune -/

/-- **What an import reports** about its lines. -/
structure Counted (given : List Line) (summary : ImportSummary) : Prop where
  lines : summary.lines = given.length
  skipped : summary.skipped = given.countP fun line => (kept? line).isNone
  edges : summary.edges = ((kept given).map fun a => a.dsts.length).sum
  /-- Each URL counts once. -/
  links : summary.links = (mentioned (kept given)).toFinset.card

/-- **What an import leaves** whose lines say this, and that does not prune. -/
structure Imported (now : Stamp) (said : List Adjacency) (first last : Content) : Prop where
  /-- The pages are those from before and those that are mentioned. -/
  urls : ∀ url, (∃ id, last.Named id url) ↔ (∃ id, first.Named id url) ∨ url ∈ mentioned said
  /-- Pages keep their identifiers. -/
  named : ∀ id url, first.Named id url → last.Named id url
  /-- A page bears the latest of its time from before, `now` if it is a source, and 0 if it is a
      destination. -/
  retrieved : ∀ link ∈ last.links, IsGreatest {t | (link.url, t) ∈ first.retrievals ∨
    (t = now ∧ ∃ a ∈ said, a.src = link.url) ∨ (t = 0 ∧ ∃ a ∈ said, link.url ∈ a.dsts)}
      link.retrievedAt
  /-- Those pages are joined that were joined before and those that a line reports to be. -/
  pairs : ∀ p, (∃ edge, last.Joins p edge) ↔ (∃ edge, first.Joins p edge) ∨ p ∈ reported said
  /-- There is one edge for each pair of joined pages. -/
  once : ∀ p edge other, last.Joins p edge → last.Joins p other → edge = other
  /-- There are no other edges. -/
  joined : ∀ page, ∀ edge ∈ last.edgesFrom page, ∃ p, last.Joins p edge
  /-- Nothing is listed twice. -/
  sound : last.Sound
  /-- Hyperlinks keep their identifiers. -/
  idents : ∀ p old edge, first.Joins p old → last.Joins p edge → edge.id = old.id
  /-- Pages that are not mentioned are as they were. -/
  page_kept : ∀ link ∈ first.links, link.url ∉ mentioned said → link ∈ last.links
  /-- Hyperlinks that are not reported are as they were. -/
  edge_kept : ∀ p edge, first.Joins p edge → p ∉ reported said → last.Joins p edge

/-- A list without its repetitions. -/
theorem length_eraseDups {α : Type} [DecidableEq α] (l : List α) :
    l.eraseDups.length = l.toFinset.card := by
  induction h : l.length using Nat.strong_induction_on generalizing l with
  | _ n ih =>
    cases l with
    | nil => rfl
    | cons a l =>
      have shorter : (l.filter fun b => !b == a).length < n := by
        rw [← h]
        exact Nat.lt_succ_of_le (List.length_filter_le _ l)
      have hset : (a :: l).toFinset = insert a (l.filter fun b => !b == a).toFinset := by
        ext b
        by_cases hb : b = a <;> simp [hb]
      have hnew : a ∉ (l.filter fun b => !b == a).toFinset := by simp
      rw [List.eraseDups_cons, List.length_cons, ih _ shorter _ rfl, hset,
        Finset.card_insert_of_notMem hnew]

theorem Tally.counted {lines : List Line} {p : Progress} (h : Tally lines p c) (pruned : Nat) :
    Counted lines ⟨p.lines, p.skipped, p.urls.eraseDups.length, p.edges, pruned⟩ where
  lines := h.lines
  skipped := h.skipped
  edges := h.edges
  links := by
    have same : p.urls.toFinset = (mentioned (kept lines)).toFinset := by
      ext url
      rw [List.mem_toFinset, List.mem_toFinset, h.urls]
    rw [length_eraseDups, same]

variable {now : Stamp} {said : List Adjacency}

theorem mem_mentioned {url : String} :
    url ∈ mentioned said ↔ ∃ a ∈ said, a.src = url ∨ url ∈ a.dsts := by
  simp only [mentioned, List.mem_flatMap, List.mem_cons, eq_comm (a := url)]

/-- The times that a page was given, if the entries are those of some lines. -/
theorem pageTimes_eq (done : es.map Prod.fst = entries now said) (url : String) :
    pageTimes first es url = {t | (url, t) ∈ first.retrievals ∨
      (t = now ∧ ∃ a ∈ said, a.src = url) ∨ (t = 0 ∧ ∃ a ∈ said, url ∈ a.dsts)} := by
  ext t
  unfold pageTimes
  rw [Set.mem_ofPred_eq, Set.mem_ofPred_eq, done, mem_entries_page]
  refine or_congr_right ?_
  constructor
  · rintro ⟨a, ha, ⟨rfl, ht⟩ | ⟨hd, ht⟩⟩
    · exact .inl ⟨ht, a, ha, rfl⟩
    · exact .inr ⟨ht, a, ha, hd⟩
  · rintro (⟨ht, a, ha, rfl⟩ | ⟨ht, a, ha, hd⟩)
    · exact ⟨a, ha, .inl ⟨rfl, ht⟩⟩
    · exact ⟨a, ha, .inr ⟨hd, ht⟩⟩

theorem exists_pageTime_iff (done : es.map Prod.fst = entries now said) (url : String) :
    (pageTimes first es url).Nonempty ↔
      (∃ id, first.Named id url) ∨ url ∈ mentioned said := by
  rw [pageTimes_eq done, mem_mentioned]
  constructor
  · rintro ⟨t, ⟨link, hl, hurl, -⟩ | ⟨-, a, ha, hsrc⟩ | ⟨-, a, ha, hdst⟩⟩
    · exact .inl ⟨link.id, link, hl, rfl, hurl⟩
    · exact .inr ⟨a, ha, .inl hsrc⟩
    · exact .inr ⟨a, ha, .inr hdst⟩
  · rintro (⟨id, link, hl, -, hurl⟩ | ⟨a, ha, hsrc | hdst⟩)
    · exact ⟨link.retrievedAt, .inl ⟨link, hl, hurl, rfl⟩⟩
    · exact ⟨now, .inr (.inl ⟨rfl, a, ha, hsrc⟩)⟩
    · exact ⟨0, .inr (.inr ⟨rfl, a, ha, hdst⟩)⟩

/-- The hyperlinks among the entries of lines are the reported ones. -/
theorem exists_hyperlink_iff (done : es.map Prod.fst = entries now said) {p : String × String} :
    (∃ t, (.hyperlink p.1 p.2, t) ∈ es) ↔ p ∈ reported said := by
  rw [← mem_entries_hyperlink now, ← done, List.mem_map]
  constructor
  · rintro ⟨t, ht⟩
    exact ⟨_, ht, rfl⟩
  · rintro ⟨⟨entry, t⟩, ht, rfl⟩
    exact ⟨t, ht⟩

theorem exists_edgeTime_iff (done : es.map Prod.fst = entries now said) (p : String × String) :
    (edgeTimes first es p).Nonempty ↔ (∃ edge, first.Joins p edge) ∨ p ∈ reported said := by
  rw [← exists_hyperlink_iff done]
  constructor
  · rintro ⟨t, ⟨edge, he, -⟩ | ht⟩
    · exact .inl ⟨edge, he⟩
    · exact .inr ⟨t, ht⟩
  · rintro (⟨edge, he⟩ | ⟨t, ht⟩)
    · exact ⟨edge.updatedAt, .inl ⟨edge, he, rfl⟩⟩
    · exact ⟨t, .inr ht⟩

/-- A page that no entry names is as it was. -/
theorem Grown.page_kept (sound : first.Sound) (h : Grown first es c) {link : Link}
    (hl : link ∈ first.links) (new : ∀ t, .page link.url t ∉ es.map Prod.fst) : link ∈ c.links := by
  obtain ⟨link', hl', hid, hurl⟩ := h.named link.id link.url ⟨link, hl, rfl, rfl⟩
  have latest := h.page_time link' hl'
  rw [hurl] at latest
  rcases latest.1 with ⟨old, ho, hurl', htime⟩ | ht
  · cases sound.link_url old ho link hl hurl'
    exact Link.ext hid hurl htime.symm ▸ hl'
  · exact absurd ht (new _)

/-- A hyperlink that is not among the entries is as it was. -/
theorem Grown.edge_kept (sound : first.Sound) (sound' : c.Sound) (h : Grown first es c)
    {p : String × String} {edge : Edge} (he : first.Joins p edge)
    (new : ∀ t, (.hyperlink p.1 p.2, t) ∉ es) : c.Joins p edge := by
  obtain ⟨edge', he'⟩ := h.edge_held p ⟨edge.updatedAt, .inl ⟨edge, he, rfl⟩⟩
  have hsrc : edge'.src = edge.src := he'.src.id_eq sound' (h.named _ _ he.src)
  have hdst : edge'.dst = edge.dst := he'.dst.id_eq sound' (h.named _ _ he.dst)
  rcases (h.edge_time p edge' he').1 with ⟨old, ho, htime⟩ | ht
  · cases ho.unique sound he
    exact Edge.ext (h.edge_ident p _ _ he he') hsrc hdst htime.symm ▸ he'
  · exact absurd ht (new _)

theorem Grown.imported (sound : first.Sound) (sound' : c.Sound) (h : Grown first es c)
    (done : es.map Prod.fst = entries now said) : Imported now said first c := by
  constructor
  case named => exact h.named
  case sound => exact sound'
  case idents => exact h.edge_ident
  case urls =>
    intro url
    rw [← exists_pageTime_iff done]
    constructor
    · rintro ⟨id, link, hl, -, rfl⟩
      exact ⟨link.retrievedAt, (h.page_time link hl).1⟩
    · intro hurl
      obtain ⟨link, hl, rfl⟩ := h.page_held url hurl
      exact ⟨link.id, link, hl, rfl, rfl⟩
  case retrieved =>
    intro link hl
    rw [← pageTimes_eq done]
    exact h.page_time link hl
  case pairs =>
    intro p
    rw [← exists_edgeTime_iff done]
    constructor
    · rintro ⟨edge, he⟩
      exact ⟨edge.updatedAt, (h.edge_time p edge he).1⟩
    · exact h.edge_held p
  case once => exact fun p edge other he ho => he.unique sound' ho
  case joined => exact fun page edge he => sound'.exists_joins he
  case page_kept =>
    intro link hl new
    refine h.page_kept sound hl fun t ht => new ?_
    rw [done, mem_entries_page] at ht
    obtain ⟨a, ha, ⟨hsrc, -⟩ | ⟨hdst, -⟩⟩ := ht
    · exact mem_mentioned.mpr ⟨a, ha, .inl hsrc.symm⟩
    · exact mem_mentioned.mpr ⟨a, ha, .inr hdst⟩
  case edge_kept =>
    intro p edge he new
    exact h.edge_kept sound sound' he fun t ht => new ((exists_hyperlink_iff done).mp ⟨t, ht⟩)

theorem imported_of_valid {σ : Type} [LinkStore σ] [LawfulStore σ] {s s' : Session σ}
    (hv : Valid s.store) {lines : List Line} {summary : ImportSummary}
    (run : importLines lines now false s = .ok summary s') :
    Counted lines summary ∧ summary.prunedSources = 0 ∧
      Imported now (kept lines) (content s.store) (content s'.store) := by
  obtain ⟨es, p, t, entered, done, tally, hprune, rfl⟩ := stages_of_importLines hv run
  obtain ⟨-, rfl⟩ := Action.pure_eq_ok hprune
  have sound' := LawfulStore.sound (entered.carried hv).valid
  exact ⟨tally.counted _, rfl,
    (grown_of_entered hv entered).imported (LawfulStore.sound hv) sound' done⟩

/-- **What an import stores and reports.** An import without pruning that succeeds, from any state
    that calls led to: it has counted its lines, its pages and its hyperlinks, and has added what
    they say to what was held. -/
theorem imported_of_importLines (b : Backend) (supply : Supply) (s : Session b.Store)
    (reached : Session.Reached ⟨b.empty, supply⟩ s) (next : Supply) (lines : List Line)
    (now : Stamp) (summary : ImportSummary) (s' : Session b.Store)
    (run : importLines lines now false ⟨s.store, next⟩ = .ok summary s') :
    Counted lines summary ∧ summary.prunedSources = 0 ∧
      Imported now (kept lines) (Backend.content s.store) (Backend.content s'.store) := by
  have hv := LawfulStore.valid_of_reached reached
  exact imported_of_valid (s := ⟨s.store, next⟩) hv run

/-- Two pages are known, and one links to the other. A crawl from before 1970 names the first one as
    a source, as its own destination and as a destination of a new page. -/
theorem imported_of_known_page :
    let first : Session Memory := ⟨Memory.empty, .counting⟩
    let s := first.afterAll [.upsertLink (.unstored "http://[::1]/" 3),
      .upsertLink (.unstored "http://[::2]/" 0), .upsertEdge (.unstored (.ofNat 1) (.ofNat 2))]
    let lines : List Line := [.ok "http://[::1] http://[::1] http://[::1]", .ok "# two lines",
      .ok "http://[::3] http://[::1]"]
    ∃ summary, ∃ s' : Session Memory,
      importLines lines (-5) false s = .ok summary s' ∧ summary = ⟨3, 1, 2, 3, 0⟩ ∧
        Imported (-5) (kept lines) s.store.content s'.store.content ∧
        kept lines = [⟨"http://[::1]/", ["http://[::1]/", "http://[::1]/"]⟩,
          ⟨"http://[::3]/", ["http://[::1]/"]⟩] := by
  intro first s lines
  have reached : first.Reached s := Session.Reached.start.afterAll _
  have answer : (Action.answer (importLines lines (-5) false) s).toOption =
      some ⟨3, 1, 2, 3, 0⟩ := by
    decide +kernel
  have hkept : kept lines = [⟨"http://[::1]/", ["http://[::1]/", "http://[::1]/"]⟩,
      ⟨"http://[::3]/", ["http://[::1]/"]⟩] := by
    decide +kernel
  clear_value lines s
  obtain ⟨s', run⟩ := Action.exists_of_answer answer
  obtain ⟨-, -, imported⟩ := imported_of_importLines .memory .counting s reached s.supply lines (-5)
    _ s' run
  exact ⟨_, s', run, rfl, imported, hkept⟩

end CrawlGraph.Ingest
