import CrawlGraph.Ingest.Import
import CrawlGraph.Proofs.Backends
import CrawlGraph.Proofs.Contract.Stamps

/-!
# A pruning import leaves what the crawl confirmed

An import that prunes begins at a time that no edge of the store has reached. So an edge bears that
time or a later one just if a line of the crawl result confirmed it, and pruning keeps these only.

1. `kept`, what the lines say, and `Importing`, what is true while they are stored.
2. Storing lines keeps `Importing`.
3. Pruning.
4. `confirmed_of_prune`.
-/

namespace CrawlGraph.Ingest

open LawfulStore (content)

/-! ## 1. Halfway through an import -/

/-- What a line says, if it is kept. -/
def kept? : Line → Option Adjacency
  | .ok text => Adjacency.ofLine? text
  | .error _ => none

/-- What the lines of a crawl result say. -/
def kept (lines : List Line) : List Adjacency := lines.filterMap kept?

/-- The hyperlinks that some lines report, by the URLs of their ends. -/
def reported (lines : List Adjacency) : Set (String × String) :=
  {p | ∃ a ∈ lines, a.src = p.1 ∧ p.2 ∈ a.dsts}

section

variable {σ : Type} [LinkStore σ] [LawfulStore σ]

/-- **Halfway through an import that began at `now`**, when some hyperlinks have been confirmed.
    They are just the edges that bear that time or a later one, and edges from other pages are as
    they were in the beginning. -/
structure Importing (first : Content) (now : Stamp) (pairs : Set (String × String))
    (s : Session σ) : Prop where
  valid : LawfulStore.Valid s.store
  steady : s.supply.Steady
  late : now ≤ s.supply.now
  named : ∀ id url, first.Named id url → (content s.store).Named id url
  confirmed : ∀ page, ∀ e ∈ (content s.store).edgesFrom page, now ≤ e.updatedAt →
    ∃ p ∈ pairs, (content s.store).Named page p.1 ∧ (content s.store).Named e.dst p.2
  stored : ∀ p ∈ pairs, ∃ page, (content s.store).Named page p.1 ∧
    ∃ e ∈ (content s.store).edgesFrom page, (content s.store).Named e.dst p.2 ∧ now ≤ e.updatedAt
  others : ∀ page, (∀ p ∈ pairs, ¬(content s.store).Named page p.1) →
    (content s.store).edgesFrom page = first.edgesFrom page

/-- Whether every page of one session is a page of another. -/
def Extends (s s' : Session σ) : Prop :=
  ∀ id url, (content s.store).Named id url → (content s'.store).Named id url

/-! ## 2. Storing lines -/

variable {first : Content} {now : Stamp} {pairs : Set (String × String)} {s s' : Session σ}

theorem Importing.storePage (h : Importing first now pairs s) {url : String} {t : Stamp}
    {link : Link} (run : storePage url t s = .ok link s') :
    Importing first now pairs s' ∧ Extends s s' ∧ link.url = url ∧
      (content s'.store).Named link.id url := by
  obtain ⟨carried, hstored⟩ := LawfulStore.linkStored h.valid (Action.mapError_eq_ok run)
  obtain ⟨grows, hnamed, hurl, hedges⟩ := hstored.grows (LawfulStore.sound h.valid)
  have importing : Importing first now pairs s' :=
    { valid := carried.valid
      steady := h.steady.later carried.later
      late := Int64.le_trans h.late (h.steady.now_le carried.later)
      named := fun id url hn => grows id url (h.named id url hn)
      confirmed := by
        intro page e he hlate
        rw [hedges] at he
        obtain ⟨p, hp, hpage, hdst⟩ := h.confirmed page e he hlate
        exact ⟨p, hp, grows _ _ hpage, grows _ _ hdst⟩
      stored := by
        intro p hp
        obtain ⟨page, hpage, e, he, hdst, hlate⟩ := h.stored p hp
        exact ⟨page, grows _ _ hpage, e, hedges ▸ he, grows _ _ hdst, hlate⟩
      others := by
        intro page hother
        rw [hedges]
        exact h.others page fun p hp hn => hother p hp (grows _ _ hn) }
  exact ⟨importing, grows, hurl, hnamed⟩

/-- Storing a hyperlink confirms it. -/
theorem Importing.storeEdge (h : Importing first now pairs s) {src dst : Ident}
    {p : String × String} {edge : Edge} (hsrc : (content s.store).Named src p.1)
    (hdst : (content s.store).Named dst p.2)
    (run : LinkStore.upsertEdge (.unstored src dst) s = .ok edge s') :
    Importing first now (insert p pairs) s' ∧ Extends s s' := by
  obtain ⟨carried, hstored⟩ := LawfulStore.edgeStored h.valid run
  have hc := hstored.confirmed (LawfulStore.sound h.valid)
  have grows : Extends s s' := fun _ _ hn => hc.named_iff.mpr hn
  have hlate : now ≤ edge.updatedAt := Int64.le_trans h.late hc.late
  have hedge : (content s'.store).Named edge.dst p.2 := by
    rw [hc.dst]
    exact grows _ _ hdst
  have importing : Importing first now (insert p pairs) s' :=
    { valid := carried.valid
      steady := h.steady.later carried.later
      late := Int64.le_trans h.late (h.steady.now_le carried.later)
      named := fun id url hn => grows id url (h.named id url hn)
      confirmed := by
        intro page e he hlate
        rcases hc.of_mem he with ⟨rfl, rfl⟩ | he
        · exact ⟨p, Set.mem_insert _ _, grows _ _ hsrc, hedge⟩
        · obtain ⟨q, hq, hpage, hn⟩ := h.confirmed page e he hlate
          exact ⟨q, Set.mem_insert_of_mem _ hq, grows _ _ hpage, grows _ _ hn⟩
      stored := by
        intro q hq
        rcases Set.mem_insert_iff.mp hq with rfl | hq
        · exact ⟨src, grows _ _ hsrc, edge, hc.mem, hedge, hlate⟩
        · obtain ⟨page, hpage, e, he, hn, hl⟩ := h.stored q hq
          refine ⟨page, grows _ _ hpage, ?_⟩
          rcases hc.mem_or he with ⟨rfl, hd⟩ | he
          · exact ⟨edge, hc.mem, hd ▸ grows _ _ hn, hlate⟩
          · exact ⟨e, he, grows _ _ hn, hl⟩
      others := by
        intro page hother
        have hp : page ≠ src := by
          intro h
          subst h
          exact hother p (Set.mem_insert _ _) (grows _ _ hsrc)
        rw [hc.others page hp]
        exact h.others page fun q hq hn => hother q (Set.mem_insert_of_mem _ hq) (grows _ _ hn) }
  exact ⟨importing, grows⟩

theorem Extends.trans {t : Session σ} (h : Extends s t) (h' : Extends t s') : Extends s s' :=
  fun id url hn => h' id url (h id url hn)

theorem Importing.storeDestination (h : Importing first now pairs s) {src : Link} {url : String}
    {u : Unit} (hsrc : (content s.store).Named src.id src.url)
    (run : storeDestination src url s = .ok u s') :
    Importing first now (insert (src.url, url) pairs) s' ∧ Extends s s' := by
  obtain ⟨dst, t, hpage, run⟩ := Action.bind_eq_ok run
  obtain ⟨h, grows, -, hdst⟩ := h.storePage hpage
  obtain ⟨edge, run⟩ := Action.discard_eq_ok run
  obtain ⟨h, grows'⟩ := h.storeEdge (p := (src.url, url)) (grows _ _ hsrc) hdst
    (Action.mapError_eq_ok run)
  exact ⟨h, grows.trans grows'⟩

/-- Storing the destinations of a page, one after another, confirms all hyperlinks to them. -/
theorem Importing.storeDestinations {src : Link} {dsts : List String} {u : Unit}
    (h : Importing first now pairs s) (hsrc : (content s.store).Named src.id src.url)
    (run : dsts.forM (Ingest.storeDestination src) s = .ok u s') :
    Importing first now (pairs ∪ {p | src.url = p.1 ∧ p.2 ∈ dsts}) s' ∧ Extends s s' := by
  induction dsts generalizing s pairs with
  | nil =>
    obtain ⟨-, rfl⟩ := Action.pure_eq_ok run
    refine ⟨?_, fun _ _ hn => hn⟩
    simpa using h
  | cons dst dsts ih =>
    obtain ⟨_, t, hfirst, run⟩ := Action.bind_eq_ok run
    obtain ⟨h, grows⟩ := h.storeDestination hsrc hfirst
    obtain ⟨h, grows'⟩ := ih h (grows _ _ hsrc) run
    refine ⟨?_, grows.trans grows'⟩
    have hset : insert (src.url, dst) pairs ∪ {p | src.url = p.1 ∧ p.2 ∈ dsts} =
        pairs ∪ {p | src.url = p.1 ∧ p.2 ∈ dst :: dsts} := by
      ext ⟨x, y⟩
      simp only [Set.mem_union, Set.mem_insert_iff, Set.mem_ofPred_eq, Prod.mk.injEq,
        List.mem_cons]
      tauto
    rwa [hset] at h

theorem Importing.storeAdjacency (h : Importing first now pairs s) {t : Stamp} {a : Adjacency}
    {id : Ident} (run : storeAdjacency t a s = .ok id s') :
    Importing first now (pairs ∪ {p | a.src = p.1 ∧ p.2 ∈ a.dsts}) s' ∧ Extends s s' ∧
      (content s'.store).Named id a.src := by
  obtain ⟨src, s₁, hpage, run⟩ := Action.bind_eq_ok run
  obtain ⟨h, grows, hurl, hsrc⟩ := h.storePage hpage
  obtain ⟨_, s₂, hdsts, run⟩ := Action.bind_eq_ok run
  rw [← hurl] at hsrc
  obtain ⟨h, grows'⟩ := h.storeDestinations hsrc hdsts
  obtain ⟨rfl, rfl⟩ := Action.pure_eq_ok run
  rw [hurl] at h hsrc
  exact ⟨h, grows.trans grows', grows' _ _ hsrc⟩

/-- **Between two lines**: the hyperlinks that the lines so far report are confirmed, and the pages
    that they report them from are noted. -/
structure Halfway (first : Content) (now : Stamp) (done : List Adjacency) (p : Progress)
    (s : Session σ) : Prop where
  importing : Importing first now (reported done) s
  noted : ∀ id ∈ p.sources, ∃ a ∈ done, (content s.store).Named id a.src
  sources : ∀ a ∈ done, ∃ id ∈ p.sources, (content s.store).Named id a.src

theorem Halfway.takeLine {done : List Adjacency} {p p' : Progress} {line : Line}
    (h : Halfway first now done p s) {t : Stamp} (run : takeLine t p line s = .ok p' s') :
    Halfway first now (done ++ (kept? line).toList) p' s' := by
  cases line with
  | error fault => cases run
  | ok text =>
    have hkept : kept? (.ok text) = Adjacency.ofLine? text := rfl
    unfold Ingest.takeLine at run
    dsimp only at run
    rw [hkept]
    cases hline : Adjacency.ofLine? text with
    | none =>
      rw [hline] at run
      obtain ⟨rfl, rfl⟩ := Action.pure_eq_ok run
      rw [Option.toList_none, List.append_nil]
      exact ⟨h.importing, h.noted, h.sources⟩
    | some a =>
      rw [hline] at run
      obtain ⟨id, s₁, hstore, run⟩ := Action.bind_eq_ok run
      obtain ⟨rfl, rfl⟩ := Action.pure_eq_ok run
      obtain ⟨himporting, grows, hsrc⟩ := h.importing.storeAdjacency hstore
      have hset : reported done ∪ {p | a.src = p.1 ∧ p.2 ∈ a.dsts} = reported (done ++ [a]) := by
        ext q
        simp [reported, or_and_right, exists_or]
      rw [hset] at himporting
      refine ⟨himporting, fun id' hid => ?_, fun a' ha => ?_⟩
      · rcases List.mem_cons.mp hid with rfl | hid
        · exact ⟨a, List.mem_append_right _ (List.mem_singleton_self a), hsrc⟩
        · obtain ⟨a', ha', hn⟩ := h.noted id' hid
          exact ⟨a', List.mem_append_left _ ha', grows _ _ hn⟩
      · rcases List.mem_append.mp ha with ha | ha
        · obtain ⟨id', hid, hn⟩ := h.sources a' ha
          exact ⟨id', List.mem_cons_of_mem _ hid, grows _ _ hn⟩
        · rw [List.mem_singleton.mp ha]
          exact ⟨id, List.mem_cons_self, hsrc⟩

/-- Storing all lines leaves `Halfway` after all that they say. -/
theorem Halfway.takeLines {t : Stamp} {lines : List Line} {done : List Adjacency}
    {p p' : Progress} (h : Halfway first now done p s)
    (run : lines.foldlM (Ingest.takeLine t) p s = .ok p' s') :
    Halfway first now (done ++ kept lines) p' s' := by
  induction lines generalizing done p s with
  | nil =>
    obtain ⟨rfl, rfl⟩ := Action.pure_eq_ok run
    simpa [kept] using h
  | cons line lines ih =>
    rw [List.foldlM_cons] at run
    obtain ⟨p₁, s₁, hline, run⟩ := Action.bind_eq_ok run
    have hkept : kept (line :: lines) = (kept? line).toList ++ kept lines := by
      unfold kept
      cases h : kept? line <;> simp [h]
    rw [hkept, ← List.append_assoc]
    exact ih (h.takeLine hline) run

/-! ## 3. Pruning -/

/-- Pruning some pages leaves, of the edges from these, those that bear a late enough stamp. -/
theorem edgesFrom_of_prune {ids : List Ident} {u : Unit} (hv : LawfulStore.Valid s.store)
    (run : ids.forM (pruneSource now) s = .ok u s') :
    LawfulStore.Valid s'.store ∧ (content s'.store).links = (content s.store).links ∧
      ∀ page, (content s'.store).edgesFrom page = if page ∈ ids then
        ((content s.store).edgesFrom page).filter fun e => now ≤ e.updatedAt
      else (content s.store).edgesFrom page := by
  induction ids generalizing s with
  | nil =>
    obtain ⟨-, rfl⟩ := Action.pure_eq_ok run
    exact ⟨hv, rfl, fun page => rfl⟩
  | cons id ids ih =>
    obtain ⟨_, s₁, hfirst, run⟩ := Action.bind_eq_ok run
    obtain ⟨carried, hcontent⟩ := LawfulStore.staleRemoved hv (Action.mapError_eq_ok hfirst)
    obtain ⟨hv', hlinks, hedges⟩ := ih carried.valid run
    rw [hcontent] at hlinks
    refine ⟨hv', hlinks, fun page => ?_⟩
    rw [hedges, hcontent, Content.edgesFrom_withoutStale]
    by_cases hid : page = id
    · subst hid
      rw [if_pos rfl, if_pos List.mem_cons_self]
      split
      · rw [List.filter_filter]
        simp
      · rfl
    · simp only [List.mem_cons, hid, false_or, if_false]

/-! ## 4. The whole import -/

omit [LawfulStore σ] in
/-- An import that prunes, in its two halves. -/
theorem exists_of_importLines {lines : List Line} {summary : ImportSummary}
    (run : importLines lines now true s = .ok summary s') :
    ∃ p t, lines.foldlM (takeLine now) {} s = .ok p t ∧
      ∃ u, ((p.sources.mergeSort (· ≤ ·)).eraseDups).forM (pruneSource now) t = .ok u s' := by
  obtain ⟨p, t, hlines, run⟩ := Action.bind_eq_ok run
  obtain ⟨u, t', hprune, run⟩ := Action.bind_eq_ok run
  obtain ⟨-, rfl⟩ := Action.pure_eq_ok run
  exact ⟨p, t, hlines, u, hprune⟩

/-- **What an import leaves that prunes**, if it begins at a time that no edge bears yet. -/
structure Pruned (lines : List Adjacency) (first last : Content) : Prop where
  /-- The edges from a source lead to its destinations, and there is one for each of them. -/
  sources : ∀ a ∈ lines, ∃ src, last.Named src a.src ∧
    (∀ e ∈ last.edgesFrom src, ∃ url, last.Named e.dst url ∧ (a.src, url) ∈ reported lines) ∧
    ∀ url, (a.src, url) ∈ reported lines → ∃ dst, last.Named dst url ∧
      ((last.edgesFrom src).map (·.dst)).count dst = 1
  /-- The edges from any other page are as they were. -/
  others : ∀ page, (∀ a ∈ lines, ¬last.Named page a.src) →
    last.edgesFrom page = first.edgesFrom page
  /-- No page is removed. -/
  named : ∀ id url, first.Named id url → last.Named id url

/-- Nothing is confirmed before the first line. -/
theorem halfway_start (hv : LawfulStore.Valid s.store) (steady : s.supply.Steady)
    (late : now ≤ s.supply.now)
    (fresh : ∀ page, ∀ e ∈ (content s.store).edgesFrom page, e.updatedAt < now) :
    Halfway (content s.store) now [] {} s where
  importing :=
    { valid := hv
      steady := steady
      late := late
      named := fun _ _ hn => hn
      confirmed := fun page e he hlate => absurd (fresh page e he) (Int64.not_lt.mpr hlate)
      stored := by
        intro q h
        obtain ⟨a, ha, -⟩ := h
        exact absurd ha List.not_mem_nil
      others := fun _ _ => rfl }
  noted _ hid := absurd hid List.not_mem_nil
  sources _ ha := absurd ha List.not_mem_nil

theorem pruned_of_importLines {lines : List Line} {summary : ImportSummary}
    (hv : LawfulStore.Valid s.store) (steady : s.supply.Steady) (late : now ≤ s.supply.now)
    (fresh : ∀ page, ∀ e ∈ (content s.store).edgesFrom page, e.updatedAt < now)
    (run : importLines lines now true s = .ok summary s') :
    Pruned (kept lines) (content s.store) (content s'.store) := by
  obtain ⟨p, t, hlines, u, hprune⟩ := exists_of_importLines run
  have done := (halfway_start hv steady late fresh).takeLines hlines
  rw [List.nil_append] at done
  obtain ⟨hv', hlinks, hedges⟩ := edgesFrom_of_prune done.importing.valid hprune
  have sound := LawfulStore.sound done.importing.valid
  have same : ∀ {id url}, (content s'.store).Named id url ↔ (content t.store).Named id url := by
    intro id url
    unfold Content.Named
    rw [hlinks]
  have hmem : ∀ id, id ∈ (p.sources.mergeSort (· ≤ ·)).eraseDups ↔ id ∈ p.sources := by
    intro id
    rw [List.mem_eraseDups, List.mem_mergeSort]
  constructor
  case sources =>
    intro a ha
    obtain ⟨src, hsrc, hn⟩ := done.sources a ha
    have hleft := hedges src
    rw [if_pos ((hmem src).mpr hsrc)] at hleft
    refine ⟨src, same.mpr hn, fun e he => ?_, fun url hurl => ?_⟩
    · rw [hleft, List.mem_filter, decide_eq_true_eq] at he
      obtain ⟨q, hq, hpage, hdst⟩ := done.importing.confirmed src e he.1 he.2
      have hq1 : q.1 = a.src := hpage.url_eq sound hn
      exact ⟨q.2, same.mpr hdst, hq1 ▸ hq⟩
    · obtain ⟨page, hpage, e, he, hdst, hlate⟩ := done.importing.stored _ hurl
      rw [hpage.id_eq sound hn] at he
      have hkept : e ∈ (content s'.store).edgesFrom src := by
        rw [hleft]
        exact List.mem_filter.mpr ⟨he, decide_eq_true hlate⟩
      exact ⟨e.dst, same.mpr hdst, List.count_eq_one_of_mem
        ((LawfulStore.sound hv').edge_pair src) (List.mem_map_of_mem hkept)⟩
  case others =>
    intro page hother
    have hpage : page ∉ (p.sources.mergeSort (· ≤ ·)).eraseDups := by
      rw [hmem]
      intro hid
      obtain ⟨a, ha, hn⟩ := done.noted page hid
      exact hother a ha (same.mpr hn)
    rw [hedges, if_neg hpage]
    refine done.importing.others page ?_
    intro q h hn
    obtain ⟨a, ha, hq, -⟩ := h
    exact hother a ha (same.mpr (hq ▸ hn))
  case named => exact fun id url hn => same.mpr (done.importing.named id url hn)

end

/-- **Pruning leaves just what the crawl confirmed.** A store that calls led to under a steady clock
    waits until the clock has moved on to `now`, and imports the lines then. -/
theorem confirmed_of_prune (b : Backend) (supply : Supply) (steady : supply.Steady)
    (s : Session b.Store) (reached : Session.Reached ⟨b.empty, supply⟩ s) (patience : Nat)
    (now : Stamp) (waited : Supply)
    (wait : s.supply.awaitNextSecond patience = (some now, waited)) (lines : List Line)
    (summary : ImportSummary) (s' : Session b.Store)
    (run : importLines lines now true ⟨s.store, waited⟩ = .ok summary s') :
    Pruned (kept lines) (Backend.content s.store) (Backend.content s'.store) := by
  have carried := LawfulStore.carried_of_reached LawfulStore.valid_empty reached
  have steady' := steady.later carried.later
  have hwaited : waited = (s.supply.awaitNextSecond patience).2 := by rw [wait]
  have late := Supply.le_now_of_awaitNextSecond steady' wait
  have fresh : ∀ page, ∀ e ∈ (content s.store).edgesFrom page, e.updatedAt < now :=
    fun page e he => Std.lt_of_le_of_lt
      (LawfulStore.notAfter_of_reached steady reached page e he)
      (Supply.lt_of_awaitNextSecond wait)
  exact pruned_of_importLines (s := ⟨s.store, waited⟩) carried.valid
    (steady'.later (hwaited ▸ Supply.later_awaitNextSecond patience s.supply)) late fresh run

/-- A page links to a second one. A crawl that finds a link to a third one instead is imported. -/
theorem confirmed_of_prune_moved :
    let first : Session Memory := ⟨Memory.empty, .counting⟩
    let s := first.afterAll [.upsertLink (.unstored "http://[::1]/" 0),
      .upsertLink (.unstored "http://[::2]/" 0), .upsertEdge (.unstored (.ofNat 1) (.ofNat 2))]
    let lines : List Line := [.ok "# one line", .ok "http://[::1] http://[::3]"]
    let waited := (s.supply.awaitNextSecond 5).2
    ∃ summary, ∃ s' : Session Memory,
      importLines lines 2 true ⟨s.store, waited⟩ = .ok summary s' ∧
        Pruned (kept lines) s.store.content s'.store.content ∧
        kept lines = [⟨"http://[::1]/", ["http://[::3]/"]⟩] := by
  intro first s lines waited
  have reached : first.Reached s := Session.Reached.start.afterAll _
  have wait : s.supply.awaitNextSecond 5 = (some 2, waited) := Prod.ext (by decide +kernel) rfl
  have succeeds :
      (Action.answer (importLines lines 2 true) ⟨s.store, waited⟩).toOption.isSome = true := by
    decide +kernel
  cases run : importLines lines 2 true (⟨s.store, waited⟩ : Session Memory) with
  | error e t =>
    rw [Action.answer_of_error run] at succeeds
    cases succeeds
  | ok summary s' =>
    exact ⟨summary, s', rfl, confirmed_of_prune .memory .counting Supply.steady_counting s reached 5
      2 waited wait lines summary s' run, by decide +kernel⟩

end CrawlGraph.Ingest
