import CrawlGraph.Proofs.Contract.Stamps

/-!
# Pages and hyperlinks by URL

Two stores that were filled in another order name their records by other identifiers. What they say
of the crawl is still the same if they agree on the pages by URL and on the hyperlinks by the URLs
of their ends.

1. `Content.Joins`, an edge between the pages of two URLs; `Content.retrievals` and
   `Content.confirmations`, the times of pages and hyperlinks by URL.
2. What storing a page changes of this (`LinkStored.joins_iff`).
3. What storing a hyperlink changes of this (`EdgeStored.joins_iff`).
4. No call takes a page away (`Step.named`).
-/

namespace CrawlGraph.Content

variable {c c' : Content}

/-! ## 1. Times by URL -/

/-- Whether an edge leads from the page of one URL to the page of another. -/
structure Joins (c : Content) (p : String × String) (edge : Edge) : Prop where
  mem : edge ∈ c.edgesFrom edge.src
  src : c.Named edge.src p.1
  dst : c.Named edge.dst p.2

/-- The retrieval time of each URL. -/
def retrievals (c : Content) : Set (String × Stamp) :=
  {x | ∃ link ∈ c.links, link.url = x.1 ∧ link.retrievedAt = x.2}

/-- The time of the last confirmation of each hyperlink, by the URLs of its ends. -/
def confirmations (c : Content) : Set ((String × String) × Stamp) :=
  {x | ∃ edge, c.Joins x.1 edge ∧ edge.updatedAt = x.2}

theorem HasLink.exists_named {id : Ident} (h : c.HasLink id) : ∃ url, c.Named id url := by
  obtain ⟨link, hl, hid⟩ := h
  exact ⟨link.url, link, hl, hid, rfl⟩

theorem Named.hasLink {id : Ident} {url : String} (h : c.Named id url) : c.HasLink id := by
  obtain ⟨link, hl, hid, -⟩ := h
  exact ⟨link, hl, hid⟩

/-- Every edge joins two pages. -/
theorem Sound.exists_joins (sound : c.Sound) {page : Ident} {edge : Edge}
    (h : edge ∈ c.edgesFrom page) : ∃ p, c.Joins p edge := by
  have hsrc := sound.edge_src page edge h
  obtain ⟨src, dst⟩ := sound.edge_ends page edge h
  obtain ⟨url, hurl⟩ := src.exists_named
  obtain ⟨url', hurl'⟩ := dst.exists_named
  exact ⟨(url, url'), hsrc ▸ h, hurl, hurl'⟩

/-- Two URLs are joined once. -/
theorem Joins.unique (sound : c.Sound) {p : String × String} {edge other : Edge}
    (h : c.Joins p edge) (h' : c.Joins p other) : edge = other := by
  have hsrc : edge.src = other.src := h.src.id_eq sound h'.src
  have hdst : edge.dst = other.dst := h.dst.id_eq sound h'.dst
  exact sound.eq_of_dst h.mem (hsrc ▸ h'.mem) hdst

/-- The URLs that an edge joins. -/
theorem Joins.pair_eq (sound : c.Sound) {p q : String × String} {edge : Edge}
    (h : c.Joins p edge) (h' : c.Joins q edge) : p = q :=
  Prod.ext (h.src.url_eq sound h'.src) (h.dst.url_eq sound h'.dst)

/-! ## 2. Storing a page -/

/-- Where pages keep their URLs and no edge changes, the same URLs are joined. -/
theorem joins_iff_of_named (sound : c.Sound) (sound' : c'.Sound)
    (named : ∀ id url, c.Named id url → c'.Named id url) (edges : c'.edgesFrom = c.edgesFrom)
    {p : String × String} {edge : Edge} : c'.Joins p edge ↔ c.Joins p edge := by
  constructor
  · intro h
    have mem : edge ∈ c.edgesFrom edge.src := edges ▸ h.mem
    obtain ⟨q, hq⟩ := sound.exists_joins mem
    have hsrc : q.1 = p.1 := (named _ _ hq.src).url_eq sound' h.src
    have hdst : q.2 = p.2 := (named _ _ hq.dst).url_eq sound' h.dst
    exact ⟨mem, hsrc ▸ hq.src, hdst ▸ hq.dst⟩
  · intro h
    exact ⟨edges.symm ▸ h.mem, named _ _ h.src, named _ _ h.dst⟩

/-- **Storing a page joins no pages.** -/
theorem LinkStored.joins_iff (sound : c.Sound) (sound' : c'.Sound) {link stored : Link}
    (h : c.LinkStored link (.ok stored) c') {p : String × String} {edge : Edge} :
    c'.Joins p edge ↔ c.Joins p edge := by
  obtain ⟨named, -, -, edges⟩ := h.grows sound
  exact joins_iff_of_named sound sound' named edges

/-- The time of a page that was stored: the given one if its URL is new, or else the later one. -/
theorem LinkStored.time {link stored : Link} (h : c.LinkStored link (.ok stored) c') :
    ((∀ other ∈ c.links, other.url ≠ link.url) ∧ stored.retrievedAt = link.retrievedAt) ∨
      ∃ old ∈ c.links, old.url = link.url ∧
        stored.retrievedAt = max link.retrievedAt old.retrievedAt := by
  cases h with
  | refreshed held url => exact .inr ⟨_, held, url, rfl⟩
  | created new ne_nil unused => exact .inl ⟨new, rfl⟩

/-! ## 3. Storing a hyperlink -/

/-- **Storing a hyperlink joins its pages by the stored edge** and leaves all other edges as they
    are. -/
theorem EdgeStored.joins_iff (sound : c.Sound) (sound' : c'.Sound) {edge stored : Edge}
    {now : Stamp} {p q : String × String} (src : c.Named edge.src p.1) (dst : c.Named edge.dst p.2)
    (h : c.EdgeStored now edge (.ok stored) c') {other : Edge} :
    c'.Joins q other ↔ (q = p ∧ other = stored) ∨ (q ≠ p ∧ c.Joins q other) := by
  have hc := h.confirmed sound
  have hsrc : stored.src = edge.src := sound'.edge_src _ _ hc.mem
  have hstored : c'.Joins p stored := by
    refine ⟨hsrc ▸ hc.mem, hc.named_iff.mpr (hsrc ▸ src), hc.named_iff.mpr ?_⟩
    rw [hc.dst]
    exact dst
  constructor
  · intro hj
    by_cases hq : q = p
    · subst hq
      exact .inl ⟨rfl, hj.unique sound' hstored⟩
    · refine .inr ⟨hq, ?_, hc.named_iff.mp hj.src, hc.named_iff.mp hj.dst⟩
      rcases hc.of_mem hj.mem with ⟨-, rfl⟩ | hold
      · exact absurd (hj.pair_eq sound' hstored) hq
      · exact hold
  · intro hj
    rcases hj with ⟨rfl, rfl⟩ | ⟨hq, hj⟩
    · exact hstored
    · refine ⟨?_, hc.named_iff.mpr hj.src, hc.named_iff.mpr hj.dst⟩
      rcases hc.mem_or hj.mem with ⟨hs, hd⟩ | hnew
      · -- the edge would join the pages of the stored one
        have hsrc' : q.1 = p.1 := hj.src.url_eq sound (hs ▸ src)
        have hdst' : q.2 = p.2 := hj.dst.url_eq sound (hd ▸ hc.dst ▸ dst)
        exact absurd (Prod.ext hsrc' hdst') hq
      · exact hnew

/-- The edge that was stored: a new one bears the reading of the clock, one that was there keeps its
    identifier and bears the later time. -/
theorem EdgeStored.time (sound : c.Sound) {edge stored : Edge} {now : Stamp}
    {p : String × String} (src : c.Named edge.src p.1) (dst : c.Named edge.dst p.2)
    (h : c.EdgeStored now edge (.ok stored) c') :
    ((∀ other, ¬c.Joins p other) ∧ stored.updatedAt = now) ∨
      ∃ old, c.Joins p old ∧ stored.id = old.id ∧ stored.updatedAt = max old.updatedAt now := by
  cases h with
  | @refreshed old held hdst =>
    have hsrc : old.src = edge.src := sound.edge_src _ _ held
    exact .inr ⟨old, ⟨hsrc ▸ held, hsrc ▸ src, hdst ▸ dst⟩, rfl, rfl⟩
  | created hsrc hdst new ne_nil unused =>
    refine .inl ⟨fun other hj => ?_, rfl⟩
    have hs : other.src = edge.src := hj.src.id_eq sound src
    exact new other (hs ▸ hj.mem) (hj.dst.id_eq sound dst)

/-- An edge between pages that are held is refused only for want of an identifier. -/
theorem EdgeStored.error_eq {edge : Edge} {now : Stamp} {e : StoreError}
    (h : c.EdgeStored now edge (.error e) c') (src : c.HasLink edge.src)
    (dst : c.HasLink edge.dst) : e = .of .upsertEdge (.identsExhausted maxAttempts) := by
  cases h with
  | unknown ends => exact absurd ⟨src, dst⟩ ends
  | exhausted => rfl

/-! ## 4. Any call -/

/-- **No call takes a page away**, and none gives it another name. -/
theorem Step.named (sound : c.Sound) {now : Stamp} {call : Call} {answer : Except StoreError Reply}
    (h : c.Step now call answer c') {id : Ident} {url : String} (hn : c.Named id url) :
    c'.Named id url := by
  cases call with
  | upsertLink link =>
    obtain ⟨a, ha, -⟩ := h
    cases a with
    | ok stored => exact (ha.grows sound).1 id url hn
    | error e =>
      cases ha
      exact hn
  | upsertEdge edge =>
    obtain ⟨a, ha, -⟩ := h
    cases a with
    | ok stored => exact (ha.confirmed sound).named_iff.mpr hn
    | error e =>
      cases ha with
      | unknown _ => exact hn
      | exhausted => exact hn
  | removeStaleEdges src before =>
    obtain ⟨-, rfl⟩ := h
    exact hn
  | findLink id =>
    obtain ⟨-, -, -, rfl⟩ := h
    exact hn
  | links start stop before =>
    obtain ⟨-, -, -, rfl⟩ := h
    exact hn
  | edges start stop before =>
    obtain ⟨-, -, -, rfl⟩ := h
    exact hn

end CrawlGraph.Content
