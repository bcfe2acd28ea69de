import CrawlGraph.Proofs.Contract.LawfulStore

/-!
# What storing a record changes

1. Pages by name: `Content.Named`, which storing links only adds to.
2. `Content.Confirmed`: what storing a hyperlink does to the edges, however it comes about.
3. A steady clock, and `notAfter_of_reached`: no edge bears a stamp that is ahead of it.
-/

namespace CrawlGraph

namespace Content

variable {c c' : Content}

/-! ## 1. Pages -/

/-- Whether the page with the identifier has the URL. -/
def Named (c : Content) (id : Ident) (url : String) : Prop :=
  ∃ link ∈ c.links, link.id = id ∧ link.url = url

theorem Named.url_eq (sound : c.Sound) {id : Ident} {url url' : String} (h : c.Named id url)
    (h' : c.Named id url') : url = url' := by
  obtain ⟨link, hl, hid, hurl⟩ := h
  obtain ⟨other, ho, hid', hurl'⟩ := h'
  rw [← hurl, ← hurl', sound.link_ident link hl other ho (hid.trans hid'.symm)]

theorem Named.id_eq (sound : c.Sound) {id id' : Ident} {url : String} (h : c.Named id url)
    (h' : c.Named id' url) : id = id' := by
  obtain ⟨link, hl, hid, hurl⟩ := h
  obtain ⟨other, ho, hid', hurl'⟩ := h'
  rw [← hid, ← hid', sound.link_url link hl other ho (hurl.trans hurl'.symm)]

/-- A link that takes the place of the one with its URL keeps every page, if the identifier is the
    same. -/
theorem named_putLink {link : Link} {id : Ident} {url : String}
    (same : ∀ other ∈ c.links, other.url = link.url → other.id = link.id) (h : c.Named id url) :
    (c.putLink link).Named id url := by
  obtain ⟨other, ho, hid, hurl⟩ := h
  by_cases hu : other.url = link.url
  · exact ⟨link, .inl rfl, (same other ho hu).symm.trans hid, hu.symm.trans hurl⟩
  · exact ⟨other, .inr ⟨ho, hu⟩, hid, hurl⟩

/-- **Storing a link** names its page, keeps the others and leaves the edges alone. -/
theorem LinkStored.grows (sound : c.Sound) {link stored : Link}
    (h : c.LinkStored link (.ok stored) c') :
    (∀ id url, c.Named id url → c'.Named id url) ∧ c'.Named stored.id link.url ∧
      stored.url = link.url ∧ c'.edgesFrom = c.edgesFrom := by
  cases h with
  | refreshed held url =>
    refine ⟨fun id' url' => named_putLink ?_, ⟨_, .inl rfl, rfl, rfl⟩, rfl, rfl⟩
    intro other ho hu
    rw [sound.link_url other ho _ held (hu.trans url.symm)]
  | created new ne_nil unused =>
    refine ⟨fun id' url' => named_putLink ?_, ⟨_, .inl rfl, rfl, rfl⟩, rfl, rfl⟩
    intro other ho hu
    exact absurd hu (new other ho)

end Content

/-! ## 2. Hyperlinks -/

theorem Stamp.le_max_left (a b : Stamp) : a ≤ max a b := by
  change a ≤ if a ≤ b then b else a
  split
  · assumption
  · exact Int64.le_refl a

theorem Stamp.le_max_right (a b : Stamp) : b ≤ max a b := by
  change b ≤ if a ≤ b then b else a
  split
  · exact Int64.le_refl b
  · rename_i h
    exact Int64.le_of_lt (Int64.not_le.mp h)

theorem Stamp.max_le {a b t : Stamp} (ha : a ≤ t) (hb : b ≤ t) : max a b ≤ t := by
  change (if a ≤ b then b else a) ≤ t
  split
  · exact hb
  · exact ha

theorem Stamp.max_eq_or (a b : Stamp) : max a b = a ∨ max a b = b := by
  change (if a ≤ b then b else a) = a ∨ (if a ≤ b then b else a) = b
  split
  · exact .inr rfl
  · exact .inl rfl

theorem Stamp.max_comm (a b : Stamp) : max a b = max b a :=
  Int64.le_antisymm (max_le (le_max_right b a) (le_max_left b a))
    (max_le (le_max_right a b) (le_max_left a b))

theorem Stamp.max_eq_left {a b : Stamp} (h : b ≤ a) : max a b = a :=
  Int64.le_antisymm (max_le (Int64.le_refl a) h) (le_max_left a b)

theorem Stamp.max_eq_right {a b : Stamp} (h : a ≤ b) : max a b = b :=
  Int64.le_antisymm (max_le h (Int64.le_refl b)) (le_max_right a b)

theorem Stamp.lt_max_iff {a b t : Stamp} : t < max a b ↔ t < a ∨ t < b := by
  constructor
  · intro h
    rcases Stamp.max_eq_or a b with heq | heq
    · exact .inl (heq ▸ h)
    · exact .inr (heq ▸ h)
  · rintro (h | h)
    · exact Int64.lt_of_lt_of_le h (Stamp.le_max_left a b)
    · exact Int64.lt_of_lt_of_le h (Stamp.le_max_right a b)

namespace Content

variable {c c' : Content}

/-- **What storing a hyperlink does to the edges.** Those from other pages stay; among those from
    its source, the stored edge is new or comes in place of the one between the same pages. -/
structure Confirmed (c : Content) (edge : Edge) (now : Stamp) (stored : Edge) (c' : Content) :
    Prop where
  links : c'.links = c.links
  dst : stored.dst = edge.dst
  late : now ≤ stored.updatedAt
  stamp : stored.updatedAt = now ∨
    ∃ old ∈ c.edgesFrom edge.src, stored.updatedAt = max old.updatedAt now
  mem : stored ∈ c'.edgesFrom edge.src
  others : ∀ page, page ≠ edge.src → c'.edgesFrom page = c.edgesFrom page
  back : ∀ e ∈ c'.edgesFrom edge.src, e = stored ∨ e ∈ c.edgesFrom edge.src
  forth : ∀ e ∈ c.edgesFrom edge.src, e.dst = stored.dst ∨ e ∈ c'.edgesFrom edge.src

/-- Storing a hyperlink names no page anew. -/
theorem Confirmed.named_iff {edge stored : Edge} {now : Stamp}
    (h : c.Confirmed edge now stored c') {id : Ident} {url : String} :
    c'.Named id url ↔ c.Named id url := by
  unfold Named
  rw [h.links]

/-- Afterwards, an edge from any page is the stored one, or it was there before. -/
theorem Confirmed.of_mem {edge stored : Edge} {now : Stamp} (h : c.Confirmed edge now stored c')
    {page : Ident} {e : Edge} (he : e ∈ c'.edgesFrom page) :
    (page = edge.src ∧ e = stored) ∨ e ∈ c.edgesFrom page := by
  by_cases hp : page = edge.src
  · subst hp
    exact (h.back e he).imp (fun same => ⟨rfl, same⟩) id
  · rw [h.others page hp] at he
    exact .inr he

/-- An edge from any page stays, or it joined the pages of the stored one. -/
theorem Confirmed.mem_or {edge stored : Edge} {now : Stamp} (h : c.Confirmed edge now stored c')
    {page : Ident} {e : Edge} (he : e ∈ c.edgesFrom page) :
    (page = edge.src ∧ e.dst = stored.dst) ∨ e ∈ c'.edgesFrom page := by
  by_cases hp : page = edge.src
  · subst hp
    exact (h.forth e he).imp (fun same => ⟨rfl, same⟩) id
  · rw [h.others page hp]
    exact .inr he

theorem edgesFrom_refreshEdge (edge : Edge) (page : Ident) :
    (c.refreshEdge edge).edgesFrom page = if page = edge.src then
      (c.edgesFrom edge.src).map fun e => if e.dst = edge.dst then edge else e
    else c.edgesFrom page :=
  Function.update_apply _ _ _ _

theorem edgesFrom_addEdge (edge : Edge) (page : Ident) :
    (c.addEdge edge).edgesFrom page =
      if page = edge.src then c.edgesFrom edge.src ++ [edge] else c.edgesFrom page :=
  Function.update_apply _ _ _ _

theorem edgesFrom_withoutStale (src : Ident) (before : Stamp) (page : Ident) :
    (c.withoutStale src before).edgesFrom page = if page = src then
      (c.edgesFrom src).filter fun e => before ≤ e.updatedAt
    else c.edgesFrom page :=
  Function.update_apply _ _ _ _

theorem confirmed_refreshEdge {edge stored old : Edge} {now : Stamp}
    (held : old ∈ c.edgesFrom edge.src) (hold : old.dst = stored.dst) (src : stored.src = edge.src)
    (dst : stored.dst = edge.dst) (stamp : stored.updatedAt = max old.updatedAt now) :
    c.Confirmed edge now stored (c.refreshEdge stored) where
  links := rfl
  dst := dst
  late := by
    rw [stamp]
    exact Stamp.le_max_right _ _
  stamp := .inr ⟨old, held, stamp⟩
  mem := by
    rw [edgesFrom_refreshEdge, src, if_pos rfl]
    exact List.mem_map.mpr ⟨old, held, if_pos hold⟩
  others page hp := by rw [edgesFrom_refreshEdge, src, if_neg hp]
  back e he := by
    rw [edgesFrom_refreshEdge, src, if_pos rfl] at he
    obtain ⟨e', he', heq⟩ := List.mem_map.mp he
    split at heq
    · exact .inl heq.symm
    · exact .inr (heq ▸ he')
  forth e he := by
    by_cases hd : e.dst = stored.dst
    · exact .inl hd
    · rw [edgesFrom_refreshEdge, src, if_pos rfl]
      exact .inr (List.mem_map.mpr ⟨e, he, if_neg hd⟩)

theorem confirmed_addEdge {edge stored : Edge} {now : Stamp} (src : stored.src = edge.src)
    (dst : stored.dst = edge.dst) (stamp : stored.updatedAt = now) :
    c.Confirmed edge now stored (c.addEdge stored) where
  links := rfl
  dst := dst
  late := by
    rw [stamp]
    exact Int64.le_refl now
  stamp := .inl stamp
  mem := by
    rw [edgesFrom_addEdge, src, if_pos rfl]
    exact List.mem_append_right _ List.mem_cons_self
  others page hp := by rw [edgesFrom_addEdge, src, if_neg hp]
  back e he := by
    rw [edgesFrom_addEdge, src, if_pos rfl] at he
    rcases List.mem_append.mp he with he | he
    · exact .inr he
    · exact .inl (List.mem_singleton.mp he)
  forth e he := by
    rw [edgesFrom_addEdge, src, if_pos rfl]
    exact .inr (List.mem_append_left _ he)

theorem EdgeStored.confirmed (sound : c.Sound) {edge stored : Edge} {now : Stamp}
    (h : c.EdgeStored now edge (.ok stored) c') : c.Confirmed edge now stored c' := by
  cases h with
  | refreshed held dst =>
    have src := sound.edge_src _ _ held
    exact confirmed_refreshEdge held rfl src dst rfl
  | created src dst new ne_nil unused => exact confirmed_addEdge rfl rfl rfl

/-! ## 3. Time -/

/-- No edge bears a later stamp. -/
def NotAfter (c : Content) (t : Stamp) : Prop := ∀ src, ∀ e ∈ c.edgesFrom src, e.updatedAt ≤ t

theorem NotAfter.mono {t t' : Stamp} (h : c.NotAfter t) (ht : t ≤ t') : c.NotAfter t' :=
  fun src e he => Int64.le_trans (h src e he) ht

theorem Confirmed.notAfter {edge stored : Edge} {now : Stamp} (h : c.Confirmed edge now stored c')
    (hc : c.NotAfter now) : c'.NotAfter now := by
  intro src e he
  rcases h.of_mem he with ⟨-, rfl⟩ | he
  · rcases h.stamp with hn | ⟨old, hold, hn⟩
    · rw [hn]
      exact Int64.le_refl now
    · rw [hn]
      exact Stamp.max_le (hc _ old hold) (Int64.le_refl now)
  · exact hc src e he

/-- **A call stamps no edge with a time after the one that it reads.** -/
theorem Step.notAfter (sound : c.Sound) {now : Stamp} {call : Call}
    {answer : Except StoreError Reply} (h : c.Step now call answer c') (hc : c.NotAfter now) :
    c'.NotAfter now := by
  cases call with
  | upsertLink link =>
    obtain ⟨a, ha, -⟩ := h
    cases a with
    | ok stored =>
      intro src e he
      rw [(ha.grows sound).2.2.2] at he
      exact hc src e he
    | error e =>
      cases ha
      exact hc
  | upsertEdge edge =>
    obtain ⟨a, ha, -⟩ := h
    cases a with
    | ok stored => exact (ha.confirmed sound).notAfter hc
    | error e =>
      cases ha with
      | unknown _ => exact hc
      | exhausted => exact hc
  | removeStaleEdges src before =>
    obtain ⟨-, rfl⟩ := h
    intro page e he
    rw [edgesFrom_withoutStale] at he
    split at he
    · exact hc src e (List.mem_of_mem_filter he)
    · exact hc page e he
  | findLink id =>
    obtain ⟨-, -, -, rfl⟩ := h
    exact hc
  | links start stop before =>
    obtain ⟨-, -, -, rfl⟩ := h
    exact hc
  | edges start stop before =>
    obtain ⟨-, -, -, rfl⟩ := h
    exact hc

end Content

namespace Supply

/-- Whether the clock never goes back. -/
def Steady (s : Supply) : Prop := ∀ m n, m ≤ n → s.clock m ≤ s.clock n

variable {s s' : Supply}

theorem Steady.later (h : s.Steady) (later : s.Later s') : s'.Steady := by
  unfold Steady
  rw [later.clock]
  exact h

theorem Steady.now_le (h : s.Steady) (later : s.Later s') : s.now ≤ s'.now := by
  unfold now
  rw [later.clock]
  exact h _ _ later.reads

theorem steady_counting : counting.Steady := by
  intro m n hmn
  have hclock : ∀ k, (counting.clock k).toInt = (min k 1000 : Nat) := fun k =>
    Int64.toInt_ofNat_of_lt (Nat.lt_of_le_of_lt (Nat.min_le_right k 1000) (by decide))
  rw [Int64.le_iff_toInt_le, hclock, hclock]
  omega

theorem later_awaitNextSecond (patience : Nat) (s : Supply) :
    s.Later (awaitNextSecond patience s).2 :=
  (later_afterRead s).trans (later_awaitLater _ _ _)

theorem le_now_of_awaitLater {start t : Stamp} {patience : Nat} (steady : s.Steady)
    (h : awaitLater start patience s = (some t, s')) : t ≤ s'.now := by
  induction patience generalizing s with
  | zero => cases h
  | succ n ih =>
    rw [awaitLater] at h
    split at h
    · cases h
      exact steady.now_le (later_afterRead s)
    · exact ih (steady.later (later_afterRead s)) h

/-- The reading that ends the wait is not ahead of the readings after it. -/
theorem le_now_of_awaitNextSecond {t : Stamp} {patience : Nat} (steady : s.Steady)
    (h : awaitNextSecond patience s = (some t, s')) : t ≤ s'.now :=
  le_now_of_awaitLater (steady.later (later_afterRead s)) h

end Supply

/-- **No edge bears a stamp that is ahead of a steady clock**, in any state that calls lead to. -/
theorem LawfulStore.notAfter_of_reached {σ : Type} [LinkStore σ] [LawfulStore σ] {supply : Supply}
    (steady : supply.Steady) {s : Session σ} (h : Session.Reached ⟨empty, supply⟩ s) :
    (content s.store).NotAfter s.supply.now := by
  induction h with
  | start =>
    intro src e he
    have hc : content (σ := σ) empty = .empty := content_empty
    rw [hc] at he
    cases he
  | call c h ih =>
    have carried := carried_of_reached valid_empty h
    have hv := carried.valid
    exact ((step c hv).notAfter (sound hv) ih).mono
      ((steady.later carried.later).now_le (later_after c hv))
  | elapse h later ih =>
    exact ih.mono ((steady.later (carried_of_reached valid_empty h).later).now_le later)

end CrawlGraph
