import CrawlGraph.Memory.Store
import CrawlGraph.Proofs.Contract.Calls

/-!
# The four indices of the store in memory

The store keeps links, URLs, edges and adjacency lists in four indices and changes each on its own.
`Memory.Valid` says how they belong together. It holds of the empty store, and every change that
an operation makes keeps it.

1. Single entries of the indices after each change.
2. `Valid`, and that each change keeps it.
-/

namespace CrawlGraph.Memory

/-! ## 1. Entries after a change -/

section Entries

variable {α β : Type} [Ord α] [Std.TransOrd α] [Std.LawfulEqOrd α] [DecidableEq α]

theorem entry_insert (t : Std.TreeMap α β) (k a : α) (b : β) :
    (t.insert k b)[a]? = if k = a then some b else t[a]? := by
  rw [Std.TreeMap.getElem?_insert]
  simp only [Std.compare_eq_iff_eq]

theorem entry_erase (t : Std.TreeMap α β) (k a : α) :
    (t.erase k)[a]? = if k = a then none else t[a]? := by
  rw [Std.TreeMap.getElem?_erase]
  simp only [Std.compare_eq_iff_eq]

theorem entry_eraseAll (keys : List α) (t : Std.TreeMap α β) (a : α) :
    (keys.foldl (fun t k => t.erase k) t)[a]? = if a ∈ keys then none else t[a]? := by
  induction keys generalizing t with
  | nil => simp
  | cons k keys ih =>
    rw [List.foldl_cons, ih, entry_erase]
    by_cases hk : k = a
    · simp [hk]
    · simp [hk, Ne.symm hk]

end Entries

variable (m : Memory)

theorem edge_addEdge (edge : Edge) (id : Ident) :
    (m.addEdge edge).edges[id]? = if edge.id = id then some edge else m.edges[id]? :=
  entry_insert _ _ _ _

theorem edgesFrom_addEdge (edge : Edge) (src : Ident) :
    (m.addEdge edge).edgesFrom src =
      if edge.src = src then m.edgesFrom src ++ [edge.id] else m.edgesFrom src := by
  unfold addEdge edgesFrom
  rw [entry_insert]
  split
  · rename_i h
    subst h
    rfl
  · rfl

theorem edgesFrom_withoutStale (src : Ident) (before : Stamp) (page : Ident) :
    (m.withoutStale src before).edgesFrom page =
      if src = page then (m.edgesFrom src).filter (m.isConfirmed before) else m.edgesFrom page := by
  simp only [withoutStale, List.partition_eq_filter_filter]
  unfold edgesFrom
  split
  · rename_i h
    rw [entry_erase, List.isEmpty_iff.mp h]
    split <;> rfl
  · rw [entry_insert]
    split <;> rfl

theorem outgoing_withoutStale_ne_nil (h : ∀ page : Ident, m.outgoing[page]? ≠ some [])
    (src : Ident) (before : Stamp) (page : Ident) :
    (m.withoutStale src before).outgoing[page]? ≠ some [] := by
  simp only [withoutStale, List.partition_eq_filter_filter]
  split
  · rw [entry_erase]
    split
    · simp
    · exact h page
  · rename_i hne
    rw [entry_insert]
    split
    · intro e
      exact hne (List.isEmpty_iff.mpr (Option.some.inj e))
    · exact h page

theorem edge_withoutStale (src : Ident) (before : Stamp) (id : Ident) :
    (m.withoutStale src before).edges[id]? =
      if id ∈ m.edgesFrom src ∧ m.isConfirmed before id = false then none else m.edges[id]? := by
  simp only [withoutStale, List.partition_eq_filter_filter]
  rw [entry_eraseAll]
  simp

theorem edge_of_withoutStale {m : Memory} {src : Ident} {before : Stamp} {id : Ident} {edge : Edge}
    (h : (m.withoutStale src before).edges[id]? = some edge) : m.edges[id]? = some edge := by
  rw [edge_withoutStale] at h
  split at h
  · cases h
  · exact h

/-! ## 2. The invariant -/

/-- **How the four indices belong together.** -/
structure Valid (m : Memory) : Prop where
  link_key : ∀ (id : Ident) (link : Link), m.links[id]? = some link → id ≠ .nil ∧ link.id = id
  url_iff : ∀ (url : String) (id : Ident),
    m.identOfUrl[url]? = some id ↔ ∃ link : Link, m.links[id]? = some link ∧ link.url = url
  edge_key : ∀ (id : Ident) (edge : Edge), m.edges[id]? = some edge → id ≠ .nil ∧ edge.id = id
  edge_ends : ∀ (id : Ident) (edge : Edge), m.edges[id]? = some edge →
    m.links.contains edge.src = true ∧ m.links.contains edge.dst = true
  listed : ∀ (src id : Ident), id ∈ m.edgesFrom src →
    ∃ edge : Edge, m.edges[id]? = some edge ∧ edge.src = src
  mem_listed : ∀ (id : Ident) (edge : Edge), m.edges[id]? = some edge → id ∈ m.edgesFrom edge.src
  listed_once : ∀ src : Ident, (m.edgesFrom src).Nodup
  pair : ∀ (id : Ident) (edge : Edge) (id' : Ident) (edge' : Edge),
    m.edges[id]? = some edge → m.edges[id']? = some edge' →
    edge.src = edge'.src → edge.dst = edge'.dst → id = id'
  ne_nil : ∀ src : Ident, m.outgoing[src]? ≠ some []

theorem valid_empty : empty.Valid where
  link_key _ _ h := by simp [empty] at h
  url_iff _ _ := by simp [empty]
  edge_key _ _ h := by simp [empty] at h
  edge_ends _ _ h := by simp [empty] at h
  listed _ _ h := by simp [empty, edgesFrom] at h
  mem_listed _ _ h := by simp [empty] at h
  listed_once _ := by simp [empty, edgesFrom]
  pair _ _ _ _ h := by simp [empty] at h
  ne_nil _ := by simp [empty]

variable {m}

namespace Valid

/-- A link that is held is found under its own identifier. -/
theorem link_self (hv : m.Valid) {id : Ident} {link : Link} (h : m.links[id]? = some link) :
    m.links[link.id]? = some link := by
  rwa [(hv.link_key _ _ h).2]

/-- Two links with one URL are one. -/
theorem link_url (hv : m.Valid) {id id' : Ident} {link other : Link} (h : m.links[id]? = some link)
    (h' : m.links[id']? = some other) (hu : link.url = other.url) : link = other := by
  have e := (hv.url_iff _ _).mpr ⟨link, h, hu⟩
  rw [(hv.url_iff _ _).mpr ⟨other, h', rfl⟩] at e
  cases e
  exact Option.some.inj (h.symm.trans h')

/-- A URL that leads nowhere is the one of no link. -/
theorem url_eq_none_iff (hv : m.Valid) {url : String} : m.identOfUrl[url]? = none ↔
    ∀ (id : Ident) (link : Link), m.links[id]? = some link → link.url ≠ url := by
  rw [Option.eq_none_iff_forall_ne_some]
  constructor
  · intro h id link hl hu
    exact h id ((hv.url_iff _ _).mpr ⟨link, hl, hu⟩)
  · intro h id hid
    obtain ⟨link, hl, hu⟩ := (hv.url_iff _ _).mp hid
    exact h id link hl hu

/-- A refreshed link takes the place of one with the same identifier and URL. -/
theorem putLink (hv : m.Valid) {old link : Link} (h : m.links[old.id]? = some old)
    (hid : link.id = old.id) (hurl : link.url = old.url) : (m.putLink link).Valid where
  link_key id l hl := by
    simp only [Memory.putLink, entry_insert] at hl
    split at hl
    · rename_i he
      cases hl
      exact ⟨by rw [← he, hid]; exact (hv.link_key _ _ h).1, he⟩
    · exact hv.link_key _ _ hl
  url_iff url id := by
    simp only [Memory.putLink, entry_insert]
    rw [hv.url_iff]
    by_cases he : link.id = id
    · subst he
      simp only [if_true, Option.some.injEq, exists_eq_left', hid, h, hurl]
    · simp only [if_neg he]
  edge_key := hv.edge_key
  edge_ends id edge he := by
    have ends := hv.edge_ends _ _ he
    simp [Memory.putLink, Std.TreeMap.contains_insert, ends.1, ends.2]
  listed := hv.listed
  mem_listed := hv.mem_listed
  listed_once := hv.listed_once
  pair := hv.pair
  ne_nil := hv.ne_nil

/-- A new link comes in under an unused identifier and an unknown URL. -/
theorem addLink (hv : m.Valid) {link : Link} (hid : link.id ≠ .nil)
    (hnew : m.links[link.id]? = none) (hurl : m.identOfUrl[link.url]? = none) :
    (m.addLink link).Valid where
  link_key id l hl := by
    simp only [Memory.addLink, entry_insert] at hl
    split at hl
    · rename_i he
      cases hl
      exact ⟨he ▸ hid, he⟩
    · exact hv.link_key _ _ hl
  url_iff url id := by
    have fresh : ∀ (id' : Ident) (l : Link), m.links[id']? = some l → l.url ≠ link.url := by
      intro id' l hl e
      rw [(hv.url_iff _ _).mpr ⟨l, hl, e⟩] at hurl
      cases hurl
    simp only [Memory.addLink, entry_insert]
    by_cases hu : link.url = url
    · subst hu
      simp only [if_true, Option.some.injEq]
      constructor
      · intro h
        subst h
        exact ⟨link, by simp, rfl⟩
      · intro h
        obtain ⟨l, hl, hlu⟩ := h
        split at hl
        · assumption
        · exact absurd hlu (fresh _ _ hl)
    · simp only [if_neg hu]
      rw [hv.url_iff]
      by_cases he : link.id = id
      · subst he
        simp [hnew, hu]
      · simp only [if_neg he]
  edge_key := hv.edge_key
  edge_ends id edge he := by
    have ends := hv.edge_ends _ _ he
    simp [Memory.addLink, Std.TreeMap.contains_insert, ends.1, ends.2]
  listed := hv.listed
  mem_listed := hv.mem_listed
  listed_once := hv.listed_once
  pair := hv.pair
  ne_nil := hv.ne_nil

/-- After an edge took the place of one with the same identifier and pages, every edge of the index
    stands for one of the old index between the same pages. -/
theorem exists_of_putEdge {old edge : Edge} (h : m.edges[old.id]? = some old)
    (hid : edge.id = old.id) (hsrc : edge.src = old.src) (hdst : edge.dst = old.dst) {id : Ident}
    {e : Edge} (he : (m.putEdge edge).edges[id]? = some e) :
    ∃ e' : Edge, m.edges[id]? = some e' ∧ e'.id = e.id ∧ e'.src = e.src ∧ e'.dst = e.dst := by
  simp only [Memory.putEdge, entry_insert] at he
  split at he
  · rename_i hk
    cases he
    exact ⟨old, by rw [← hk, hid]; exact h, hid.symm, hsrc.symm, hdst.symm⟩
  · exact ⟨e, he, rfl, rfl, rfl⟩

/-- A refreshed edge takes the place of one with the same identifier and pages. -/
theorem putEdge (hv : m.Valid) {old edge : Edge} (h : m.edges[old.id]? = some old)
    (hid : edge.id = old.id) (hsrc : edge.src = old.src) (hdst : edge.dst = old.dst) :
    (m.putEdge edge).Valid where
  link_key := hv.link_key
  url_iff := hv.url_iff
  edge_key id e he := by
    obtain ⟨e', he', hi, -, -⟩ := exists_of_putEdge h hid hsrc hdst he
    exact hi ▸ hv.edge_key _ _ he'
  edge_ends id e he := by
    obtain ⟨e', he', -, hs, hd⟩ := exists_of_putEdge h hid hsrc hdst he
    have ends := hv.edge_ends _ _ he'
    rwa [hs, hd] at ends
  listed src id hmem := by
    obtain ⟨e, he, hs⟩ := hv.listed src id hmem
    simp only [Memory.putEdge, entry_insert]
    split
    · rename_i hk
      rw [← hk, hid, h] at he
      cases he
      exact ⟨edge, rfl, hsrc.trans hs⟩
    · exact ⟨e, he, hs⟩
  mem_listed id e he := by
    obtain ⟨e', he', -, hs, -⟩ := exists_of_putEdge h hid hsrc hdst he
    have hmem := hv.mem_listed _ _ he'
    rwa [hs] at hmem
  listed_once := hv.listed_once
  pair id e id' e' he he' hs hd := by
    obtain ⟨f, hf, -, fs, fd⟩ := exists_of_putEdge h hid hsrc hdst he
    obtain ⟨f', hf', -, fs', fd'⟩ := exists_of_putEdge h hid hsrc hdst he'
    exact hv.pair _ _ _ _ hf hf' (fs.trans (hs.trans fs'.symm)) (fd.trans (hd.trans fd'.symm))
  ne_nil := hv.ne_nil

/-- An identifier that no edge has is listed for no page. -/
theorem unlisted (hv : m.Valid) {id : Ident} (h : m.edges[id]? = none) (src : Ident) :
    id ∉ m.edgesFrom src := by
  intro hmem
  obtain ⟨e, he, -⟩ := hv.listed _ _ hmem
  rw [h] at he
  cases he

/-- A new edge comes in under an unused identifier, between two pages that none joins yet. -/
theorem addEdge (hv : m.Valid) {edge : Edge} (hid : edge.id ≠ .nil)
    (hnew : m.edges[edge.id]? = none) (hsrc : m.links.contains edge.src = true)
    (hdst : m.links.contains edge.dst = true)
    (hpair : ∀ (id : Ident) (e : Edge), m.edges[id]? = some e → e.src = edge.src →
      e.dst ≠ edge.dst) :
    (m.addEdge edge).Valid where
  link_key := hv.link_key
  url_iff := hv.url_iff
  edge_key id e he := by
    rw [edge_addEdge] at he
    split at he
    · rename_i hk
      cases he
      exact ⟨hk ▸ hid, hk⟩
    · exact hv.edge_key _ _ he
  edge_ends id e he := by
    rw [edge_addEdge] at he
    split at he
    · cases he
      exact ⟨hsrc, hdst⟩
    · exact hv.edge_ends _ _ he
  listed src id hmem := by
    rw [edge_addEdge]
    rw [edgesFrom_addEdge] at hmem
    split
    · rename_i hk
      split at hmem
      · exact ⟨edge, rfl, by assumption⟩
      · exact absurd (hk ▸ hmem) (hv.unlisted hnew src)
    · rename_i hk
      split at hmem
      · rcases List.mem_append.mp hmem with hmem | hmem
        · exact hv.listed _ _ hmem
        · exact absurd (List.mem_singleton.mp hmem).symm hk
      · exact hv.listed _ _ hmem
  mem_listed id e he := by
    rw [edge_addEdge] at he
    rw [edgesFrom_addEdge]
    split at he
    · rename_i hk
      cases he
      simp [hk]
    · have hmem := hv.mem_listed _ _ he
      split
      · exact List.mem_append_left _ hmem
      · exact hmem
  listed_once src := by
    rw [edgesFrom_addEdge]
    split
    · exact List.nodup_append.mpr ⟨hv.listed_once src, List.nodup_singleton _, fun a ha b hb e =>
        hv.unlisted hnew src (List.mem_singleton.mp hb ▸ e ▸ ha)⟩
    · exact hv.listed_once src
  pair id e id' e' he he' hs hd := by
    rw [edge_addEdge] at he he'
    split at he <;> split at he'
    · exact (by assumption : edge.id = id).symm.trans (by assumption)
    · cases he
      exact absurd hd.symm (hpair _ _ he' hs.symm)
    · cases he'
      exact absurd hd (hpair _ _ he hs)
    · exact hv.pair _ _ _ _ he he' hs hd
  ne_nil src := by
    simp only [Memory.addEdge, entry_insert]
    split
    · simp
    · exact hv.ne_nil src

/-- An edge that is held is confirmed if its time is not before the given one. -/
theorem isConfirmed_iff {before : Stamp} {id : Ident} {edge : Edge}
    (h : m.edges[id]? = some edge) :
    m.isConfirmed before id = decide (before ≤ edge.updatedAt) := by
  simp only [isConfirmed, h]

/-- Removing stale edges keeps the entries of the others. -/
theorem withoutStale (hv : m.Valid) (src : Ident) (before : Stamp) :
    (m.withoutStale src before).Valid where
  link_key := hv.link_key
  url_iff := hv.url_iff
  edge_key _ _ he := hv.edge_key _ _ (edge_of_withoutStale he)
  edge_ends _ _ he := hv.edge_ends _ _ (edge_of_withoutStale he)
  listed page id hmem := by
    rw [edgesFrom_withoutStale] at hmem
    rw [edge_withoutStale]
    split at hmem
    · rename_i hp
      subst hp
      obtain ⟨hmem, hc⟩ := List.mem_filter.mp hmem
      rw [if_neg (by simp [hc])]
      exact hv.listed _ _ hmem
    · rename_i hp
      obtain ⟨e, he, hs⟩ := hv.listed _ _ hmem
      rw [if_neg]
      · exact ⟨e, he, hs⟩
      · intro h
        obtain ⟨hin, -⟩ := h
        -- the identifier would be listed under two pages
        obtain ⟨e', he', hs'⟩ := hv.listed _ _ hin
        rw [he] at he'
        cases he'
        exact hp (hs'.symm.trans hs)
  mem_listed id e he := by
    have hmem := hv.mem_listed _ _ (edge_of_withoutStale he)
    rw [edgesFrom_withoutStale]
    split
    · rename_i hp
      subst hp
      rw [edge_withoutStale] at he
      split at he
      · cases he
      · rename_i hc
        exact List.mem_filter.mpr ⟨hmem, by simpa [hmem] using hc⟩
    · exact hmem
  listed_once page := by
    rw [edgesFrom_withoutStale]
    split
    · exact (hv.listed_once src).filter _
    · exact hv.listed_once page
  pair _ _ _ _ he he' := hv.pair _ _ _ _ (edge_of_withoutStale he) (edge_of_withoutStale he')
  ne_nil := outgoing_withoutStale_ne_nil m hv.ne_nil src before

end Valid

end CrawlGraph.Memory
