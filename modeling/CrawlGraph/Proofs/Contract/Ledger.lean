import CrawlGraph.Proofs.Contract.Past
import CrawlGraph.Proofs.Contract.Stamps
import CrawlGraph.Proofs.Results

/-!
# A ledger of links and edges

The plainest store there is: one list of links and one list of edges, both in the order of their
creation. Whatever calls did to a store can be entered in a ledger, and the ledger then says what
reading the store gives.

1. `Ledger`, what it holds, and its changes.
2. `record` and `ofPast`, which enter a call and a whole past.
3. `Tells`: the ledger of a past holds what the store holds (`tells_of_course`).
4. `ReadBack`: what reading gives in terms of a ledger (`Tells.readBack`).
-/

namespace CrawlGraph

/-! ## 1. Ledgers -/

/-- Links and edges, in the order of their creation. -/
@[ext] structure Ledger where
  links : List Link
  edges : List Edge
  deriving DecidableEq

namespace Ledger

/-- The ledger without entries. -/
def empty : Ledger := ⟨[], []⟩

/-- What the ledger holds. -/
def content (l : Ledger) : Content where
  links := {link | link ∈ l.links}
  edgesFrom src := l.edges.filter fun e => e.src = src

/-- The ledger with a link in place of the one with its URL. -/
def refreshLink (l : Ledger) (link : Link) : Ledger :=
  { l with links := l.links.map fun old => if old.url = link.url then link else old }

/-- The ledger with one more link. -/
def addLink (l : Ledger) (link : Link) : Ledger := { l with links := l.links ++ [link] }

/-- The ledger with an edge in place of the one between the same pages. -/
def refreshEdge (l : Ledger) (edge : Edge) : Ledger :=
  { l with
    edges := l.edges.map fun old =>
      if old.src = edge.src ∧ old.dst = edge.dst then edge else old }

/-- The ledger with one more edge. -/
def addEdge (l : Ledger) (edge : Edge) : Ledger := { l with edges := l.edges ++ [edge] }

/-- The ledger without the edges from a page that were last confirmed before a time. -/
def withoutStale (l : Ledger) (src : Ident) (before : Stamp) : Ledger :=
  { l with edges := l.edges.filter fun e => !(e.src = src ∧ e.updatedAt < before) }

variable {l : Ledger}

theorem mem_links {link : Link} : link ∈ l.content.links ↔ link ∈ l.links := Iff.rfl

theorem mem_edgesFrom {src : Ident} {edge : Edge} :
    edge ∈ l.content.edgesFrom src ↔ edge ∈ l.edges ∧ edge.src = src := by
  simp only [content, List.mem_filter, decide_eq_true_eq]

theorem content_refreshLink (link : Link) {old : Link} (h : old ∈ l.links)
    (hurl : old.url = link.url) : (l.refreshLink link).content = l.content.putLink link := by
  refine Content.ext ?_ rfl
  ext k
  simp only [content, refreshLink, Content.putLink, Set.mem_ofPred_eq, List.mem_map]
  constructor
  · intro h
    obtain ⟨k', hk', he⟩ := h
    split at he
    · exact .inl he.symm
    · rename_i hu
      exact .inr (he ▸ ⟨hk', hu⟩)
  · intro h
    rcases h with rfl | ⟨hk, hu⟩
    · exact ⟨old, h, if_pos hurl⟩
    · exact ⟨k, hk, if_neg hu⟩

theorem content_addLink (link : Link) (hurl : ∀ old ∈ l.links, old.url ≠ link.url) :
    (l.addLink link).content = l.content.putLink link := by
  refine Content.ext ?_ rfl
  ext k
  simp only [content, addLink, Content.putLink, Set.mem_ofPred_eq, List.mem_append,
    List.mem_singleton]
  constructor
  · intro h
    rcases h with hk | rfl
    · exact .inr ⟨hk, hurl k hk⟩
    · exact .inl rfl
  · intro h
    rcases h with rfl | ⟨hk, -⟩
    · exact .inr rfl
    · exact .inl hk

theorem content_refreshEdge (edge : Edge) :
    (l.refreshEdge edge).content = l.content.refreshEdge edge := by
  refine Content.ext rfl (funext fun src => ?_)
  -- the new edge has the source of the one that it takes the place of
  have hsrc : ((fun e => decide (e.src = src)) ∘ fun e : Edge =>
      if e.src = edge.src ∧ e.dst = edge.dst then edge else e) = fun e => decide (e.src = src) := by
    funext e
    rw [Function.comp_apply]
    split
    · rename_i hp
      rw [hp.1]
    · rfl
  simp only [content, refreshEdge, Content.refreshEdge, Function.update_apply]
  rw [List.filter_map, hsrc]
  split
  · rename_i hs
    subst hs
    refine List.map_congr_left fun e he => ?_
    have he' : e.src = edge.src := by simpa using (List.mem_filter.mp he).2
    simp only [he', true_and]
  · rename_i hs
    have hsame : ∀ e ∈ l.edges.filter fun e => decide (e.src = src),
        (if e.src = edge.src ∧ e.dst = edge.dst then edge else e) = id e := by
      intro e he
      have he' : e.src = src := by simpa using (List.mem_filter.mp he).2
      exact if_neg fun hp => hs (he'.symm.trans hp.1)
    rw [List.map_congr_left hsame, List.map_id]

theorem content_addEdge (edge : Edge) : (l.addEdge edge).content = l.content.addEdge edge := by
  refine Content.ext rfl (funext fun src => ?_)
  simp only [content, addEdge, Content.addEdge, Function.update_apply, List.filter_append]
  by_cases hs : src = edge.src
  · subst hs
    simp
  · simp [hs, Ne.symm hs]

theorem content_withoutStale (src : Ident) (before : Stamp) :
    (l.withoutStale src before).content = l.content.withoutStale src before := by
  refine Content.ext rfl (funext fun page => ?_)
  simp only [content, withoutStale, Content.withoutStale, Function.update_apply,
    List.filter_filter]
  split
  · rename_i hs
    subst hs
    refine List.filter_congr fun e _ => ?_
    by_cases hp : e.src = page
    · simp only [hp, true_and, decide_true, Bool.and_true, Bool.true_and, ← Int64.not_lt,
        decide_not]
    · simp [hp]
  · rename_i hs
    refine List.filter_congr fun e _ => ?_
    by_cases hp : e.src = page
    · simp [hp, hs]
    · simp [hp]

/-! ## 2. Entering calls -/

/-- Enters a link that was stored; a new one comes in under the given identifier. -/
def storeLink (l : Ledger) (link : Link) (id : Ident) : Ledger :=
  match l.links.find? fun old => old.url = link.url with
  | some old => l.refreshLink { old with retrievedAt := max old.retrievedAt link.retrievedAt }
  | none => l.addLink { link with id }

/-- Enters an edge that was stored at a time; a new one comes in under the given identifier. -/
def storeEdge (l : Ledger) (edge : Edge) (id : Ident) (now : Stamp) : Ledger :=
  match l.edges.find? fun old => old.src = edge.src ∧ old.dst = edge.dst with
  | some old => l.refreshEdge { old with updatedAt := max old.updatedAt now }
  | none => l.addEdge { edge with id, updatedAt := now }

theorem storeLink_of_known {link old : Link} (held : old ∈ l.links) (url : old.url = link.url)
    (only : ∀ k ∈ l.links, k.url = link.url → k = old) (id : Ident) :
    l.storeLink link id = l.refreshLink
      { link with id := old.id, retrievedAt := max link.retrievedAt old.retrievedAt } := by
  have hfind : l.links.find? (fun k => k.url = link.url) = some old :=
    find?_of_unique held (decide_eq_true url) fun k hk hu => only k hk (of_decide_eq_true hu)
  have same : { old with retrievedAt := max old.retrievedAt link.retrievedAt } =
      { link with id := old.id, retrievedAt := max link.retrievedAt old.retrievedAt } :=
    Link.ext rfl url (Stamp.max_comm _ _)
  rw [storeLink, hfind, ← same]

theorem storeLink_of_new {link : Link} (new : ∀ k ∈ l.links, k.url ≠ link.url) (id : Ident) :
    l.storeLink link id = l.addLink { link with id } := by
  have hfind : l.links.find? (fun k => k.url = link.url) = none :=
    List.find?_eq_none.mpr fun k hk hu => new k hk (of_decide_eq_true hu)
  rw [storeLink, hfind]

theorem storeEdge_of_known {edge old : Edge} (held : old ∈ l.edges) (src : old.src = edge.src)
    (dst : old.dst = edge.dst)
    (only : ∀ k ∈ l.edges, k.src = edge.src → k.dst = edge.dst → k = old) (id : Ident)
    (now : Stamp) : l.storeEdge edge id now =
      l.refreshEdge { old with updatedAt := max old.updatedAt now } := by
  have hfind : l.edges.find? (fun k => k.src = edge.src ∧ k.dst = edge.dst) = some old := by
    refine find?_of_unique held (decide_eq_true ⟨src, dst⟩) fun k hk hp => ?_
    have hp := of_decide_eq_true hp
    exact only k hk hp.1 hp.2
  rw [storeEdge, hfind]

theorem storeEdge_of_new {edge : Edge}
    (new : ∀ k ∈ l.edges, k.src = edge.src → k.dst ≠ edge.dst) (id : Ident) (now : Stamp) :
    l.storeEdge edge id now = l.addEdge { edge with id, updatedAt := now } := by
  have hfind : l.edges.find? (fun k => k.src = edge.src ∧ k.dst = edge.dst) = none := by
    refine List.find?_eq_none.mpr fun k hk hp => ?_
    have hp := of_decide_eq_true hp
    exact new k hk hp.1 hp.2
  rw [storeEdge, hfind]

/-- Enters a call. Of its answer, only the success and the identifier of a new record count. -/
def record (l : Ledger) (now : Stamp) (call : Call) (answer : Except StoreError Reply) : Ledger :=
  match call, answer with
  | .upsertLink link, .ok (.link stored) => l.storeLink link stored.id
  | .upsertEdge edge, .ok (.edge stored) => l.storeEdge edge stored.id now
  | .removeStaleEdges src before, .ok _ => l.withoutStale src before
  | _, _ => l

/-- The ledger of a past. -/
def ofPast {σ : Type} [LinkStore σ] (past : List (Moment σ)) : Ledger :=
  past.foldl (fun l m => l.record m.reading m.call m.answer) empty

/-! ## 3. The ledger of a past -/

/-- **The ledger holds what the content is**, and no identifier twice. -/
structure Tells (l : Ledger) (c : Content) : Prop where
  content : l.content = c
  link_ids : (l.links.map (·.id)).Nodup
  edge_ids : (l.edges.map (·.id)).Nodup

theorem tells_empty : empty.Tells .empty where
  content := Content.ext (Set.eq_empty_of_forall_notMem fun _ => List.not_mem_nil) rfl
  link_ids := List.nodup_nil
  edge_ids := List.nodup_nil

namespace Tells

variable {c c' : Content} {now : Stamp}

theorem storeLink (h : l.Tells c) (sound : c.Sound) {link stored : Link}
    (step : c.LinkStored link (.ok stored) c') : (l.storeLink link stored.id).Tells c' := by
  obtain ⟨rfl, link_ids, edge_ids⟩ := h
  cases step with
  | @refreshed old held url =>
    have only : ∀ k ∈ l.links, k.url = link.url → k = old := fun k hk hu =>
      sound.link_url k hk old held (hu.trans url.symm)
    rw [storeLink_of_known held url only]
    refine ⟨content_refreshLink _ held url, ?_, edge_ids⟩
    refine (congrArg List.Nodup (map_replace _ fun k hk hu => ?_)).mpr link_ids
    rw [only k hk hu]
  | @created id new ne_nil unused =>
    rw [storeLink_of_new new]
    refine ⟨content_addLink _ new, ?_, edge_ids⟩
    rw [addLink, List.map_append, List.map_singleton]
    refine link_ids.append (List.nodup_singleton _) (List.disjoint_singleton.mpr fun hid => ?_)
    obtain ⟨k, hk, he⟩ := List.mem_map.mp hid
    exact unused k hk he

theorem storeEdge (h : l.Tells c) (sound : c.Sound) {edge stored : Edge}
    (step : c.EdgeStored now edge (.ok stored) c') :
    (l.storeEdge edge stored.id now).Tells c' := by
  obtain ⟨rfl, link_ids, edge_ids⟩ := h
  cases step with
  | @refreshed old held dst =>
    obtain ⟨held, src⟩ := mem_edgesFrom.mp held
    -- between two pages the ledger holds one edge
    have only : ∀ k ∈ l.edges, k.src = edge.src → k.dst = edge.dst → k = old := fun k hk hs hd =>
      sound.eq_of_dst (mem_edgesFrom.mpr ⟨hk, hs⟩) (mem_edgesFrom.mpr ⟨held, src⟩)
        (hd.trans dst.symm)
    rw [storeEdge_of_known held src dst only]
    refine ⟨content_refreshEdge _, link_ids, ?_⟩
    refine (congrArg List.Nodup (map_replace _ fun k hk hp => ?_)).mpr edge_ids
    rw [only k hk (hp.1.trans src) (hp.2.trans dst)]
  | @created id src dst new ne_nil unused =>
    rw [storeEdge_of_new fun k hk hs => new k (mem_edgesFrom.mpr ⟨hk, hs⟩)]
    refine ⟨content_addEdge _, link_ids, ?_⟩
    rw [addEdge, List.map_append, List.map_singleton]
    refine edge_ids.append (List.nodup_singleton _) (List.disjoint_singleton.mpr fun hid => ?_)
    obtain ⟨k, hk, he⟩ := List.mem_map.mp hid
    exact unused k.src k (mem_edgesFrom.mpr ⟨hk, rfl⟩) he

/-- **A call does to the ledger what it does to the content.** -/
theorem record (h : l.Tells c) (sound : c.Sound) {call : Call} {answer : Except StoreError Reply}
    (step : c.Step now call answer c') : (l.record now call answer).Tells c' := by
  cases call with
  | upsertLink link =>
    obtain ⟨a, ha, rfl⟩ := step
    cases a with
    | ok stored => exact h.storeLink sound ha
    | error e =>
      cases ha
      exact h
  | upsertEdge edge =>
    obtain ⟨a, ha, rfl⟩ := step
    cases a with
    | ok stored => exact h.storeEdge sound ha
    | error e =>
      cases ha with
      | unknown _ => exact h
      | exhausted => exact h
  | removeStaleEdges src before =>
    obtain ⟨rfl, rfl⟩ := step
    refine ⟨?_, h.link_ids, h.edge_ids.sublist (List.filter_sublist.map _)⟩
    exact (content_withoutStale src before).trans (congrArg (·.withoutStale src before) h.content)
  | findLink id =>
    obtain ⟨-, -, -, rfl⟩ := step
    exact h
  | links start stop before =>
    obtain ⟨-, -, -, rfl⟩ := step
    exact h
  | edges start stop before =>
    obtain ⟨-, -, -, rfl⟩ := step
    exact h

end Tells

section Reading

variable {σ : Type} [LinkStore σ] [LawfulStore σ] {supply : Supply} {s : Session σ}

open LawfulStore

/-- **The ledger of a past holds what the store holds** to which the past led. -/
theorem tells_of_course {past : List (Moment σ)}
    (h : Session.Course ⟨LawfulStore.empty, supply⟩ past s) :
    (ofPast past).Tells (LawfulStore.content s.store) := by
  induction h with
  | start =>
    rw [content_empty]
    exact tells_empty
  | @call past s c h ih =>
    have hv := valid_of_reached h.reached
    unfold ofPast
    rw [List.foldl_append]
    exact ih.record (sound hv) (step c hv)
  | elapse _ _ ih => exact ih

/-! ## 4. Reading -/

/-- **Reading a session gives what the ledger says**: every link by its identifier, the links of a
    range in the order of their identifiers, and the edges of a range by their sources and, for
    each source, in the order of their creation. -/
structure ReadBack (l : Ledger) (s : Session σ) : Prop where
  found : ∀ link ∈ l.links, s.answer (.findLink link.id) = .ok (.link link)
  missing : ∀ id, (∀ link ∈ l.links, link.id ≠ id) →
    s.answer (.findLink id) = .error (.of .findLink .notFound)
  links : ∀ start stop before, ∃ links, s.answer (.links start stop before) = .ok (.links links) ∧
    links.Pairwise (fun a b => a.id < b.id) ∧
    links.Perm (l.links.filter fun link =>
      start ≤ link.id ∧ link.id < stop ∧ link.retrievedAt < before)
  edges : ∀ start stop before, ∃ edges, s.answer (.edges start stop before) = .ok (.edges edges) ∧
    edges.Pairwise (fun a b => a.src ≤ b.src) ∧ (edges.map (·.id)).Nodup ∧
    edges.Perm (l.edges.filter fun edge =>
      start ≤ edge.src ∧ edge.src < stop ∧ edge.updatedAt < before) ∧
    ∀ src, (edges.filter fun edge => edge.src = src).Sublist l.edges
  none : ∀ start stop before, stop ≤ start →
    s.answer (.links start stop before) = .ok (.links []) ∧
      s.answer (.edges start stop before) = .ok (.edges [])

theorem Tells.perm_of_linksRead {c : Content} (h : l.Tells c) {start stop : Ident} {before : Stamp}
    {links : List Link} (read : c.LinksRead start stop before links) :
    links.Perm (l.links.filter fun link =>
      start ≤ link.id ∧ link.id < stop ∧ link.retrievedAt < before) := by
  obtain ⟨rfl, link_ids, -⟩ := h
  have hnodup : links.Nodup := read.sorted.imp fun hlt he => by
    subst he
    exact Nat.lt_irrefl _ hlt
  refine (List.perm_ext_iff_of_nodup hnodup (link_ids.of_map.filter _)).mpr fun link => ?_
  rw [read.mem_iff, List.mem_filter, decide_eq_true_eq]
  rfl

/-- What a range gives for one source is what the ledger holds for it. -/
theorem Tells.filter_src_of_edgesRead {c : Content} (h : l.Tells c) {start stop : Ident}
    {before : Stamp} {edges : List Edge} (read : c.EdgesRead start stop before edges)
    (src : Ident) : edges.filter (fun e => e.src = src) =
      (l.edges.filter fun edge => start ≤ edge.src ∧ edge.src < stop ∧
        edge.updatedAt < before).filter fun e => e.src = src := by
  obtain ⟨rfl, -, -⟩ := h
  rw [read.filter_src, List.filter_filter]
  split
  · rename_i hr
    rw [Ledger.content, List.filter_filter]
    refine List.filter_congr fun e _ => ?_
    by_cases hs : e.src = src
    · simp [hs, hr]
    · simp [hs]
  · rename_i hr
    refine (List.filter_eq_nil_iff.mpr fun e _ he => ?_).symm
    simp only [Bool.and_eq_true, decide_eq_true_eq] at he
    obtain ⟨rfl, hstart, hstop, -⟩ := he
    exact hr ⟨hstart, hstop⟩

theorem Tells.perm_of_edgesRead {c : Content} (h : l.Tells c) {start stop : Ident} {before : Stamp}
    {edges : List Edge} (read : c.EdgesRead start stop before edges) :
    edges.Perm (l.edges.filter fun edge =>
      start ≤ edge.src ∧ edge.src < stop ∧ edge.updatedAt < before) := by
  -- both lists hold an edge as often as what they hold for its source does
  refine List.perm_iff_count.mpr fun e => ?_
  have hp : decide (e.src = e.src) = true := decide_eq_true rfl
  rw [← List.count_filter (p := fun k => decide (k.src = e.src)) hp,
    ← List.count_filter (p := fun k => decide (k.src = e.src)) (l := l.edges.filter _) hp,
    h.filter_src_of_edgesRead read]

/-- **A ledger that tells what a valid store holds is read back from it.** -/
theorem Tells.readBack (hv : Valid s.store) (h : l.Tells (LawfulStore.content s.store)) :
    l.ReadBack s where
  found link hl := by
    obtain ⟨a, ha, he, -⟩ := step (.findLink link.id) hv
    rw [he]
    have held : link ∈ (LawfulStore.content s.store).links := h.content ▸ hl
    rw [ha.unique (sound hv) (.found held rfl)]
    rfl
  missing id hid := by
    obtain ⟨a, ha, he, -⟩ := step (.findLink id) hv
    have unused : ∀ link ∈ (LawfulStore.content s.store).links, link.id ≠ id := by
      rw [← h.content]
      exact hid
    rw [he, ha.unique (sound hv) (.missing unused)]
    rfl
  links start stop before := by
    obtain ⟨links, read, he, -⟩ := step (.links start stop before) hv
    exact ⟨links, he, read.sorted, h.perm_of_linksRead read⟩
  edges start stop before := by
    obtain ⟨edges, read, he, -⟩ := step (.edges start stop before) hv
    have hperm := h.perm_of_edgesRead read
    refine ⟨edges, he, read.sorted, ?_, hperm, fun src => ?_⟩
    · exact (hperm.map _).nodup_iff.mpr (h.edge_ids.sublist (List.filter_sublist.map _))
    · rw [h.filter_src_of_edgesRead read]
      exact List.filter_sublist.trans List.filter_sublist
  none start stop before hle := by
    obtain ⟨links, lread, hl, -⟩ := step (.links start stop before) hv
    obtain ⟨edges, eread, he, -⟩ := step (.edges start stop before) hv
    have out : ∀ id : Ident, start ≤ id → ¬id < stop := fun id h h' =>
      absurd (Nat.lt_of_le_of_lt (Nat.le_trans hle h) h') (Nat.lt_irrefl _)
    have hlinks : links = [] := List.eq_nil_iff_forall_not_mem.mpr fun link hmem =>
      out link.id ((lread.mem_iff link).mp hmem).2.1 ((lread.mem_iff link).mp hmem).2.2.1
    have hedges : edges = [] := by
      refine List.eq_nil_iff_forall_not_mem.mpr fun edge hmem => ?_
      have hin := List.mem_filter.mp ((h.perm_of_edgesRead eread).mem_iff.mp hmem)
      exact out edge.src (of_decide_eq_true hin.2).1 (of_decide_eq_true hin.2).2.1
    rw [hl, he, hlinks, hedges]
    exact ⟨rfl, rfl⟩

end Reading

end Ledger

end CrawlGraph
