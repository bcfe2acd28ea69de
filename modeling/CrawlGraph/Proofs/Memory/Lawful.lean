import CrawlGraph.Proofs.Contract.LawfulStore
import CrawlGraph.Proofs.Memory.Outcome
import CrawlGraph.Proofs.Sorting

/-!
# The store in memory keeps the contract

1. `Memory.content`, what the four indices hold, and how it follows each change of them.
2. Reading a range.
3. The step of a call, and the instance of `LawfulStore`.
4. `Consistent`, what the indices promise, and `consistent_of_reached`: they do so in every state
   that calls lead to.
-/

namespace CrawlGraph.Memory

/-! ## 1. Content -/

/-- The links that are held, and for each page the edges on its adjacency list. -/
def content (m : Memory) : Content where
  links := {link | ∃ id : Ident, m.links[id]? = some link}
  edgesFrom src := (m.edgesFrom src).filterMap fun id => m.edges[id]?

theorem content_empty : empty.content = .empty := by
  ext link
  · simp [content, Content.empty, empty]
  · simp [content, Content.empty, empty, edgesFrom]

variable {m : Memory}

theorem mem_content_links {link : Link} :
    link ∈ m.content.links ↔ ∃ id : Ident, m.links[id]? = some link := Iff.rfl

theorem mem_content_edges (hv : m.Valid) {src : Ident} {edge : Edge} :
    edge ∈ m.content.edgesFrom src ↔ m.edges[edge.id]? = some edge ∧ edge.src = src := by
  simp only [content, List.mem_filterMap]
  constructor
  · intro h
    obtain ⟨id, hmem, he⟩ := h
    obtain ⟨e, he', hs⟩ := hv.listed _ _ hmem
    rw [he] at he'
    cases he'
    exact ⟨by rwa [(hv.edge_key _ _ he).2], hs⟩
  · intro h
    obtain ⟨he, rfl⟩ := h
    exact ⟨edge.id, hv.mem_listed _ _ he, he⟩

theorem hasLink_iff (hv : m.Valid) {id : Ident} :
    m.content.HasLink id ↔ m.links.contains id = true := by
  rw [Std.TreeMap.contains_eq_isSome_getElem?, Option.isSome_iff_exists]
  constructor
  · intro h
    obtain ⟨link, ⟨k, hk⟩, rfl⟩ := h
    exact ⟨link, hv.link_self hk⟩
  · intro h
    obtain ⟨link, h⟩ := h
    exact ⟨link, ⟨id, h⟩, (hv.link_key _ _ h).2⟩

/-- **What a valid store holds is sound.** -/
theorem sound_content (hv : m.Valid) : m.content.Sound where
  link_ne_nil := by
    intro link h
    obtain ⟨id, h⟩ := h
    have hk := hv.link_key _ _ h
    rw [hk.2]
    exact hk.1
  link_ident := by
    intro link h other h' he
    obtain ⟨id, h⟩ := h
    obtain ⟨id', h'⟩ := h'
    have hs := hv.link_self h
    rw [he, hv.link_self h'] at hs
    exact (Option.some.inj hs).symm
  link_url := by
    intro link h other h' he
    obtain ⟨id, h⟩ := h
    obtain ⟨id', h'⟩ := h'
    exact hv.link_url h h' he
  edge_ne_nil src edge h := by
    obtain ⟨he, -⟩ := (mem_content_edges hv).mp h
    exact (hv.edge_key _ _ he).1
  edge_src src edge h := ((mem_content_edges hv).mp h).2
  edge_ends src edge h := by
    obtain ⟨he, -⟩ := (mem_content_edges hv).mp h
    rw [hasLink_iff hv, hasLink_iff hv]
    exact hv.edge_ends _ _ he
  edge_ident src edge h src' other h' he := by
    have hk := ((mem_content_edges hv).mp h).1
    rw [he, ((mem_content_edges hv).mp h').1] at hk
    exact (Option.some.inj hk).symm
  edge_pair src := by
    simp only [List.Nodup, content, List.pairwise_map, List.pairwise_filterMap]
    refine (hv.listed_once src).imp_of_mem ?_
    intro id id' hid hid' hne e he e' he' hd
    obtain ⟨f, hf, hs⟩ := hv.listed _ _ hid
    obtain ⟨f', hf', hs'⟩ := hv.listed _ _ hid'
    rw [he] at hf
    rw [he'] at hf'
    cases hf
    cases hf'
    exact hne (hv.pair _ _ _ _ he he' (hs.trans hs'.symm) hd)

/-- A link comes into the content with its entry, if the entry that it takes the place of is the
    one with its URL. -/
theorem links_insert {link : Link}
    (h : ∀ (id : Ident) (l : Link), m.links[id]? = some l → (link.id = id ↔ l.url = link.url)) :
    {l | ∃ id : Ident, (m.links.insert link.id link)[id]? = some l} =
      (m.content.putLink link).links := by
  ext l
  simp only [Content.putLink, Set.mem_ofPred_eq, entry_insert]
  constructor
  · intro h
    obtain ⟨id, hl⟩ := h
    split at hl
    · cases hl
      exact .inl rfl
    · rename_i hne
      exact .inr ⟨⟨id, hl⟩, fun hu => hne ((h id l hl).mpr hu)⟩
  · intro h
    rcases h with rfl | ⟨⟨id, hl⟩, hu⟩
    · exact ⟨l.id, if_pos rfl⟩
    · exact ⟨id, by rw [if_neg fun e => hu ((h id l hl).mp e), hl]⟩

theorem content_putLink (hv : m.Valid) (link : Link) {old : Link} (h : m.links[old.id]? = some old)
    (hid : link.id = old.id) (hurl : link.url = old.url) :
    (m.putLink link).content = m.content.putLink link := by
  refine Content.ext (links_insert fun id l hl => ?_) rfl
  constructor
  · intro h
    subst h
    rw [hid, h] at hl
    cases hl
    exact hurl.symm
  · intro hu
    rw [hv.link_url hl h (hu.trans hurl)] at hl
    rw [hid, ← (hv.link_key _ _ hl).2]

theorem content_addLink (hv : m.Valid) (link : Link) (hnew : m.links[link.id]? = none)
    (hurl : m.identOfUrl[link.url]? = none) :
    (m.addLink link).content = m.content.putLink link := by
  refine Content.ext (links_insert fun id l hl => ?_) rfl
  constructor
  · intro h
    subst h
    rw [hnew] at hl
    cases hl
  · intro hu
    rw [(hv.url_iff _ _).mpr ⟨l, hl, hu⟩] at hurl
    cases hurl

theorem content_putEdge (hv : m.Valid) (edge : Edge) {old : Edge} (h : m.edges[old.id]? = some old)
    (hid : edge.id = old.id) (hsrc : edge.src = old.src) (hdst : edge.dst = old.dst) :
    (m.putEdge edge).content = m.content.refreshEdge edge := by
  refine Content.ext rfl (funext fun src => ?_)
  simp only [content, Memory.putEdge, entry_insert, Content.refreshEdge, Function.update_apply]
  split
  · rename_i hs
    subst hs
    rw [List.map_filterMap]
    refine List.filterMap_congr fun id hmem => ?_
    obtain ⟨e, he, hes⟩ := hv.listed _ _ hmem
    rw [he]
    split
    · rename_i hk
      rw [← hk, hid, h] at he
      cases he
      simp [hdst]
    · rename_i hk
      have hd : e.dst ≠ edge.dst := by
        intro hd
        exact hk (hid.trans (hv.pair _ _ _ _ h he (hsrc.symm.trans hes.symm)
          (hdst.symm.trans hd.symm)))
      simp [hd]
  · rename_i hs
    refine List.filterMap_congr fun id hmem => ?_
    obtain ⟨e, he, hes⟩ := hv.listed _ _ hmem
    rw [if_neg]
    intro h
    subst h
    rw [hid, h] at he
    cases he
    exact hs (hes.symm.trans hsrc.symm)

theorem content_addEdge (hv : m.Valid) (edge : Edge) (hnew : m.edges[edge.id]? = none) :
    (m.addEdge edge).content = m.content.addEdge edge := by
  have old : ∀ src, (m.edgesFrom src).filterMap
      (fun id => if edge.id = id then some edge else m.edges[id]?) =
      (m.edgesFrom src).filterMap fun id => m.edges[id]? := by
    intro src
    refine List.filterMap_congr fun id hmem => ?_
    obtain ⟨e, he, -⟩ := hv.listed _ _ hmem
    rw [if_neg]
    intro h
    subst h
    rw [hnew] at he
    cases he
  refine Content.ext rfl (funext fun src => ?_)
  simp only [content, edgesFrom_addEdge, Content.addEdge, Function.update_apply]
  by_cases hs : edge.src = src
  · subst hs
    simp only [if_true, List.filterMap_append, Memory.addEdge, entry_insert, old,
      List.filterMap_cons, List.filterMap_nil]
  · simp only [if_neg hs, if_neg (Ne.symm hs), Memory.addEdge, entry_insert, old]

theorem content_withoutStale (hv : m.Valid) (src : Ident) (before : Stamp) :
    (m.withoutStale src before).content = m.content.withoutStale src before := by
  refine Content.ext rfl (funext fun page => ?_)
  simp only [content, edgesFrom_withoutStale, edge_withoutStale, Content.withoutStale,
    Function.update_apply]
  by_cases hs : src = page
  · subst hs
    simp only [if_true, List.filter_filterMap, List.filterMap_filter]
    refine List.filterMap_congr fun id hmem => ?_
    obtain ⟨e, he, -⟩ := hv.listed _ _ hmem
    rw [Valid.isConfirmed_iff he, he]
    by_cases hb : before ≤ e.updatedAt <;> simp [hb, Option.filter]
  · simp only [if_neg hs, if_neg (Ne.symm hs)]
    refine List.filterMap_congr fun id hmem => ?_
    rw [if_neg]
    intro h
    obtain ⟨hin, -⟩ := h
    obtain ⟨e, he, hes⟩ := hv.listed _ _ hmem
    obtain ⟨e', he', hes'⟩ := hv.listed _ _ hin
    rw [he] at he'
    cases he'
    exact hs (hes'.symm.trans hes)

/-! ## 2. Reading a range -/

theorem ident_lt_of_compare {a b : Ident} (h : compare a b = .lt) : a < b :=
  Nat.compare_eq_lt.mp h

/-- The entries of a range stand in the order of their keys. -/
theorem inRange_sorted {β : Type} (t : Std.TreeMap Ident β) (start stop : Ident) :
    (inRange t start stop).Pairwise fun a b => a.1 < b.1 :=
  (Std.TreeMap.ordered_keys_toList.imp fun h => ident_lt_of_compare h).filter _

theorem mem_inRange {β : Type} {t : Std.TreeMap Ident β} {start stop : Ident} {e : Ident × β} :
    e ∈ inRange t start stop ↔ t[e.1]? = some e.2 ∧ start ≤ e.1 ∧ e.1 < stop := by
  rw [inRange, List.mem_filter, Std.TreeMap.mem_toList_iff_getElem?_eq_some, decide_eq_true_eq]

/-- The entries of two ranges side by side, one range after the other. -/
theorem inRange_append {β : Type} (t : Std.TreeMap Ident β) {a b c : Ident} (hab : a ≤ b)
    (hbc : b ≤ c) :
    inRange t a c = inRange t a b ++ inRange t b c := by
  have hcut := filter_append_filter_not (p := fun e : Ident × β => decide (e.1 < b))
    ((inRange_sorted t a c).imp fun h hlt =>
      decide_eq_true (Nat.lt_trans h (of_decide_eq_true hlt)))
  rw [← hcut]
  unfold inRange
  rw [List.filter_filter, List.filter_filter]
  congr 1
  · refine List.filter_congr fun e _ => ?_
    rw [← Bool.decide_and, decide_eq_decide]
    exact ⟨fun h => ⟨h.2.1, h.1⟩, fun h => ⟨h.2, h.1, Nat.lt_of_lt_of_le h.2 hbc⟩⟩
  · refine List.filter_congr fun e _ => ?_
    rw [← decide_not, ← Bool.decide_and, decide_eq_decide, Ident.lt_def, Nat.not_lt]
    exact ⟨fun h => ⟨h.1, h.2.2⟩, fun h => ⟨h.1, Nat.le_trans hab h.1, h.2⟩⟩

theorem linkList_append (m : Memory) {a b c : Ident} (hab : a ≤ b) (hbc : b ≤ c) (before : Stamp) :
    m.linkList a c before = m.linkList a b before ++ m.linkList b c before := by
  simp only [linkList, inRange_append m.links hab hbc, List.map_append, List.filter_append]

theorem edgeList_append (m : Memory) {a b c : Ident} (hab : a ≤ b) (hbc : b ≤ c) (before : Stamp) :
    m.edgeList a c before = m.edgeList a b before ++ m.edgeList b c before := by
  simp only [edgeList, inRange_append m.outgoing hab hbc, List.flatMap_append,
    List.filterMap_append, List.filter_append]

theorem linksIn_eq (m : Memory) (start stop : Ident) (before : Stamp) :
    Scan.linksIn m start stop before = .ok (m.linkList start stop before) :=
  Cursor.collect_ofList _

theorem edgesIn_eq (m : Memory) (start stop : Ident) (before : Stamp) :
    Scan.edgesIn m start stop before = .ok (m.edgeList start stop before) :=
  Cursor.collect_ofList _

theorem linksRead_linkList (hv : m.Valid) (start stop : Ident) (before : Stamp) :
    m.content.LinksRead start stop before (m.linkList start stop before) where
  sorted := by
    refine List.Pairwise.filter _ (List.pairwise_map.mpr ?_)
    refine (inRange_sorted m.links start stop).imp_of_mem fun ha hb hlt => ?_
    rwa [(hv.link_key _ _ (mem_inRange.mp ha).1).2, (hv.link_key _ _ (mem_inRange.mp hb).1).2]
  mem_iff link := by
    simp only [linkList, List.mem_filter, List.mem_map, decide_eq_true_eq, mem_content_links]
    constructor
    · intro h
      obtain ⟨⟨e, he, rfl⟩, ht⟩ := h
      obtain ⟨hl, hr⟩ := mem_inRange.mp he
      rw [(hv.link_key _ _ hl).2]
      exact ⟨⟨e.1, hl⟩, hr.1, hr.2, ht⟩
    · intro h
      obtain ⟨⟨id, hl⟩, hstart, hstop, ht⟩ := h
      exact ⟨⟨(link.id, link), mem_inRange.mpr ⟨hv.link_self hl, hstart, hstop⟩, rfl⟩, ht⟩

/-- Blocks of edges, one for each of some sources, hold for a source what its block holds. -/
theorem filter_src_flatMap {keys : List Ident} (hk : keys.Nodup) {block : Ident → List Edge}
    (hb : ∀ key ∈ keys, ∀ e ∈ block key, e.src = key) (src : Ident) :
    (keys.flatMap block).filter (fun e => e.src = src) =
      if src ∈ keys then block src else [] := by
  induction keys with
  | nil => rfl
  | cons key keys ih =>
    rw [List.nodup_cons] at hk
    have hrest := ih hk.2 fun k hmem => hb k (List.mem_cons_of_mem _ hmem)
    have hblock := hb key List.mem_cons_self
    rw [List.flatMap_cons, List.filter_append, hrest]
    by_cases hs : key = src
    · subst hs
      rw [List.filter_eq_self.mpr fun e he => by simp [hblock e he], if_neg hk.1,
        if_pos List.mem_cons_self, List.append_nil]
    · rw [List.filter_eq_nil_iff.mpr fun e he => by simp [hblock e he, hs], List.nil_append]
      simp [Ne.symm hs]

/-- An edge list is made of blocks, one for each page that has an adjacency list. -/
theorem edgeList_eq_flatMap (start stop : Ident) (before : Stamp) :
    m.edgeList start stop before = ((inRange m.outgoing start stop).map (·.1)).flatMap fun src =>
      (m.content.edgesFrom src).filter fun e => e.updatedAt < before := by
  rw [edgeList, List.filterMap_flatMap, List.filter_flatMap, List.flatMap_map]
  refine List.flatMap_congr fun e he => ?_
  simp only [content, edgesFrom, (mem_inRange.mp he).1, Option.getD_some]

theorem edgesRead_edgeList (hv : m.Valid) (start stop : Ident) (before : Stamp) :
    m.content.EdgesRead start stop before (m.edgeList start stop before) := by
  have hsorted : ((inRange m.outgoing start stop).map (·.1)).Pairwise (· < ·) :=
    List.pairwise_map.mpr (inRange_sorted m.outgoing start stop)
  have hsrc : ∀ src, ∀ e ∈ (m.content.edgesFrom src).filter fun e => e.updatedAt < before,
      e.src = src := fun src e he => (sound_content hv).edge_src _ _ (List.mem_of_mem_filter he)
  rw [edgeList_eq_flatMap]
  constructor
  · rw [List.pairwise_flatMap]
    refine ⟨fun src _ => List.pairwise_of_forall_mem_list fun a ha b hb => ?_, hsorted.imp ?_⟩
    · rw [hsrc src a ha, hsrc src b hb]
      exact Nat.le_refl _
    · intro src src' hlt a ha b hb
      rw [hsrc src a ha, hsrc src' b hb]
      exact Nat.le_of_lt hlt
  · intro src
    rw [filter_src_flatMap (hsorted.imp fun hlt e => by
      subst e
      exact Nat.lt_irrefl _ hlt) fun key _ => hsrc key]
    have hmem : src ∈ (inRange m.outgoing start stop).map (·.1) ↔
        (m.outgoing[src]?).isSome ∧ start ≤ src ∧ src < stop := by
      rw [List.mem_map, Option.isSome_iff_exists]
      constructor
      · intro h
        obtain ⟨e, he, rfl⟩ := h
        obtain ⟨ho, hr⟩ := mem_inRange.mp he
        exact ⟨⟨e.2, ho⟩, hr⟩
      · intro h
        obtain ⟨⟨ids, ho⟩, hr⟩ := h
        exact ⟨(src, ids), mem_inRange.mpr ⟨ho, hr⟩, rfl⟩
    simp only [hmem]
    by_cases hr : start ≤ src ∧ src < stop
    · cases ho : m.outgoing[src]? with
      | some ids => simp [hr]
      | none => simp [hr, content, edgesFrom, ho]
    · simp [hr]

/-! ## 3. Calls -/

variable {s : Session Memory}

/-- Looking a link up in a valid store. -/
theorem linkFound_findLink {m : Memory} (hv : m.Valid) (id : Ident) :
    m.content.LinkFound id (m.findLink id) := by
  unfold findLink
  cases h : m.links[id]? with
  | some link => exact .found ⟨id, h⟩ (hv.link_key _ _ h).2
  | none =>
    refine .missing ?_
    intro link h h'
    obtain ⟨k, hk⟩ := h
    subst h'
    rw [hv.link_self hk] at h
    cases h

/-- The outcome of storing a link is one that the contract allows. -/
theorem LinkOutcome.lawful (hv : s.store.Valid) {link : Link} {answer : Except StoreError Link}
    {s' : Session Memory} {record : Link}
    (h : LinkOutcome s link answer s' record) :
    s'.store.Valid ∧ s.supply.Later s'.supply ∧
      s.store.content.LinkStored link answer s'.store.content := by
  cases h with
  | @refreshed old held url =>
    refine ⟨hv.putLink held rfl url.symm, .refl _, ?_⟩
    rw [content_putLink hv (refreshedLink old link) held rfl url.symm]
    exact .refreshed ⟨_, held⟩ url
  | @created k new first =>
    obtain ⟨⟨-, hnil, hfree⟩, -⟩ := first
    have hnone := Std.TreeMap.getElem?_eq_none_of_contains_eq_false (Bool.eq_false_iff.mpr hfree)
    have hurl := hv.url_eq_none_iff.mpr new
    refine ⟨hv.addLink hnil hnone hurl, Supply.later_afterDraws _ _, ?_⟩
    rw [content_addLink hv { link with id := s.supply.draw k } hnone hurl]
    refine .created ?_ hnil ?_
    · intro other h
      obtain ⟨id, h⟩ := h
      exact new id other h
    · intro other h h'
      obtain ⟨id, h⟩ := h
      have held := hv.link_self h
      rw [h', hnone] at held
      cases held
  | exhausted new unusable => exact ⟨hv, Supply.later_afterDraws _ _, .exhausted⟩

/-- The outcome of storing an edge is one that the contract allows. -/
theorem EdgeOutcome.lawful (hv : s.store.Valid) {edge : Edge} {answer : Except StoreError Edge}
    {s' : Session Memory} {record : Edge}
    (h : EdgeOutcome s edge answer s' record) :
    s'.store.Valid ∧ s.supply.Later s'.supply ∧
      s.store.content.EdgeStored s.supply.now edge answer s'.store.content := by
  have later : ∀ n, s.supply.Later (s.supply.afterRead.afterDraws n) := fun n =>
    (Supply.later_afterRead _).trans (Supply.later_afterDraws _ n)
  cases h with
  | unknown ends =>
    refine ⟨hv, .refl _, .unknown ?_⟩
    rwa [hasLink_iff hv, hasLink_iff hv]
  | @refreshed old held src dst =>
    refine ⟨hv.putEdge held rfl rfl rfl, Supply.later_afterRead _, ?_⟩
    rw [content_putEdge hv { old with updatedAt := max old.updatedAt s.supply.now } held rfl rfl
      rfl]
    exact .refreshed ((mem_content_edges hv).mpr ⟨held, src⟩) dst
  | @created k src dst new first =>
    obtain ⟨⟨-, hnil, hfree⟩, -⟩ := first
    have hnone := Std.TreeMap.getElem?_eq_none_of_contains_eq_false (Bool.eq_false_iff.mpr hfree)
    refine ⟨hv.addEdge hnil hnone src dst new, later _, ?_⟩
    rw [content_addEdge hv { edge with id := s.supply.draw k, updatedAt := s.supply.now } hnone]
    refine .created ((hasLink_iff hv).mpr src) ((hasLink_iff hv).mpr dst) ?_ hnil ?_
    · intro other ho
      obtain ⟨ho, hs⟩ := (mem_content_edges hv).mp ho
      exact new _ _ ho hs
    · intro page other ho h
      have held := ((mem_content_edges hv).mp ho).1
      rw [h, hnone] at held
      cases held
  | exhausted src dst new unusable => exact ⟨hv, later _, .exhausted⟩

theorem answer_removeStaleEdges (s : Session Memory) (src : Ident) (before : Stamp) :
    s.answer (.removeStaleEdges src before) = .ok .done := by
  have run : LinkStore.removeStaleEdges s.store src before =
      .ok (s.store.withoutStale src before) := rfl
  exact Session.answer_removeStaleEdges run

theorem answer_links (s : Session Memory) (start stop : Ident) (before : Stamp) :
    s.answer (.links start stop before) = .ok (.links (s.store.linkList start stop before)) := by
  rw [Session.answer_links, linksIn_eq]
  rfl

theorem answer_edges (s : Session Memory) (start stop : Ident) (before : Stamp) :
    s.answer (.edges start stop before) = .ok (.edges (s.store.edgeList start stop before)) := by
  rw [Session.answer_edges, edgesIn_eq]
  rfl

/-- **A call keeps a store valid**, moves its supply on, and has the outcome of the contract. -/
theorem kept_and_step (hv : s.store.Valid) (c : Call) :
    (s.after c).store.Valid ∧ s.supply.Later (s.after c).supply ∧
      s.store.content.Step s.supply.now c (s.answer c) (s.after c).store.content := by
  cases c with
  | upsertLink link =>
    rw [Session.after_upsertLink, Session.answer_upsertLink]
    obtain ⟨hv', later, hstep⟩ := (linkOutcome_upsertLink hv link).lawful hv
    exact ⟨hv', later, _, hstep, rfl⟩
  | upsertEdge edge =>
    rw [Session.after_upsertEdge, Session.answer_upsertEdge]
    obtain ⟨hv', later, hstep⟩ := (edgeOutcome_upsertEdge hv edge).lawful hv
    exact ⟨hv', later, _, hstep, rfl⟩
  | findLink id =>
    rw [Session.after_findLink, Session.answer_findLink]
    exact ⟨hv, .refl _, _, linkFound_findLink hv id, rfl, rfl⟩
  | removeStaleEdges src before =>
    rw [answer_removeStaleEdges]
    exact ⟨hv.withoutStale src before, .refl _, rfl, content_withoutStale hv src before⟩
  | links start stop before =>
    rw [Session.after_links, answer_links]
    exact ⟨hv, .refl _, _, linksRead_linkList hv start stop before, rfl, rfl⟩
  | edges start stop before =>
    rw [Session.after_edges, answer_edges]
    exact ⟨hv, .refl _, _, edgesRead_edgeList hv start stop before, rfl, rfl⟩

instance : LawfulStore Memory where
  empty := empty
  content := content
  Valid := Valid
  valid_empty := valid_empty
  content_empty := content_empty
  sound := sound_content
  valid_after c hv := (kept_and_step hv c).1
  later_after c hv := (kept_and_step hv c).2.1
  step c hv := (kept_and_step hv c).2.2

/-! ## 4. Every state that calls lead to -/

/-- **What the four indices promise.** -/
structure Consistent (m : Memory) : Prop where
  /-- A link stands under its own identifier, which is not nil. -/
  links : ∀ (id : Ident) (link : Link), m.links[id]? = some link → id ≠ .nil ∧ link.id = id
  /-- A URL leads to the link that has it, and to nothing else. -/
  urls : ∀ (url : String) (id : Ident), m.identOfUrl[url]? = some id ↔
    ∃ link : Link, m.links[id]? = some link ∧ link.id = id ∧ link.url = url
  /-- Two URLs do not lead to one link. -/
  url_inj : ∀ (url url' : String) (id : Ident),
    m.identOfUrl[url]? = some id → m.identOfUrl[url']? = some id → url = url'
  /-- An edge stands under its own identifier, which is not nil, and joins pages of the graph. -/
  edges : ∀ (id : Ident) (edge : Edge), m.edges[id]? = some edge →
    id ≠ .nil ∧ edge.id = id ∧ m.links.contains edge.src = true ∧
      m.links.contains edge.dst = true
  /-- What an adjacency list names is an edge. -/
  listed : ∀ (src : Ident) (ids : List Ident), m.outgoing[src]? = some ids →
    ∀ id ∈ ids, m.edges.contains id = true
  /-- An edge is named once in all adjacency lists together, in the one of its source. -/
  listed_once : ∀ (id : Ident) (edge : Edge), m.edges[id]? = some edge →
    (m.outgoing.toList.flatMap (·.2)).count id = 1 ∧ id ∈ m.edgesFrom edge.src
  /-- Two edges do not join the same pages in the same direction. -/
  pairs : ∀ (id id' : Ident) (edge edge' : Edge),
    m.edges[id]? = some edge → m.edges[id']? = some edge' →
    edge.src = edge'.src → edge.dst = edge'.dst → id = id'
  /-- No adjacency list is empty. -/
  ne_nil : ∀ src : Ident, m.outgoing[src]? ≠ some []

theorem edgesFrom_of_outgoing {m : Memory} {src : Ident} {ids : List Ident}
    (h : m.outgoing[src]? = some ids) : m.edgesFrom src = ids := by
  rw [edgesFrom, h, Option.getD_some]

/-- All adjacency lists of a valid store together name no edge twice. -/
theorem nodup_outgoing {m : Memory} (hv : m.Valid) : (m.outgoing.toList.flatMap (·.2)).Nodup := by
  rw [List.nodup_flatMap]
  have entry : ∀ e ∈ m.outgoing.toList, m.edgesFrom e.1 = e.2 := fun e he =>
    edgesFrom_of_outgoing (Std.TreeMap.mem_toList_iff_getElem?_eq_some.mp he)
  constructor
  · intro e he
    exact entry e he ▸ hv.listed_once e.1
  · refine Std.TreeMap.ordered_keys_toList.imp_of_mem fun {a b} ha hb hlt id hida hidb => ?_
    -- an edge that both lists name would have two sources
    have hla : id ∈ m.edgesFrom a.1 := by
      rw [entry a ha]
      exact hida
    have hlb : id ∈ m.edgesFrom b.1 := by
      rw [entry b hb]
      exact hidb
    obtain ⟨e, he, hs⟩ := hv.listed _ _ hla
    obtain ⟨e', he', hs'⟩ := hv.listed _ _ hlb
    rw [he] at he'
    cases he'
    have hab : a.1 < b.1 := ident_lt_of_compare hlt
    rw [← hs, ← hs'] at hab
    exact Nat.lt_irrefl _ hab

theorem Valid.consistent {m : Memory} (hv : m.Valid) : m.Consistent where
  links := hv.link_key
  urls url id := by
    rw [hv.url_iff]
    constructor
    · intro h
      obtain ⟨link, h, hu⟩ := h
      exact ⟨link, h, (hv.link_key _ _ h).2, hu⟩
    · intro h
      obtain ⟨link, h, -, hu⟩ := h
      exact ⟨link, h, hu⟩
  url_inj url url' id h h' := by
    obtain ⟨link, hl, hu⟩ := (hv.url_iff _ _).mp h
    obtain ⟨link', hl', hu'⟩ := (hv.url_iff _ _).mp h'
    rw [hl] at hl'
    cases hl'
    exact hu.symm.trans hu'
  edges id edge h := ⟨(hv.edge_key _ _ h).1, (hv.edge_key _ _ h).2, hv.edge_ends _ _ h⟩
  listed src ids h id hid := by
    obtain ⟨edge, he, -⟩ := hv.listed src id (edgesFrom_of_outgoing h ▸ hid)
    rw [Std.TreeMap.contains_eq_isSome_getElem?, he]
    rfl
  listed_once id edge h := by
    have hmem := hv.mem_listed _ _ h
    refine ⟨List.count_eq_one_of_mem (nodup_outgoing hv) ?_, hmem⟩
    cases ho : m.outgoing[edge.src]? with
    | none => simp [edgesFrom, ho] at hmem
    | some ids =>
      rw [edgesFrom_of_outgoing ho] at hmem
      exact List.mem_flatMap.mpr
        ⟨(edge.src, ids), Std.TreeMap.mem_toList_iff_getElem?_eq_some.mpr ho, hmem⟩
  pairs id id' edge edge' h h' := hv.pair id edge id' edge' h h'
  ne_nil := hv.ne_nil

/-- **The four indices are consistent in every state that calls lead to** from the empty graph,
    whatever the clock shows and whichever identifiers are drawn. -/
theorem consistent_of_reached (supply : Supply) (s : Session Memory)
    (h : Session.Reached ⟨empty, supply⟩ s) : s.store.Consistent :=
  (LawfulStore.valid_of_reached h : s.store.Valid).consistent

/-- Three calls, the identifiers of which are drawn in turn from nil on, lead to a consistent
    graph with an edge. -/
theorem consistent_of_hyperlink :
    let first : Session Memory := ⟨empty, .counting⟩
    let s := first.afterAll [.upsertLink (.unstored "http://a/" 3),
      .upsertLink (.unstored "http://b/" 0), .upsertEdge (.unstored (.ofNat 1) (.ofNat 2))]
    first.Reached s ∧ s.store.Consistent ∧ s.store.edgeCount = 1 := by
  intro first s
  have reached : first.Reached s := Session.Reached.start.afterAll _
  refine ⟨reached, consistent_of_reached .counting s reached, ?_⟩
  decide +kernel

end CrawlGraph.Memory
