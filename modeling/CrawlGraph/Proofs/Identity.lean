import CrawlGraph.Proofs.Backends
import CrawlGraph.Proofs.Contract.Past
import CrawlGraph.Proofs.Contract.Stamps

/-!
# Identifiers and times over the whole past

What a store holds of a page or of a hyperlink is settled by the calls that stored it: the
identifier by the first of them, the time by the latest one that was reported or read.

1. What one call changes of a link and of an edge.
2. `LinkKept`: a URL keeps the identifier under which it was first stored.
3. `EdgeKept`: an edge keeps the identifier under which it was last created.
4. `WrittenBack`: what an upsert writes back is what the store holds.
5. `identity_of_course`, all of this for both kinds of store.
-/

namespace CrawlGraph

/-! ## 1. Single calls -/

namespace Content

variable {c c' : Content} {now : Stamp} {call : Call} {answer : Except StoreError Reply}

/-- A link that is stored takes the place of the one with its URL. -/
theorem LinkStored.eq_putLink {link stored : Link} (h : c.LinkStored link (.ok stored) c') :
    c' = c.putLink stored ∧ stored.url = link.url := by
  cases h with
  | refreshed held url => exact ⟨rfl, rfl⟩
  | created new ne_nil unused => exact ⟨rfl, rfl⟩

theorem EdgeStored.links_eq {edge : Edge} {a : Except StoreError Edge}
    (h : c.EdgeStored now edge a c') : c'.links = c.links := by
  cases h with
  | refreshed held dst => rfl
  | created src dst new ne_nil unused => rfl
  | unknown ends => rfl
  | exhausted => rfl

/-- A call that stores nothing under a URL leaves what is held under it alone. -/
theorem Step.mem_links_iff (h : c.Step now call answer c') {link : Link}
    (other : ∀ given stored, call = .upsertLink given → answer = .ok (.link stored) →
      given.url ≠ link.url) : link ∈ c'.links ↔ link ∈ c.links := by
  cases call with
  | upsertLink given =>
    obtain ⟨a, ha, rfl⟩ := h
    cases a with
    | error e =>
      cases ha
      rfl
    | ok stored =>
      obtain ⟨rfl, hurl⟩ := ha.eq_putLink
      have hne : link.url ≠ stored.url := fun hu =>
        other given stored rfl rfl (hurl.symm.trans hu.symm)
      constructor
      · intro hl
        rcases hl with rfl | ⟨hl, -⟩
        · exact absurd rfl hne
        · exact hl
      · intro hl
        exact .inr ⟨hl, hne⟩
  | upsertEdge edge =>
    obtain ⟨a, ha, -⟩ := h
    rw [ha.links_eq]
  | removeStaleEdges src before =>
    obtain ⟨-, rfl⟩ := h
    rfl
  | findLink id =>
    obtain ⟨-, -, -, rfl⟩ := h
    rfl
  | links start stop before =>
    obtain ⟨-, -, -, rfl⟩ := h
    rfl
  | edges start stop before =>
    obtain ⟨-, -, -, rfl⟩ := h
    rfl

/-- **Where an edge comes from that is held after a call**: it was held before, or the call
    confirmed it, or the call created it. -/
inductive EdgeFrom (c : Content) (now : Stamp) (call : Call) (answer : Except StoreError Reply)
    (edge : Edge) : Prop where
  /-- It was held, and the call stored nothing between its pages. -/
  | held (mem : edge ∈ c.edgesFrom edge.src)
    (other : ∀ given stored, call = .upsertEdge given → answer = .ok (.edge stored) →
      ¬(given.src = edge.src ∧ given.dst = edge.dst))
  /-- The call confirmed the edge between its pages. -/
  | confirmed {given old : Edge} (made : call = .upsertEdge given) (ok : answer = .ok (.edge edge))
    (src : given.src = edge.src) (dst : given.dst = edge.dst) (mem : old ∈ c.edgesFrom edge.src)
    (old_dst : old.dst = edge.dst) (ident : edge.id = old.id)
    (time : edge.updatedAt = max old.updatedAt now)
  /-- The call created it. -/
  | created {given : Edge} (made : call = .upsertEdge given) (ok : answer = .ok (.edge edge))
    (src : given.src = edge.src) (dst : given.dst = edge.dst)
    (new : ∀ other ∈ c.edgesFrom edge.src, other.dst ≠ edge.dst) (time : edge.updatedAt = now)

theorem EdgeStored.edgeFrom (sound : c.Sound) {given stored edge : Edge}
    (h : c.EdgeStored now given (.ok stored) c') (mem : edge ∈ c'.edgesFrom edge.src) :
    c.EdgeFrom now (.upsertEdge given) (.ok (.edge stored)) edge := by
  -- an edge that stays is not one between the pages of the stored one
  have stays : edge ∈ c.edgesFrom edge.src → ¬(given.src = edge.src ∧ given.dst = edge.dst) →
      c.EdgeFrom now (.upsertEdge given) (.ok (.edge stored)) edge := by
    intro hmem hne
    refine .held hmem fun given' stored' hcall _ => ?_
    cases hcall
    exact hne
  cases h with
  | @refreshed old held dst =>
    have src := sound.edge_src _ _ held
    rw [edgesFrom_refreshEdge] at mem
    split at mem
    · rename_i hs
      obtain ⟨e, he, heq⟩ := List.mem_map.mp mem
      split at heq
      · subst heq
        have hold : old ∈ c.edgesFrom old.src := by
          rw [src]
          exact held
        exact .confirmed rfl rfl src.symm dst.symm hold rfl rfl rfl
      · rename_i hd
        subst heq
        refine stays (hs ▸ he) fun hp => hd ?_
        exact hp.2.symm.trans dst.symm
    · rename_i hs
      exact stays mem fun hp => hs (hp.1.symm.trans src.symm)
  | @created id src dst new ne_nil unused =>
    rw [edgesFrom_addEdge] at mem
    split at mem
    · rename_i hs
      rcases List.mem_append.mp mem with mem | mem
      · exact stays (hs ▸ mem) fun hp => new edge mem hp.2.symm
      · rw [List.mem_singleton.mp mem]
        exact .created rfl rfl rfl rfl new rfl
    · rename_i hs
      exact stays mem fun hp => hs hp.1.symm

theorem Step.edgeFrom (sound : c.Sound) (h : c.Step now call answer c') {edge : Edge}
    (mem : edge ∈ c'.edgesFrom edge.src) : c.EdgeFrom now call answer edge := by
  cases call with
  | upsertEdge given =>
    obtain ⟨a, ha, rfl⟩ := h
    cases a with
    | ok stored => exact ha.edgeFrom sound mem
    | error e =>
      have same : c' = c := by
        cases ha with
        | unknown ends => rfl
        | exhausted => rfl
      exact .held (same ▸ mem) fun _ _ _ he => nomatch he
  | upsertLink given =>
    obtain ⟨a, ha, -⟩ := h
    have same : c'.edgesFrom = c.edgesFrom := by
      cases ha with
      | refreshed held url => rfl
      | created new ne_nil unused => rfl
      | exhausted => rfl
    exact .held (same ▸ mem) fun _ _ hcall => nomatch hcall
  | removeStaleEdges src before =>
    obtain ⟨-, rfl⟩ := h
    refine .held ?_ fun _ _ hcall => nomatch hcall
    rw [edgesFrom_withoutStale] at mem
    split at mem
    · rename_i hs
      exact hs ▸ List.mem_of_mem_filter mem
    · exact mem
  | findLink id =>
    obtain ⟨-, -, -, rfl⟩ := h
    exact .held mem fun _ _ hcall => nomatch hcall
  | links start stop before =>
    obtain ⟨-, -, -, rfl⟩ := h
    exact .held mem fun _ _ hcall => nomatch hcall
  | edges start stop before =>
    obtain ⟨-, -, -, rfl⟩ := h
    exact .held mem fun _ _ hcall => nomatch hcall

end Content

/-! ## 2. Links -/

/-- The latest one of some times. -/
abbrev IsLatest (times : List Stamp) (t : Stamp) : Prop := IsGreatest {t' | t' ∈ times} t

theorem isLatest_singleton (t : Stamp) : IsLatest [t] t :=
  ⟨List.mem_singleton_self t, fun _ h => List.mem_singleton.mp h ▸ Int64.le_refl t⟩

theorem IsLatest.append {times : List Stamp} {t : Stamp} (h : IsLatest times t) (t' : Stamp) :
    IsLatest (times ++ [t']) (max t t') := by
  constructor
  · rcases Stamp.max_eq_or t t' with he | he
    · rw [he]
      exact List.mem_append_left _ h.1
    · rw [he]
      exact List.mem_append_right _ (List.mem_singleton_self t')
  · intro k hk
    rcases List.mem_append.mp hk with hk | hk
    · exact Int64.le_trans (h.2 hk) (Stamp.le_max_left t t')
    · rw [List.mem_singleton.mp hk]
      exact Stamp.le_max_right t t'

/-- **What is held under a URL** after links were stored under it, each given as it was submitted
    and as it was written back: one link, under the identifier that was always written back, with
    the latest of the submitted times. -/
structure LinkKept (c : Content) (url : String) (writes : List (Link × Link)) (link : Link) :
    Prop where
  held : link ∈ c.links
  named : link.url = url
  only : ∀ other ∈ c.links, other.url = url → other = link
  ident : ∀ w ∈ writes, w.2.id = link.id
  unshared : ∀ other ∈ c.links, other.id = link.id → other = link
  time : IsLatest (writes.map (·.1.retrievedAt)) link.retrievedAt

namespace LinkKept

variable {c c' : Content} {url : String} {writes : List (Link × Link)} {link given stored : Link}

/-- The first link that is stored under a URL. -/
theorem first (sound' : c'.Sound) (none : ∀ other ∈ c.links, other.url ≠ url)
    (hurl : given.url = url) (h : c.LinkStored given (.ok stored) c') :
    LinkKept c' url [(given, stored)] stored := by
  have mem : stored ∈ c'.links := by
    rw [h.eq_putLink.1]
    exact .inl rfl
  cases h with
  | refreshed held hu => exact absurd (hu.trans hurl) (none _ held)
  | created new ne_nil unused =>
    refine ⟨mem, hurl, fun other ho hu => sound'.link_url other ho _ mem (hu.trans hurl.symm), ?_,
      fun other ho hid => sound'.link_ident other ho _ mem hid, isLatest_singleton _⟩
    intro w hw
    rw [List.mem_singleton.mp hw]

/-- Another link that is stored under the URL. -/
theorem again (sound' : c'.Sound) (h : LinkKept c url writes link)
    (hurl : given.url = url) (step : c.LinkStored given (.ok stored) c') :
    LinkKept c' url (writes ++ [(given, stored)]) stored := by
  have mem : stored ∈ c'.links := by
    rw [step.eq_putLink.1]
    exact .inl rfl
  cases step with
  | created new ne_nil unused => exact absurd (h.named.trans hurl.symm) (new link h.held)
  | @refreshed old held hu =>
    have hold : old = link := h.only old held (hu.trans hurl)
    subst hold
    refine ⟨mem, hurl, fun other ho hu => sound'.link_url other ho _ mem (hu.trans hurl.symm), ?_,
      fun other ho hid => sound'.link_ident other ho _ mem hid, ?_⟩
    · intro w hw
      rcases List.mem_append.mp hw with hw | hw
      · exact h.ident w hw
      · rw [List.mem_singleton.mp hw]
    · rw [List.map_append, Stamp.max_comm]
      exact h.time.append _

/-- A call that stores nothing under the URL. -/
theorem keep (sound' : c'.Sound) (h : LinkKept c url writes link)
    (same : ∀ other : Link, other.url = url → (other ∈ c'.links ↔ other ∈ c.links)) :
    LinkKept c' url writes link where
  held := (same link h.named).mpr h.held
  named := h.named
  only other ho hu := h.only other ((same other hu).mp ho) hu
  ident := h.ident
  unshared other ho hid := sound'.link_ident other ho link ((same link h.named).mpr h.held) hid
  time := h.time

end LinkKept

section Moments

variable {σ : Type} [LinkStore σ] [LawfulStore σ] {supply : Supply} {s : Session σ}
  {past : List (Moment σ)}

open LawfulStore

/-- What was stored under a URL. -/
abbrev writesUnder (past : List (Moment σ)) (url : String) : List (Link × Link) :=
  past.filterMap fun m => m.linkStored? url

/-- **Of every URL that was stored, just one link is held**, and of no other. -/
theorem linkKept_of_course (h : Session.Course ⟨LawfulStore.empty, supply⟩ past s) (url : String) :
    (writesUnder past url = [] ∧ ∀ link ∈ (content s.store).links, link.url ≠ url) ∨
      ∃ link, LinkKept (content s.store) url (writesUnder past url) link := by
  induction h with
  | start =>
    refine .inl ⟨rfl, fun link hl => ?_⟩
    rw [content_empty] at hl
    exact absurd hl (Set.notMem_empty link)
  | elapse _ _ ih => exact ih
  | @call past s call h ih =>
    have hv := valid_of_reached h.reached
    have hstep := step call hv
    have sound' := sound (valid_after call hv)
    cases hm : (Moment.mk s call).linkStored? url with
    | none =>
      have hwrites : writesUnder (past ++ [⟨s, call⟩]) url = writesUnder past url := by
        simp only [writesUnder, List.filterMap_append, List.filterMap_cons, hm,
          List.filterMap_nil, List.append_nil]
      have same : ∀ link : Link, link.url = url →
          (link ∈ (content (s.after call).store).links ↔ link ∈ (content s.store).links) := by
        intro link hu
        refine hstep.mem_links_iff fun given stored hcall hanswer hurl => ?_
        have hsome := (Moment.linkStored?_eq_some (m := ⟨s, call⟩)).mpr
          ⟨hcall, hanswer, hurl.trans hu⟩
        rw [hm] at hsome
        cases hsome
      rw [hwrites]
      rcases ih with ⟨hnil, hnone⟩ | ⟨link, hlink⟩
      · exact .inl ⟨hnil, fun link hl hu => hnone link ((same link hu).mp hl) hu⟩
      · exact .inr ⟨link, hlink.keep sound' same⟩
    | some w =>
      obtain ⟨given, stored⟩ := w
      have hwrites : writesUnder (past ++ [⟨s, call⟩]) url =
          writesUnder past url ++ [(given, stored)] := by
        simp only [writesUnder, List.filterMap_append, List.filterMap_cons, hm,
          List.filterMap_nil]
      obtain ⟨hcall, hanswer, hurl⟩ := Moment.linkStored?_eq_some.mp hm
      dsimp only at hcall
      subst hcall
      have hstored := linkStored_of_answer hv hanswer
      rw [hwrites]
      rcases ih with ⟨hnil, hnone⟩ | ⟨link, hlink⟩
      · rw [hnil]
        exact .inr ⟨stored, .first sound' hnone hurl hstored⟩
      · exact .inr ⟨stored, hlink.again sound' hurl hstored⟩

/-! ## 3. Edges -/

/-- The readings of the clock at which an edge between two pages was stored. -/
def readingsBetween (past : List (Moment σ)) (src dst : Ident) : List Stamp :=
  (past.filter fun m => (m.edgeStored? src dst).isSome).map (·.reading)

/-- **The past of an edge**: a moment created it, where its pages were not joined before; they
    remained joined from then on; and its time is the latest reading at which it was stored. -/
structure EdgeKept (edge : Edge) (past before : List (Moment σ)) (creation : Moment σ)
    (later : List (Moment σ)) : Prop where
  split : past = before ++ creation :: later
  created : ∃ stored, creation.edgeStored? edge.src edge.dst = some stored ∧ stored.id = edge.id
  new : ¬creation.Holds edge.src edge.dst
  joined : ∀ m ∈ later, m.Holds edge.src edge.dst
  time : IsLatest (readingsBetween (creation :: later) edge.src edge.dst) edge.updatedAt

variable {edge : Edge} {before later : List (Moment σ)} {creation m : Moment σ}

omit [LawfulStore σ] in
theorem readingsBetween_append (past : List (Moment σ)) (m : Moment σ) (src dst : Ident) :
    readingsBetween (past ++ [m]) src dst = readingsBetween past src dst ++
      if (m.edgeStored? src dst).isSome then [m.reading] else [] := by
  rw [readingsBetween, List.filter_append, List.map_append]
  refine congrArg _ ?_
  by_cases h : (m.edgeStored? src dst).isSome = true <;> simp [h]

namespace EdgeKept

/-- A call that stores nothing between the pages of the edge. -/
theorem keep (h : EdgeKept edge past before creation later) (joined : m.Holds edge.src edge.dst)
    (none : m.edgeStored? edge.src edge.dst = none) :
    EdgeKept edge (past ++ [m]) before creation (later ++ [m]) where
  split := by rw [h.split, List.append_assoc, List.cons_append]
  created := h.created
  new := h.new
  joined k hk := by
    rcases List.mem_append.mp hk with hk | hk
    · exact h.joined k hk
    · rwa [List.mem_singleton.mp hk]
  time := by
    rw [← List.cons_append, readingsBetween_append, none]
    simpa using h.time

/-- A call that confirms the edge. -/
theorem confirm {old : Edge} (h : EdgeKept old past before creation later)
    (src : old.src = edge.src) (dst : old.dst = edge.dst) (ident : edge.id = old.id)
    (joined : m.Holds edge.src edge.dst) (stored : (m.edgeStored? edge.src edge.dst).isSome = true)
    (time : edge.updatedAt = max old.updatedAt m.reading) :
    EdgeKept edge (past ++ [m]) before creation (later ++ [m]) where
  split := by rw [h.split, List.append_assoc, List.cons_append]
  created := by
    rw [← src, ← dst, ident]
    exact h.created
  new := by
    rw [← src, ← dst]
    exact h.new
  joined k hk := by
    rcases List.mem_append.mp hk with hk | hk
    · rw [← src, ← dst]
      exact h.joined k hk
    · rwa [List.mem_singleton.mp hk]
  time := by
    rw [← List.cons_append, readingsBetween_append, if_pos stored, time, ← src, ← dst]
    exact h.time.append _

end EdgeKept

/-- **Every edge that is held has a past.** -/
theorem edgeKept_of_course (h : Session.Course ⟨LawfulStore.empty, supply⟩ past s) {edge : Edge}
    (mem : edge ∈ (content s.store).edgesFrom edge.src) :
    ∃ before creation later, EdgeKept edge past before creation later := by
  induction h generalizing edge with
  | start =>
    rw [content_empty] at mem
    exact absurd mem List.not_mem_nil
  | elapse _ _ ih => exact ih mem
  | @call past s call h ih =>
    have hv := valid_of_reached h.reached
    cases (step call hv).edgeFrom (sound hv) mem with
    | held mem other =>
      obtain ⟨before, creation, later, kept⟩ := ih mem
      refine ⟨before, creation, _, kept.keep ⟨edge, mem, rfl⟩ ?_⟩
      refine Option.eq_none_iff_forall_not_mem.mpr fun stored hstored => ?_
      obtain ⟨given, hcall, hanswer, hpair⟩ := Moment.edgeStored?_eq_some.mp hstored
      exact other given stored hcall hanswer hpair
    | @confirmed given old made ok src dst mem old_dst ident time =>
      have old_src := (sound hv).edge_src _ _ mem
      have held : old ∈ (content s.store).edgesFrom old.src := by rwa [old_src]
      obtain ⟨before, creation, later, kept⟩ := ih held
      have hstored := Moment.edgeStored?_eq_some (m := ⟨s, call⟩).mpr ⟨given, made, ok, src, dst⟩
      refine ⟨before, creation, _, kept.confirm old_src old_dst ident ⟨old, mem, old_dst⟩ ?_ time⟩
      rw [hstored]
      rfl
    | @created given made ok src dst new time =>
      have hstored := Moment.edgeStored?_eq_some (m := ⟨s, call⟩).mpr ⟨given, made, ok, src, dst⟩
      refine ⟨past, ⟨s, call⟩, [], rfl, ⟨edge, hstored, rfl⟩, ?_,
        fun m hm => absurd hm List.not_mem_nil, ?_⟩
      · intro hold
        obtain ⟨other, ho, hd⟩ := hold
        exact new other ho hd
      · have hreadings : readingsBetween [Moment.mk s call] edge.src edge.dst = [s.supply.now] := by
          simp [readingsBetween, hstored, Moment.reading]
        rw [hreadings, time]
        exact isLatest_singleton _

/-! ## 4. What is written back -/

/-- **What an upsert writes back is what the store holds**: it is found under its identifier, or
    read with the edges of every range and time that it falls under. -/
structure WrittenBack (s : Session σ) : Prop where
  link : ∀ given stored, s.answer (.upsertLink given) = .ok (.link stored) →
    stored.url = given.url ∧
      (s.after (.upsertLink given)).answer (.findLink stored.id) = .ok (.link stored)
  edge : ∀ given stored, s.answer (.upsertEdge given) = .ok (.edge stored) →
    stored.src = given.src ∧ stored.dst = given.dst ∧
      ∀ start stop before, start ≤ stored.src → stored.src < stop → stored.updatedAt < before →
        ∃ edges, (s.after (.upsertEdge given)).answer (.edges start stop before) =
          .ok (.edges edges) ∧ stored ∈ edges

theorem writtenBack (hv : Valid s.store) : WrittenBack s where
  link given stored ok := by
    have hv' := valid_after (.upsertLink given) hv
    have hput := (linkStored_of_answer hv ok).eq_putLink
    obtain ⟨a, ha, he, -⟩ := step (.findLink stored.id) hv'
    have held : stored ∈ (content (s.after (.upsertLink given)).store).links := by
      rw [hput.1]
      exact .inl rfl
    rw [he, ha.unique (sound hv') (.found held rfl)]
    exact ⟨hput.2, rfl⟩
  edge given stored ok := by
    have hv' := valid_after (.upsertEdge given) hv
    have hconfirmed := (edgeStored_of_answer hv ok).confirmed (sound hv)
    have hsrc : stored.src = given.src := (sound hv').edge_src _ _ hconfirmed.mem
    refine ⟨hsrc, hconfirmed.dst, fun start stop before hstart hstop hbefore => ?_⟩
    obtain ⟨edges, read, he, -⟩ := step (.edges start stop before) hv'
    refine ⟨edges, he, ?_⟩
    have hmem : stored ∈ edges.filter fun e => e.src = stored.src := by
      rw [read.filter_src, if_pos ⟨hstart, hstop⟩, hsrc]
      exact List.mem_filter.mpr ⟨hconfirmed.mem, decide_eq_true hbefore⟩
    exact List.mem_of_mem_filter hmem

end Moments

/-! ## 5. Both kinds of store -/

/-- Two URLs that were stored under one identifier are one. -/
theorem LinkKept.url_eq {c : Content} {url url' : String} {writes writes' : List (Link × Link)}
    {link link' : Link} (h : LinkKept c url writes link) (h' : LinkKept c url' writes' link')
    {w w' : Link × Link} (hw : w ∈ writes) (hw' : w' ∈ writes') (he : w.2.id = w'.2.id) :
    url = url' := by
  have hid : link'.id = link.id := (h'.ident w' hw').symm.trans (he.symm.trans (h.ident w hw))
  rw [← h.named, ← h'.named, h.unshared link' h'.held hid]

/-- **Identifiers and times follow from the whole past**, in both kinds of store. Each URL that was
    stored is held once, under the identifier that was written back first, which no other URL ever
    gets, and with the latest of its submitted times; each edge is held under the identifier that
    was written back when it was created last, with the latest reading since then; and what an
    upsert writes back is held. -/
theorem identity_of_course (b : Backend) (supply : Supply) (past : List (Moment b.Store))
    (s : Session b.Store) (h : Session.Course ⟨b.empty, supply⟩ past s) :
    (∀ url, writesUnder past url ≠ [] →
      ∃ link, LinkKept (Backend.content s.store) url (writesUnder past url) link) ∧
    (∀ url url', ∀ w ∈ writesUnder past url, ∀ w' ∈ writesUnder past url',
      w.2.id = w'.2.id → url = url') ∧
    (∀ src, ∀ edge ∈ (Backend.content s.store).edgesFrom src,
      ∃ before creation later, EdgeKept edge past before creation later) ∧
    WrittenBack s := by
  have hv := LawfulStore.valid_of_reached h.reached
  have kept : ∀ url, writesUnder past url ≠ [] →
      ∃ link, LinkKept (Backend.content s.store) url (writesUnder past url) link := by
    intro url hne
    rcases linkKept_of_course h url with ⟨hnil, -⟩ | hkept
    · exact absurd hnil hne
    · exact hkept
  refine ⟨kept, fun url url' w hw w' hw' he => ?_, fun src edge mem => ?_, writtenBack hv⟩
  · obtain ⟨link, hlink⟩ := kept url (List.ne_nil_of_mem hw)
    obtain ⟨link', hlink'⟩ := kept url' (List.ne_nil_of_mem hw')
    exact hlink.url_eq hlink' hw hw' he
  · have hsrc := (LawfulStore.sound hv).edge_src src edge mem
    exact edgeKept_of_course h (hsrc ▸ mem)

/-- The clock runs backwards. A page is stored again with an earlier time; a hyperlink is pruned,
    comes back at time 5 and is confirmed at time 3. -/
theorem identity_of_backward_clock :
    let supply : Supply := ⟨Supply.listed 0 [7, 5, 3], Ident.ofNat, 0, 0⟩
    let first : Session Tables := ⟨Tables.empty, supply⟩
    let calls : List Call := [.upsertLink (.unstored "http://a/" 3),
      .upsertLink (.unstored "http://b/" 0), .upsertLink (.unstored "http://a/" 1),
      .upsertEdge (.unstored (.ofNat 1) (.ofNat 2)), .removeStaleEdges (.ofNat 1) 8,
      .upsertEdge (.unstored (.ofNat 1) (.ofNat 2)), .upsertEdge (.unstored (.ofNat 1) (.ofNat 2))]
    let past := first.moments calls
    let s := first.afterAll calls
    first.Course past s ∧
      s.answer (.findLink (.ofNat 1)) = .ok (.link ⟨.ofNat 1, "http://a/", 3⟩) ∧
      s.answer (.edges .nil .max 9) = .ok (.edges [⟨.ofNat 5, .ofNat 1, .ofNat 2, 5⟩]) ∧
      (∃ link, LinkKept s.store.content "http://a/" (writesUnder past "http://a/") link) ∧
      (∀ edge ∈ s.store.content.edgesFrom (.ofNat 1),
        ∃ before creation later, EdgeKept edge past before creation later) ∧
      WrittenBack s := by
  intro supply first calls past s
  have course : first.Course past s := Session.course_moments first calls
  have hlink : (s.answer (.findLink (.ofNat 1))).toOption =
      some (.link ⟨.ofNat 1, "http://a/", 3⟩) := by
    decide +kernel
  have hedges : (s.answer (.edges .nil .max 9)).toOption =
      some (.edges [⟨.ofNat 5, .ofNat 1, .ofNat 2, 5⟩]) := by
    decide +kernel
  have written : (writesUnder past "http://a/").isEmpty = false := by
    decide +kernel
  clear_value past s
  obtain ⟨links, -, edges, back⟩ := identity_of_course .tables supply past s course
  refine ⟨course, eq_ok_of_toOption hlink, eq_ok_of_toOption hedges, ?_, edges (.ofNat 1), back⟩
  exact links "http://a/" fun hnil => by simp [hnil] at written

end CrawlGraph
