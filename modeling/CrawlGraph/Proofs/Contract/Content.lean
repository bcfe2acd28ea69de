import CrawlGraph.Proofs.Contract.Calls

/-!
# What a store holds, and what calls do to it

Every kind of store keeps its records in its own way. What all of them mean by it is a `Content`:
a set of links and, for each page, the list of the edges that leave it. This module says what
each call answers and does in these terms.

1. `Content`, and when it is `Sound`.
2. `LinkStored`, `EdgeStored`, `LinkFound`, `LinksRead` and `EdgesRead`, the outcomes of the
   single operations, and `Step`, the outcome of any call.
3. `Step.unique`: two outcomes of one call differ only by the clock, by the identifier of a new
   record, or because no identifier was found.
-/

namespace CrawlGraph

/-! ## 1. Content -/

/-- The records of a store: its links, and the edges that leave each page in the order of their
    creation. -/
@[ext] structure Content where
  links : Set Link
  edgesFrom : Ident → List Edge

namespace Content

/-- No records. -/
def empty : Content := ⟨∅, fun _ => []⟩

/-- Whether a page with the identifier is held. -/
def HasLink (c : Content) (id : Ident) : Prop := ∃ link ∈ c.links, link.id = id

/-- **What every store sees to**: nothing is named nil or by the name of another record, a URL is
    held once, an edge leads from the page that it is listed under to another page of the store,
    and no two edges join the same pages. -/
structure Sound (c : Content) : Prop where
  link_ne_nil : ∀ link ∈ c.links, link.id ≠ .nil
  link_ident : ∀ link ∈ c.links, ∀ other ∈ c.links, link.id = other.id → link = other
  link_url : ∀ link ∈ c.links, ∀ other ∈ c.links, link.url = other.url → link = other
  edge_ne_nil : ∀ src, ∀ edge ∈ c.edgesFrom src, edge.id ≠ .nil
  edge_src : ∀ src, ∀ edge ∈ c.edgesFrom src, edge.src = src
  edge_ends : ∀ src, ∀ edge ∈ c.edgesFrom src, c.HasLink edge.src ∧ c.HasLink edge.dst
  edge_ident : ∀ src, ∀ edge ∈ c.edgesFrom src, ∀ src', ∀ other ∈ c.edgesFrom src',
    edge.id = other.id → edge = other
  edge_pair : ∀ src, ((c.edgesFrom src).map (·.dst)).Nodup

/-- The content with a link in place of the one with its URL, if there is one. -/
def putLink (c : Content) (link : Link) : Content :=
  { c with links := {other | other = link ∨ (other ∈ c.links ∧ other.url ≠ link.url)} }

/-- The content with an edge in place of the one between the same pages. -/
def refreshEdge (c : Content) (edge : Edge) : Content :=
  { c with
    edgesFrom := Function.update c.edgesFrom edge.src
      ((c.edgesFrom edge.src).map fun e => if e.dst = edge.dst then edge else e) }

/-- The content with one more edge, the last of its source. -/
def addEdge (c : Content) (edge : Edge) : Content :=
  { c with edgesFrom := Function.update c.edgesFrom edge.src (c.edgesFrom edge.src ++ [edge]) }

/-- The content without the edges from a page that were last confirmed before a time. -/
def withoutStale (c : Content) (src : Ident) (before : Stamp) : Content :=
  { c with
    edgesFrom := Function.update c.edgesFrom src
      ((c.edgesFrom src).filter fun e => before ≤ e.updatedAt) }

theorem Sound.eq_of_dst {c : Content} (h : c.Sound) {src : Ident} {edge other : Edge}
    (he : edge ∈ c.edgesFrom src) (ho : other ∈ c.edgesFrom src) (hd : edge.dst = other.dst) :
    edge = other :=
  List.inj_on_of_nodup_map (h.edge_pair src) he ho hd

/-- A link that is held changes nothing when it is put in its own place. -/
theorem putLink_self {c : Content} (sound : c.Sound) {link : Link} (held : link ∈ c.links) :
    c.putLink link = c := by
  refine Content.ext ?_ rfl
  ext other
  constructor
  · rintro (rfl | ⟨ho, -⟩)
    · exact held
    · exact ho
  · intro ho
    by_cases hu : other.url = link.url
    · exact .inl (sound.link_url other ho link held hu)
    · exact .inr ⟨ho, hu⟩

/-- An edge that is held changes nothing when it is put in its own place. -/
theorem refreshEdge_self {c : Content} (sound : c.Sound) {edge : Edge}
    (held : edge ∈ c.edgesFrom edge.src) : c.refreshEdge edge = c := by
  have same : (c.edgesFrom edge.src).map (fun e => if e.dst = edge.dst then edge else e) =
      c.edgesFrom edge.src := by
    refine (List.map_congr_left fun e he => ?_).trans (List.map_id _)
    split
    · rename_i hd
      exact (sound.eq_of_dst he held hd).symm
    · rfl
  unfold refreshEdge
  rw [same, Function.update_eq_self]

/-! ## 2. Outcomes -/

/-- **The outcomes of storing a link.** -/
inductive LinkStored (c : Content) (link : Link) : Except StoreError Link → Content → Prop where
  /-- The URL is known: its identifier stays, and the later time is kept. -/
  | refreshed {old : Link} (held : old ∈ c.links) (url : old.url = link.url) :
    LinkStored c link
      (.ok { link with id := old.id, retrievedAt := max link.retrievedAt old.retrievedAt })
      (c.putLink
        { link with id := old.id, retrievedAt := max link.retrievedAt old.retrievedAt })
  /-- The URL is new and comes in under an unused identifier. -/
  | created {id : Ident} (new : ∀ other ∈ c.links, other.url ≠ link.url) (ne_nil : id ≠ .nil)
    (unused : ∀ other ∈ c.links, other.id ≠ id) :
    LinkStored c link (.ok { link with id }) (c.putLink { link with id })
  /-- No identifier was found. -/
  | exhausted : LinkStored c link (.error (.of .upsertLink (.identsExhausted maxAttempts))) c

/-- **The outcomes of storing an edge at a time.** -/
inductive EdgeStored (c : Content) (now : Stamp) (edge : Edge) :
    Except StoreError Edge → Content → Prop where
  /-- The pages are joined already: the identifier stays, and the later time is kept. -/
  | refreshed {old : Edge} (held : old ∈ c.edgesFrom edge.src) (dst : old.dst = edge.dst) :
    EdgeStored c now edge (.ok { old with updatedAt := max old.updatedAt now })
      (c.refreshEdge { old with updatedAt := max old.updatedAt now })
  /-- Both pages are held and not joined yet: the edge comes in under an unused identifier. -/
  | created {id : Ident} (src : c.HasLink edge.src) (dst : c.HasLink edge.dst)
    (new : ∀ other ∈ c.edgesFrom edge.src, other.dst ≠ edge.dst) (ne_nil : id ≠ .nil)
    (unused : ∀ page, ∀ other ∈ c.edgesFrom page, other.id ≠ id) :
    EdgeStored c now edge (.ok { edge with id, updatedAt := now })
      (c.addEdge { edge with id, updatedAt := now })
  /-- One of the pages is not held. -/
  | unknown (ends : ¬(c.HasLink edge.src ∧ c.HasLink edge.dst)) :
    EdgeStored c now edge (.error (.of .upsertEdge .unknownEndpoints)) c
  /-- No identifier was found. -/
  | exhausted : EdgeStored c now edge (.error (.of .upsertEdge (.identsExhausted maxAttempts))) c

/-- The outcomes of looking a link up. -/
inductive LinkFound (c : Content) (id : Ident) : Except StoreError Link → Prop where
  | found {link : Link} (held : link ∈ c.links) (ident : link.id = id) : LinkFound c id (.ok link)
  | missing (unused : ∀ link ∈ c.links, link.id ≠ id) :
    LinkFound c id (.error (.of .findLink .notFound))

/-- The list is what reading links in a range gives: each one once, in the order of their
    identifiers. -/
structure LinksRead (c : Content) (start stop : Ident) (before : Stamp) (links : List Link) :
    Prop where
  sorted : links.Pairwise fun a b => a.id < b.id
  mem_iff : ∀ link, link ∈ links ↔
    link ∈ c.links ∧ start ≤ link.id ∧ link.id < stop ∧ link.retrievedAt < before

/-- The list is what reading edges from a range gives: source after source, and for each one the
    edges that leave it, as they are listed. -/
structure EdgesRead (c : Content) (start stop : Ident) (before : Stamp) (edges : List Edge) :
    Prop where
  sorted : edges.Pairwise fun a b => a.src ≤ b.src
  filter_src : ∀ src, edges.filter (fun e => e.src = src) =
    if start ≤ src ∧ src < stop then (c.edgesFrom src).filter fun e => e.updatedAt < before else []

/-- **The outcome of a call**: its answer and the content after it. -/
def Step (c : Content) (now : Stamp) (call : Call) (answer : Except StoreError Reply)
    (c' : Content) : Prop :=
  match call with
  | .upsertLink link => ∃ a, c.LinkStored link a c' ∧ answer = a.map .link
  | .findLink id => ∃ a, c.LinkFound id a ∧ answer = a.map .link ∧ c' = c
  | .upsertEdge edge => ∃ a, c.EdgeStored now edge a c' ∧ answer = a.map .edge
  | .removeStaleEdges src before => answer = .ok .done ∧ c' = c.withoutStale src before
  | .links start stop before =>
    ∃ links, c.LinksRead start stop before links ∧ answer = .ok (.links links) ∧ c' = c
  | .edges start stop before =>
    ∃ edges, c.EdgesRead start stop before edges ∧ answer = .ok (.edges edges) ∧ c' = c

/-- The causes for which a call can fail. -/
def causes : Call → List Cause
  | .upsertLink _ => [.identsExhausted maxAttempts]
  | .findLink _ => [.notFound]
  | .upsertEdge _ => [.unknownEndpoints, .identsExhausted maxAttempts]
  | .removeStaleEdges _ _ => []
  | .links _ _ _ => []
  | .edges _ _ _ => []

/-- **A call fails only for a record that is not held or for want of an identifier.** -/
theorem Step.cause_of_error {c c' : Content} {now : Stamp} {call : Call}
    {answer : Except StoreError Reply} {e : StoreError} (h : c.Step now call answer c')
    (failed : answer = .error e) : ∃ cause ∈ causes call, e = .of call.operation cause := by
  subst failed
  cases call with
  | upsertLink link =>
    obtain ⟨a, ha, he⟩ := h
    cases ha with
    | refreshed held url => cases he
    | created new ne_nil unused => cases he
    | exhausted =>
      cases he
      exact ⟨_, List.mem_cons_self, rfl⟩
  | upsertEdge edge =>
    obtain ⟨a, ha, he⟩ := h
    cases ha with
    | refreshed held dst => cases he
    | created src dst new ne_nil unused => cases he
    | unknown ends =>
      cases he
      exact ⟨_, List.mem_cons_self, rfl⟩
    | exhausted =>
      cases he
      exact ⟨_, List.mem_cons_of_mem _ List.mem_cons_self, rfl⟩
  | findLink id =>
    obtain ⟨a, ha, he, -⟩ := h
    cases ha with
    | found held ident => cases he
    | missing unused =>
      cases he
      exact ⟨_, List.mem_cons_self, rfl⟩
  | removeStaleEdges src before => cases h.1
  | links start stop before =>
    obtain ⟨_, -, he, -⟩ := h
    cases he
  | edges start stop before =>
    obtain ⟨_, -, he, -⟩ := h
    cases he

/-! ## 3. One outcome -/

/-- Whether a call makes a new record of this content, if it succeeds. -/
def Creates (c : Content) : Call → Prop
  | .upsertLink link => ∀ other ∈ c.links, other.url ≠ link.url
  | .upsertEdge edge => ∀ other ∈ c.edgesFrom edge.src, other.dst ≠ edge.dst
  | _ => False

/-- Whether a call stamps a record of this content with the time. -/
def Stamps (c : Content) : Call → Prop
  | .upsertEdge edge => c.HasLink edge.src ∧ c.HasLink edge.dst
  | _ => False

/-- Whether the answer is that no identifier was found. -/
def Exhausted (answer : Except StoreError Reply) : Prop :=
  ∃ e attempts, answer = .error e ∧ e.cause = .identsExhausted attempts

theorem LinkStored.unique {c : Content} (sound : c.Sound) {link : Link}
    {a a' : Except StoreError Link} {c₁ c₂ : Content} (h : c.LinkStored link a c₁)
    (h' : c.LinkStored link a' c₂)
    (ident : c.Creates (.upsertLink link) → ∀ l l', a = .ok l → a' = .ok l' → l.id = l'.id)
    (left : ¬Exhausted (a.map .link)) (right : ¬Exhausted (a'.map .link)) :
    a = a' ∧ c₁ = c₂ := by
  cases h with
  | exhausted => exact absurd ⟨_, _, rfl, rfl⟩ left
  | refreshed held url =>
    cases h' with
    | exhausted => exact absurd ⟨_, _, rfl, rfl⟩ right
    | created new _ _ => exact absurd url (new _ held)
    | refreshed held' url' =>
      cases sound.link_url _ held _ held' (url.trans url'.symm)
      exact ⟨rfl, rfl⟩
  | created new _ _ =>
    cases h' with
    | exhausted => exact absurd ⟨_, _, rfl, rfl⟩ right
    | refreshed held' url' => exact absurd url' (new _ held')
    | created _ _ _ =>
      cases ident new _ _ rfl rfl
      exact ⟨rfl, rfl⟩

theorem EdgeStored.unique {c : Content} (sound : c.Sound) {now now' : Stamp} {edge : Edge}
    {a a' : Except StoreError Edge} {c₁ c₂ : Content} (h : c.EdgeStored now edge a c₁)
    (h' : c.EdgeStored now' edge a' c₂)
    (reading : c.HasLink edge.src ∧ c.HasLink edge.dst → now = now')
    (ident : c.Creates (.upsertEdge edge) → ∀ e e', a = .ok e → a' = .ok e' → e.id = e'.id)
    (left : ¬Exhausted (a.map .edge)) (right : ¬Exhausted (a'.map .edge)) :
    a = a' ∧ c₁ = c₂ := by
  have joined : ∀ {old : Edge}, old ∈ c.edgesFrom edge.src → old.dst = edge.dst →
      c.HasLink edge.src ∧ c.HasLink edge.dst := by
    intro old held dst
    have ends := sound.edge_ends _ _ held
    rwa [sound.edge_src _ _ held, dst] at ends
  cases h with
  | exhausted => exact absurd ⟨_, _, rfl, rfl⟩ left
  | refreshed held dst =>
    cases h' with
    | exhausted => exact absurd ⟨_, _, rfl, rfl⟩ right
    | unknown ends => exact absurd (joined held dst) ends
    | created _ _ new _ _ => exact absurd dst (new _ held)
    | refreshed held' dst' =>
      cases sound.eq_of_dst held held' (dst.trans dst'.symm)
      cases reading (joined held dst)
      exact ⟨rfl, rfl⟩
  | created src dst new _ _ =>
    cases h' with
    | exhausted => exact absurd ⟨_, _, rfl, rfl⟩ right
    | unknown ends => exact absurd ⟨src, dst⟩ ends
    | refreshed held' dst' => exact absurd dst' (new _ held')
    | created _ _ _ _ _ =>
      cases ident new _ _ rfl rfl
      cases reading ⟨src, dst⟩
      exact ⟨rfl, rfl⟩
  | unknown ends =>
    cases h' with
    | exhausted => exact absurd ⟨_, _, rfl, rfl⟩ right
    | unknown _ => exact ⟨rfl, rfl⟩
    | created src dst _ _ _ => exact absurd ⟨src, dst⟩ ends
    | refreshed held' dst' => exact absurd (joined held' dst') ends

theorem LinkFound.unique {c : Content} (sound : c.Sound) {id : Ident}
    {a a' : Except StoreError Link} (h : c.LinkFound id a) (h' : c.LinkFound id a') : a = a' := by
  cases h with
  | found held ident =>
    cases h' with
    | found held' ident' => rw [sound.link_ident _ held _ held' (ident.trans ident'.symm)]
    | missing unused => exact absurd ident (unused _ held)
  | missing unused =>
    cases h' with
    | found held' ident' => exact absurd ident' (unused _ held')
    | missing _ => rfl

theorem LinksRead.unique {c : Content} {start stop : Ident} {before : Stamp}
    {links links' : List Link} (h : c.LinksRead start stop before links)
    (h' : c.LinksRead start stop before links') : links = links' := by
  have : Std.Irrefl fun a b : Link => a.id < b.id := ⟨fun a => Nat.lt_irrefl a.id.toNat⟩
  have : Std.Antisymm fun a b : Link => a.id < b.id :=
    ⟨fun a b hab hba => absurd hba (Nat.lt_asymm hab)⟩
  exact h.sorted.eq_of_mem_iff h'.sorted fun link => (h.mem_iff link).trans (h'.mem_iff link).symm

/-- A list that is sorted by source is given by what it holds for each source. -/
theorem eq_of_filter_src {edges edges' : List Edge} (h : edges.Pairwise fun a b => a.src ≤ b.src)
    (h' : edges'.Pairwise fun a b => a.src ≤ b.src)
    (heq : ∀ src, edges.filter (fun e => e.src = src) = edges'.filter (fun e => e.src = src)) :
    edges = edges' := by
  have hmem : ∀ e, e ∈ edges ↔ e ∈ edges' := fun e => by
    have := congrArg (e ∈ ·) (heq e.src)
    simpa using this
  induction edges generalizing edges' with
  | nil =>
    cases edges' with
    | nil => rfl
    | cons e es => exact absurd ((hmem e).mpr List.mem_cons_self) List.not_mem_nil
  | cons e es ih =>
    cases edges' with
    | nil => exact absurd ((hmem e).mp List.mem_cons_self) List.not_mem_nil
    | cons e' es' =>
      rw [List.pairwise_cons] at h h'
      -- the first sources agree, since each of them is the least one
      have hle : e.src ≤ e'.src := by
        rcases List.mem_cons.mp ((hmem e').mpr List.mem_cons_self) with he | he
        · rw [he]
          exact Nat.le_refl _
        · exact h.1 _ he
      have hge : e'.src ≤ e.src := by
        rcases List.mem_cons.mp ((hmem e).mp List.mem_cons_self) with he | he
        · rw [he]
          exact Nat.le_refl _
        · exact h'.1 _ he
      have hsrc : e'.src = e.src := Ident.ext (Nat.le_antisymm hge hle)
      have hhead := heq e.src
      simp only [List.filter_cons, hsrc, decide_true, if_true, List.cons.injEq] at hhead
      obtain ⟨rfl, -⟩ := hhead
      have htail : ∀ src, es.filter (fun k => k.src = src) = es'.filter (fun k => k.src = src) := by
        intro src
        have := heq src
        simp only [List.filter_cons] at this
        split at this
        · exact (List.cons.inj this).2
        · exact this
      have hmem' : ∀ k, k ∈ es ↔ k ∈ es' := fun k => by
        have := congrArg (k ∈ ·) (htail k.src)
        simpa using this
      rw [ih h.2 h'.2 htail hmem']

theorem EdgesRead.unique {c : Content} {start stop : Ident} {before : Stamp}
    {edges edges' : List Edge} (h : c.EdgesRead start stop before edges)
    (h' : c.EdgesRead start stop before edges') : edges = edges' :=
  eq_of_filter_src h.sorted h'.sorted fun src => (h.filter_src src).trans (h'.filter_src src).symm

/-- **A call has one outcome**, up to the clock, the identifier of a new record, and running out
    of identifiers. -/
theorem Step.unique {c : Content} (sound : c.Sound) {now now' : Stamp} {call : Call}
    {a a' : Except StoreError Reply} {c₁ c₂ : Content} (h : c.Step now call a c₁)
    (h' : c.Step now' call a' c₂) (reading : c.Stamps call → now = now')
    (ident : c.Creates call → ∀ r r', a = .ok r → a' = .ok r' → r.ident? = r'.ident?)
    (left : ¬Exhausted a) (right : ¬Exhausted a') : a = a' ∧ c₁ = c₂ := by
  cases call with
  | upsertLink link =>
    obtain ⟨b, hb, rfl⟩ := h
    obtain ⟨b', hb', rfl⟩ := h'
    have hid : c.Creates (.upsertLink link) →
        ∀ l l', b = .ok l → b' = .ok l' → l.id = l'.id := by
      intro hc l l' h h'
      subst h
      subst h'
      exact Option.some.inj (ident hc _ _ rfl rfl)
    obtain ⟨rfl, hc⟩ := hb.unique sound hb' hid left right
    exact ⟨rfl, hc⟩
  | upsertEdge edge =>
    obtain ⟨b, hb, rfl⟩ := h
    obtain ⟨b', hb', rfl⟩ := h'
    have hid : c.Creates (.upsertEdge edge) →
        ∀ e e', b = .ok e → b' = .ok e' → e.id = e'.id := by
      intro hc e e' h h'
      subst h
      subst h'
      exact Option.some.inj (ident hc _ _ rfl rfl)
    obtain ⟨rfl, hc⟩ := hb.unique sound hb' reading hid left right
    exact ⟨rfl, hc⟩
  | findLink id =>
    obtain ⟨b, hb, rfl, rfl⟩ := h
    obtain ⟨b', hb', rfl, rfl⟩ := h'
    exact ⟨by rw [hb.unique sound hb'], rfl⟩
  | removeStaleEdges src before =>
    obtain ⟨rfl, rfl⟩ := h
    obtain ⟨rfl, rfl⟩ := h'
    exact ⟨rfl, rfl⟩
  | links start stop before =>
    obtain ⟨ls, hl, rfl, rfl⟩ := h
    obtain ⟨ls', hl', rfl, rfl⟩ := h'
    exact ⟨by rw [hl.unique hl'], rfl⟩
  | edges start stop before =>
    obtain ⟨es, he, rfl, rfl⟩ := h
    obtain ⟨es', he', rfl, rfl⟩ := h'
    exact ⟨by rw [he.unique he'], rfl⟩

end Content

end CrawlGraph
