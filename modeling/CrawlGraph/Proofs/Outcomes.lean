import CrawlGraph.Proofs.Memory.Lawful
import CrawlGraph.Proofs.Tables.Lawful

/-!
# Outcomes in every state that calls lead to

What a call does is settled by the records that are held, the clock and the identifiers to come:
the record that it stores, the error, how many readings and draws it takes, and what becomes of the
record of its caller.

1. `Unharmed`: what a failed call leaves as it was.
2. `Memory.Exact` and `memory_exact_of_reached`: every call of the graph in memory.
3. `Tables.Exact` and `tables_exact_of_reached`: storing into tables.
-/

namespace CrawlGraph

/-! ## 1. Failed calls -/

/-- **What a failed call leaves as it was**: the store and the record of the caller. The error
    names the operation that was called, and does not blame a stored record. -/
structure Unharmed {σ : Type} [LinkStore σ] (s : Session σ) (call : Call) (e : StoreError) :
    Prop where
  store : (s.after call).store = s.store
  record : s.recordAfter? call = call.record?
  operation : e.operation = call.operation.name
  cause : ∀ reason, e.cause ≠ .invalidRecord reason

namespace Unharmed

variable {σ : Type} [LinkStore σ] {s : Session σ} {call : Call}

/-- An error of the operation that was called, with the store and the record left alone. -/
theorem of_cause {cause : Cause} (store : (s.after call).store = s.store)
    (record : s.recordAfter? call = call.record?)
    (valid : ∀ reason, cause ≠ .invalidRecord reason) : Unharmed s call (.of call.operation cause) where
  store := store
  record := record
  operation := rfl
  cause := valid

/-- A link that cannot be stored leaves all as it was, if only the store and the link of the caller
    do. -/
theorem of_upsertLink {link : Link} {e : StoreError} (h : s.answer (.upsertLink link) = .error e)
    (failed : Action.answer (LinkStore.upsertLink link) s = .error e →
      (Action.after (LinkStore.upsertLink link) s).store = s.store ∧
        LinkStore.storeLink.recordAfter link s = link ∧
        e = .of .upsertLink (.identsExhausted maxAttempts)) :
    Unharmed s (.upsertLink link) e := by
  rw [Session.answer_upsertLink] at h
  obtain ⟨store, record, rfl⟩ := failed (eq_error_of_map h)
  rw [← Session.after_upsertLink] at store
  exact .of_cause store (congrArg (some ∘ Reply.link) record) nofun

/-- An edge that cannot be stored leaves all as it was, if only the store and the edge of the caller
    do. -/
theorem of_upsertEdge {edge : Edge} {e : StoreError} (h : s.answer (.upsertEdge edge) = .error e)
    (failed : Action.answer (LinkStore.upsertEdge edge) s = .error e →
      (Action.after (LinkStore.upsertEdge edge) s).store = s.store ∧
        LinkStore.storeEdge.recordAfter edge s = edge ∧
        (e = .of .upsertEdge .unknownEndpoints ∨
          e = .of .upsertEdge (.identsExhausted maxAttempts))) :
    Unharmed s (.upsertEdge edge) e := by
  rw [Session.answer_upsertEdge] at h
  obtain ⟨store, record, he⟩ := failed (eq_error_of_map h)
  rw [← Session.after_upsertEdge] at store
  have record : s.recordAfter? (.upsertEdge edge) = some (.edge edge) :=
    congrArg (some ∘ Reply.edge) record
  rcases he with rfl | rfl
  · exact .of_cause store record nofun
  · exact .of_cause store record nofun

end Unharmed

/-! ## 2. The graph in memory -/

namespace Memory

/-- **What every call of the graph in memory does**, from the records that are held. -/
structure Exact (s : Session Memory) : Prop where
  upsertLink : ∀ link, LinkOutcome s link (Action.answer (LinkStore.upsertLink link) s)
    (Action.after (LinkStore.upsertLink link) s) (LinkStore.storeLink.recordAfter link s)
  upsertEdge : ∀ edge, EdgeOutcome s edge (Action.answer (LinkStore.upsertEdge edge) s)
    (Action.after (LinkStore.upsertEdge edge) s) (LinkStore.storeEdge.recordAfter edge s)
  /-- An edge is refused for its pages just if one of them is not held. -/
  unknown_iff : ∀ edge, s.answer (.upsertEdge edge) = .error (.of .upsertEdge .unknownEndpoints) ↔
    ¬(s.store.links.contains edge.src = true ∧ s.store.links.contains edge.dst = true)
  findLink : ∀ id e, s.answer (.findLink id) = .error e → e = .of .findLink .notFound
  removeStaleEdges : ∀ src before, s.answer (.removeStaleEdges src before) = .ok .done
  links : ∀ start stop before, ∃ links, s.answer (.links start stop before) = .ok (.links links)
  edges : ∀ start stop before, ∃ edges, s.answer (.edges start stop before) = .ok (.edges edges)
  failed : ∀ call e, s.answer call = .error e → Unharmed s call e

variable {s : Session Memory}

/-- Finding a link fails only because it is not held. -/
theorem notFound_of_findLink {id : Ident} {e : StoreError}
    (h : s.answer (.findLink id) = .error e) : e = .of .findLink .notFound := by
  rw [Session.answer_findLink] at h
  have h := eq_error_of_map h
  change s.store.findLink id = .error e at h
  unfold findLink at h
  split at h
  · cases h
  · cases h
    rfl

theorem unharmed (hv : s.store.Valid) {call : Call} {e : StoreError}
    (h : s.answer call = .error e) : Unharmed s call e := by
  cases call with
  | upsertLink link => exact .of_upsertLink h (linkOutcome_upsertLink hv link).failed
  | upsertEdge edge => exact .of_upsertEdge h (edgeOutcome_upsertEdge hv edge).failed
  | findLink id =>
    cases notFound_of_findLink h
    exact .of_cause (by rw [Session.after_findLink]) rfl nofun
  | removeStaleEdges src before =>
    rw [answer_removeStaleEdges] at h
    cases h
  | links start stop before =>
    rw [answer_links] at h
    cases h
  | edges start stop before =>
    rw [answer_edges] at h
    cases h

theorem exact_of_valid (hv : s.store.Valid) : Exact s where
  upsertLink := linkOutcome_upsertLink hv
  upsertEdge := edgeOutcome_upsertEdge hv
  unknown_iff edge := by
    rw [← (edgeOutcome_upsertEdge hv edge).unknown_iff hv, Session.answer_upsertEdge]
    constructor
    · exact eq_error_of_map
    · intro h
      rw [h]
      rfl
  findLink _ _ := notFound_of_findLink
  removeStaleEdges := answer_removeStaleEdges s
  links start stop before := ⟨_, answer_links s start stop before⟩
  edges start stop before := ⟨_, answer_edges s start stop before⟩
  failed _ _ := unharmed hv

end Memory

/-- **The outcome of a call of the graph in memory is exact**, in every state that calls lead to
    from the empty graph, and whatever clock and identifiers follow. -/
theorem memory_exact_of_reached (supply : Supply) (s : Session Memory)
    (h : Session.Reached ⟨Memory.empty, supply⟩ s) (next : Supply) :
    Memory.Exact ⟨s.store, next⟩ :=
  Memory.exact_of_valid (s := ⟨s.store, next⟩) (LawfulStore.valid_of_reached h)

/-- Two pages with a hyperlink. Another hyperlink is refused at once if one of its pages is unknown,
    and comes in with the third draw if the first two are nil and taken. -/
theorem memory_exact_of_hyperlink :
    let first : Session Memory := ⟨Memory.empty, .counting⟩
    let a : Ident := .ofNat 1
    let b : Ident := .ofNat 2
    let s := first.afterAll [.upsertLink (.unstored "http://a/" 3),
      .upsertLink (.unstored "http://b/" 0), .upsertEdge (.unstored a b)]
    let next : Supply := ⟨fun _ => 9, Supply.listed .nil [.nil, .ofNat 3, .ofNat 4], 0, 0⟩
    let t : Session Memory := ⟨s.store, next⟩
    first.Reached s ∧ Memory.Exact t ∧
      t.answer (.upsertEdge (.unstored a (.ofNat 9))) =
        .error (.of .upsertEdge .unknownEndpoints) ∧
      t.answer (.upsertEdge (.unstored b a)) = .ok (.edge ⟨.ofNat 4, b, a, 9⟩) ∧
      (t.after (.upsertEdge (.unstored b a))).supply.draws = 3 := by
  intro first a b s next t
  have reached : first.Reached s := Session.Reached.start.afterAll _
  have exact : Memory.Exact t := memory_exact_of_reached .counting s reached next
  have unknown : ¬(t.store.links.contains a = true ∧
      t.store.links.contains (.ofNat 9) = true) := by
    decide +kernel
  have stored : (t.answer (.upsertEdge (.unstored b a))).toOption =
      some (.edge ⟨.ofNat 4, b, a, 9⟩) := by
    decide +kernel
  have draws : (t.after (.upsertEdge (.unstored b a))).supply.draws = 3 := by
    decide +kernel
  exact ⟨reached, exact, (exact.unknown_iff _).mpr unknown, eq_ok_of_toOption stored, draws⟩

/-! ## 3. Tables -/

namespace Tables

/-- **What storing into the tables of records does.** -/
structure Exact (r : Records) (s : Session Tables) : Prop where
  upsertLink : ∀ link, LinkOutcome r s link (Action.answer (LinkStore.upsertLink link) s)
    (Action.after (LinkStore.upsertLink link) s) (LinkStore.storeLink.recordAfter link s)
  upsertEdge : ∀ edge, EdgeOutcome r s edge (Action.answer (LinkStore.upsertEdge edge) s)
    (Action.after (LinkStore.upsertEdge edge) s) (LinkStore.storeEdge.recordAfter edge s)
  /-- Storing an edge reads the clock once, whatever its outcome. -/
  reads : ∀ edge, (s.after (.upsertEdge edge)).supply.reads = s.supply.reads + 1
  link_failed : ∀ link e, s.answer (.upsertLink link) = .error e →
    Unharmed s (.upsertLink link) e
  edge_failed : ∀ edge e, s.answer (.upsertEdge edge) = .error e →
    Unharmed s (.upsertEdge edge) e

variable {r : Records} {s : Session Tables}

theorem exact_of_valid (hv : r.Valid) (hs : s.store = r.tables) : Exact r s where
  upsertLink := linkOutcome_upsertLink hv hs
  upsertEdge := edgeOutcome_upsertEdge hv hs
  reads edge := by
    rw [Session.after_upsertEdge]
    exact (edgeOutcome_upsertEdge hv hs edge).reads
  link_failed link _ h := .of_upsertLink h (linkOutcome_upsertLink hv hs link).failed
  edge_failed edge _ h := .of_upsertEdge h (edgeOutcome_upsertEdge hv hs edge).failed

end Tables

/-- **The outcome of storing into tables is exact**, in every state that calls lead to from the
    empty tables, and whatever clock and identifiers follow. -/
theorem tables_exact_of_reached (supply : Supply) (s : Session Tables)
    (h : Session.Reached ⟨Tables.empty, supply⟩ s) :
    ∃ r : Records, r.Valid ∧ s.store = r.tables ∧ ∀ next, Tables.Exact r ⟨s.store, next⟩ := by
  obtain ⟨r, hv, hs⟩ : Tables.Valid s.store := LawfulStore.valid_of_reached h
  exact ⟨r, hv, hs, fun next => Tables.exact_of_valid (s := ⟨s.store, next⟩) hv hs⟩

/-- Two pages with a hyperlink. A nil draw and a taken one are lost for another hyperlink, also if
    it is then refused; for the one that is there, a taken draw does. -/
theorem tables_exact_of_hyperlink :
    let first : Session Tables := ⟨Tables.empty, .counting⟩
    let a : Ident := .ofNat 1
    let b : Ident := .ofNat 2
    let s := first.afterAll [.upsertLink (.unstored "http://a/" 3),
      .upsertLink (.unstored "http://b/" 0), .upsertEdge (.unstored a b)]
    let next : Supply := ⟨fun _ => 9, Supply.listed .nil [.nil, .ofNat 3, .ofNat 4], 0, 0⟩
    let t : Session Tables := ⟨s.store, next⟩
    first.Reached s ∧ (∃ r : Records, r.Valid ∧ t.store = r.tables ∧ Tables.Exact r t) ∧
      t.answer (.upsertEdge (.unstored b a)) = .ok (.edge ⟨.ofNat 4, b, a, 9⟩) ∧
      (t.after (.upsertEdge (.unstored b a))).supply.draws = 3 ∧
      (t.after (.upsertEdge (.unstored a (.ofNat 9)))).supply.draws = 3 ∧
      (t.after (.upsertEdge (.unstored a b))).supply.draws = 2 := by
  intro first a b s next t
  have reached : first.Reached s := Session.Reached.start.afterAll _
  have stored : (t.answer (.upsertEdge (.unstored b a))).toOption =
      some (.edge ⟨.ofNat 4, b, a, 9⟩) := by
    decide +kernel
  have draws : (t.after (.upsertEdge (.unstored b a))).supply.draws = 3 := by
    decide +kernel
  have refused : (t.after (.upsertEdge (.unstored a (.ofNat 9)))).supply.draws = 3 := by
    decide +kernel
  have refreshed : (t.after (.upsertEdge (.unstored a b))).supply.draws = 2 := by
    decide +kernel
  clear_value s
  obtain ⟨r, hv, hs, exact⟩ := tables_exact_of_reached .counting s reached
  exact ⟨reached, ⟨r, hv, hs, exact next⟩, eq_ok_of_toOption stored, draws, refused, refreshed⟩

/-- Every draw is the identifier of the one link that is there. It is refreshed all the same, with
    the first draw. -/
theorem refreshed_of_taken_draws :
    let first : Session Tables := ⟨Tables.empty, ⟨fun _ => 0, fun _ => .ofNat 1, 0, 0⟩⟩
    let s := first.after (.upsertLink (.unstored "a" 1))
    let again : Call := .upsertLink (.unstored "a" 2)
    first.Reached s ∧
      s.supply.usable (fun id => s.store.hasLink id.text = true) maxAttempts = ∅ ∧
      s.answer again ≠ .error (.of .upsertLink (.identsExhausted maxAttempts)) ∧
      s.answer again = .ok (.link ⟨.ofNat 1, "a", 2⟩) ∧
      (s.after again).supply.draws = s.supply.draws + 1 := by
  intro first s again
  have reached : first.Reached s := .call _ .start
  have draw : ∀ k, s.supply.draw k = .ofNat 1 := fun k =>
    congrFun (LawfulStore.carried_of_reached LawfulStore.valid_empty reached).later.idents _
  have taken : s.store.hasLink (Ident.ofNat 1).text = true := by
    decide +kernel
  have stored : (s.answer again).toOption = some (.link ⟨.ofNat 1, "a", 2⟩) := by
    decide +kernel
  have draws : (s.after again).supply.draws = s.supply.draws + 1 := by
    decide +kernel
  clear_value s
  have stored := eq_ok_of_toOption stored
  refine ⟨reached, Set.eq_empty_iff_forall_notMem.mpr fun k hk => ?_, ?_, stored, draws⟩
  · obtain ⟨-, -, free⟩ := hk
    rw [draw] at free
    exact free taken
  · rw [stored]
    exact nofun

end CrawlGraph
