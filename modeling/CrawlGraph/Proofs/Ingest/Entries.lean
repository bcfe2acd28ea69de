import CrawlGraph.Proofs.Contract.ByUrl
import CrawlGraph.Proofs.Ingest.Prune

/-!
# What an import stores, one thing after another

The lines of a crawl result say which pages and hyperlinks to store, and in which order. An import
makes one call for each of these entries, and stops at the first one that the store refuses.

1. `Entry`, and the `entries` of some lines.
2. `Entered` and `Refused`: the calls for some entries succeed, or one of them fails.
3. `Ends`, how an action ends that stores entries, and how two such actions follow each other.
4. Storing a line and storing lines; `Tally`, what an import has counted by then.
5. The first line that cannot be read.
6. `stages_of_importLines`, an import that succeeds from end to end.
-/

namespace CrawlGraph.Ingest

open LawfulStore (content Valid Carried)

/-! ## 1. Entries -/

/-- One thing that an import stores: a page, or the hyperlink between the pages of two URLs. -/
inductive Entry where
  | page (url : String) (retrievedAt : Stamp)
  | hyperlink (src dst : String)
  deriving DecidableEq

/-- The call that stores an entry. A hyperlink is stored by the identifiers that its pages have. -/
inductive Entry.Asks (c : Content) : Entry → Call → Prop where
  | page (url : String) (retrievedAt : Stamp) :
    Asks c (.page url retrievedAt) (.upsertLink (.unstored url retrievedAt))
  | hyperlink {src dst : Ident} {p q : String} (hsrc : c.Named src p) (hdst : c.Named dst q) :
    Asks c (.hyperlink p q) (.upsertEdge (.unstored src dst))

/-- The error of an import that cannot store the entry. -/
def Entry.failure : Entry → StoreError → ImportError
  | .page url _ => .link url
  | .hyperlink src dst => .edge src dst

/-- The entries of a destination: its page, and then the hyperlink to it. -/
def entriesTo (src dst : String) : List Entry := [.page dst 0, .hyperlink src dst]

/-- The entries of a line. -/
def entriesOf (now : Stamp) (a : Adjacency) : List Entry :=
  .page a.src now :: a.dsts.flatMap (entriesTo a.src)

/-- The entries of some lines, in the order in which an import stores them. -/
def entries (now : Stamp) (said : List Adjacency) : List Entry := said.flatMap (entriesOf now)

theorem entries_append (now : Stamp) (said said' : List Adjacency) :
    entries now (said ++ said') = entries now said ++ entries now said' :=
  List.flatMap_append

theorem mem_entries_page {now t : Stamp} {said : List Adjacency} {url : String} :
    .page url t ∈ entries now said ↔
      ∃ a ∈ said, (url = a.src ∧ t = now) ∨ (url ∈ a.dsts ∧ t = 0) := by
  simp only [entries, entriesOf, entriesTo, List.mem_flatMap, List.mem_cons, List.not_mem_nil,
    Entry.page.injEq, reduceCtorEq, or_false]
  refine exists_congr fun a => and_congr_right fun _ => or_congr_right ?_
  constructor
  · intro h
    obtain ⟨dst, hdst, rfl, rfl⟩ := h
    exact ⟨hdst, rfl⟩
  · intro h
    exact ⟨url, h.1, rfl, h.2⟩

theorem mem_entries_hyperlink (now : Stamp) {said : List Adjacency} {p : String × String} :
    .hyperlink p.1 p.2 ∈ entries now said ↔ p ∈ reported said := by
  simp only [entries, entriesOf, entriesTo, reported, List.mem_flatMap, List.mem_cons,
    List.not_mem_nil, Entry.hyperlink.injEq, reduceCtorEq, or_false, false_or, Set.mem_ofPred_eq]
  refine exists_congr fun a => and_congr_right fun _ => ?_
  constructor
  · intro h
    obtain ⟨dst, hdst, hsrc, rfl⟩ := h
    exact ⟨hsrc.symm, hdst⟩
  · intro h
    exact ⟨p.2, h.2, h.1.symm, rfl⟩

section

variable {σ : Type} [LinkStore σ] [LawfulStore σ]

/-! ## 2. Storing entries -/

/-- **Entries are stored one after another.** Each is noted with what the clock shows when its call
    is made. -/
inductive Entered : Session σ → List (Entry × Stamp) → Session σ → Prop where
  | nil (s : Session σ) : Entered s [] s
  | cons {s t : Session σ} {entry : Entry} {call : Call} {reply : Reply}
    {es : List (Entry × Stamp)} (asks : entry.Asks (content s.store) call)
    (stored : s.answer call = .ok reply) (rest : Entered (s.after call) es t) :
    Entered s ((entry, s.supply.now) :: es) t

/-- **One of some entries is refused.** Those before it are stored, and its own call is the last
    one. -/
inductive Refused (s : Session σ) (all : List Entry) : ImportError → Session σ → Prop where
  | intro {es : List (Entry × Stamp)} {t : Session σ} {entry : Entry} {rest : List Entry}
    {call : Call} {e : StoreError} (before : Entered s es t)
    (split : es.map Prod.fst ++ entry :: rest = all) (asks : entry.Asks (content t.store) call)
    (failed : t.answer call = .error e) : Refused s all (entry.failure e) (t.after call)

variable {s t u : Session σ} {es es' : List (Entry × Stamp)}

theorem Entered.append (h : Entered s es t) (h' : Entered t es' u) : Entered s (es ++ es') u := by
  induction h with
  | nil s => exact h'
  | cons asks stored _ ih => exact .cons asks stored (ih h')

theorem Entered.carried (hv : Valid s.store) (h : Entered s es t) : Carried s t := by
  induction h with
  | nil s => exact ⟨hv, .refl _⟩
  | @cons s _ _ call _ _ _ _ _ ih =>
    have first := LawfulStore.carried_after hv call
    have rest := ih first.valid
    exact ⟨rest.valid, first.later.trans rest.later⟩

theorem extends_after (hv : Valid s.store) (c : Call) : Extends s (s.after c) :=
  fun _ _ hn => (LawfulStore.step c hv).named (LawfulStore.sound hv) hn

theorem Entered.extends (hv : Valid s.store) (h : Entered s es t) : Extends s t := by
  induction h with
  | nil s => exact fun _ _ hn => hn
  | @cons s _ _ call _ _ _ _ _ ih =>
    exact (extends_after hv call).trans (ih (LawfulStore.valid_after call hv))

/-- Where the clock stands still, every entry is noted with the same reading. -/
theorem Entered.reading_eq (hv : Valid s.store) (h : Entered s es t) {r : Stamp}
    (still : ∀ n, s.supply.clock n = r) {x : Entry × Stamp} (hx : x ∈ es) : x.2 = r := by
  induction h with
  | nil s => cases hx
  | @cons s _ _ call _ _ _ _ _ ih =>
    rcases List.mem_cons.mp hx with rfl | hx
    · exact still _
    · have first := LawfulStore.carried_after hv call
      exact ih first.valid (first.later.clock ▸ still) hx

variable {all all' : List Entry} {e : ImportError}

theorem Refused.append (h : Refused s all e t) (all' : List Entry) :
    Refused s (all ++ all') e t := by
  cases h with
  | @intro es t entry rest _ _ before split asks failed =>
    have longer : es.map Prod.fst ++ entry :: (rest ++ all') = all ++ all' := by
      rw [← split, List.append_assoc, List.cons_append]
    exact .intro before longer asks failed

theorem Refused.after (h' : Refused t all e u) (h : Entered s es t) :
    Refused s (es.map Prod.fst ++ all) e u := by
  cases h' with
  | @intro es' _ entry rest _ _ before split asks failed =>
    have longer : (es ++ es').map Prod.fst ++ entry :: rest = es.map Prod.fst ++ all := by
      rw [← split, List.map_append, List.append_assoc]
    exact .intro (h.append before) longer asks failed

/-! ## 3. Actions that store entries -/

/-- **How an action ends that stores entries**: it stores all of them and has a good result, or one
    of them is refused. -/
inductive Ends {α : Type} (s : Session σ) (all : List Entry) (good : α → Session σ → Prop) :
    EStateM.Result ImportError (Session σ) α → Prop where
  | stored {es : List (Entry × Stamp)} {a : α} {t : Session σ} (entered : Entered s es t)
    (done : es.map Prod.fst = all) (result : good a t) : Ends s all good (.ok a t)
  | refused {e : ImportError} {t : Session σ} (h : Refused s all e t) : Ends s all good (.error e t)

namespace Ends

variable {α β : Type} {good : α → Session σ → Prop} {good' : β → Session σ → Prop}

theorem of_ok {x : EStateM.Result ImportError (Session σ) α} (h : Ends s all good x) {a : α}
    (run : x = .ok a t) : ∃ es, Entered s es t ∧ es.map Prod.fst = all ∧ good a t := by
  subst run
  cases h with
  | stored entered done result => exact ⟨_, entered, done, result⟩

theorem of_error {x : EStateM.Result ImportError (Session σ) α} (h : Ends s all good x)
    (run : x = .error e t) : Refused s all e t := by
  subst run
  cases h with
  | refused h => exact h

theorem pure {a : α} (h : good a s) :
    Ends s [] good ((Pure.pure a : Action σ ImportError α) s) :=
  .stored (.nil s) rfl h

/-- Two actions, one after the other. -/
theorem bind (hv : Valid s.store) {x : Action σ ImportError α} {f : α → Action σ ImportError β}
    (hx : Ends s all good (x s))
    (hf : ∀ a t, Valid t.store → Extends s t → good a t → Ends t all' good' (f a t)) :
    Ends s (all ++ all') good' ((x >>= f) s) := by
  cases run : x s with
  | ok a t =>
    obtain ⟨es, entered, rfl, result⟩ := hx.of_ok run
    have rest := hf a t (entered.carried hv).valid (entered.extends hv) result
    rw [Action.bind_of_ok run]
    cases run' : f a t with
    | ok b u =>
      obtain ⟨es', entered', rfl, result'⟩ := rest.of_ok run'
      exact .stored (entered.append entered') List.map_append result'
    | error e u => exact .refused ((rest.of_error run').after entered)
  | error e t =>
    rw [Action.bind_of_error run]
    exact .refused ((hx.of_error run).append all')

/-- The call of one entry. -/
theorem call {entry : Entry} {call : Call} {x : Action σ StoreError α} (reply : α → Reply)
    (asks : entry.Asks (content s.store) call) (perform : call.perform = reply <$> x)
    (result : ∀ a t, x s = .ok a t → good a t) :
    Ends s [entry] good (x.mapError entry.failure s) := by
  have hanswer : s.answer call = (x.answer s).map reply := by
    rw [Session.answer, perform, Action.answer_map]
  have hafter : s.after call = x.after s := by
    rw [Session.after, perform, Action.after_map]
  unfold Action.mapError
  cases hx : x s with
  | ok a t =>
    rw [Action.answer_of_ok hx] at hanswer
    rw [Action.after_of_ok hx] at hafter
    have rest : Entered (s.after call) [] t := hafter ▸ .nil _
    exact .stored (.cons asks hanswer rest) rfl (result a t hx)
  | error e t =>
    rw [Action.answer_of_error hx] at hanswer
    rw [Action.after_of_error hx] at hafter
    exact .refused (hafter ▸ .intro (.nil s) rfl asks hanswer)

/-- An action whose result is not asked for. -/
theorem discard {x : Action σ ImportError α} (h : Ends s all good (x s)) :
    Ends s all (fun _ _ => True) ((Functor.discard x : Action σ ImportError Unit) s) := by
  simp only [Functor.discard, Functor.mapConst, Function.comp_apply, EStateM.map]
  generalize x s = r at h ⊢
  cases h with
  | stored entered done result => exact .stored entered done trivial
  | refused h => exact .refused h

end Ends

/-! ## 4. Storing lines -/

theorem ends_storePage (hv : Valid s.store) (url : String) (retrievedAt : Stamp) :
    Ends s [.page url retrievedAt]
      (fun link t => link.url = url ∧ (content t.store).Named link.id url)
      (storePage url retrievedAt s) := by
  refine .call .link (.page url retrievedAt) rfl ?_
  intro link t run
  obtain ⟨-, hstored⟩ := LawfulStore.linkStored hv run
  obtain ⟨-, hnamed, hurl, -⟩ := hstored.grows (LawfulStore.sound hv)
  exact ⟨hurl, hnamed⟩

theorem ends_storeDestination (hv : Valid s.store) {src : Link}
    (hsrc : (content s.store).Named src.id src.url) (url : String) :
    Ends s (entriesTo src.url url) (fun _ _ => True) (storeDestination src url s) := by
  change Ends s ([.page url 0] ++ [.hyperlink src.url url]) _ _
  refine .bind hv (ends_storePage hv url 0) ?_
  intro dst t _ grows result
  obtain ⟨rfl, hdst⟩ := result
  have hlink : Entry.Asks (content t.store) (.hyperlink src.url dst.url) _ :=
    .hyperlink (grows _ _ hsrc) hdst
  exact .discard (.call .edge hlink rfl fun _ _ _ => trivial)

theorem ends_storeDestinations (hv : Valid s.store) {src : Link}
    (hsrc : (content s.store).Named src.id src.url) (dsts : List String) :
    Ends s (dsts.flatMap (entriesTo src.url)) (fun _ _ => True)
      (dsts.forM (storeDestination src) s) := by
  induction dsts generalizing s with
  | nil => exact .pure trivial
  | cons dst dsts ih =>
    rw [List.flatMap_cons]
    exact .bind hv (ends_storeDestination hv hsrc dst) fun _ t hv' grows _ =>
      ih hv' (grows _ _ hsrc)

theorem ends_storeAdjacency (hv : Valid s.store) (now : Stamp) (a : Adjacency) :
    Ends s (entriesOf now a) (fun id t => (content t.store).Named id a.src)
      (storeAdjacency now a s) := by
  change Ends s ([.page a.src now] ++ a.dsts.flatMap (entriesTo a.src)) _ _
  refine .bind hv (ends_storePage hv a.src now) ?_
  intro src t hv' _ result
  obtain ⟨hurl, hsrc⟩ := result
  rw [← hurl] at hsrc ⊢
  rw [← List.append_nil (a.dsts.flatMap (entriesTo src.url))]
  exact .bind hv' (ends_storeDestinations hv' hsrc a.dsts) fun _ u _ grows _ =>
    .pure (grows _ _ hsrc)

/-- The URLs that some lines name, with repetitions. -/
def mentioned (said : List Adjacency) : List String := said.flatMap fun a => a.src :: a.dsts

/-- **What an import has counted** after some lines. The sources are noted by the identifiers that
    their pages have. -/
structure Tally (done : List Line) (p : Progress) (c : Content) : Prop where
  lines : p.lines = done.length
  skipped : p.skipped = done.countP fun line => (kept? line).isNone
  edges : p.edges = ((kept done).map fun a => a.dsts.length).sum
  urls : ∀ url, url ∈ p.urls ↔ url ∈ mentioned (kept done)
  noted : ∀ id ∈ p.sources, ∃ a ∈ kept done, c.Named id a.src
  sources : ∀ a ∈ kept done, ∃ id ∈ p.sources, c.Named id a.src

theorem tally_nil (c : Content) : Tally [] {} c where
  lines := rfl
  skipped := rfl
  edges := rfl
  urls _ := Iff.rfl
  noted _ h := absurd h List.not_mem_nil
  sources _ h := absurd h List.not_mem_nil

theorem kept_append (lines lines' : List Line) :
    kept (lines ++ lines') = kept lines ++ kept lines' :=
  List.filterMap_append

theorem kept_singleton (line : Line) : kept [line] = (kept? line).toList := by
  unfold kept
  cases h : kept? line <;> simp [h]

variable {done : List Line} {p : Progress}

/-- A line that is not kept is only counted. -/
theorem Tally.skip {c : Content} (h : Tally done p c) {line : Line} (hline : kept? line = none) :
    Tally (done ++ [line]) { p with lines := p.lines + 1, skipped := p.skipped + 1 } c := by
  have same : kept (done ++ [line]) = kept done := by
    rw [kept_append, kept_singleton, hline, Option.toList_none, List.append_nil]
  constructor
  case lines => simp [h.lines]
  case skipped => simp [h.skipped, hline]
  all_goals rw [same]
  case edges => exact h.edges
  case urls => exact h.urls
  case noted => exact h.noted
  case sources => exact h.sources

/-- A line that is kept is counted with its pages and hyperlinks. -/
theorem Tally.keep {c c' : Content} (h : Tally done p c)
    (grows : ∀ id url, c.Named id url → c'.Named id url) {line : Line} {a : Adjacency}
    (hline : kept? line = some a) {id : Ident} (hsrc : c'.Named id a.src) :
    Tally (done ++ [line]) { p with
      lines := p.lines + 1
      edges := p.edges + a.dsts.length
      urls := a.src :: a.dsts ++ p.urls
      sources := id :: p.sources } c' := by
  have more : kept (done ++ [line]) = kept done ++ [a] := by
    rw [kept_append, kept_singleton, hline, Option.toList_some]
  constructor
  case lines => simp [h.lines]
  case skipped => simp [h.skipped, hline]
  all_goals rw [more]
  case edges => simp [h.edges]
  case urls =>
    intro url
    simp only [mentioned, List.flatMap_append, List.flatMap_singleton, List.mem_append]
    rw [h.urls, or_comm]
    rfl
  case noted =>
    intro id' hid
    rcases List.mem_cons.mp hid with rfl | hid
    · exact ⟨a, List.mem_append_right _ (List.mem_singleton_self a), hsrc⟩
    · obtain ⟨a', ha, hn⟩ := h.noted id' hid
      exact ⟨a', List.mem_append_left _ ha, grows _ _ hn⟩
  case sources =>
    intro a' ha
    rcases List.mem_append.mp ha with ha | ha
    · obtain ⟨id', hid, hn⟩ := h.sources a' ha
      exact ⟨id', List.mem_cons_of_mem _ hid, grows _ _ hn⟩
    · rw [List.mem_singleton.mp ha]
      exact ⟨id, List.mem_cons_self, hsrc⟩

theorem ends_takeLine (hv : Valid s.store) (now : Stamp) (tally : Tally done p (content s.store))
    {line : Line} (readable : line.isOk = true) :
    Ends s (entries now (kept [line])) (fun p' t => Tally (done ++ [line]) p' (content t.store))
      (takeLine now p line s) := by
  cases line with
  | error fault => cases readable
  | ok text =>
    have hkept : kept? (.ok text) = Adjacency.ofLine? text := rfl
    rw [kept_singleton]
    unfold takeLine
    dsimp only
    cases hline : Adjacency.ofLine? text with
    | none =>
      rw [hline] at hkept
      rw [hkept]
      exact .pure (tally.skip hkept)
    | some a =>
      rw [hline] at hkept
      rw [hkept, Option.toList_some, entries, List.flatMap_singleton,
        ← List.append_nil (entriesOf now a)]
      exact .bind hv (ends_storeAdjacency hv now a) fun id t _ grows hsrc =>
        .pure (tally.keep grows hkept hsrc)

/-- **Storing readable lines** stores their entries and counts them all, or stops at an entry that
    is refused. -/
theorem ends_takeLines (hv : Valid s.store) (now : Stamp) (tally : Tally done p (content s.store))
    {lines : List Line} (readable : ∀ line ∈ lines, line.isOk = true) :
    Ends s (entries now (kept lines)) (fun p' t => Tally (done ++ lines) p' (content t.store))
      (lines.foldlM (takeLine now) p s) := by
  induction lines generalizing s done p with
  | nil =>
    rw [List.append_nil]
    exact .pure tally
  | cons line lines ih =>
    have hline := ends_takeLine hv now tally (readable line List.mem_cons_self)
    rw [List.foldlM_cons, ← List.singleton_append, kept_append, entries_append]
    refine .bind hv hline fun p' t hv' _ tally' => ?_
    have rest := ih hv' tally' fun line hl => readable line (List.mem_cons_of_mem _ hl)
    rwa [List.append_assoc] at rest

/-! ## 5. Unreadable lines -/

omit [LawfulStore σ] in
/-- An unreadable line ends the import, if no entry before it did. -/
theorem takeLines_unreadable (now : Stamp) (p : Progress) (before after : List Line)
    (fault : ReadFault) (s : Session σ) :
    (before ++ .error fault :: after).foldlM (takeLine now) p s =
      match before.foldlM (takeLine now) p s with
      | .ok q t => .error (.unreadable (q.lines + 1) fault) t
      | .error e t => .error e t := by
  rw [List.foldlM_append]
  cases run : before.foldlM (takeLine now) p s with
  | ok q t => exact Action.bind_of_ok run
  | error e t => exact Action.bind_of_error run

/-- Lines are all readable, or else one of them is the first that is not. -/
theorem readable_or_split (lines : List Line) : (∀ line ∈ lines, line.isOk = true) ∨
    ∃ before fault after, lines = before ++ .error fault :: after ∧
      ∀ line ∈ before, line.isOk = true := by
  induction lines with
  | nil => exact .inl fun line h => absurd h List.not_mem_nil
  | cons line lines ih =>
    cases line with
    | error fault => exact .inr ⟨[], fault, lines, rfl, fun line h => absurd h List.not_mem_nil⟩
    | ok text =>
      rcases ih with readable | ⟨before, fault, after, rfl, readable⟩
      · exact .inl (List.forall_mem_cons.mpr ⟨rfl, readable⟩)
      · exact .inr ⟨_, fault, after, rfl, List.forall_mem_cons.mpr ⟨rfl, readable⟩⟩

omit [LawfulStore σ] in
theorem readable_of_takeLines {now : Stamp} {p p' : Progress} {lines : List Line}
    (run : lines.foldlM (takeLine now) p s = .ok p' t) : ∀ line ∈ lines, line.isOk = true := by
  rcases readable_or_split lines with readable | ⟨before, fault, after, rfl, -⟩
  · exact readable
  · rw [takeLines_unreadable] at run
    split at run <;> cases run

/-! ## 6. The whole import -/

/-- The pages that an import prunes in the end. -/
def pruned (prune : Bool) (p : Progress) : List Ident :=
  if prune then (p.sources.mergeSort (· ≤ ·)).eraseDups else []

omit [LawfulStore σ] in
theorem importLines_eq (lines : List Line) (now : Stamp) (prune : Bool) :
    importLines lines now prune = (do
      let p ← lines.foldlM (takeLine now) {}
      (pruned prune p).forM (pruneSource now)
      pure ⟨p.lines, p.skipped, p.urls.eraseDups.length, p.edges, (pruned prune p).length⟩ :
        Action σ ImportError ImportSummary) := rfl

/-- **An import that succeeds** has stored all entries of its lines, and then pruned. -/
theorem stages_of_importLines (hv : Valid s.store) {lines : List Line} {now : Stamp} {prune : Bool}
    {summary : ImportSummary} (run : importLines lines now prune s = .ok summary u) :
    ∃ es p t, Entered s es t ∧ es.map Prod.fst = entries now (kept lines) ∧
      Tally lines p (content t.store) ∧
      (pruned prune p).forM (pruneSource now) t = .ok () u ∧
      summary =
        ⟨p.lines, p.skipped, p.urls.eraseDups.length, p.edges, (pruned prune p).length⟩ := by
  rw [importLines_eq] at run
  obtain ⟨p, t, hlines, run⟩ := Action.bind_eq_ok run
  obtain ⟨_, _, hprune, run⟩ := Action.bind_eq_ok run
  obtain ⟨hsummary, rfl⟩ := Action.pure_eq_ok run
  have ends := ends_takeLines hv now (tally_nil _) (readable_of_takeLines hlines)
  obtain ⟨es, entered, hes, tally⟩ := ends.of_ok hlines
  exact ⟨es, p, t, entered, hes, tally, hprune, hsummary.symm⟩

end

end CrawlGraph.Ingest
