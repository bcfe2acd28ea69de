import CrawlGraph.Proofs.Ingest.Entries
import CrawlGraph.Proofs.Outcomes

/-!
# Imports in parts and imports that end early

A crawl result may be imported in parts, one after another, and an import may end early. In both
cases the store holds what the lines up to there say, and nothing is pruned before the last line.

1. `linesOf_append`, the lines of a text in two parts.
2. `takeLines_join`: lines are counted on from where the lines before them ended.
3. `Composes`, two imports one after the other.
4. `Unread`, an import up to a line that cannot be read.
5. `Halted`, an import up to an entry that is refused.
6. `parts_of_reached`.
-/

namespace CrawlGraph

/-! ## 1. Texts in two parts -/

namespace Ingest

theorem byteLines_append_cons (text text' : List UInt8) :
    byteLines (text ++ 10 :: text') = (text.splitOn 10).map withoutReturn ++ byteLines text' := by
  have more : text'.splitOn 10 ≠ [] := List.splitOn_ne_nil _ _
  unfold byteLines
  dsimp only
  rw [List.splitOn_append_cons_self, List.dropLast_append_of_ne_nil more,
    List.getLast?_append_of_ne_nil _ more, List.map_append, List.append_assoc]

/-- **A text that ends with a line feed has its lines before those of the text after it.** -/
theorem linesOf_append {text : List UInt8} (ended : text = [] ∨ text.getLast? = some 10)
    (text' : List UInt8) : linesOf (text ++ text') = linesOf text ++ linesOf text' := by
  have hnil : byteLines [] = [] := rfl
  rcases ended with rfl | ended
  · rfl
  · obtain ⟨start, rfl⟩ := List.getLast?_eq_some_iff.mp ended
    unfold linesOf
    rw [List.append_assoc, List.singleton_append, byteLines_append_cons, byteLines_append_cons,
      hnil, List.append_nil, List.map_append]

end Ingest

/-! ## 2. Counting on -/

namespace Action

variable {σ ε ε' ε'' α β : Type}

theorem mapError_mapError (f : ε → ε') (g : ε' → ε'') (x : Action σ ε α) :
    (x.mapError f).mapError g = x.mapError (g ∘ f) := by
  funext s
  unfold mapError
  cases x s <;> rfl

theorem mapError_bind (g : ε → ε') (x : Action σ ε α) (f : α → Action σ ε β) :
    (x >>= f : Action σ ε β).mapError g =
      (x.mapError g >>= fun a => (f a).mapError g : Action σ ε' β) := by
  funext s
  simp only [mapError, bind, EStateM.bind]
  cases x s <;> rfl

theorem mapError_discard (g : ε → ε') (x : Action σ ε α) :
    (discard x : Action σ ε Unit).mapError g = (discard (x.mapError g) : Action σ ε' Unit) := by
  funext s
  simp only [mapError, discard, Functor.mapConst, Function.comp_apply, EStateM.map]
  cases x s <;> rfl

theorem mapError_pure (g : ε → ε') (a : α) :
    (pure a : Action σ ε α).mapError g = (pure a : Action σ ε' α) := rfl

end Action

namespace Ingest

open LawfulStore (content Valid)

/-- The error with some lines more before it. -/
def ImportError.afterLines (n : Nat) : ImportError → ImportError
  | .unreadable line fault => .unreadable (n + line) fault
  | e => e

/-- The progress of two parts. -/
def Progress.join (p q : Progress) : Progress where
  lines := p.lines + q.lines
  skipped := p.skipped + q.skipped
  edges := p.edges + q.edges
  urls := q.urls ++ p.urls
  sources := q.sources ++ p.sources

section

variable {σ : Type} [LinkStore σ]

/-! An entry that is refused is named without its line. -/

theorem storePage_afterLines (n : Nat) (url : String) (t : Stamp) :
    Action.mapError (.afterLines n) (storePage url t : Action σ ImportError Link) =
      storePage url t :=
  Action.mapError_mapError _ _ _

theorem storeDestination_afterLines (n : Nat) (src : Link) (url : String) :
    Action.mapError (.afterLines n) (storeDestination src url : Action σ ImportError Unit) =
      storeDestination src url := by
  unfold storeDestination
  rw [Action.mapError_bind, storePage_afterLines]
  refine congrArg _ (funext fun dst => ?_)
  rw [Action.mapError_discard, Action.mapError_mapError]
  rfl

theorem storeDestinations_afterLines (n : Nat) (src : Link) (dsts : List String) :
    Action.mapError (.afterLines n)
      (dsts.forM (storeDestination src) : Action σ ImportError Unit) =
        dsts.forM (storeDestination src) := by
  induction dsts with
  | nil => rfl
  | cons dst dsts ih =>
    change Action.mapError _ (storeDestination src dst >>= fun _ => dsts.forM _) = _
    rw [Action.mapError_bind, storeDestination_afterLines]
    exact congrArg _ (funext fun _ => ih)

theorem storeAdjacency_afterLines (n : Nat) (now : Stamp) (a : Adjacency) :
    Action.mapError (.afterLines n) (storeAdjacency now a : Action σ ImportError Ident) =
      storeAdjacency now a := by
  unfold storeAdjacency
  rw [Action.mapError_bind, storePage_afterLines]
  refine congrArg _ (funext fun src => ?_)
  rw [Action.mapError_bind, storeDestinations_afterLines]
  rfl

theorem takeLine_join (now : Stamp) (p q : Progress) (line : Line) :
    (takeLine now (p.join q) line : Action σ ImportError Progress) =
      p.join <$> (takeLine now q line).mapError (.afterLines p.lines) := by
  cases line with
  | error fault => rfl
  | ok text =>
    unfold takeLine
    dsimp only
    cases Adjacency.ofLine? text with
    | none => rfl
    | some a =>
      dsimp only
      rw [Action.mapError_bind, storeAdjacency_afterLines, map_bind]
      refine congrArg _ (funext fun id => ?_)
      rw [Action.mapError_pure, map_pure]
      simp only [Progress.join, Nat.add_assoc, List.append_assoc, List.cons_append]

/-- **Lines are stored and counted on** from where the lines before them ended. -/
theorem takeLines_join (now : Stamp) (p q : Progress) (lines : List Line) :
    (lines.foldlM (takeLine now) (p.join q) : Action σ ImportError Progress) =
      p.join <$> (lines.foldlM (takeLine now) q).mapError (.afterLines p.lines) := by
  induction lines generalizing q with
  | nil => rfl
  | cons line lines ih =>
    rw [List.foldlM_cons, List.foldlM_cons, takeLine_join, Action.mapError_bind, map_bind,
      bind_map_left]
    exact congrArg _ (funext fun q' => ih q')

/-! ## 3. Two imports -/

/-- What an import reports that does not prune. -/
def Progress.summary (p : Progress) : ImportSummary :=
  ⟨p.lines, p.skipped, p.urls.eraseDups.length, p.edges, 0⟩

theorem importLines_false (lines : List Line) (now : Stamp) :
    (importLines lines now false : Action σ ImportError ImportSummary) =
      Progress.summary <$> lines.foldlM (takeLine now) {} := by
  rw [importLines_eq, map_eq_pure_bind]
  rfl

/-- An import that does not prune, from the progress that its lines make. -/
theorem importLines_run (lines : List Line) (now : Stamp) (s : Session σ) :
    importLines lines now false s = match lines.foldlM (takeLine now) {} s with
      | .ok p t => .ok p.summary t
      | .error e t => .error e t := by
  rw [importLines_false]
  simp only [Functor.map, EStateM.map]
  cases lines.foldlM (takeLine now) {} s <;> rfl

/-- The progress that lines make after others. -/
theorem takeLines_append {lines : List Line} (lines' : List Line) {now : Stamp} {s t : Session σ}
    {p : Progress} (run : lines.foldlM (takeLine now) {} s = .ok p t) :
    (lines ++ lines').foldlM (takeLine now) {} s = match lines'.foldlM (takeLine now) {} t with
      | .ok q u => .ok (p.join q) u
      | .error e u => .error (e.afterLines p.lines) u := by
  have join : p = p.join {} := rfl
  rw [List.foldlM_append, Action.bind_of_ok run, join, takeLines_join]
  simp only [Functor.map, EStateM.map, Action.mapError]
  cases lines'.foldlM (takeLine now) {} t <;> rfl

/-- **Importing one text after another** ends as importing both at once does: in the same session,
    with the same answer up to the number of the line that cannot be read. -/
structure Composes (now : Stamp) (s : Session σ) (text text' : List UInt8) : Prop where
  /-- An error in the first text is the error of both. -/
  failed : ∀ e t, importLines (linesOf text) now false s = .error e t →
    importLines (linesOf (text ++ text')) now false s = .error e t
  /-- An error in the second text is the error of both, with the lines of the first before it. -/
  failed_after : ∀ summary t e u, importLines (linesOf text) now false s = .ok summary t →
    importLines (linesOf text') now false t = .error e u →
    importLines (linesOf (text ++ text')) now false s = .error (e.afterLines summary.lines) u
  /-- If both are imported, then both at once are, and what was counted adds up. -/
  succeeded : ∀ summary t summary' u, importLines (linesOf text) now false s = .ok summary t →
    importLines (linesOf text') now false t = .ok summary' u →
    ∃ whole, importLines (linesOf (text ++ text')) now false s = .ok whole u ∧
      whole.lines = summary.lines + summary'.lines ∧
      whole.skipped = summary.skipped + summary'.skipped ∧
      whole.edges = summary.edges + summary'.edges

/-- What lines come to in an import that does not prune. -/
theorem takeLines_of_ok {lines : List Line} {now : Stamp} {s t : Session σ}
    {summary : ImportSummary} (run : importLines lines now false s = .ok summary t) :
    ∃ p, lines.foldlM (takeLine now) {} s = .ok p t ∧ summary = p.summary := by
  cases h : lines.foldlM (takeLine now) {} s with
  | error e u =>
    rw [importLines_run, h] at run
    cases run
  | ok p u =>
    rw [importLines_run, h] at run
    cases run
    exact ⟨p, rfl, rfl⟩

theorem takeLines_of_error {lines : List Line} {now : Stamp} {s t : Session σ} {e : ImportError}
    (run : importLines lines now false s = .error e t) :
    lines.foldlM (takeLine now) {} s = .error e t := by
  cases h : lines.foldlM (takeLine now) {} s with
  | error e' u =>
    rw [importLines_run, h] at run
    cases run
    rfl
  | ok p u =>
    rw [importLines_run, h] at run
    cases run

theorem composes (now : Stamp) (s : Session σ) {text : List UInt8}
    (ended : text = [] ∨ text.getLast? = some 10) (text' : List UInt8) :
    Composes now s text text' := by
  constructor
  case failed =>
    intro e t run
    have hfirst := takeLines_of_error run
    have hboth : (linesOf text ++ linesOf text').foldlM (takeLine now) {} s = .error e t := by
      rw [List.foldlM_append, Action.bind_of_error hfirst]
    rw [linesOf_append ended, importLines_run, hboth]
  case failed_after =>
    intro summary t e u run run'
    obtain ⟨p, hfirst, rfl⟩ := takeLines_of_ok run
    have hboth := takeLines_append (linesOf text') hfirst
    rw [takeLines_of_error run'] at hboth
    rw [linesOf_append ended, importLines_run, hboth]
    rfl
  case succeeded =>
    intro summary t summary' u run run'
    obtain ⟨p, hfirst, rfl⟩ := takeLines_of_ok run
    obtain ⟨q, hsecond, rfl⟩ := takeLines_of_ok run'
    have hboth := takeLines_append (linesOf text') hfirst
    rw [hsecond] at hboth
    rw [linesOf_append ended, importLines_run, hboth]
    exact ⟨_, rfl, rfl, rfl, rfl⟩

/-! ## 4. Lines that cannot be read -/

/-- **An import up to a line that cannot be read**, the one after the given number of lines. It is
    the import of the lines before that one, which prunes nothing, and names that one if all before
    it are stored. -/
structure Unread (now : Stamp) (s : Session σ) (lines : List Line) (n : Nat) (fault : ReadFault)
    (prune : Bool) : Prop where
  stored : ∀ summary t, importLines (lines.take n) now false s = .ok summary t →
    importLines lines now prune s = .error (.unreadable (n + 1) fault) t
  refused : ∀ e t, importLines (lines.take n) now false s = .error e t →
    importLines lines now prune s = .error e t

/-- An import that fails at its lines prunes nothing. -/
theorem importLines_of_error {lines : List Line} {now : Stamp} {s t : Session σ} {e : ImportError}
    (failed : lines.foldlM (takeLine now) {} s = .error e t) (prune : Bool) :
    importLines lines now prune s = .error e t := by
  rw [importLines_eq, Action.bind_of_error failed]

variable [LawfulStore σ]

theorem unread {now : Stamp} {s : Session σ} (hv : Valid s.store) {lines : List Line} {n : Nat}
    {fault : ReadFault} (unreadable : lines[n]? = some (.error fault))
    (first : ∀ line ∈ lines.take n, line.isOk = true) (prune : Bool) :
    Unread now s lines n fault prune := by
  obtain ⟨hn, hline⟩ := List.getElem?_eq_some_iff.mp unreadable
  have split : lines = lines.take n ++ .error fault :: lines.drop (n + 1) := by
    rw [← hline, List.getElem_cons_drop, List.take_append_drop]
  have run := takeLines_unreadable now {} (lines.take n) (lines.drop (n + 1)) fault s
  rw [← split] at run
  constructor
  case stored =>
    intro summary t stored
    obtain ⟨p, hstored, rfl⟩ := takeLines_of_ok stored
    obtain ⟨-, -, -, tally⟩ := (ends_takeLines hv now (tally_nil _) first).of_ok hstored
    have length : p.lines = n := by
      rw [tally.lines, List.nil_append, List.length_take_of_le (Nat.le_of_lt hn)]
    rw [hstored] at run
    rw [importLines_of_error run, length]
  case refused =>
    intro e t refused
    rw [takeLines_of_error refused] at run
    exact importLines_of_error run prune

/-! ## 5. Entries that are refused -/

/-- The lines before the first one that cannot be read. -/
def readable (lines : List Line) : List Line := lines.takeWhile fun line => line.isOk

/-- **An import up to an entry that is refused.** The entries before it are stored, no identifier is
    found for its own record, and that call, which leaves the store alone, is the last one. -/
inductive Halted (s : Session σ) (all : List Entry) : ImportError → Session σ → Prop where
  | intro {es : List (Entry × Stamp)} {t : Session σ} {entry : Entry} {rest : List Entry}
    {call : Call} (before : Entered s es t) (split : es.map Prod.fst ++ entry :: rest = all)
    (asks : entry.Asks (content t.store) call)
    (failed : t.answer call = .error (.of call.operation (.identsExhausted maxAttempts)))
    (same : (t.after call).store = t.store) :
    Halted s all (entry.failure (.of call.operation (.identsExhausted maxAttempts))) (t.after call)

/-- The only cause for which a store refuses an entry: the pages of a hyperlink are held by then. -/
theorem Entry.Asks.error_eq {s : Session σ} (hv : Valid s.store) {entry : Entry} {call : Call}
    (asks : entry.Asks (content s.store) call) {e : StoreError}
    (failed : s.answer call = .error e) :
    e = .of call.operation (.identsExhausted maxAttempts) := by
  cases asks with
  | page url retrievedAt =>
    obtain ⟨cause, hcause, rfl⟩ := LawfulStore.cause_of_error hv failed
    rw [List.mem_singleton.mp hcause]
  | hyperlink hsrc hdst =>
    obtain ⟨a, ha, he⟩ := LawfulStore.step (.upsertEdge _) hv
    rw [failed] at he
    cases a with
    | ok edge => cases he
    | error e =>
      cases he
      exact ha.error_eq hsrc.hasLink hdst.hasLink

/-- No page fails to be pruned. -/
theorem prune_succeeds {s : Session σ} (hv : Valid s.store) (now : Stamp) (ids : List Ident) :
    ∃ t, ids.forM (pruneSource now) s = .ok () t := by
  induction ids generalizing s with
  | nil => exact ⟨s, rfl⟩
  | cons id ids ih =>
    have first : ∃ t, pruneSource now id s = .ok () t := by
      have answered := (LawfulStore.step (.removeStaleEdges id now) hv).1
      rw [Session.answer, Call.perform, Action.answer_map] at answered
      unfold pruneSource Action.mapError
      cases hx : Action.change (fun store => LinkStore.removeStaleEdges store id now) s with
      | ok u t => exact ⟨t, rfl⟩
      | error e t =>
        rw [Action.answer_of_error hx] at answered
        cases answered
    obtain ⟨t, ht⟩ := first
    have carried := (LawfulStore.staleRemoved hv (Action.mapError_eq_ok ht)).1
    obtain ⟨u, hu⟩ := ih carried.valid
    exact ⟨u, (Action.bind_of_ok ht).trans hu⟩

/-- An import that fails does so at its lines. -/
theorem takeLines_of_importLines_error {lines : List Line} {now : Stamp} {prune : Bool}
    {s t : Session σ} {e : ImportError} (hv : Valid s.store)
    (run : importLines lines now prune s = .error e t) :
    lines.foldlM (takeLine now) {} s = .error e t := by
  cases hlines : lines.foldlM (takeLine now) {} s with
  | error e' u =>
    rw [importLines_of_error hlines] at run
    cases run
    rfl
  | ok p u =>
    have ends := ends_takeLines hv now (tally_nil _) (readable_of_takeLines hlines)
    obtain ⟨es, entered, -, -⟩ := ends.of_ok hlines
    obtain ⟨u', hprune⟩ := prune_succeeds (entered.carried hv).valid now (pruned prune p)
    rw [importLines_eq, Action.bind_of_ok hlines, Action.bind_of_ok hprune] at run
    cases run

/-- **Pruning makes no import fail.** -/
theorem importLines_succeeds {lines : List Line} {now : Stamp} {s t : Session σ}
    {summary : ImportSummary} (hv : Valid s.store)
    (run : importLines lines now false s = .ok summary t) (prune : Bool) :
    ∃ summary' t', importLines lines now prune s = .ok summary' t' := by
  cases h : importLines lines now prune s with
  | ok summary' t' => exact ⟨summary', t', rfl⟩
  | error e t' =>
    rw [importLines_of_error (takeLines_of_importLines_error hv h)] at run
    cases run

/-- A store error of an import is that of an entry of the lines before the first one that cannot be
    read. -/
theorem refused_of_importLines {lines : List Line} {now : Stamp} {prune : Bool} {s t : Session σ}
    {e : ImportError} {cause : StoreError} (hv : Valid s.store)
    (run : importLines lines now prune s = .error e t) (failed : e.cause? = some cause) :
    Refused s (entries now (kept (readable lines))) e t := by
  have hlines := takeLines_of_importLines_error hv run
  rcases readable_or_split lines with all | ⟨before, fault, after, rfl, all⟩
  · have same : readable lines = lines := List.takeWhile_eq_self_iff.mpr all
    rw [same]
    exact (ends_takeLines hv now (tally_nil _) all).of_error hlines
  · have same : readable (before ++ .error fault :: after) = before := by
      unfold readable
      rw [List.takeWhile_append_of_pos all]
      exact List.append_nil before
    rw [same]
    rw [takeLines_unreadable] at hlines
    refine (ends_takeLines hv now (tally_nil _) all).of_error ?_
    split at hlines
    · cases hlines
      cases failed
    · rename_i hbefore
      rw [← hlines]
      exact hbefore

end

/-- A kind of store leaves the store alone if it refuses an entry. -/
theorem store_of_refused {b : Backend} {s : Session b.Store} (hv : Valid s.store) {entry : Entry}
    {call : Call} (asks : entry.Asks (content s.store) call) {e : StoreError}
    (failed : s.answer call = .error e) : (s.after call).store = s.store := by
  cases b with
  | memory => exact (Memory.unharmed hv failed).store
  | tables =>
    obtain ⟨r, hr, hs⟩ := hv
    have exact := Tables.exact_of_valid hr hs
    cases asks with
    | page url retrievedAt => exact (exact.link_failed _ _ failed).store
    | hyperlink hsrc hdst => exact (exact.edge_failed _ _ failed).store

theorem Refused.halted {b : Backend} {s t : Session b.Store} (hv : Valid s.store)
    {all : List Entry} {e : ImportError} (h : Refused s all e t) : Halted s all e t := by
  cases h with
  | intro before split asks failed =>
    have hv' := (before.carried hv).valid
    have same := store_of_refused hv' asks failed
    cases asks.error_eq hv' failed
    exact .intro before split asks failed same

theorem Halted.cause_eq {σ : Type} [LinkStore σ] [LawfulStore σ] {s t : Session σ}
    {all : List Entry} {e : ImportError} (h : Halted s all e t) {cause : StoreError}
    (failed : e.cause? = some cause) : cause.cause = .identsExhausted maxAttempts := by
  cases h with
  | @intro es t entry rest call before split asks refused same =>
    cases entry with
    | page url retrievedAt =>
      cases failed
      rfl
    | hyperlink src dst =>
      cases failed
      rfl

/-! ## 6. In every state that calls lead to -/

/-- **How an import goes on and how it ends early.** -/
structure Parts {σ : Type} [LinkStore σ] [LawfulStore σ] (now : Stamp) (s : Session σ) : Prop where
  /-- Texts can be imported one after another, if the first is complete. -/
  composes : ∀ text text', text = [] ∨ text.getLast? = some 10 → Composes now s text text'
  /-- The first line that cannot be read ends the import. -/
  unread : ∀ lines n fault prune, lines[n]? = some (.error fault) →
    (∀ line ∈ lines.take n, line.isOk = true) → Unread now s lines n fault prune
  /-- The only other errors are for want of an identifier, and they end the import as well. -/
  halted : ∀ lines prune e t cause, importLines lines now prune s = .error e t →
    e.cause? = some cause → cause.cause = .identsExhausted maxAttempts ∧
      Halted s (entries now (kept (readable lines))) e t

theorem parts_of_valid {b : Backend} {s : Session b.Store} (hv : Valid s.store) (now : Stamp) :
    Parts now s where
  composes _ text' ended := composes now s ended text'
  unread _ _ _ prune unreadable first := unread hv unreadable first prune
  halted _ _ _ _ _ run failed := by
    have h := (refused_of_importLines hv run failed).halted hv
    exact ⟨h.cause_eq failed, h⟩

/-- **Imports compose and fail partway**, in any state that calls led to: a text can be imported in
    parts, and an import that ends early leaves what the lines or entries before its error say. -/
theorem parts_of_reached (b : Backend) (supply : Supply) (s : Session b.Store)
    (reached : Session.Reached ⟨b.empty, supply⟩ s) (next : Supply) (now : Stamp) :
    Parts now (⟨s.store, next⟩ : Session b.Store) := by
  have hv := LawfulStore.valid_of_reached reached
  exact parts_of_valid (s := ⟨s.store, next⟩) hv now

/-- A line that links a known page to a new one is followed by a line that is no text. Without
    identifiers to draw, the new page is refused, after the known one. -/
theorem parts_of_known_page :
    let first : Session Memory := ⟨Memory.empty, .counting⟩
    let s := first.after (.upsertLink (.unstored "http://[::1]/" 3))
    let spent : Session Memory := ⟨s.store, ⟨fun _ => 9, fun _ => .nil, 0, 0⟩⟩
    let line := "http://[::1] http://[::2]"
    let text := (line ++ "\n").toUTF8.data.toList
    let refused : ImportError :=
      .link "http://[::2]/" (.of .upsertLink (.identsExhausted maxAttempts))
    (∃ summary t, importLines (linesOf text) 5 false s = .ok summary t ∧ summary = ⟨1, 0, 2, 1, 0⟩ ∧
      importLines (linesOf (text ++ [255])) 5 false s = .error (.unreadable 2 .notText) t ∧
      importLines (linesOf (text ++ [255])) 5 true s = .error (.unreadable 2 .notText) t) ∧
    ∃ t, importLines [.ok line] 5 true spent = .error refused t ∧
      Halted spent [.page "http://[::1]/" 5, .page "http://[::2]/" 0,
        .hyperlink "http://[::1]/" "http://[::2]/"] refused t := by
  intro first s spent line text refused
  have reached : first.Reached s := .call _ .start
  have parts : ∀ next, Parts 5 (⟨s.store, next⟩ : Session Memory) := fun next =>
    parts_of_reached .memory .counting s reached next 5
  have ended : text = [] ∨ text.getLast? = some 10 := by
    decide +kernel
  have hlines : linesOf (text ++ [255]) = [.ok line, .error .notText] := by
    decide +kernel
  have hfirst : linesOf text = [.ok line] := by
    decide +kernel
  have answer : (Action.answer (importLines [.ok line] 5 false) s).toOption =
      some ⟨1, 0, 2, 1, 0⟩ := by
    decide +kernel
  have hentries : entries 5 (kept (readable [.ok line])) = [.page "http://[::1]/" 5,
      .page "http://[::2]/" 0, .hyperlink "http://[::1]/" "http://[::2]/"] := by
    decide +kernel
  have fails : Action.answer (importLines [.ok line] 5 true) spent = .error refused := by
    decide +kernel
  constructor
  · obtain ⟨t, run⟩ := Action.exists_of_answer answer
    have run' : importLines (linesOf [255]) 5 false t = .error (.unreadable 1 .notText) t := rfl
    have both := ((parts s.supply).composes text [255] ended).failed_after _ t _ t (hfirst ▸ run)
      run'
    have unread := (parts s.supply).unread [.ok line, .error .notText] 1 .notText true rfl
      (List.forall_mem_singleton.mpr rfl)
    refine ⟨_, t, hfirst ▸ run, rfl, both, ?_⟩
    rw [hlines]
    exact unread.stored _ t run
  · cases run : importLines [.ok line] 5 true spent with
    | ok summary t =>
      rw [Action.answer_of_ok run] at fails
      cases fails
    | error e t =>
      rw [Action.answer_of_error run] at fails
      cases fails
      rw [← hentries]
      exact ⟨t, rfl, ((parts _).halted _ _ _ _ _ run rfl).2⟩

end Ingest

end CrawlGraph
