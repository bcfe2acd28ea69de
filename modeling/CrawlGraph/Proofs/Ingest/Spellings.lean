import CrawlGraph.Proofs.Adjacency
import CrawlGraph.Proofs.Ingest.Imported
import CrawlGraph.Proofs.Ingest.Parts

/-!
# One page, whatever its spelling

A page is kept under its normal form, so its spellings are told apart by their normal forms alone.
What an import has stored can be imported again as it stands: no page comes in, as long as its host
can be read.

1. `ToldApart`: two spellings are stored as one link just if they have one normal form.
2. What an import stores of its lines, however it ends (`exists_entered`).
3. `Restorable` words, and `Reimported`: lines of such words bring in no page.
4. `spellings_of_reached`.
-/

namespace CrawlGraph.Ingest

open LawfulStore (content Valid)
open Url (normalUrl? hostIn)

section

variable {σ : Type} [LinkStore σ] [LawfulStore σ] {s t u : Session σ}

/-! ## 1. Spellings -/

/-- A page keeps its name along every run. -/
theorem extends_of_reached (hv : Valid s.store) (h : s.Reached t) : Extends s t := by
  induction h with
  | start => exact fun _ _ hn => hn
  | call c h ih =>
    have carried := LawfulStore.carried_of_reached hv h
    exact ih.trans (extends_after carried.valid c)
  | elapse _ later ih => exact ih

/-- **Spellings are told apart by their normal forms alone**: if two of them are stored, the second
    one at any later time, they are one link just if they have one normal form. -/
def ToldApart (s : Session σ) : Prop :=
  ∀ line line' url url' retrieved retrieved' first second later,
    normalUrl? line = some url → normalUrl? line' = some url' →
    s.answer (.upsertLink (.unstored url retrieved)) = .ok (.link first) →
    (s.after (.upsertLink (.unstored url retrieved))).Reached later →
    later.answer (.upsertLink (.unstored url' retrieved')) = .ok (.link second) →
    (first.id = second.id ↔ normalUrl? line = normalUrl? line')

theorem toldApart (hv : Valid s.store) : ToldApart s := by
  intro line line' url url' retrieved retrieved' first second later hurl hurl' hfirst between
    hsecond
  have hv₁ := LawfulStore.valid_after (.upsertLink (.unstored url retrieved)) hv
  have hv₂ := (LawfulStore.carried_of_reached hv₁ between).valid
  have hv₃ := LawfulStore.valid_after (.upsertLink (.unstored url' retrieved')) hv₂
  have sound := LawfulStore.sound hv₃
  obtain ⟨-, named, -⟩ := (LawfulStore.linkStored_of_answer hv hfirst).grows (LawfulStore.sound hv)
  obtain ⟨-, named', -⟩ :=
    (LawfulStore.linkStored_of_answer hv₂ hsecond).grows (LawfulStore.sound hv₂)
  have kept := extends_after hv₂ (.upsertLink (.unstored url' retrieved')) _ _
    (extends_of_reached hv₁ between _ _ named)
  rw [hurl, hurl', Option.some.injEq]
  constructor
  · intro same
    exact (same ▸ kept).url_eq sound named'
  · intro same
    exact (same ▸ kept).id_eq sound named'

/-! ## 2. What an import stores -/

/-- Entries whose pages are held already bring in no page. -/
theorem named_iff_of_entered (hv : Valid s.store) {es : List (Entry × Stamp)} (run : Entered s es t)
    (held : ∀ url retrieved, .page url retrieved ∈ es.map Prod.fst →
      ∃ id, (content s.store).Named id url) (id : Ident) (url : String) :
    (content t.store).Named id url ↔ (content s.store).Named id url := by
  refine ⟨fun hn => ?_, run.extends hv id url⟩
  have grown := grown_of_entered hv run
  have known : ∃ id', (content s.store).Named id' url := by
    obtain ⟨link, hl, -, rfl⟩ := hn
    rcases (grown.page_time link hl).1 with ⟨old, ho, hurl, -⟩ | hpage
    · exact ⟨old.id, old, ho, rfl, hurl⟩
    · exact held _ _ hpage
  obtain ⟨id', hn'⟩ := known
  have sound := LawfulStore.sound (run.carried hv).valid
  have same := (grown.named _ _ hn').id_eq sound hn
  exact same ▸ hn'

end

section

variable {b : Backend} {s : Session b.Store}

/-- A refused entry leaves behind what the entries before it stored. -/
theorem exists_entered_of_refused (hv : Valid s.store) {all : List Entry} {e : ImportError}
    {u : Session b.Store} (h : Refused s all e u) :
    ∃ es t, Entered s es t ∧ (∀ entry ∈ es.map Prod.fst, entry ∈ all) ∧
      (content u.store).links = (content t.store).links := by
  cases h with
  | @intro es t entry rest call e before split asks failed =>
    have same := store_of_refused (before.carried hv).valid asks failed
    exact ⟨es, t, before, fun x hx => split ▸ List.mem_append_left _ hx, by rw [same]⟩

/-- **However an import ends**, it has stored entries of its lines, and brought in no other page. -/
theorem exists_entered (hv : Valid s.store) (lines : List Line) (now : Stamp) (prune : Bool) :
    ∃ es t, Entered s es t ∧ (∀ entry ∈ es.map Prod.fst, entry ∈ entries now (kept lines)) ∧
      (content (Action.after (importLines lines now prune) s).store).links =
        (content t.store).links := by
  cases run : importLines lines now prune s with
  | ok summary u =>
    obtain ⟨es, p, t, entered, done, -, hprune, -⟩ := stages_of_importLines hv run
    have pruned := edgesFrom_of_prune (entered.carried hv).valid hprune
    rw [Action.after_of_ok run]
    exact ⟨es, t, entered, fun entry h => done ▸ h, pruned.2.1⟩
  | error e u =>
    have hlines := takeLines_of_importLines_error hv run
    rw [Action.after_of_error run]
    rcases readable_or_split lines with readable | ⟨before, fault, after, rfl, readable⟩
    · exact exists_entered_of_refused hv
        ((ends_takeLines hv now (tally_nil _) readable).of_error hlines)
    · have more : ∀ entry ∈ entries now (kept before),
          entry ∈ entries now (kept (before ++ .error fault :: after)) := fun entry h => by
        rw [kept_append, entries_append]
        exact List.mem_append_left _ h
      have ends := ends_takeLines hv now (tally_nil (content s.store)) readable
      rw [takeLines_unreadable] at hlines
      cases hbefore : before.foldlM (takeLine now) {} s with
      | ok p t =>
        rw [hbefore] at hlines
        cases hlines
        obtain ⟨es, entered, done, -⟩ := ends.of_ok hbefore
        exact ⟨es, u, entered, fun entry h => more entry (done ▸ h), rfl⟩
      | error e' t =>
        rw [hbefore] at hlines
        cases hlines
        obtain ⟨es, t, entered, all, links⟩ := exists_entered_of_refused hv (ends.of_error hbefore)
        exact ⟨es, t, entered, fun entry h => more entry (all entry h), links⟩

/-! ## 3. Importing what is stored -/

/-- Whether the word is a text under which an import stored a page, and its host can be read. -/
structure Restorable (c : Content) (word : String) : Prop where
  held : ∃ id, c.Named id word
  form : ∃ line, normalUrl? line = some word
  legible : Domain.isLegible (hostIn word.toList) = true

/-- A restorable word is its own normal form. -/
theorem Restorable.again {c : Content} {word : String} (h : Restorable c word) :
    normalUrl? word = some word := by
  obtain ⟨line, hline⟩ := h.form
  exact (Url.normalForm_of_normalUrl? hline).again.mpr h.legible

/-- The pages that a line of restorable words names are words of it. -/
theorem held_of_words {c : Content} {line : String} {a : Adjacency}
    (words : ∀ word ∈ Adjacency.wordsOf line, Restorable c word)
    (said : Adjacency.ofLine? line = some a) : ∀ url ∈ a.src :: a.dsts, ∃ id, c.Named id url := by
  obtain ⟨first, rest, hwords, -, hsrc, hdsts⟩ := Adjacency.ofLine?_eq_some.mp said
  have same : ∀ word ∈ first :: rest, ∀ url, normalUrl? word = some url →
      ∃ id, c.Named id url := by
    intro word hword url hurl
    have restorable := words word (hwords ▸ hword)
    rw [restorable.again] at hurl
    exact Option.some.inj hurl ▸ restorable.held
  intro url hurl
  rcases List.mem_cons.mp hurl with rfl | hurl
  · exact same first List.mem_cons_self _ hsrc
  · rw [hdsts] at hurl
    obtain ⟨word, hword, hform⟩ := List.mem_filterMap.mp hurl
    exact same word (List.mem_cons_of_mem _ hword) url hform

/-- **Importing what is stored brings in no page**, with whatever clock and identifiers, and however
    the import ends. -/
def Reimported (s : Session b.Store) : Prop :=
  ∀ next lines now prune,
    (∀ line, .ok line ∈ lines → ∀ word ∈ Adjacency.wordsOf line,
      Restorable (content s.store) word) →
    ∀ id url, (content (Action.after (importLines lines now prune) ⟨s.store, next⟩).store).Named
      id url ↔ (content s.store).Named id url

theorem reimported (hv : Valid s.store) : Reimported s := by
  intro next lines now prune words id url
  obtain ⟨es, t, entered, all, links⟩ :=
    exists_entered (s := ⟨s.store, next⟩) hv lines now prune
  have held : ∀ url retrieved, .page url retrieved ∈ es.map Prod.fst →
      ∃ id, (content s.store).Named id url := by
    intro url retrieved hpage
    obtain ⟨a, ha, hurl⟩ := mem_entries_page.mp (all _ hpage)
    obtain ⟨line, hline, said⟩ := List.mem_filterMap.mp ha
    have named : url ∈ a.src :: a.dsts := by
      rcases hurl with ⟨rfl, -⟩ | ⟨hdst, -⟩
      · exact List.mem_cons_self
      · exact List.mem_cons_of_mem _ hdst
    cases line with
    | error fault => cases said
    | ok text => exact held_of_words (words text hline) said url named
  have pages := named_iff_of_entered (s := ⟨s.store, next⟩) hv entered held id url
  unfold Content.Named at pages ⊢
  rw [links]
  exact pages

end

/-! ## 4. In every state that calls lead to -/

/-- **One page is one link, whatever its spelling.** The text under which a page is kept is a normal
    form; spellings are told apart by it alone; and what is stored can be imported again without
    bringing in a page, as long as its host can be read. -/
theorem spellings_of_reached (b : Backend) (supply : Supply) (s : Session b.Store)
    (reached : Session.Reached ⟨b.empty, supply⟩ s) :
    (∀ line url, normalUrl? line = some url → Url.NormalForm url) ∧ ToldApart s ∧ Reimported s :=
  have hv := LawfulStore.valid_of_reached reached
  ⟨fun _ _ => Url.normalForm_of_normalUrl?, toldApart hv, reimported hv⟩

/-- Two pages were stored. A third one is spelled as the first one in another way, and names it; a
    line of their texts brings in nothing. -/
theorem spellings_of_stored_pages :
    let first : Session Memory := ⟨Memory.empty, ⟨fun _ => 12, Ident.ofNat, 0, 0⟩⟩
    let s := first.afterAll [.upsertLink (.unstored "http://[::1]/" 0),
      .upsertLink (.unstored "http://[::2]/" 0)]
    let again : Session Memory := Action.after
      (importLines [.ok "http://[::1]/ http://[::2]/"] 9 true) s
    normalUrl? "\tHTTP://[0::1]:80/a/.." = some "http://[::1]/" ∧
      Url.NormalForm "http://[::1]/" ∧
      s.answer (.upsertLink (.unstored "http://[::1]/" 5)) =
        .ok (.link ⟨.ofNat 1, "http://[::1]/", 5⟩) ∧
      (∀ id url, again.store.content.Named id url ↔ s.store.content.Named id url) ∧
      again.answer (.links .nil .max 99) = .ok (.links [⟨.ofNat 1, "http://[::1]/", 9⟩,
        ⟨.ofNat 2, "http://[::2]/", 0⟩]) := by
  intro first s again
  have reached : first.Reached s := Session.Reached.start.afterAll _
  obtain ⟨normal, -, reimported⟩ := spellings_of_reached .memory _ s reached
  have spelled : normalUrl? "\tHTTP://[0::1]:80/a/.." = some "http://[::1]/" := by decide +kernel
  have own : ∀ word ∈ ["http://[::1]/", "http://[::2]/"],
      normalUrl? word = some word ∧ Domain.isLegible (hostIn word.toList) = true := by
    decide +kernel
  have held : ∀ word ∈ ["http://[::1]/", "http://[::2]/"],
      ∃ id, s.store.content.Named id word := by
    have links : s.store.links[Ident.ofNat 1]? = some ⟨.ofNat 1, "http://[::1]/", 0⟩ ∧
        s.store.links[Ident.ofNat 2]? = some ⟨.ofNat 2, "http://[::2]/", 0⟩ := by
      decide +kernel
    intro word hword
    rcases List.mem_pair.mp hword with rfl | rfl
    · exact ⟨_, _, ⟨_, links.1⟩, rfl, rfl⟩
    · exact ⟨_, _, ⟨_, links.2⟩, rfl, rfl⟩
  have words : Adjacency.wordsOf "http://[::1]/ http://[::2]/" =
      ["http://[::1]/", "http://[::2]/"] := by
    decide +kernel
  refine ⟨spelled, normal _ _ spelled, ?_, ?_, ?_⟩
  · exact eq_ok_of_toOption (by decide +kernel)
  · refine reimported s.supply _ 9 true fun line hline word hword => ?_
    obtain rfl : line = "http://[::1]/ http://[::2]/" := by simpa using hline
    rw [words] at hword
    exact ⟨held word hword, ⟨word, (own word hword).1⟩, (own word hword).2⟩
  · exact eq_ok_of_toOption (by decide +kernel)

/-- Some page is kept under a text that names another page, when it is imported again. -/
theorem other_page_of_own_text : ∃ line url other : String, normalUrl? line = some url ∧
    normalUrl? url = some other ∧ other ≠ url := by
  obtain ⟨line, url, hline, illegible, -⟩ := Url.exists_illegible
  obtain ⟨u, written, text⟩ := Url.exists_of_normalUrl? hline
  have host : hostIn url.toList = u.host.text := by rw [← text, Url.hostIn_text written]
  obtain ⟨v, form, -⟩ := Url.exists_other_of_illegible written (host ▸ illegible)
  have hother : normalUrl? url = some (String.ofList v.text) :=
    Url.normalUrl?_eq_some.mpr (by rw [← text, form, String.toList_ofList])
  refine ⟨line, url, _, hline, hother, fun same => ?_⟩
  rw [same, (Url.normalForm_of_normalUrl? hline).again, illegible] at hother
  cases hother

end CrawlGraph.Ingest
