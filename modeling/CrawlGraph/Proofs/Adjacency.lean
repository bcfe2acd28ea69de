import CrawlGraph.Adjacency
import CrawlGraph.Proofs.Text.Pieces
import CrawlGraph.Proofs.Url.NormalForm

/-!
# What a line says, word by word

A line of a crawl result counts by its words alone: by the first of them, and by those of the others
that name a page. Written again from what it says, it says the same, unless a host cannot be read.

1. `ofLine?_eq`, a line by its words.
2. Written lines: their words are the pages (`words_written`).
3. `WordByWord`, and `wordByWord_of_line`.
-/

namespace CrawlGraph.Adjacency

open Text Url

/-! ## 1. Words -/

/-- Whether the text is white space only. -/
def IsBlank (s : String) : Prop := ∀ c ∈ s.toList, isBlank c = true

/-- A text that does not begin with white space begins with its first word. -/
theorem head?_words {c : Char} (solid : isBlank c = false) (cs : List Char) :
    (words (c :: cs)).head?.bind List.head? = some c := by
  obtain ⟨piece, pieces, h⟩ := List.exists_cons_of_ne_nil (List.splitOnP_ne_nil isBlank cs)
  rw [words, List.splitOnP_cons_eq_if_modifyHead, solid, if_neg Bool.false_ne_true, h]
  rfl

/-- A text that does not begin with white space is not trimmed in front. -/
theorem head?_trimmed_back {c : Char} (solid : isBlank c = false) (cs : List Char) :
    ((c :: cs).reverse.dropWhile isBlank).reverse.head? = some c := by
  have last : [c].dropWhile isBlank = [c] := List.dropWhile_cons_of_neg (by simp [solid])
  rw [List.reverse_cons, List.dropWhile_append, last]
  split
  · rfl
  · simp

/-- A text begins, after its white space, as its first word does. -/
theorem head?_trim (cs : List Char) : (trim cs).head? = (words cs).head?.bind List.head? := by
  have blank : ∀ c ∈ cs.takeWhile isBlank, isBlank c = true := fun _ hc => mem_takeWhile hc
  have front := words_blank_append blank (cs.dropWhile isBlank)
  rw [List.takeWhile_append_dropWhile] at front
  rw [front, trim, trimBy]
  cases h : cs.dropWhile isBlank with
  | nil => rfl
  | cons c rest =>
    have solid : isBlank c = false := by
      have := List.head?_dropWhile_not isBlank cs
      rw [h] at this
      simpa using this
    rw [head?_words solid, head?_trimmed_back solid]

/-- The words of a line. -/
def wordsOf (line : String) : List String := (words line.toList).map String.ofList

/-- **A line counts by its words alone.** -/
theorem ofLine?_eq (line : String) : ofLine? line =
    if (wordsOf line).head?.bind (·.toList.head?) = some '#' then none
    else ofWords? (wordsOf line) := by
  have first : (wordsOf line).head?.bind (·.toList.head?) =
      (words line.toList).head?.bind List.head? := by
    rw [wordsOf, List.head?_map, Option.bind_map]
    simp only [Function.comp_def, String.toList_ofList]
  simp only [ofLine?, isComment, head?_trim, decide_eq_true_eq, first]
  rfl

theorem ofLine?_congr {line line' : String} (h : words line.toList = words line'.toList) :
    ofLine? line = ofLine? line' := by
  rw [ofLine?_eq, ofLine?_eq, wordsOf, wordsOf, h]

/-- **What a line says**: its first word has to name a page, and those of the others count that name
    one. -/
theorem ofLine?_eq_some {line src : String} {dsts : List String} :
    ofLine? line = some ⟨src, dsts⟩ ↔ ∃ first rest, wordsOf line = first :: rest ∧
      first.toList.head? ≠ some '#' ∧ normalUrl? first = some src ∧
        dsts = rest.filterMap normalUrl? := by
  rw [ofLine?_eq]
  cases wordsOf line with
  | nil => simp [ofWords?]
  | cons w ws =>
    rw [List.head?_cons, Option.bind_some]
    split
    · rename_i comment
      refine ⟨fun h => (nomatch h), ?_⟩
      rintro ⟨first, rest, hwords, solid, -⟩
      obtain ⟨rfl, -⟩ := List.cons.inj hwords
      exact absurd comment solid
    · rename_i solid
      rw [ofWords?, Option.map_eq_some_iff]
      constructor
      · rintro ⟨url, hurl, h⟩
        obtain ⟨rfl, rfl⟩ := Adjacency.mk.inj h
        exact ⟨_, _, rfl, solid, hurl, rfl⟩
      · rintro ⟨first, rest, hwords, -, hurl, rfl⟩
        obtain ⟨rfl, rfl⟩ := List.cons.inj hwords
        exact ⟨src, hurl, rfl⟩

/-! ## 2. Written lines -/

/-- The line that names a page and then the pages that it links to. -/
def written (a : Adjacency) : String := " ".intercalate (a.src :: a.dsts)

/-- Whether each of the pages is kept under a text whose host can be read. -/
def IsLegible (a : Adjacency) : Prop :=
  ∀ url ∈ a.src :: a.dsts, Domain.isLegible (hostIn url.toList) = true

theorem not_isBlank_of_visible {c : Char} (h : 0x21 ≤ c.toNat ∧ c.toNat ≤ 0x7E) :
    isBlank c = false := by
  have low : Domain.Punycode.isAscii c = true := decide_eq_true (by omega)
  have test := Domain.forall_ascii (p := fun c => !isVisible c || !isBlank c) (by decide) low
  have visible : isVisible c = true := by simp [isVisible, h]
  rw [visible] at test
  simpa using test

/-- Every page that a line names is kept under a normal form. -/
theorem normalForm_of_ofLine? {line : String} {a : Adjacency} (h : ofLine? line = some a) :
    ∀ url ∈ a.src :: a.dsts, NormalForm url := by
  obtain ⟨first, rest, -, -, hsrc, hdsts⟩ := ofLine?_eq_some.mp h
  intro url hurl
  rcases List.mem_cons.mp hurl with rfl | hurl
  · exact normalForm_of_normalUrl? hsrc
  · rw [hdsts] at hurl
    obtain ⟨word, -, hword⟩ := List.mem_filterMap.mp hurl
    exact normalForm_of_normalUrl? hword

theorem ne_nil_of_normalForm {url : String} (h : NormalForm url) : url.toList ≠ [] := by
  obtain ⟨secure, rest, hrest⟩ := h.scheme
  rw [← hrest]
  cases secure <;> simp [webPrefix]

/-- **The words of a written line are its pages.** -/
theorem words_written {a : Adjacency} (h : ∀ url ∈ a.src :: a.dsts, NormalForm url) :
    wordsOf a.written = a.src :: a.dsts := by
  have pages : words a.written.toList = (a.src :: a.dsts).map String.toList := by
    rw [written, String.toList_intercalate]
    refine words_intercalate ?_ ?_
    · intro w hw
      obtain ⟨url, hurl, rfl⟩ := List.mem_map.mp hw
      exact ne_nil_of_normalForm (h url hurl)
    · intro w hw c hc
      obtain ⟨url, hurl, rfl⟩ := List.mem_map.mp hw
      exact not_isBlank_of_visible ((h url hurl).visible c hc)
  rw [wordsOf, pages, List.map_map]
  exact (List.map_congr_left fun url _ => String.ofList_toList).trans (List.map_id _)

/-- A reading leaves a list as it is just if it leaves every element as it is. -/
theorem filterMap_eq_self_iff {α : Type} {f : α → Option α} {l : List α} :
    l.filterMap f = l ↔ ∀ a ∈ l, f a = some a := by
  induction l with
  | nil => simp
  | cons a l ih =>
    rw [List.forall_mem_cons]
    cases ha : f a with
    | none =>
      rw [List.filterMap_cons_none ha]
      refine ⟨fun h => ?_, fun h => nomatch h.1⟩
      have := List.length_filterMap_le f l
      rw [h, List.length_cons] at this
      omega
    | some b =>
      rw [List.filterMap_cons_some ha, List.cons.injEq, ih, Option.some.injEq]

/-- **A written line says what it was written from**, just if every host can be read. -/
theorem ofLine?_written {a : Adjacency} (h : ∀ url ∈ a.src :: a.dsts, NormalForm url) :
    ofLine? a.written = some a ↔ a.IsLegible := by
  have first : a.src.toList.head? ≠ some '#' := by
    obtain ⟨secure, rest, hrest⟩ := (h a.src List.mem_cons_self).scheme
    rw [← hrest]
    cases secure <;> simp [webPrefix]
  have own : ofLine? a.written = some a ↔
      normalUrl? a.src = some a.src ∧ a.dsts.filterMap normalUrl? = a.dsts := by
    refine Iff.trans (@ofLine?_eq_some a.written a.src a.dsts) ?_
    rw [words_written h]
    constructor
    · rintro ⟨_, _, hwords, -, hsrc, hdsts⟩
      obtain ⟨rfl, rfl⟩ := List.cons.inj hwords
      exact ⟨hsrc, hdsts.symm⟩
    · rintro ⟨hsrc, hdsts⟩
      exact ⟨_, _, rfl, first, hsrc, hdsts.symm⟩
  rw [own, filterMap_eq_self_iff, ← List.forall_mem_cons (p := fun url => normalUrl? url = some url)]
  exact forall₂_congr fun url hurl => (h url hurl).again

/-! ## 3. All lines -/

/-- **How a line is read.** -/
structure WordByWord (line : String) : Prop where
  /-- The first word has to name a page. Of the others, those count that do, in their order. -/
  said : ∀ src dsts, ofLine? line = some ⟨src, dsts⟩ ↔ ∃ first rest,
    wordsOf line = first :: rest ∧ first.toList.head? ≠ some '#' ∧
      normalUrl? first = some src ∧ dsts = rest.filterMap normalUrl?
  /-- White space at the ends does not count. -/
  ends : ∀ before after, IsBlank before → IsBlank after →
    ofLine? (before ++ line ++ after) = ofLine? line
  /-- It does not count either which white space parts two words, and how much of it. -/
  parted : ∀ front sep sep' back, line = front ++ sep ++ back → sep ≠ "" → IsBlank sep →
    sep' ≠ "" → IsBlank sep' → ofLine? (front ++ sep' ++ back) = ofLine? line
  /-- A later word that names no page could as well be missing. -/
  dropped : ∀ line' first front bad back, wordsOf line = first :: (front ++ bad :: back) →
    normalUrl? bad = none → wordsOf line' = first :: (front ++ back) →
    ofLine? line' = ofLine? line
  /-- What was said can be written, and says the same again just if every host can be read. -/
  again : ∀ a, ofLine? line = some a → (ofLine? a.written = some a ↔ a.IsLegible)

theorem ne_nil_of_ne_empty {s : String} (h : s ≠ "") : s.toList ≠ [] :=
  fun e => h (String.toList_eq_nil_iff.mp e)

/-- **Every line is read word by word.** -/
theorem wordByWord_of_line (line : String) : WordByWord line where
  said _ _ := ofLine?_eq_some
  ends before after hbefore hafter := by
    refine ofLine?_congr ?_
    rw [String.toList_append, String.toList_append, words_append_blank hafter,
      words_blank_append hbefore]
  parted front sep sep' back hline hne hsep hne' hsep' := by
    refine ofLine?_congr ?_
    subst hline
    simp only [String.toList_append]
    rw [words_append (ne_nil_of_ne_empty hne) hsep, words_append (ne_nil_of_ne_empty hne') hsep']
  dropped line' first front bad back hwords none' hwords' := by
    rw [ofLine?_eq, ofLine?_eq, hwords, hwords']
    simp only [List.head?_cons, ofWords?, List.filterMap_append, List.filterMap_cons_none none']
  again a h := ofLine?_written (normalForm_of_ofLine? h)

/-- Some line says what the line that is written from it does not say. -/
theorem not_read_back : ∃ (line : String) (a : Adjacency), ofLine? line = some a ∧
    ofLine? a.written ≠ some a := by
  obtain ⟨line, url, hline, illegible, head, single⟩ := exists_illegible
  have said : ofLine? line = some ⟨url, []⟩ := by
    refine ofLine?_eq_some.mpr ⟨line, [], ?_, by simp [head], hline, rfl⟩
    rw [wordsOf, single, List.map_singleton, String.ofList_toList]
  refine ⟨line, _, said, fun again => ?_⟩
  have legible := (ofLine?_written (normalForm_of_ofLine? said)).mp again url List.mem_cons_self
  rw [illegible] at legible
  cases legible

end CrawlGraph.Adjacency
