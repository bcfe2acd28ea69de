import CrawlGraph.Text.Blank
import Mathlib

/-!
# Texts cut and put together

What is cut out of a text that was put together of pieces.

1. `mem_intercalate`, the characters of pieces with a mark between them, and `splitOn_lines`, the
   lines of a text that was put together line by line.
2. `span_append`, the longest front part of one kind.
3. Words: blanks part them (`words_append`), and only that counts of the blanks
   (`words_intercalate`).
-/

namespace CrawlGraph.Text

/-! ## 1. Marks between pieces -/

theorem mem_intercalate {sep : List Char} {texts : List (List Char)} {c : Char}
    (h : c ∈ sep.intercalate texts) : c ∈ sep ∨ ∃ text ∈ texts, c ∈ text := by
  induction texts with
  | nil => cases h
  | cons text texts ih =>
    cases texts with
    | nil =>
      rw [List.intercalate_singleton] at h
      exact .inr ⟨text, List.mem_cons_self, h⟩
    | cons text' texts =>
      rw [List.intercalate_cons_cons, List.mem_append, List.mem_append] at h
      rcases h with (h | h) | h
      · exact .inr ⟨text, List.mem_cons_self, h⟩
      · exact .inl h
      · rcases ih h with hsep | ⟨other, ho, hc⟩
        · exact .inl hsep
        · exact .inr ⟨other, List.mem_cons_of_mem _ ho, hc⟩

theorem splitOn_append_cons (mark : Char) (cs ds : List Char) :
    (cs ++ mark :: ds).splitOn mark = cs.splitOn mark ++ ds.splitOn mark := by
  simp only [List.splitOn]
  exact List.splitOnP_append_cons _ _ (beq_self_eq_true mark)

/-- **Lines come apart again** where their ends are, with nothing behind the last end. -/
theorem splitOn_lines {lines : List (List Char)} (h : ∀ line ∈ lines, '\n' ∉ line) :
    (lines.flatMap (· ++ ['\n'])).splitOn '\n' = lines ++ [[]] := by
  induction lines with
  | nil => rfl
  | cons line lines ih =>
    rw [List.flatMap_cons, List.append_assoc, List.singleton_append, splitOn_append_cons,
      List.splitOn_eq_singleton (h line List.mem_cons_self),
      ih fun l hl => h l (List.mem_cons_of_mem _ hl)]
    rfl

/-! ## 2. The front part of one kind -/

variable {p : Char → Bool} {front rest : List Char}

theorem takeWhile_of_head (h : ∀ c ∈ rest.head?, p c = false) : rest.takeWhile p = [] := by
  cases rest with
  | nil => rfl
  | cons c rest => exact List.takeWhile_cons_of_neg (by simp [h c rfl])

theorem dropWhile_of_head (h : ∀ c ∈ rest.head?, p c = false) : rest.dropWhile p = rest := by
  cases rest with
  | nil => rfl
  | cons c rest => exact List.dropWhile_cons_of_neg (by simp [h c rfl])

theorem takeWhile_front (hfront : ∀ c ∈ front, p c = true) (hrest : ∀ c ∈ rest.head?, p c = false) :
    (front ++ rest).takeWhile p = front := by
  rw [List.takeWhile_append_of_pos hfront, takeWhile_of_head hrest, List.append_nil]

theorem dropWhile_front (hfront : ∀ c ∈ front, p c = true) (hrest : ∀ c ∈ rest.head?, p c = false) :
    (front ++ rest).dropWhile p = rest := by
  rw [List.dropWhile_append_of_pos hfront, dropWhile_of_head hrest]

/-- **The front part is as long as its kind goes on.** -/
theorem span_append (hfront : ∀ c ∈ front, p c = true) (hrest : ∀ c ∈ rest.head?, p c = false) :
    (front ++ rest).span p = (front, rest) := by
  rw [List.span_eq_takeWhile_dropWhile, takeWhile_front hfront hrest, dropWhile_front hfront hrest]

theorem span_of_all (hfront : ∀ c ∈ front, p c = true) : front.span p = (front, []) := by
  have none' : ∀ c ∈ ([] : List Char).head?, p c = false := by simp
  have := span_append hfront none'
  rwa [List.append_nil] at this

theorem mem_takeWhile {c : Char} (h : c ∈ rest.takeWhile p) : p c = true :=
  List.all_eq_true.mp List.all_takeWhile c h

/-! ## 3. Words -/

theorem words_nil : words [] = [] := rfl

theorem words_cons_blank {c : Char} (h : isBlank c = true) (cs : List Char) :
    words (c :: cs) = words cs := by
  simp [words, List.splitOnP_cons_eq_if_modifyHead, h]

/-- A blank parts a text into the words on both of its sides. -/
theorem words_append_cons (cs ds : List Char) {c : Char} (h : isBlank c = true) :
    words (cs ++ c :: ds) = words cs ++ words ds := by
  rw [words, List.splitOnP_append_cons cs ds h, List.filter_append]
  rfl

theorem words_blank_append {sep : List Char} (h : ∀ c ∈ sep, isBlank c = true) (cs : List Char) :
    words (sep ++ cs) = words cs := by
  induction sep with
  | nil => rfl
  | cons c sep ih =>
    rw [List.cons_append, words_cons_blank (h c List.mem_cons_self)]
    exact ih fun d hd => h d (List.mem_cons_of_mem _ hd)

/-- **Blanks part words**, no matter which blanks they are and how many. -/
theorem words_append {sep : List Char} (hne : sep ≠ []) (h : ∀ c ∈ sep, isBlank c = true)
    (cs ds : List Char) : words (cs ++ sep ++ ds) = words cs ++ words ds := by
  obtain ⟨c, sep, rfl⟩ := List.exists_cons_of_ne_nil hne
  rw [List.append_assoc, List.cons_append, words_append_cons _ _ (h c List.mem_cons_self),
    words_blank_append fun d hd => h d (List.mem_cons_of_mem _ hd)]

theorem words_append_blank {sep : List Char} (h : ∀ c ∈ sep, isBlank c = true) (cs : List Char) :
    words (cs ++ sep) = words cs := by
  rcases eq_or_ne sep [] with rfl | hne
  · rw [List.append_nil]
  · have := words_append hne h cs []
    rwa [List.append_nil, words_nil, List.append_nil] at this

theorem words_of_solid {w : List Char} (hne : w ≠ []) (h : ∀ c ∈ w, isBlank c = false) :
    words w = [w] := by
  rw [words, List.splitOnP_eq_singleton h]
  simp [hne]

/-- **Words with a blank between them are the words of the text.** -/
theorem words_intercalate {ws : List (List Char)} (hne : ∀ w ∈ ws, w ≠ [])
    (h : ∀ w ∈ ws, ∀ c ∈ w, isBlank c = false) : words ([' '].intercalate ws) = ws := by
  induction ws with
  | nil => rfl
  | cons w ws ih =>
    have hw := words_of_solid (hne w List.mem_cons_self) (h w List.mem_cons_self)
    have space : ∀ c ∈ [' '], isBlank c = true := by
      intro c hc
      rw [List.mem_singleton.mp hc]
      decide
    cases ws with
    | nil => rwa [List.intercalate_singleton]
    | cons v ws =>
      rw [List.intercalate_cons_cons, words_append (List.cons_ne_nil _ _) space, hw,
        ih (fun u hu => hne u (List.mem_cons_of_mem _ hu))
          fun u hu => h u (List.mem_cons_of_mem _ hu)]
      rfl

end CrawlGraph.Text
