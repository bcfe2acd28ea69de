import Mathlib

/-!
# Sorting and cutting

A sorted list whose first elements have a property falls apart into those with the property and
those without. Sorting is stable, so it does not matter whether a list is sorted before or after
such a cut.

Main statement: `mergeSort_cut`.
-/

namespace CrawlGraph

variable {α : Type} {le : α → α → Bool}

/-- Where all elements with a property come before those without, a list is the one part after the
    other. -/
theorem filter_append_filter_not {p : α → Bool} {l : List α}
    (h : l.Pairwise fun a b => p b = true → p a = true) :
    l.filter p ++ l.filter (fun a => !p a) = l := by
  induction l with
  | nil => rfl
  | cons a l ih =>
    rw [List.pairwise_cons] at h
    by_cases ha : p a = true
    · rw [List.filter_cons_of_pos ha, List.filter_cons_of_neg (by simp [ha]), List.cons_append,
        ih h.2]
    · have hrest : ∀ b ∈ l, ¬p b = true := fun b hb hpb => ha (h.1 b hb hpb)
      rw [List.filter_cons_of_neg ha, List.filter_cons_of_pos (by simp [ha]),
        List.filter_eq_nil_iff.mpr hrest, List.nil_append,
        List.filter_eq_self.mpr fun b hb => by simp [hrest b hb]]

/-- A list is cut in one way into a part with a property and a part without. -/
theorem append_inj_of_forall {p : α → Prop} {l₁ l₂ k₁ k₂ : List α} (h : l₁ ++ l₂ = k₁ ++ k₂)
    (hl₁ : ∀ a ∈ l₁, p a) (hl₂ : ∀ a ∈ l₂, ¬p a) (hk₁ : ∀ a ∈ k₁, p a) (hk₂ : ∀ a ∈ k₂, ¬p a) :
    l₁ = k₁ ∧ l₂ = k₂ := by
  induction l₁ generalizing k₁ with
  | nil =>
    cases k₁ with
    | nil => exact ⟨rfl, h⟩
    | cons b k₁ =>
      refine absurd (hk₁ b List.mem_cons_self) (hl₂ b ?_)
      rw [List.nil_append] at h
      rw [h]
      exact List.mem_cons_self
  | cons a l₁ ih =>
    cases k₁ with
    | nil =>
      refine absurd (hl₁ a List.mem_cons_self) (hk₂ a ?_)
      rw [List.nil_append] at h
      rw [← h]
      exact List.mem_cons_self
    | cons b k₁ =>
      rw [List.cons_append, List.cons_append, List.cons.injEq] at h
      obtain ⟨rfl, h⟩ := h
      obtain ⟨rfl, rfl⟩ := ih h (fun b hb => hl₁ b (List.mem_cons_of_mem _ hb))
        fun b hb => hk₁ b (List.mem_cons_of_mem _ hb)
      exact ⟨rfl, rfl⟩

section

variable (trans : ∀ a b c : α, le a b → le b c → le a c) (total : ∀ a b : α, le a b || le b a)

include trans total

/-- What sorting puts behind the first element of a list is not less than it. -/
theorem mergeSort_cons_cut (a : α) (l : List α) :
    ∃ l₁ l₂, (a :: l).mergeSort le = l₁ ++ a :: l₂ ∧ l.mergeSort le = l₁ ++ l₂ ∧
      (∀ b ∈ l₁, ¬le a b = true) ∧ ∀ b ∈ l₂, le a b = true := by
  obtain ⟨l₁, l₂, hcons, hl, hlt⟩ := List.mergeSort_cons trans total a l
  refine ⟨l₁, l₂, hcons, hl, fun b hb => by simpa using hlt b hb, fun b hb => ?_⟩
  have hsorted := List.pairwise_mergeSort trans total (a :: l)
  rw [hcons, List.pairwise_append, List.pairwise_cons] at hsorted
  exact hsorted.2.1.1 b hb

/-- **Sorting is stable**: leaving out elements before or after it makes no difference. -/
theorem filter_mergeSort (p : α → Bool) (l : List α) :
    (l.mergeSort le).filter p = (l.filter p).mergeSort le := by
  induction l with
  | nil => simp
  | cons a l ih =>
    obtain ⟨l₁, l₂, hcons, hl, hlt, hle⟩ := mergeSort_cons_cut trans total a l
    rw [hl, List.filter_append] at ih
    rw [hcons, List.filter_append]
    by_cases ha : p a = true
    · obtain ⟨k₁, k₂, kcons, kl, klt, kle⟩ := mergeSort_cons_cut trans total a (l.filter p)
      rw [List.filter_cons_of_pos ha, List.filter_cons_of_pos ha, kcons]
      -- the first element is put where the elements begin that are not less than it
      obtain ⟨h₁, h₂⟩ := append_inj_of_forall (ih.trans kl)
        (fun b hb => hlt b (List.mem_of_mem_filter hb))
        (fun b hb hn => hn (hle b (List.mem_of_mem_filter hb))) klt fun b hb hn => hn (kle b hb)
      rw [h₁, h₂]
    · rw [List.filter_cons_of_neg ha, List.filter_cons_of_neg ha, ih]

/-- **A list may be cut before it is sorted**, if its elements with a property come first. -/
theorem mergeSort_cut {p : α → Bool} {l : List α}
    (h : ∀ a ∈ l, ∀ b ∈ l, p b = true → le a b = true → p a = true) :
    l.mergeSort le = (l.filter p).mergeSort le ++ (l.filter fun a => !p a).mergeSort le := by
  have hsorted := List.pairwise_mergeSort trans total l
  rw [← filter_mergeSort trans total, ← filter_mergeSort trans total]
  refine (filter_append_filter_not (hsorted.imp_of_mem fun ha hb hab hpb => ?_)).symm
  exact h _ (List.mem_mergeSort.mp ha) _ (List.mem_mergeSort.mp hb) hpb hab

end

end CrawlGraph
