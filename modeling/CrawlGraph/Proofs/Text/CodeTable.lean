import CrawlGraph.Text.CodeTable
import Mathlib

/-!
# Looking code points up

What a table says of a code point follows from its rows. A row that is found covers the code point;
and where the rows rise, a row that covers the code point is found.

1. Finding by halves (`find?_eq_some_of_mem`, `contains_eq_false`).
2. The rows of a table that is written as text, so that a test of all rows can be evaluated.
-/

namespace CrawlGraph.Text.CodeTable

variable {α : Type}

/-! ## 1. Finding -/

theorem mem_of_findBetween {rows : Array (Nat × Nat × α)} {code low high first : Nat} {a : α}
    (h : findBetween rows code low high = some (first, a)) :
    ∃ last, (first, last, a) ∈ rows ∧ first ≤ code ∧ code ≤ last := by
  induction hn : high - low using Nat.strong_induction_on generalizing low high with
  | _ n ih =>
    rw [findBetween] at h
    split at h
    · dsimp only at h
      split at h
      · cases h
      · rename_i first' last a' hrow
        split at h
        · exact ih _ (by omega) h rfl
        · split at h
          · exact ih _ (by omega) h rfl
          · cases h
            exact ⟨last, Array.mem_of_getElem? hrow, by omega, by omega⟩
    · cases h

/-- A code point that no row covers is not found. -/
theorem find?_eq_none {t : CodeTable α} {c : Char}
    (h : ∀ r ∈ t.rows, ¬(r.1 ≤ c.toNat ∧ c.toNat ≤ r.2.1)) : t.find? c = none := by
  refine Option.eq_none_iff_forall_ne_some.mpr fun ⟨first, a⟩ hfound => ?_
  obtain ⟨last, hrow, hcover⟩ := mem_of_findBetween hfound
  exact h _ hrow hcover

theorem contains_eq_false {t : CodeTable α} {c : Char}
    (h : ∀ r ∈ t.rows, ¬(r.1 ≤ c.toNat ∧ c.toNat ≤ r.2.1)) : t.contains c = false := by
  rw [contains, find?_eq_none h]
  rfl

/-- Whether rows rise without overlaps. -/
def rises : List (Nat × Nat × α) → Bool
  | r :: s :: rows => r.1 ≤ r.2.1 && r.2.1 < s.1 && rises (s :: rows)
  | [r] => r.1 ≤ r.2.1
  | [] => true

theorem le_of_rises {r : Nat × Nat × α} {rows : List (Nat × Nat × α)}
    (h : rises (r :: rows) = true) : r.1 ≤ r.2.1 ∧ (∀ s ∈ rows, r.2.1 < s.1) ∧ rises rows := by
  induction rows generalizing r with
  | nil => exact ⟨by simpa [rises] using h, by simp, rfl⟩
  | cons s rows ih =>
    simp only [rises, Bool.and_eq_true, decide_eq_true_eq] at h
    obtain ⟨⟨hr, hlt⟩, hrest⟩ := h
    obtain ⟨hs, above, -⟩ := ih hrest
    refine ⟨hr, fun x hx => ?_, hrest⟩
    rcases List.mem_cons.mp hx with rfl | hx
    · exact hlt
    · exact hlt.trans_le (hs.trans (above x hx).le)

theorem lt_of_rises {rows : List (Nat × Nat × α)} (h : rises rows = true) {i j : Nat}
    (hj : j < rows.length) (hij : i < j) : rows[i].2.1 < rows[j].1 := by
  induction rows generalizing i j with
  | nil => cases hj
  | cons r rows ih =>
    obtain ⟨-, above, rest⟩ := le_of_rises h
    cases j with
    | zero => omega
    | succ j =>
      cases i with
      | zero => exact above _ (List.getElem_mem _)
      | succ i => exact ih rest (by simpa using hj) (by omega)

theorem le_of_mem_rises {rows : List (Nat × Nat × α)} (h : rises rows = true)
    {r : Nat × Nat × α} (hr : r ∈ rows) : r.1 ≤ r.2.1 := by
  induction rows with
  | nil => cases hr
  | cons s rows ih =>
    obtain ⟨hs, -, rest⟩ := le_of_rises h
    rcases List.mem_cons.mp hr with rfl | hr
    · exact hs
    · exact ih rest hr

theorem findBetween_of_rises {rows : Array (Nat × Nat × α)} (h : rises rows.toList = true)
    {code low high i : Nat} (hi : i < rows.size) (hlow : low ≤ i) (hhigh : i < high)
    (hsize : high ≤ rows.size) (hfirst : rows[i].1 ≤ code) (hlast : code ≤ rows[i].2.1) :
    findBetween rows code low high = some (rows[i].1, rows[i].2.2) := by
  induction hn : high - low using Nat.strong_induction_on generalizing low high with
  | _ n ih =>
    have inside : (low + high) / 2 < rows.size := by omega
    rw [findBetween, if_pos (by omega)]
    simp only [Array.getElem?_eq_getElem inside]
    rcases Nat.lt_trichotomy i ((low + high) / 2) with hlt | heq | hgt
    · have before : rows[i].2.1 < rows[(low + high) / 2].1 := lt_of_rises h inside hlt
      rw [if_pos (hlast.trans_lt before)]
      exact ih _ (by omega) hlow hlt (by omega) rfl
    · subst heq
      rw [if_neg (Nat.not_lt.mpr hfirst), if_neg (Nat.not_lt.mpr hlast)]
    · have after : rows[(low + high) / 2].2.1 < rows[i].1 := lt_of_rises h hi hgt
      have range : rows[(low + high) / 2].1 ≤ rows[(low + high) / 2].2.1 :=
        le_of_mem_rises h (Array.getElem_mem_toList inside)
      have beyond := after.trans_le hfirst
      rw [if_neg (Nat.not_lt.mpr (range.trans beyond.le)), if_pos beyond]
      exact ih _ (by omega) (by omega) hhigh hsize rfl

/-- **In a table whose rows rise, every row is found** under the code points that it covers. -/
theorem find?_eq_some_of_mem {t : CodeTable α} (h : rises t.rows.toList = true)
    {r : Nat × Nat × α} (hr : r ∈ t.rows) {c : Char} (hfirst : r.1 ≤ c.toNat)
    (hlast : c.toNat ≤ r.2.1) : t.find? c = some (r.1, r.2.2) := by
  obtain ⟨i, hi, rfl⟩ := Array.mem_iff_getElem.mp hr
  exact findBetween_of_rises h hi (Nat.zero_le i) hi (Nat.le_refl _) hfirst hlast

/-! ## 2. Tables written as text -/

theorem rows_ofText (value? : List Char → Option α) (cs : List Char) :
    (ofText value? (String.ofList cs)).rows.toList = (words cs).filterMap (rowOf? value?) := by
  rw [ofText, String.toList_ofList]

/-- The rows of a table pass a test, if those read from the text do. -/
theorem test_rows {value? : List Char → Option α} {cs : List Char}
    (test : List (Nat × Nat × α) → Bool)
    (h : test ((words cs).filterMap (rowOf? value?)) = true) :
    test (ofText value? (String.ofList cs)).rows.toList = true :=
  (congrArg test (rows_ofText value? cs)).trans h

/-- Every row passes a test, if those read from the text do. -/
theorem forall_of_all {value? : List Char → Option α} {cs : List Char}
    {test : Nat × Nat × α → Bool}
    (h : ((words cs).filterMap (rowOf? value?)).all test = true) :
    ∀ r ∈ (ofText value? (String.ofList cs)).rows, test r = true := by
  intro r hr
  have all := test_rows (fun rows => rows.all test) h
  exact List.all_eq_true.mp all r (Array.mem_toList_iff.mpr hr)

end CrawlGraph.Text.CodeTable
