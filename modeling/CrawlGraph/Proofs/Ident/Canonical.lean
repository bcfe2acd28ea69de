import CrawlGraph.Ident.Text
import Mathlib

/-!
# The canonical text of an identifier

Canonical texts sort as the identifiers do, and each one reads back as its identifier.

1. Texts of one length: what decides their order, and that hyphens at fixed places keep it.
2. Rows of hexadecimal digits.
3. `text_lt_iff` and `text_inj`: order and identity of canonical texts.
4. `parse_text`: a canonical text reads back.
-/

namespace CrawlGraph.Ident

open CrawlGraph.Text

/-! ## 1. Texts of one length -/

section Lex

variable {α : Type} [LT α]

/-- Where two rows of one length differ, what follows them does not matter. -/
theorem append_lt_append {xs ys : List α} (h : xs < ys) (hlen : xs.length = ys.length)
    (us vs : List α) : xs ++ us < ys ++ vs := by
  induction h with
  | nil => simp at hlen
  | cons _ ih => exact .cons (ih (by simpa using hlen))
  | rel hr => exact .rel hr

/-- The first difference of two rows lies in the first `n` places or behind them. -/
theorem take_lt_or_drop_lt (n : Nat) {xs ys : List α} (h : xs < ys)
    (hlen : xs.length = ys.length) :
    xs.take n < ys.take n ∨ (xs.take n = ys.take n ∧ xs.drop n < ys.drop n) := by
  induction n generalizing xs ys with
  | zero => exact .inr ⟨rfl, h⟩
  | succ n ih =>
    cases h with
    | nil => simp at hlen
    | rel hr => exact .inl (.rel hr)
    | cons h' =>
      rcases ih h' (by simpa using hlen) with ht | ⟨he, hd⟩
      · exact .inl (.cons ht)
      · exact .inr ⟨by simp [he], by simpa using hd⟩

end Lex

/-- The groups of a row hold all of it, if their lengths add up to its length. -/
theorem flatten_groups {ns : List Nat} {cs : List Char} (h : cs.length = ns.sum) :
    (groups ns cs).flatten = cs := by
  induction ns generalizing cs with
  | nil => exact (List.length_eq_zero_iff.mp h).symm
  | cons n ns ih =>
    have hrest : (cs.drop n).length = ns.sum := by
      rw [List.length_drop, h, List.sum_cons]
      omega
    rw [groups, List.flatten_cons, ih hrest, List.take_append_drop]

theorem map_length_groups {ns : List Nat} {cs : List Char} (h : cs.length = ns.sum) :
    (groups ns cs).map List.length = ns := by
  induction ns generalizing cs with
  | nil => rfl
  | cons n ns ih =>
    rw [List.sum_cons] at h
    have hrest : (cs.drop n).length = ns.sum := by
      rw [List.length_drop, h]
      omega
    rw [groups, List.map_cons, ih hrest, List.length_take, h]
    congr 1
    omega

/-- Hyphens at the same places of two rows of one length do not change their order. -/
theorem hyphenated_lt {ns : List Nat} {xs ys : List Char} (h : xs < ys)
    (hx : xs.length = ns.sum) (hy : ys.length = ns.sum) :
    ['-'].intercalate (groups ns xs) < ['-'].intercalate (groups ns ys) := by
  induction ns generalizing xs ys with
  | nil =>
    rw [List.length_eq_zero_iff.mp hy] at h
    exact absurd h (List.not_lt_nil _)
  | cons n ns ih =>
    rw [List.sum_cons] at hx hy
    have hx' : (xs.drop n).length = ns.sum := by
      rw [List.length_drop]
      omega
    have hy' : (ys.drop n).length = ns.sum := by
      rw [List.length_drop]
      omega
    have hlen : (xs.take n).length = (ys.take n).length := by
      rw [List.length_take, List.length_take, hx, hy]
    cases ns with
    | nil =>
      have hn : xs.length ≤ n ∧ ys.length ≤ n := by simp_all
      simpa [groups, List.take_of_length_le hn.1, List.take_of_length_le hn.2] using h
    | cons m ns =>
      have hg : ∀ cs : List Char, ['-'].intercalate (groups (n :: m :: ns) cs) =
          cs.take n ++ (['-'] ++ ['-'].intercalate (groups (m :: ns) (cs.drop n))) :=
        fun cs => by simp [groups, List.intercalate_cons_of_ne_nil]
      rw [hg, hg]
      rcases take_lt_or_drop_lt n h (hx.trans hy.symm) with ht | ⟨he, hd⟩
      · exact append_lt_append ht hlen _ _
      · rw [he]
        exact List.append_left_lt (List.append_left_lt (ih hd hx' hy'))

/-! ## 2. Rows of digits -/

theorem hexDigit_lt : ∀ n < 16, ∀ m < n, hexDigit m < hexDigit n := by decide

theorem hexDigit_ne_hyphen : ∀ n < 16, hexDigit n ≠ '-' := by decide

theorem lt_of_mem_nibbles {width n d : Nat} (h : d ∈ nibbles width n) : d < 16 := by
  induction width generalizing n with
  | zero => simp [nibbles] at h
  | succ w ih =>
    rw [nibbles, List.mem_append] at h
    rcases h with h | h
    · exact ih h
    · rw [List.mem_singleton.mp h]
      exact Nat.mod_lt _ (by decide)

/-- The digits of a smaller number come first. -/
theorem nibbles_lt {width m n : Nat} (h : m < n) (hn : n < 16 ^ width) :
    (nibbles width m).map hexDigit < (nibbles width n).map hexDigit := by
  induction width generalizing m n with
  | zero => omega
  | succ w ih =>
    rw [nibbles, nibbles, List.map_append, List.map_append]
    have hq : n / 16 < 16 ^ w := by
      rw [Nat.pow_succ] at hn
      omega
    rcases Nat.lt_or_ge (m / 16) (n / 16) with hlt | hge
    · exact append_lt_append (ih hlt hq) (by simp) _ _
    · have heq : m / 16 = n / 16 := by omega
      rw [heq]
      exact List.append_left_lt (.rel (hexDigit_lt _ (Nat.mod_lt _ (by decide)) _ (by omega)))

/-- A row of digits reads back as its number. -/
theorem hexNumber?_nibbles (width n : Nat) :
    hexNumber? ((nibbles width n).map hexDigit) = some (n % 16 ^ width) := by
  induction width generalizing n with
  | zero => simp [nibbles, hexNumber?, Nat.mod_one]
  | succ w ih =>
    have hv := hexValue?_hexDigit (n % 16) (Nat.mod_lt _ (by decide))
    have hn : 16 * (n / 16 % 16 ^ w) + n % 16 = n % 16 ^ (w + 1) := by
      rw [Nat.pow_succ, Nat.mul_comm (16 ^ w) 16, Nat.mod_mul]
      omega
    unfold hexNumber? at ih ⊢
    rw [nibbles, List.map_append, List.foldlM_append, ih]
    simp [hv, hn]

/-! ## 3. Order -/

theorem length_hexDigits_groups (id : Ident) : id.hexDigits.length = groupLengths.sum := by
  rw [length_hexDigits]
  rfl

theorem text_lt_text {a b : Ident} (h : a < b) : a.text < b.text := by
  have hb : b.toNat < 16 ^ 32 := b.isLt
  rw [String.lt_iff_toList_lt, text, text, String.toList_ofList, String.toList_ofList]
  exact hyphenated_lt (nibbles_lt h hb) (length_hexDigits_groups a) (length_hexDigits_groups b)

/-- **Canonical texts sort as the identifiers do.** -/
theorem text_lt_iff {a b : Ident} : a.text < b.text ↔ a < b := by
  refine ⟨fun h => ?_, text_lt_text⟩
  rcases Nat.lt_trichotomy a.toNat b.toNat with hlt | heq | hgt
  · exact hlt
  · rw [Ident.ext heq] at h
    exact absurd h (lt_irrefl _)
  · exact absurd h (lt_asymm (text_lt_text (a := b) hgt))

theorem text_le_iff {a b : Ident} : a.text ≤ b.text ↔ a ≤ b := by
  rw [← not_lt, text_lt_iff, lt_def, le_def, Nat.not_lt]

@[simp] theorem text_inj {a b : Ident} : a.text = b.text ↔ a = b := by
  refine ⟨fun h => ?_, fun h => h ▸ rfl⟩
  have hab : a ≤ b := text_le_iff.mp (le_of_eq h)
  have hba : b ≤ a := text_le_iff.mp (le_of_eq h.symm)
  exact Ident.ext (Nat.le_antisymm hab hba)

theorem text_injective : Function.Injective text := fun _ _ h => text_inj.mp h

/-! ## 4. Reading back -/

theorem hyphen_notMem_groups {ns : List Nat} {cs g : List Char} (h : '-' ∉ cs)
    (hg : g ∈ groups ns cs) : '-' ∉ g := by
  induction ns generalizing cs with
  | nil => simp [groups] at hg
  | cons n ns ih =>
    rw [groups, List.mem_cons] at hg
    rcases hg with rfl | hg
    · exact fun hm => h (List.mem_of_mem_take hm)
    · exact ih (fun hm => h (List.mem_of_mem_drop hm)) hg

theorem hyphen_notMem_hexDigits (id : Ident) : '-' ∉ id.hexDigits := by
  intro h
  obtain ⟨d, hd, he⟩ := List.mem_map.mp h
  exact hexDigit_ne_hyphen d (lt_of_mem_nibbles hd) he

theorem splitOn_canonical (id : Ident) :
    id.canonical.splitOn '-' = groups groupLengths id.hexDigits :=
  List.splitOn_intercalate '-' (fun _ hg => hyphen_notMem_groups (hyphen_notMem_hexDigits id) hg)
    (by simp [groups, groupLengths])

theorem length_canonical (id : Ident) : id.canonical.length = 36 := by
  simp [canonical, groups, groupLengths, List.intercalate]

theorem ofHexDigits?_hexDigits (id : Ident) : ofHexDigits? id.hexDigits = some id := by
  have hid : id.toNat % 16 ^ 32 = id.toNat := Nat.mod_eq_of_lt id.isLt
  rw [ofHexDigits?, if_pos (length_hexDigits id), hexDigits, hexNumber?_nibbles, hid,
    Option.map_some, ofNat_toNat]

theorem ofHyphenated?_canonical (id : Ident) : ofHyphenated? id.canonical = some id := by
  have hlen := length_hexDigits_groups id
  rw [ofHyphenated?, splitOn_canonical]
  simp only [map_length_groups hlen, flatten_groups hlen, if_true, ofHexDigits?_hexDigits]

theorem read?_canonical (id : Ident) : read? id.canonical = some id := by
  have hplain : ofHexDigits? id.canonical = none := by
    rw [ofHexDigits?, if_neg]
    rw [length_canonical]
    decide
  rw [read?, hplain, ofHyphenated?_canonical]
  rfl

/-- **The canonical text of an identifier reads back as the identifier.** -/
@[simp] theorem parse_text (id : Ident) : parse id.text = .ok id := by
  rw [parse, text, String.toList_ofList, read?_canonical]

end CrawlGraph.Ident
