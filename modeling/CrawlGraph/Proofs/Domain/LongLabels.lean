import CrawlGraph.Proofs.Domain.AsciiForm

/-!
# Labels that can be written and not be read

A label of up to 1000 characters is written in Punycode, and a Punycode form of up to 2000 digits is
read. Some labels need more: there are not enough texts of 2000 digits for all labels of 1000
ideographs.

1. `isHan`, a block of ideographs, and what the tables say of it.
2. `ascii?_of_han`, the name of one such label.
3. `exists_long_form`, by counting.
-/

namespace CrawlGraph.Domain

open CrawlGraph.Text Punycode

/-! ## 1. A block of ideographs -/

/-- Whether the character belongs to a block of 32768 ideographs that no rule treats one by one. -/
def isHan (c : Char) : Bool := 0x20000 ≤ c.toNat && c.toNat < 0x28000

/-- Whether a range of code points lies outside the block. -/
def isOutside (first last : Nat) : Bool := last.blt 0x20000 || Nat.ble 0x28000 first

/-- Whether a row of a table lies outside the block. -/
def isFar {α : Type} (r : Nat × Nat × α) : Bool := isOutside r.1 r.2.1

theorem find?_eq_none_of_isFar {α : Type} {t : CodeTable α} (far : ∀ r ∈ t.rows, isFar r = true)
    {c : Char} (h : isHan c = true) : t.find? c = none := by
  refine CodeTable.find?_eq_none fun r hr cover => ?_
  have := far r hr
  simp only [isFar, isOutside, isHan, Bool.or_eq_true, Bool.and_eq_true, decide_eq_true_eq,
    Nat.blt_eq, Nat.ble_eq] at this h
  omega

theorem contains_eq_false_of_isFar {α : Type} {t : CodeTable α}
    (far : ∀ r ∈ t.rows, isFar r = true) {c : Char} (h : isHan c = true) :
    t.contains c = false := by
  rw [CodeTable.contains, find?_eq_none_of_isFar far h]
  rfl

/-- Whether rows rise, and one of them covers the block. -/
def holdBlock (rows : List (Nat × Nat × Unit)) : Bool :=
  CodeTable.rises rows && rows.elem (0x20000, 0x2a6df, ())

/-- **What the tables say of the block**: it is kept, and nothing else. -/
structure Untreated : Prop where
  kept : holdBlock keptTable.rows.toList = true
  split : ∀ r ∈ splitTable.rows, isFar r = true
  /-- No composite lies in the block or is made of a character of it. -/
  composite : ∀ r ∈ compositeTable.rows,
    (isFar r && r.2.2.all fun n => isOutside n n) = true
  combining : ∀ r ∈ combiningTable.rows, isFar r = true
  combiningMark : ∀ r ∈ combiningMarkTable.rows, isFar r = true
  rightToLeft : ∀ r ∈ rightToLeftTable.rows, isFar r = true
  arabicLetter : ∀ r ∈ arabicLetterTable.rows, isFar r = true
  arabicDigit : ∀ r ∈ arabicDigitTable.rows, isFar r = true

-- `apply` finds the characters of a table's text at once, where `refine` takes seconds
set_option maxRecDepth 100000 in
theorem untreated : Untreated := by
  constructor
  case kept =>
    apply CodeTable.test_rows holdBlock
    decide +kernel
  all_goals
    apply CodeTable.forall_of_all
    decide +kernel

theorem isAscii_of_han {c : Char} (h : isHan c = true) : isAscii c = false := by
  simp only [isHan, Bool.and_eq_true, decide_eq_true_eq] at h
  exact decide_eq_false (by omega)

theorem contains_keptTable {c : Char} (h : isHan c = true) : keptTable.contains c = true := by
  simp only [isHan, Bool.and_eq_true, decide_eq_true_eq] at h
  obtain ⟨rises, block⟩ := Bool.and_eq_true_iff.mp untreated.kept
  have row : (0x20000, 0x2a6df, ()) ∈ keptTable.rows :=
    Array.mem_toList_iff.mp (List.elem_iff.mp block)
  rw [CodeTable.contains, CodeTable.find?_eq_some_of_mem rises row (by simp; omega)
    (by simp; omega)]
  rfl

theorem isKept_of_han {c : Char} (h : isHan c = true) : isKept c = true := by
  rw [isKept, fate, isAscii_of_han h, if_neg Bool.false_ne_true, foreignFate, contains_keptTable h,
    if_pos rfl]
  rfl

theorem ne_of_han {c d : Char} (h : isHan c = true) (hd : d.toNat < 0x20000) : c ≠ d := by
  rintro rfl
  simp only [isHan, Bool.and_eq_true, decide_eq_true_eq] at h
  omega

theorem isForbidden_of_han {c : Char} (h : isHan c = true) : isForbidden c = false := by
  have large : 0x20000 ≤ c.toNat := by
    simp only [isHan, Bool.and_eq_true, decide_eq_true_eq] at h
    exact h.1
  refine isForbidden_eq_false_iff.mpr ⟨by omega, by omega, fun hm => ?_⟩
  have small : ∀ d ∈ ['%', '#', '/', ':', '<', '>', '?', '@', '[', '\\', ']', '^', '|'],
      d.toNat < 0x20000 := by
    simp
  exact ne_of_han h (small c hm) rfl

theorem combiningClass_of_han {c : Char} (h : isHan c = true) : combiningClass c = 0 := by
  rw [combiningClass, find?_eq_none_of_isFar untreated.combining h]
  rfl

theorem hangulParts?_of_han {c : Char} (h : isHan c = true) : hangulParts? c = none := by
  simp only [isHan, Bool.and_eq_true, decide_eq_true_eq] at h
  exact if_neg (by omega)

theorem finalParts?_of_han {c : Char} (h : isHan c = true) : finalParts? c = none := by
  rw [finalParts?, isAscii_of_han h, if_neg Bool.false_ne_true, hangulParts?_of_han h]
  exact Option.map_eq_none_iff.mpr (find?_eq_none_of_isFar untreated.split h)

theorem pairParts?_of_han {c : Char} (h : isHan c = true) : pairParts? c = none := by
  have outside : ∀ r ∈ compositeTable.rows, isFar r = true := fun r hr =>
    (Bool.and_eq_true_iff.mp (untreated.composite r hr)).1
  rw [pairParts?, find?_eq_none_of_isFar outside h, Option.bind_none]

theorem partsBy_of_none {final? : Char → Option (List Char)} {pair? : Char → Option (Char × Char)}
    {c : Char} (hfinal : final? c = none) (hpair : pair? c = none) (depth : Nat) :
    partsBy final? pair? depth c = [c] := by
  cases depth with
  | zero => rfl
  | succ depth => simp [partsBy, hfinal, hpair]

theorem parts_of_han {c : Char} (h : isHan c = true) : parts c = [c] :=
  partsBy_of_none (finalParts?_of_han h) (pairParts?_of_han h) 4

theorem pair?_of_han {a b : Char} (hb : isHan b = true) : pair? a b = none := by
  have hangul : hangulPair? a b = none := by
    simp only [isHan, Bool.and_eq_true, decide_eq_true_eq] at hb
    simp only [hangulPair?]
    rw [if_neg (by omega), if_neg (by omega)]
  have composite : (compositeTable.rows.find? fun r => r.2.2 == [a.toNat, b.toNat]) = none := by
    rw [Array.find?_eq_none]
    intro r hr e
    have far := untreated.composite r hr
    have pair : r.2.2 = [a.toNat, b.toNat] := eq_of_beq e
    rw [pair, Bool.and_eq_true] at far
    obtain ⟨-, far⟩ := far
    simp only [isHan, isOutside, List.all_cons, List.all_nil, Bool.and_true, Bool.and_eq_true,
      Bool.or_eq_true, decide_eq_true_eq, Nat.blt_eq, Nat.ble_eq] at far hb
    omega
  rw [pair?, hangul, composite]
  rfl

theorem decomposed_of_han {cs : List Char} (h : ∀ c ∈ cs, isHan c = true) : decomposed cs = cs := by
  unfold decomposed
  induction cs with
  | nil => rfl
  | cons c cs ih =>
    rw [List.flatMap_cons, parts_of_han (h c List.mem_cons_self),
      ih fun d hd => h d (List.mem_cons_of_mem _ hd)]
    rfl

theorem ordered_of_han {cs : List Char} (h : ∀ c ∈ cs, isHan c = true) : ordered cs = cs := by
  have unmarked : sortMarks [] = [] := List.mergeSort_nil
  unfold ordered
  induction cs with
  | nil => rw [orderedFrom, unmarked]
  | cons c cs ih =>
    rw [orderedFrom, if_pos (combiningClass_of_han (h c List.mem_cons_self)), unmarked,
      ih fun d hd => h d (List.mem_cons_of_mem _ hd), List.nil_append]

theorem composedFrom_of_han (base : Char) {cs : List Char} (h : ∀ c ∈ cs, isHan c = true) :
    composedFrom base [] 0 cs = base :: cs := by
  induction cs generalizing base with
  | nil => rfl
  | cons c cs ih =>
    rw [composedFrom]
    simp only [List.isEmpty_nil, Bool.true_or, if_true, pair?_of_han (h c List.mem_cons_self),
      combiningClass_of_han (h c List.mem_cons_self),
      ih c fun d hd => h d (List.mem_cons_of_mem _ hd), List.reverse_nil, List.cons_append,
      List.nil_append]

/-- **Ideographs of the block are in normal form.** -/
theorem normalForm_of_han {cs : List Char} (h : ∀ c ∈ cs, isHan c = true) :
    normalForm cs = cs := by
  rw [normalForm, decomposed_of_han h, ordered_of_han h]
  split
  · rfl
  · cases cs with
    | nil => rfl
    | cons c cs =>
      have class' := combiningClass_of_han (h c List.mem_cons_self)
      have start : (c :: cs).span (fun c => combiningClass c != 0) = ([], c :: cs) :=
        span_append (fun _ h => absurd h List.not_mem_nil) (by simp [class'])
      rw [composed, start]
      exact composedFrom_of_han c fun d hd => h d (List.mem_cons_of_mem _ hd)

theorem settled_of_han {c : Char} (h : isHan c = true) : Settled c := by
  have unmarked := contains_eq_false_of_isFar untreated.combiningMark h
  have large : 0x20000 ≤ c.toNat := by
    simp only [isHan, Bool.and_eq_true, decide_eq_true_eq] at h
    exact h.1
  exact ⟨isKept_of_han h, isForbidden_of_han h, ne_of_han h (by decide), unmarked, by omega,
    by omega⟩

/-- **Up to 1000 ideographs of the block are a label.** -/
theorem isLabel_of_han {cs : List Char} (h : ∀ c ∈ cs, isHan c = true)
    (short : cs.length ≤ maxLength) : isLabel cs = true :=
  isLabel_of_settled (fun c hc => settled_of_han (h c hc)) (normalForm_of_han h) (.inr short)

theorem turns_of_han {c : Char} (h : isHan c = true) : turns c = false := by
  have right := contains_eq_false_of_isFar untreated.rightToLeft h
  have letter := contains_eq_false_of_isFar untreated.arabicLetter h
  have digit := contains_eq_false_of_isFar untreated.arabicDigit h
  simp only [turns, direction, right, letter, digit, Bool.false_eq_true, if_false]
  split_ifs <;> rfl

/-! ## 2. Its name -/

/-- **A label of ideographs of the block is written in Punycode.** -/
theorem ascii?_of_han {label : List Char} (hne : label ≠ []) (h : ∀ c ∈ label, isHan c = true)
    (short : label.length ≤ maxLength) : ascii? label = some (aceMark ++ encode label) := by
  obtain ⟨c, cs, rfl⟩ := List.exists_cons_of_ne_nil hne
  have hc := h c List.mem_cons_self
  have whole : (c :: cs).splitOn '.' = [c :: cs] := by
    rw [List.splitOn_eq_splitOnP]
    exact List.splitOnP_eq_singleton fun d hd =>
      beq_eq_false_iff_ne.mpr (ne_of_han (h d hd) (by decide))
  have unmarked : aceMark.isPrefixOf (c :: cs) = false := by
    have : c ≠ 'x' := ne_of_han hc (by decide)
    simp [aceMark_eq, List.isPrefixOf, this.symm]
  have foreign : (c :: cs).all isAscii = false := by
    simp [isAscii_of_han hc]
  have straight : directionsFit [c :: cs] = true := by
    have : (c :: cs).any turns = false := by
      simp only [List.any_eq_false, Bool.not_eq_true]
      exact fun d hd => turns_of_han (h d hd)
    simp [directionsFit, this]
  have read : Label.ofText? (c :: cs) = some (c :: cs) := by
    rw [Label.ofText?, unmarked, if_neg Bool.false_ne_true, isLabel_of_han h short, if_pos rfl]
  have labels : labels? (c :: cs) = some [c :: cs] := by
    rw [labels?, mapped_of_isKept fun d hd => isKept_of_han (h d hd), Option.bind_eq_bind,
      Option.bind_some, normalForm_of_han h, whole]
    simp [read, straight]
  rw [ascii?, labels, Option.map_some, List.map_singleton, List.intercalate_singleton, Label.ascii,
    foreign, if_neg Bool.false_ne_true]

/-! ## 3. Counting -/

/-- The ideograph with a number. -/
def hanOf (n : Fin 32768) : Char := Char.ofNat (0x20000 + n)

theorem toNat_hanOf (n : Fin 32768) : (hanOf n).toNat = 0x20000 + n := by
  have valid : (0x20000 + (n : Nat)).isValidChar := by
    have := n.isLt
    exact .inr ⟨by omega, by omega⟩
  rw [hanOf, Char.ofNat, dif_pos valid]
  rfl

theorem isHan_hanOf (n : Fin 32768) : isHan (hanOf n) = true := by
  have := n.isLt
  simp only [isHan, toNat_hanOf, Bool.and_eq_true, decide_eq_true_eq]
  omega

theorem hanOf_injective : Function.Injective hanOf := by
  intro m n h
  have := congrArg Char.toNat h
  rw [toNat_hanOf, toNat_hanOf] at this
  exact Fin.ext (by omega)

/-- The label with the given ideographs. -/
def labelOf (l : Fin maxLength → Fin 32768) : List Char := List.ofFn fun i => hanOf (l i)

/-- The places of a Punycode form, up to the longest one that is read. -/
def placesOf (cs : List Char) (i : Fin maxDigits) : Option (Fin 128) :=
  cs[(i : Nat)]?.map fun c => ⟨c.toNat % 128, Nat.mod_lt _ (by decide)⟩

theorem placesOf_injective {cs ds : List Char} (hc : ∀ c ∈ cs, isAscii c = true)
    (hd : ∀ c ∈ ds, isAscii c = true) (shortc : cs.length ≤ maxDigits)
    (shortd : ds.length ≤ maxDigits) (h : placesOf cs = placesOf ds) : cs = ds := by
  refine List.ext_getElem? fun i => ?_
  rcases Nat.lt_or_ge i maxDigits with hi | hi
  · have place := congrFun h ⟨i, hi⟩
    simp only [placesOf] at place
    cases hci : cs[i]? with
    | none =>
      rw [hci] at place
      exact (Option.map_eq_none_iff.mp place.symm).symm
    | some c =>
      rw [hci] at place
      obtain ⟨d, hdi, same⟩ := Option.map_eq_some_iff.mp place.symm
      have lowc := of_decide_eq_true (hc c (List.mem_of_getElem? hci))
      have lowd := of_decide_eq_true (hd d (List.mem_of_getElem? hdi))
      have number := Fin.mk.inj same
      rw [hdi]
      refine congrArg some (Char.ext (UInt32.toNat_inj.mp ?_))
      have : c.val.toNat = c.toNat := rfl
      have : d.val.toNat = d.toNat := rfl
      omega
  · rw [List.getElem?_eq_none (shortc.trans hi), List.getElem?_eq_none (shortd.trans hi)]

/-- There are more labels than texts of as many digits as are read. -/
theorem card_lt : (128 + 1) ^ maxDigits < 32768 ^ maxLength := by
  have double : maxDigits = 2 * maxLength := rfl
  rw [double, Nat.pow_mul]
  exact Nat.pow_lt_pow_left (by decide) (by decide)

/-- **Some label is too long to be read when it is written in Punycode.** -/
theorem exists_long_form : ∃ label : List Char, label ≠ [] ∧ (∀ c ∈ label, isHan c = true) ∧
    label.length ≤ maxLength ∧ maxDigits < (encode label).length := by
  by_contra none'
  push Not at none'
  have isLabel : ∀ l, labelOf l ≠ [] ∧ (∀ c ∈ labelOf l, isHan c = true) ∧
      (labelOf l).length ≤ maxLength := by
    intro l
    refine ⟨?_, fun c hc => ?_, (List.length_ofFn).le⟩
    · exact List.ne_nil_of_length_pos (by rw [labelOf, List.length_ofFn]; decide)
    · obtain ⟨i, rfl⟩ := List.mem_ofFn.mp hc
      exact isHan_hanOf _
  have short : ∀ l, (encode (labelOf l)).length ≤ maxDigits := fun l =>
    none' _ (isLabel l).1 (isLabel l).2.1 (isLabel l).2.2
  have injective : Function.Injective fun l => placesOf (encode (labelOf l)) := by
    intro l m h
    have same := encode_injective (placesOf_injective (fun c => isAscii_of_mem_encode)
      (fun c => isAscii_of_mem_encode) (short l) (short m) h)
    funext i
    have := congrFun (List.ofFn_injective same) i
    exact hanOf_injective this
  have card := Fintype.card_le_of_injective _ injective
  rw [Fintype.card_fun, Fintype.card_fun, Fintype.card_option, Fintype.card_fin, Fintype.card_fin,
    Fintype.card_fin, Fintype.card_fin] at card
  exact absurd card (Nat.not_le.mpr card_lt)

end CrawlGraph.Domain
