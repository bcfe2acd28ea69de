import CrawlGraph.Domain.Name
import CrawlGraph.Proofs.Domain.Punycode
import CrawlGraph.Proofs.Results
import CrawlGraph.Proofs.Text.CodeTable
import CrawlGraph.Proofs.Text.Pieces

/-!
# The ASCII form of a host name is its own ASCII form

A host name in its ASCII form is read again as the same labels, and so it is written again as it is.
There is one exception: a label whose Punycode form is longer than what is read at all.

1. `isLegible`, the names without such a label.
2. Labels: what is read of a label in its ASCII form (`ofText?_ascii`).
3. `ascii?_of_ascii?`, the name as a whole.
4. Labels of small letters and digits, which need no table.
5. `ascii?_toLower`, letter case.
-/

namespace CrawlGraph.Domain

open CrawlGraph.Text Punycode

/-! ## 1. Names that can be read -/

/-- Whether a label in its ASCII form is short enough to be read. -/
def isShort (label : List Char) : Bool :=
  !aceMark.isPrefixOf label || label.length ≤ aceMark.length + maxDigits

/-- Whether every label of a name in its ASCII form is short enough to be read. -/
def isLegible (name : List Char) : Bool := (name.splitOn '.').all isShort

/-! ## 2. Labels -/

theorem aceMark_eq : aceMark = ['x', 'n', '-', '-'] := rfl

/-- What is true of a label that was read: it may be a label, and it is in ASCII only if it is
    written without the mark of Punycode. -/
structure IsRead (label : List Char) : Prop where
  isLabel : isLabel label = true
  unmarked : label.all isAscii = true → aceMark.isPrefixOf label = false

theorem isRead_of_ofText? {cs label : List Char} (h : Label.ofText? cs = some label) :
    IsRead label := by
  unfold Label.ofText? at h
  split at h
  · dsimp only at h
    split at h
    · obtain ⟨-, hlabel⟩ := Option.filter_eq_some_iff.mp h
      obtain ⟨foreign, hlabel⟩ := Bool.and_eq_true_iff.mp hlabel
      exact ⟨hlabel, fun ascii => by simp [ascii] at foreign⟩
    · cases h
  · rename_i hmark
    split at h
    · rename_i hlabel
      cases h
      exact ⟨hlabel, fun _ => Bool.eq_false_of_not_eq_true hmark⟩
    · cases h

theorem isForbidden_eq_false_iff {c : Char} :
    isForbidden c = false ↔ 0x20 < c.toNat ∧ c.toNat ≠ 0x7F ∧
      c ∉ ['%', '#', '/', ':', '<', '>', '?', '@', '[', '\\', ']', '^', '|'] := by
  have marks : "%#/:<>?@[\\]^|".toList =
      ['%', '#', '/', ':', '<', '>', '?', '@', '[', '\\', ']', '^', '|'] := rfl
  rw [isForbidden, marks]
  simp [not_or, and_assoc]

/-- What is true of every character that a label holds. -/
theorem kept_of_mem_label {label : List Char} (h : isLabel label = true) {c : Char}
    (hc : c ∈ label) : isKept c = true ∧ isForbidden c = false ∧ c ≠ '.' := by
  simp only [isLabel, Bool.and_eq_true, List.all_eq_true, and_assoc] at h
  obtain ⟨kept, clear, inner⟩ := h.1 c hc
  exact ⟨kept, by simpa using clear, by simpa using inner⟩

theorem isKept_digit : ∀ n < 36, isKept (digit n) = true := by decide

theorem isForbidden_digit : ∀ n < 36, isForbidden (digit n) = false := by
  simp only [isForbidden_eq_false_iff]
  decide

theorem digit_ne_stop : ∀ n < 36, digit n ≠ '.' := by decide

/-- **What a label in its ASCII form holds**: characters of ASCII that a host name may hold, and no
    full stop. -/
theorem plain_of_mem_ascii {label : List Char} (h : isLabel label = true) {c : Char}
    (hc : c ∈ Label.ascii label) :
    isAscii c = true ∧ isKept c = true ∧ isForbidden c = false ∧ c ≠ '.' := by
  unfold Label.ascii at hc
  split at hc
  · rename_i ascii
    exact ⟨List.all_eq_true.mp ascii c hc, kept_of_mem_label h hc⟩
  · rcases List.mem_append.mp hc with hc | hc
    · have mark : ∀ c ∈ aceMark,
          isAscii c = true ∧ isKept c = true ∧ isForbidden c = false ∧ c ≠ '.' := by
        rw [aceMark_eq]
        simp only [List.forall_mem_cons, isForbidden_eq_false_iff, List.not_mem_nil, false_imp_iff,
          implies_true, and_true]
        decide +kernel
      exact mark c hc
    · refine ⟨isAscii_of_mem_encode hc, ?_⟩
      rcases mem_encode hc with ⟨hc, -⟩ | rfl | ⟨d, hd, rfl⟩
      · exact kept_of_mem_label h hc
      · decide
      · exact ⟨isKept_digit d hd, isForbidden_digit d hd, digit_ne_stop d hd⟩

/-- **A label in its ASCII form is read as itself**, unless it is too long. -/
theorem ofText?_ascii {label : List Char} (h : IsRead label) :
    Label.ofText? (Label.ascii label) =
      if isShort (Label.ascii label) then some label else none := by
  by_cases ascii : label.all isAscii = true
  · have same : Label.ascii label = label := if_pos ascii
    have unmarked := h.unmarked ascii
    simp [same, Label.ofText?, isShort, unmarked, h.isLabel]
  · have same : Label.ascii label = aceMark ++ encode label := if_neg ascii
    have marked : aceMark.isPrefixOf (aceMark ++ encode label) = true := by
      simp
    have digits : (encode label).all isAscii = true :=
      List.all_eq_true.mpr fun _ => isAscii_of_mem_encode
    have whole : (!label.all isAscii && isLabel label) = true := by
      simp [ascii, h.isLabel]
    simp only [same, Label.ofText?, isShort, marked, List.drop_left, digits, if_true, true_and,
      Bool.not_true, Bool.false_or, List.length_append, Nat.add_le_add_iff_left, decide_eq_true_eq,
      decode?_encode, Option.filter_some, whole]

/-! ## 3. Names -/

theorem ne_nil_of_labels? {cs : List Char} {labels : List (List Char)}
    (h : labels? cs = some labels) : labels ≠ [] := by
  obtain ⟨mapped, -, h⟩ := Option.bind_eq_some_iff.mp h
  obtain ⟨labels', hread, h⟩ := Option.bind_eq_some_iff.mp h
  split at h
  · cases h
    have same := map_eq_of_mapM_eq_some hread
    intro hnil
    rw [hnil, List.map_nil, List.map_eq_nil_iff] at same
    exact List.splitOn_ne_nil _ _ same
  · cases h

theorem isRead_of_labels? {cs : List Char} {labels : List (List Char)}
    (h : labels? cs = some labels) :
    (∀ label ∈ labels, IsRead label) ∧ directionsFit labels = true := by
  obtain ⟨mapped, -, h⟩ := Option.bind_eq_some_iff.mp h
  obtain ⟨labels', hread, h⟩ := Option.bind_eq_some_iff.mp h
  split at h
  · rename_i fits
    cases h
    refine ⟨fun label hl => ?_, fits⟩
    have hmem : some label ∈ (normalForm mapped |>.splitOn '.').map Label.ofText? := by
      rw [map_eq_of_mapM_eq_some hread]
      exact List.mem_map_of_mem hl
    obtain ⟨text, -, ht⟩ := List.mem_map.mp hmem
    exact isRead_of_ofText? ht
  · cases h

/-- The labels of a name are where its full stops part it. -/
theorem splitOn_intercalate_ascii {labels : List (List Char)} (hne : labels ≠ [])
    (h : ∀ label ∈ labels, isLabel label = true) :
    (['.'].intercalate (labels.map Label.ascii)).splitOn '.' = labels.map Label.ascii := by
  refine List.splitOn_intercalate '.' (fun text ht => ?_) (by simpa using hne)
  obtain ⟨label, hl, rfl⟩ := List.mem_map.mp ht
  exact fun hm => (plain_of_mem_ascii (h label hl) hm).2.2.2 rfl

/-- Labels in their ASCII form, with full stops between them, hold characters of ASCII that a host
    name may hold. -/
theorem plain_of_mem_intercalate {labels : List (List Char)}
    (h : ∀ label ∈ labels, isLabel label = true) {c : Char}
    (hc : c ∈ ['.'].intercalate (labels.map Label.ascii)) :
    isAscii c = true ∧ isKept c = true ∧ isForbidden c = false := by
  rcases mem_intercalate hc with hstop | ⟨text, ht, hc⟩
  · rw [List.mem_singleton.mp hstop]
    decide
  · obtain ⟨label, hl, rfl⟩ := List.mem_map.mp ht
    obtain ⟨ascii, kept, clear, -⟩ := plain_of_mem_ascii (h label hl) hc
    exact ⟨ascii, kept, clear⟩

/-- **What a name in its ASCII form holds**: characters of ASCII that a host name may hold. -/
theorem plain_of_mem_name {cs name : List Char} (h : ascii? cs = some name) {c : Char}
    (hc : c ∈ name) : isAscii c = true ∧ isKept c = true ∧ isForbidden c = false := by
  obtain ⟨labels, hlabels, rfl⟩ := Option.map_eq_some_iff.mp h
  obtain ⟨read, -⟩ := isRead_of_labels? hlabels
  exact plain_of_mem_intercalate (fun label hl => (read label hl).isLabel) hc

/-- Labels in their ASCII form, with full stops between them, are read label by label. -/
theorem labels?_intercalate {labels : List (List Char)} (hne : labels ≠ [])
    (h : ∀ label ∈ labels, isLabel label = true) :
    labels? (['.'].intercalate (labels.map Label.ascii)) =
      ((labels.map Label.ascii).mapM Label.ofText?).bind fun read =>
        if directionsFit read then some read else none := by
  have hmapped := mapped_of_isKept fun c hc => (plain_of_mem_intercalate h hc).2.1
  have hnormal := normalForm_ascii
    (List.all_eq_true.mpr fun c hc => (plain_of_mem_intercalate h hc).1)
  rw [labels?, hmapped, Option.bind_eq_bind, Option.bind_some, hnormal,
    splitOn_intercalate_ascii hne h]
  rfl

/-- **A name in its ASCII form has itself as its ASCII form**, unless it has a label that is too
    long to be read. -/
theorem ascii?_of_ascii? {cs name : List Char} (h : ascii? cs = some name) :
    ascii? name = if isLegible name then some name else none := by
  obtain ⟨labels, hlabels, rfl⟩ := Option.map_eq_some_iff.mp h
  obtain ⟨read, fits⟩ := isRead_of_labels? hlabels
  have isLabels : ∀ label ∈ labels, isLabel label = true := fun label hl => (read label hl).isLabel
  have hne := ne_nil_of_labels? hlabels
  rw [ascii?, labels?_intercalate hne isLabels, isLegible,
    splitOn_intercalate_ascii hne isLabels]
  split
  · rename_i short
    have hread : (labels.map Label.ascii).mapM Label.ofText? = some labels := by
      rw [mapM_eq_some_iff, List.map_map]
      refine List.map_congr_left fun label hl => ?_
      have := List.all_eq_true.mp short _ (List.mem_map_of_mem hl)
      rw [Function.comp_apply, ofText?_ascii (read label hl), if_pos this]
    rw [hread, Option.bind_some, if_pos fits]
    rfl
  · rename_i long
    have hnone : (labels.map Label.ascii).mapM Label.ofText? = none := by
      refine Option.eq_none_iff_forall_ne_some.mpr fun labels' hread => long ?_
      have same := map_eq_of_mapM_eq_some hread
      refine List.all_eq_true.mpr fun text ht => ?_
      obtain ⟨label, hl, rfl⟩ := List.mem_map.mp ht
      have hmem : Label.ofText? (Label.ascii label) ∈ labels'.map some :=
        same ▸ List.mem_map_of_mem ht
      obtain ⟨label', -, hsome⟩ := List.mem_map.mp hmem
      rw [ofText?_ascii (read label hl)] at hsome
      by_contra hshort
      rw [if_neg hshort] at hsome
      cases hsome
    rw [hnone]
    rfl

/-! ## 4. Small letters and digits -/

set_option maxRecDepth 100000 in
theorem combiningMarkTable_foreign :
    ∀ r ∈ combiningMarkTable.rows, decide (0x80 ≤ r.1) = true := by
  apply CodeTable.forall_of_all
  decide +kernel

/-- The combining marks lie outside ASCII. -/
theorem combiningMark_of_isAscii {c : Char} (h : isAscii c = true) :
    combiningMarkTable.contains c = false := by
  refine CodeTable.contains_eq_false fun r hr hcover => ?_
  have := of_decide_eq_true (combiningMarkTable_foreign r hr)
  simp only [isAscii, decide_eq_true_eq] at h
  omega

/-- Whether the character may stand anywhere in a label, whatever stands around it. -/
structure Settled (c : Char) : Prop where
  kept : isKept c = true
  clear : isForbidden c = false
  inner : c ≠ '.'
  unmarked : combiningMarkTable.contains c = false
  noJoiner : c.toNat ≠ 0x200C ∧ c.toNat ≠ 0x200D

theorem joinersFit_of_settled {before cs : List Char} (h : ∀ c ∈ cs, Settled c) :
    joinersFit before cs = true := by
  induction cs generalizing before with
  | nil => rfl
  | cons c cs ih =>
    obtain ⟨nonJoiner, joiner⟩ := (h c List.mem_cons_self).noJoiner
    rw [joinersFit, if_neg nonJoiner, if_neg joiner, Bool.true_and]
    exact ih fun d hd => h d (List.mem_cons_of_mem _ hd)

/-- **Characters that may stand anywhere are a label**, if the text is in normal form and short. -/
theorem isLabel_of_settled {cs : List Char} (h : ∀ c ∈ cs, Settled c) (normal : normalForm cs = cs)
    (short : cs.all isAscii = true ∨ cs.length ≤ maxLength) : isLabel cs = true := by
  have all : (cs.all fun c => isKept c && !isForbidden c && c != '.') = true := by
    refine List.all_eq_true.mpr fun c hc => ?_
    simp [(h c hc).kept, (h c hc).clear, (h c hc).inner]
  have head : cs.head?.any combiningMarkTable.contains = false := by
    cases cs with
    | nil => rfl
    | cons c cs =>
      rw [List.head?_cons, Option.any_some]
      exact (h c List.mem_cons_self).unmarked
  have fits : (cs.all isAscii || decide (cs.length ≤ maxLength)) = true := by
    simpa using short
  rw [isLabel, all, normal, beq_self_eq_true, head, joinersFit_of_settled h, fits]
  rfl

/-- Whether the character is a small letter or a digit. -/
def isPlainChar (c : Char) : Bool := c.isLower || c.isDigit

/-- What holds of the characters of ASCII can be tested one by one. -/
theorem forall_ascii {p : Char → Bool} (h : ∀ n < 0x80, p (Char.ofNat n) = true) {c : Char}
    (hc : isAscii c = true) : p c = true := by
  have := h c.toNat (of_decide_eq_true hc)
  rwa [Char.ofNat_toNat] at this

theorem isAscii_of_isPlainChar {c : Char} (h : isPlainChar c = true) : isAscii c = true := by
  simp only [isPlainChar, Char.isLower, Char.isDigit, Bool.or_eq_true, Bool.and_eq_true,
    decide_eq_true_eq, ge_iff_le, UInt32.le_iff_toNat_le] at h
  have : c.toNat = c.val.toNat := rfl
  refine decide_eq_true ?_
  rcases h with ⟨-, h⟩ | ⟨-, h⟩ <;> simp at h <;> omega

theorem isPlainChar_spec {c : Char} (h : isPlainChar c = true) :
    isAscii c = true ∧ isKept c = true ∧ isForbidden c = false ∧ c ≠ '.' ∧ c ≠ '-' ∧
      turns c = false := by
  have low := isAscii_of_isPlainChar h
  have test := forall_ascii
    (p := fun c => !isPlainChar c ||
      (isKept c && (!isForbidden c && (c != '.' && (c != '-' && !turns c)))))
    (by decide +kernel) low
  rw [h] at test
  exact ⟨low, by simpa using test⟩

theorem settled_of_plain {c : Char} (h : isPlainChar c = true) : Settled c := by
  obtain ⟨ascii, kept, clear, inner, -⟩ := isPlainChar_spec h
  have low : c.toNat < 0x80 := of_decide_eq_true ascii
  exact ⟨kept, clear, inner, combiningMark_of_isAscii ascii, by omega, by omega⟩

theorem isLabel_of_plain {label : List Char} (h : ∀ c ∈ label, isPlainChar c = true) :
    isLabel label = true := by
  have ascii : label.all isAscii = true :=
    List.all_eq_true.mpr fun c hc => (isPlainChar_spec (h c hc)).1
  exact isLabel_of_settled (fun c hc => settled_of_plain (h c hc)) (normalForm_ascii ascii)
    (.inl ascii)

/-- **A name of small letters, digits and full stops has itself as its ASCII form.** -/
theorem ascii?_of_plain {labels : List (List Char)} (hne : labels ≠ [])
    (h : ∀ label ∈ labels, ∀ c ∈ label, isPlainChar c = true) :
    ascii? (['.'].intercalate labels) = some (['.'].intercalate labels) := by
  have ascii : ∀ label ∈ labels, label.all isAscii = true := fun label hl =>
    List.all_eq_true.mpr fun c hc => (isPlainChar_spec (h label hl c hc)).1
  have same : labels.map Label.ascii = labels :=
    (List.map_congr_left fun label hl => if_pos (ascii label hl)).trans (List.map_id' labels)
  have isLabels : ∀ label ∈ labels, isLabel label = true := fun label hl =>
    isLabel_of_plain (h label hl)
  have straight : labels.any (·.any turns) = false := by
    simp only [List.any_eq_false, Bool.not_eq_true]
    intro label hl c hc
    exact (isPlainChar_spec (h label hl c hc)).2.2.2.2.2
  have fits : directionsFit labels = true := by
    rw [directionsFit, straight]
    rfl
  have unmarked : ∀ label ∈ labels, aceMark.isPrefixOf label = false := by
    intro label hl
    by_contra hmark
    have hprefix := List.isPrefixOf_iff_prefix.mp (Bool.of_not_eq_false hmark)
    have hyphen : '-' ∈ label := hprefix.subset (by decide)
    exact (isPlainChar_spec (h label hl _ hyphen)).2.2.2.2.1 rfl
  have read : labels.mapM Label.ofText? = some labels := by
    rw [mapM_eq_some_iff]
    refine List.map_congr_left fun label hl => ?_
    simp [Label.ofText?, unmarked label hl, isLabels label hl]
  have hlabels := labels?_intercalate hne isLabels
  rw [same, read, Option.bind_some, if_pos fits] at hlabels
  rw [ascii?, hlabels, Option.map_some, same]

/-! ## 5. Letter case -/

theorem isAscii_toLower {c : Char} (h : isAscii c = true) : isAscii c.toLower = true :=
  forall_ascii (p := fun c => isAscii c.toLower) (by decide +kernel) h

/-- Of ASCII the mapping changes the letter case only. -/
theorem mapped?_of_isAscii {cs : List Char} (h : ∀ c ∈ cs, isAscii c = true) :
    mapped? cs = some (cs.map Char.toLower) := by
  induction cs with
  | nil => rfl
  | cons c cs ih =>
    have hcs := ih fun d hd => h d (List.mem_cons_of_mem _ hd)
    by_cases upper : c.isUpper = true
    · simp [mapped?, fate, h c List.mem_cons_self, upper, hcs]
    · simp [mapped?, fate, h c List.mem_cons_self, upper, hcs, Char.toLower_eq_of_not_isUpper upper]

/-- **The letter case of a name in ASCII does not count.** -/
theorem ascii?_toLower {cs : List Char} (h : ∀ c ∈ cs, isAscii c = true) :
    ascii? (cs.map Char.toLower) = ascii? cs := by
  have lower : ∀ c ∈ cs.map Char.toLower, isAscii c = true := by
    intro c hc
    obtain ⟨d, hd, rfl⟩ := List.mem_map.mp hc
    exact isAscii_toLower (h d hd)
  have twice : (cs.map Char.toLower).map Char.toLower = cs.map Char.toLower := by
    rw [List.map_map]
    exact List.map_congr_left fun c _ => Char.toLower_toLower_eq_toLower c
  rw [ascii?, ascii?, labels?, labels?, mapped?_of_isAscii lower, mapped?_of_isAscii h, twice]

end CrawlGraph.Domain
