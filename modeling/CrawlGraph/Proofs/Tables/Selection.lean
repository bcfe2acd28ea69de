import CrawlGraph.Proofs.Tables.Keys
import CrawlGraph.Proofs.Tables.Reading
import CrawlGraph.Proofs.Text.ByteOrder

/-!
# Reading a range of any rows

Rows that came in from elsewhere may hold any texts in place of identifiers, or bytes that are no
text, or nothing at all; and in place of a time a number that is no integer, a text, or bytes. This
module says what reading a range gives then: all the rows of the range as records, or one error that
is chosen by a rule.

1. `Stored.value`, the place of a time among the numbers: `Stored.isBefore_iff`.
2. `Readable`, the rows whose columns hold what they are meant for.
3. `Selected`, the rows of a range by their bytes and times.
4. `Misread`, the first text that is no identifier, and the error of the rows that hold it.
5. `RangeRead`, what comes out of a range, and `rangeRead_of_any_rows`.
-/

namespace CrawlGraph

/-! ## 1. Times -/

/-- Where a value of a time column stands among the numbers: texts and bytes are above all of them,
    and so is a value that is none, which is before nothing. -/
noncomputable def Stored.value : Stored → EReal
  | .int t => ((t.toInt : ℝ) : EReal)
  | .real (.finite mantissa exponent) => (((mantissa : ℝ) * 2 ^ exponent : ℝ) : EReal)
  | .real (.infinite negative) => if negative then ⊥ else ⊤
  | .null | .text _ | .blob _ => ⊤

/-- A floating-point number is compared with an integer by its value. -/
theorem Binary64.isBelow_finite_iff (mantissa exponent n : Int) :
    (finite mantissa exponent).isBelow n = true ↔ (mantissa : ℝ) * 2 ^ exponent < n := by
  rcases Int.le_total 0 exponent with h | h
  · obtain ⟨k, rfl⟩ := Int.eq_ofNat_of_zero_le h
    simp only [isBelow, if_pos h, Int.toNat_natCast, Int.shiftLeft_eq, decide_eq_true_eq,
      zpow_natCast]
    exact_mod_cast Iff.rfl
  · obtain ⟨k, hk⟩ := Int.eq_ofNat_of_zero_le (Int.neg_nonneg_of_nonpos h)
    obtain rfl : exponent = -k := by omega
    rw [zpow_neg, zpow_natCast, mul_inv_lt_iff₀ (by positivity)]
    cases k with
    | zero =>
      simp [isBelow]
    | succ k =>
      have hneg : ¬(0 : Int) ≤ -((k + 1 : Nat) : Int) := by omega
      simp only [isBelow, if_neg hneg, neg_neg, Int.toNat_natCast, Int.shiftLeft_eq,
        decide_eq_true_eq]
      exact_mod_cast Iff.rfl

/-- **A value of a time column is before a time just if it is less as a number.** -/
theorem Stored.isBefore_iff (s : Stored) (t : Stamp) :
    s.isBefore t = true ↔ s.value < (Stored.int t).value := by
  cases s with
  | null => simp [isBefore, value]
  | int a =>
    rw [isBefore_int, decide_eq_true_eq, value, value, EReal.coe_lt_coe_iff, Int.cast_lt]
    exact Int64.lt_iff_toInt_lt
  | real r =>
    cases r with
    | finite mantissa exponent =>
      rw [isBefore, Binary64.isBelow_finite_iff, value, value, EReal.coe_lt_coe_iff]
    | infinite negative =>
      cases negative <;> simp [isBefore, Binary64.isBelow, value]
  | text s => simp [isBefore, value]
  | blob bytes => simp [isBefore, value]

/-! ## 2. Columns -/

/-- **Whether the columns of a row of links can be read**: texts, and an integer for the time. -/
def LinkRow.Readable (row : LinkRow) : Prop :=
  (∃ id, row.id = .ofString id) ∧ (∃ url, row.url = .ofString url) ∧ ∃ t, row.retrievedAt = .int t

/-- **Whether the columns of a row of edges can be read.** -/
def EdgeRow.Readable (row : EdgeRow) : Prop :=
  (∃ id, row.id = .ofString id) ∧ (∃ src, row.src = .ofString src) ∧
    (∃ dst, row.dst = .ofString dst) ∧ ∃ t, row.updatedAt = .int t

/-- The texts of a row of links that are to be identifiers. -/
def LinkRow.names (row : LinkRow) : List String := [row.id].filterMap Stored.text?

/-- The texts of a row of edges that are to be identifiers, in the order of its columns. -/
def EdgeRow.names (row : EdgeRow) : List String := [row.id, row.src, row.dst].filterMap Stored.text?

namespace Tables

section Columns

variable {γ : Type} {op : Operation} {index : Nat} {name : String} {value : Stored}

/-- A reading that begins with a column of texts fails if the rest fails behind any text that the
    column holds. -/
theorem unread_of_readText {rest : String → Except StoreError γ}
    (h : ∀ s, value = .ofString s → ∃ detail, rest s = .error (.of op (.database detail))) :
    ∃ detail, (readText op index name value >>= rest) = .error (.of op (.database detail)) := by
  unfold readText
  split
  · split
    · rename_i s hs
      exact h s (Stored.text?_eq_some_iff.mp hs)
    · exact ⟨_, rfl⟩
  · exact ⟨_, rfl⟩

/-- And likewise behind a column of times. -/
theorem unread_of_readTime {rest : Stamp → Except StoreError γ}
    (h : ∀ t, value = .int t → ∃ detail, rest t = .error (.of op (.database detail))) :
    ∃ detail, (readTime op index name value >>= rest) = .error (.of op (.database detail)) := by
  cases value with
  | int t => exact h t rfl
  | _ => exact ⟨_, rfl⟩

end Columns

/-- A row of links whose columns cannot be read makes the reading fail. -/
theorem linkColumns_of_not_readable {op : Operation} {row : LinkRow} (h : ¬row.Readable) :
    ∃ detail, linkColumns op row = .error (.of op (.database detail)) := by
  refine unread_of_readText fun id hid => ?_
  refine unread_of_readText fun url hurl => ?_
  refine unread_of_readTime fun t ht => ?_
  exact absurd ⟨⟨id, hid⟩, ⟨url, hurl⟩, t, ht⟩ h

/-- A row of edges whose columns cannot be read makes the reading fail. -/
theorem edgeColumns_of_not_readable {op : Operation} {row : EdgeRow} (h : ¬row.Readable) :
    ∃ detail, edgeColumns op row = .error (.of op (.database detail)) := by
  refine unread_of_readText fun id hid => ?_
  refine unread_of_readText fun src hsrc => ?_
  refine unread_of_readText fun dst hdst => ?_
  refine unread_of_readTime fun t ht => ?_
  exact absurd ⟨⟨id, hid⟩, ⟨src, hsrc⟩, ⟨dst, hdst⟩, t, ht⟩ h

/-! ## 3. Rows of a range -/

/-- **What a reading selects from rows**: the ones inside and no others, in order. -/
structure Selected {ρ : Type} (rows : List ρ) (Inside : ρ → Prop) (le : ρ → ρ → Prop)
    (selected : List ρ) : Prop where
  inside : ∀ row ∈ selected, Inside row
  rest : ∃ others, (selected ++ others).Perm rows ∧ ∀ row ∈ others, ¬Inside row
  sorted : selected.Pairwise le

/-- Filtering and sorting selects. -/
theorem selected_mergeSort {ρ : Type} {le : ρ → ρ → Bool}
    (trans : ∀ x y z, le x y → le y z → le x z) (total : ∀ x y, le x y || le y x) {p : ρ → Bool}
    {Inside : ρ → Prop} {ordered : ρ → ρ → Prop} (inside_iff : ∀ row, p row = true ↔ Inside row)
    (ordered_of_le : ∀ x y, le x y = true → ordered x y) (rows : List ρ) :
    Selected rows Inside ordered ((rows.filter p).mergeSort le) where
  inside row hrow := by
    rw [List.mem_mergeSort, List.mem_filter] at hrow
    exact (inside_iff row).mp hrow.2
  rest := by
    refine ⟨rows.filter fun row => !p row, ?_, fun row hrow => ?_⟩
    · exact ((List.mergeSort_perm _ _).append_right _).trans (List.filter_append_perm p rows)
    · rw [List.mem_filter, Bool.not_eq_true', ← Bool.not_eq_true, inside_iff] at hrow
      exact hrow.2
  sorted := (List.pairwise_mergeSort trans total _).imp (ordered_of_le _ _)

/-- Whether a value is a text in a range, byte by byte. -/
def TextInside (start stop : Ident) (value : Stored) : Prop :=
  ∃ bytes, value = .text bytes ∧ Text.bytes start.text ≤ bytes ∧ bytes < Text.bytes stop.text

/-- Whether a row of links is in a range and before a time. -/
def LinkInside (start stop : Ident) (before : Stamp) (row : LinkRow) : Prop :=
  TextInside start stop row.id ∧ row.retrievedAt.value < (Stored.int before).value

/-- Whether a row of edges leaves a page in a range and is before a time. -/
def EdgeInside (start stop : Ident) (before : Stamp) (row : EdgeRow) : Prop :=
  TextInside start stop row.src ∧ row.updatedAt.value < (Stored.int before).value

theorem isWithin_iff (value : Stored) (start stop : Ident) :
    value.isWithin start.text stop.text = true ↔ TextInside start stop value := by
  cases value with
  | text bytes =>
    simp only [Stored.isWithin, decide_eq_true_eq, TextInside, Stored.text.injEq, exists_eq_left']
  | _ => simp [Stored.isWithin, TextInside]

theorem selected_linkRows (rows : List LinkRow) (start stop : Ident) (before : Stamp) :
    Selected rows (LinkInside start stop before) (fun a b => a.id.textBytes ≤ b.id.textBytes)
      (linkRows rows start stop before) := by
  refine selected_mergeSort linkRow_trans linkRow_total (fun row => ?_)
    (fun a b h => of_decide_eq_true h) rows
  rw [Bool.and_eq_true, isWithin_iff, Stored.isBefore_iff, LinkInside]

theorem selected_edgeRows (rows : List EdgeRow) (start stop : Ident) (before : Stamp) :
    Selected rows (EdgeInside start stop before)
      (fun a b => a.src.textBytes < b.src.textBytes ∨
        (a.src.textBytes = b.src.textBytes ∧ a.rowid ≤ b.rowid))
      (edgeRows rows start stop before) := by
  refine selected_mergeSort edgeRow_trans edgeRow_total (fun row => ?_)
    (fun a b h => of_decide_eq_true h) rows
  rw [Bool.and_eq_true, isWithin_iff, Stored.isBefore_iff, EdgeInside]

/-! ## 4. Texts that are no identifiers -/

/-- **The first text that is no identifier**, with the reason. -/
inductive Misread : List String → String → Ident.ReadError → Prop where
  | here {text : String} {e : Ident.ReadError} {texts : List String}
    (bad : Ident.parse text = .error e) : Misread (text :: texts) text e
  | later {text bad : String} {id : Ident} {e : Ident.ReadError} {texts : List String}
    (good : Ident.parse text = .ok id) (rest : Misread texts bad e) : Misread (text :: texts) bad e

/-- Whether all texts are identifiers. -/
def AllRead (texts : List String) : Prop := ∀ text ∈ texts, ∃ id, Ident.parse text = .ok id

theorem exists_misread {texts : List String} (h : ¬AllRead texts) :
    ∃ text e, Misread texts text e := by
  induction texts with
  | nil => exact absurd nofun h
  | cons text texts ih =>
    cases hparse : Ident.parse text with
    | error e => exact ⟨text, e, .here hparse⟩
    | ok id =>
      obtain ⟨bad, e, hbad⟩ := ih fun hall => h (List.forall_mem_cons.mpr ⟨⟨id, hparse⟩, hall⟩)
      exact ⟨bad, e, .later hparse hbad⟩

theorem Misread.append_cases {texts others : List String} {text : String} {e : Ident.ReadError}
    (h : Misread (texts ++ others) text e) :
    Misread texts text e ∨ AllRead texts ∧ Misread others text e := by
  induction texts with
  | nil => exact .inr ⟨nofun, h⟩
  | cons t texts ih =>
    cases h with
    | here bad => exact .inl (.here bad)
    | later good rest =>
      rcases ih rest with h | ⟨hall, h⟩
      · exact .inl (.later good h)
      · exact .inr ⟨List.forall_mem_cons.mpr ⟨⟨_, good⟩, hall⟩, h⟩

section Decoding

variable {ρ κ α : Type} {op : Operation} {texts : ρ → List String}
  {decode : ρ → Except StoreError α} {rows : List ρ}

/-- **The error of rows is the one of the first text that is no identifier**, if that is so for each
    row by itself. -/
theorem mapM_of_misread
    (good : ∀ row ∈ rows, AllRead (texts row) → ∃ record, decode row = .ok record)
    (bad : ∀ row ∈ rows, ∀ text e, Misread (texts row) text e →
      decode row = .error (.badIdent op text e))
    {text : String} {e : Ident.ReadError} (h : Misread (rows.flatMap texts) text e) :
    rows.mapM decode = .error (.badIdent op text e) := by
  induction rows with
  | nil => cases h
  | cons row rows ih =>
    rw [List.mapM_cons]
    rcases h.append_cases with h | ⟨hall, h⟩
    · rw [bad row List.mem_cons_self text e h]
      rfl
    · obtain ⟨record, hrecord⟩ := good row List.mem_cons_self hall
      rw [hrecord, ih (fun r hr => good r (List.mem_cons_of_mem row hr))
        (fun r hr => bad r (List.mem_cons_of_mem row hr)) h]
      rfl

/-! ## 5. Ranges -/

/-- **What reading a range answers**, from the rows that it selects. A row with a column that cannot
    be read makes the reading itself fail, also behind a text that is no identifier. If all columns
    are read, the first such text is the fault of a cursor that holds nothing; and a cursor holds
    all records if there is no such text. -/
structure RangeRead (op : Operation) (readable : ρ → Prop) (names : ρ → List String)
    (decoded : ρ → Option α) (selected : List ρ) (answer : Except StoreError (Cursor α)) :
    Prop where
  database : ∀ row ∈ selected, ¬readable row →
    ∃ detail, answer = .error (.of op (.database detail))
  invalid : (∀ row ∈ selected, readable row) → ¬AllRead (selected.flatMap names) →
    ∃ text e, Misread (selected.flatMap names) text e ∧ answer = .ok (.failed (.badIdent op text e))
  whole : (∀ row ∈ selected, readable row) → AllRead (selected.flatMap names) →
    ∃ records, answer = .ok (.ofList records) ∧ selected.map decoded = records.map some

/-- **How a row is read**: its columns, if they are readable, and then its texts, which make up its
    record if all of them are identifiers. -/
structure RowRead (op : Operation) (readable : ρ → Prop) (names : ρ → List String)
    (decoded : ρ → Option α) (columns : ρ → Except StoreError κ)
    (decode : κ → Except StoreError α) : Prop where
  unread : ∀ row, ¬readable row → ∃ detail, columns row = .error (.of op (.database detail))
  read : ∀ row, readable row → ∃ c, columns row = .ok c
  good : ∀ row, readable row → AllRead (names row) →
    ∃ record, (columns row >>= decode) = .ok record
  bad : ∀ row, readable row → ∀ text e, Misread (names row) text e →
    (columns row >>= decode) = .error (.badIdent op text e)
  decoded_eq : ∀ row, (columns row >>= decode).toOption = decoded row

namespace RowRead

variable {readable : ρ → Prop} {names : ρ → List String} {decoded : ρ → Option α}
  {columns : ρ → Except StoreError κ} {decode : κ → Except StoreError α}

/-- Rows whose columns can be read make up a cursor, from each row by itself. -/
theorem readRows_of_readable (h : RowRead op readable names decoded columns decode)
    (all : ∀ row ∈ rows, readable row) :
    readRows columns decode rows = .ok (match rows.mapM fun row => columns row >>= decode with
      | .ok records => .ofList records
      | .error e => .failed e) := by
  obtain ⟨read, hread⟩ : ∃ read, rows.mapM columns = .ok read :=
    exists_mapM_of_forall fun row hrow => h.read row (all row hrow)
  rw [readRows, hread, mapM_bind_of_mapM_eq_ok hread, Except.map, cursorOf, List.mapM_map]
  rfl

/-- A row with a column that cannot be read fails the whole reading, before any identifier is looked
    at. -/
theorem readRows_of_not_readable (h : RowRead op readable names decoded columns decode) {row : ρ}
    (hrow : row ∈ rows) (unreadable : ¬readable row) :
    ∃ detail, readRows columns decode rows = .error (.of op (.database detail)) := by
  rw [readRows]
  cases hm : rows.mapM columns with
  | ok read =>
    obtain ⟨i, hi⟩ := List.mem_iff_getElem?.mp hrow
    obtain ⟨c, -, hc⟩ := exists_of_forall₂ (forall₂_of_mapM_eq_ok hm) hi
    obtain ⟨detail, bad⟩ := h.unread row unreadable
    rw [bad] at hc
    cases hc
  | error e =>
    obtain ⟨i, first, -, hfirst, -⟩ := exists_of_mapM_eq_error hm
    by_cases readable_first : readable first
    · obtain ⟨c, hc⟩ := h.read first readable_first
      rw [hc] at hfirst
      cases hfirst
    · obtain ⟨detail, bad⟩ := h.unread first readable_first
      rw [bad] at hfirst
      cases hfirst
      exact ⟨detail, rfl⟩

/-- **Rows are read as a whole or with the error of one of them.** -/
theorem rangeRead (h : RowRead op readable names decoded columns decode) (rows : List ρ) :
    RangeRead op readable names decoded rows (readRows columns decode rows) where
  database _ hrow unreadable := h.readRows_of_not_readable hrow unreadable
  invalid all hnot := by
    obtain ⟨text, e, misread⟩ := exists_misread hnot
    have failed : (rows.mapM fun row => columns row >>= decode) = .error (.badIdent op text e) :=
      mapM_of_misread (fun row hrow => h.good row (all row hrow))
        (fun row hrow => h.bad row (all row hrow)) misread
    exact ⟨text, e, misread, by rw [h.readRows_of_readable all, failed]⟩
  whole all hall := by
    obtain ⟨records, read⟩ : ∃ records, (rows.mapM fun row => columns row >>= decode) =
        .ok records :=
      exists_mapM_of_forall fun row hrow => h.good row (all row hrow) fun text ht =>
        hall text (List.mem_flatMap_of_mem hrow ht)
    refine ⟨records, by rw [h.readRows_of_readable all, read], map_eq_of_mapM_eq_some ?_⟩
    rw [← funext h.decoded_eq, ← toOption_mapM, read]
    rfl

end RowRead

end Decoding

theorem misread_singleton {text bad : String} {e : Ident.ReadError} (h : Misread [text] bad e) :
    text = bad ∧ Ident.parse text = .error e := by
  cases h with
  | here h => exact ⟨rfl, h⟩
  | later _ rest => cases rest

/-! ### Rows of links -/

theorem linkColumns_of_readable (op : Operation) {row : LinkRow} (h : row.Readable) :
    ∃ (id url : String) (t : Stamp), linkColumns op row = .ok ⟨id, url, t⟩ ∧ row.names = [id] := by
  obtain ⟨_, _, _⟩ := row
  obtain ⟨⟨id, rfl⟩, ⟨url, rfl⟩, t, rfl⟩ := h
  refine ⟨id, url, t, ?_, ?_⟩
  · simp only [linkColumns, readText_ofString, readTime]
    rfl
  · simp only [LinkRow.names, List.filterMap_cons, Stored.text?_ofString, List.filterMap_nil]

theorem rowRead_link (op : Operation) :
    RowRead op LinkRow.Readable LinkRow.names LinkRow.link? (linkColumns op) (decodeLink op) where
  unread _ h := linkColumns_of_not_readable h
  read row h := by
    obtain ⟨id, url, t, hread, -⟩ := linkColumns_of_readable op h
    exact ⟨_, hread⟩
  good row h hall := by
    obtain ⟨id, url, t, hread, hnames⟩ := linkColumns_of_readable op h
    obtain ⟨ident, hid⟩ := hall id (by rw [hnames]; exact List.mem_cons_self)
    rw [hread]
    change ∃ record, decodeLink op ⟨id, url, t⟩ = .ok record
    rw [decodeLink, decodeIdent, hid]
    exact ⟨_, rfl⟩
  bad row h text e hbad := by
    obtain ⟨id, url, t, hread, hnames⟩ := linkColumns_of_readable op h
    rw [hnames] at hbad
    obtain ⟨rfl, bad⟩ := misread_singleton hbad
    rw [hread]
    change decodeLink op ⟨id, url, t⟩ = _
    rw [decodeLink, decodeIdent, bad]
    rfl
  decoded_eq := toOption_linkColumns op

/-! ### Rows of edges -/

theorem edgeColumns_of_readable (op : Operation) {row : EdgeRow} (h : row.Readable) :
    ∃ (id src dst : String) (t : Stamp),
      edgeColumns op row = .ok ⟨id, src, dst, t⟩ ∧ row.names = [id, src, dst] := by
  obtain ⟨_, _, _, _, _⟩ := row
  obtain ⟨⟨id, rfl⟩, ⟨src, rfl⟩, ⟨dst, rfl⟩, t, rfl⟩ := h
  refine ⟨id, src, dst, t, ?_, ?_⟩
  · simp only [edgeColumns, readText_ofString, readTime]
    rfl
  · simp only [EdgeRow.names, List.filterMap_cons, Stored.text?_ofString, List.filterMap_nil]

theorem exists_decodeEdge {op : Operation} {id src dst : String} {t : Stamp}
    (h : AllRead [id, src, dst]) : ∃ edge, decodeEdge op ⟨id, src, dst, t⟩ = .ok edge := by
  obtain ⟨id', hid⟩ := h id (by simp)
  obtain ⟨src', hsrc⟩ := h src (by simp)
  obtain ⟨dst', hdst⟩ := h dst (by simp)
  unfold decodeEdge decodeIdent
  dsimp only
  rw [hid, hsrc, hdst]
  exact ⟨_, rfl⟩

/-- The texts of an edge are read in the order of its columns. -/
theorem decodeEdge_of_misread {op : Operation} {id src dst : String} {t : Stamp} {text : String}
    {e : Ident.ReadError} (h : Misread [id, src, dst] text e) :
    decodeEdge op ⟨id, src, dst, t⟩ = .error (.badIdent op text e) := by
  unfold decodeEdge decodeIdent
  dsimp only
  cases h with
  | here bad =>
    rw [bad]
    rfl
  | later good rest =>
    rw [good]
    cases rest with
    | here bad =>
      rw [bad]
      rfl
    | later good rest =>
      rw [good]
      obtain ⟨rfl, bad⟩ := misread_singleton rest
      rw [bad]
      rfl

theorem rowRead_edge (op : Operation) :
    RowRead op EdgeRow.Readable EdgeRow.names EdgeRow.edge? (edgeColumns op) (decodeEdge op) where
  unread _ h := edgeColumns_of_not_readable h
  read row h := by
    obtain ⟨id, src, dst, t, hread, -⟩ := edgeColumns_of_readable op h
    exact ⟨_, hread⟩
  good row h hall := by
    obtain ⟨id, src, dst, t, hread, hnames⟩ := edgeColumns_of_readable op h
    rw [hread]
    exact exists_decodeEdge (hnames ▸ hall)
  bad row h text e hbad := by
    obtain ⟨id, src, dst, t, hread, hnames⟩ := edgeColumns_of_readable op h
    rw [hread]
    exact decodeEdge_of_misread (hnames ▸ hbad)
  decoded_eq := toOption_edgeColumns op

/-! ### Both tables -/

/-- **A range of any rows is read as a whole or with the error of one of its rows.** -/
theorem rangeRead_of_any_rows (links : List LinkRow) (edges : List EdgeRow) (start stop : Ident)
    (before : Stamp) :
    (∃ selected, Selected links (LinkInside start stop before)
        (fun a b => a.id.textBytes ≤ b.id.textBytes) selected ∧
      RangeRead .links LinkRow.Readable LinkRow.names LinkRow.link? selected
        (LinkStore.links (⟨some links, some edges⟩ : Tables) start stop before)) ∧
    ∃ selected, Selected edges (EdgeInside start stop before)
        (fun a b => a.src.textBytes < b.src.textBytes ∨
          (a.src.textBytes = b.src.textBytes ∧ a.rowid ≤ b.rowid)) selected ∧
      RangeRead .edges EdgeRow.Readable EdgeRow.names EdgeRow.edge? selected
        (LinkStore.edges (⟨some links, some edges⟩ : Tables) start stop before) :=
  ⟨⟨_, selected_linkRows links start stop before, (rowRead_link .links).rangeRead _⟩,
    ⟨_, selected_edgeRows edges start stop before, (rowRead_edge .edges).rangeRead _⟩⟩

/-- An edge without an identifier has a time, and yet no range that it is in can be read. -/
theorem unread_of_nameless_edge :
    let row : EdgeRow := ⟨1, .null, (Ident.ofNat 1).text, (Ident.ofNat 2).text, .int 5⟩
    let t : Tables := ⟨some [], some [row]⟩
    t.Keyed ∧ EdgeInside .nil .max 9 row ∧
      LinkStore.edges t .nil .max 9 = .error (badKind .edges 0 "id" .null) := by
  intro row t
  have keyed : t.Keyed :=
    ⟨by decide +kernel, by decide +kernel, by decide +kernel, by decide +kernel⟩
  have early : row.updatedAt.isBefore 9 = true := by decide
  have within : TextInside .nil .max row.src :=
    (isWithin_iff row.src .nil .max).mp (by decide +kernel)
  have selected : edgeRows [row] .nil .max 9 = [row] := by
    decide +kernel
  refine ⟨keyed, ⟨within, (Stored.isBefore_iff _ _).mp early⟩, ?_⟩
  change readRows (edgeColumns .edges) (decodeEdge .edges) (edgeRows [row] .nil .max 9) = _
  rw [selected]
  rfl

end Tables

end CrawlGraph
