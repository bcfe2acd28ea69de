import CrawlGraph.Proofs.Ident.Canonical
import CrawlGraph.Proofs.Results
import CrawlGraph.Proofs.Sorting
import CrawlGraph.Proofs.Text.ByteOrder
import CrawlGraph.Scan.Stats
import CrawlGraph.Tables.Store

/-!
# What reading tables gives

The tables may hold any rows, among them such that are no records. This module says which records a
range gives if it gives records at all; which error comes out otherwise is left open.

1. `LinkRow.link?` and `EdgeRow.edge?`, the record that a row is.
2. Reading a range gives the records of its rows, all or none: `toOption_linksIn` and
   `toOption_edgesIn`.
3. The rows of two ranges side by side are the rows of both: `linkRows_append` and
   `edgeRows_append`.
-/

namespace CrawlGraph

/-! ## 1. The records that rows are -/

/-- The canonical row of a link. -/
def LinkRow.of (link : Link) : LinkRow := ⟨link.id.text, link.url, link.retrievedAt⟩

/-- The link that a row is, if it is one. -/
def LinkRow.link? (row : LinkRow) : Option Link := do
  let text ← row.id.text?
  let url ← row.url.text?
  let retrievedAt ← row.retrievedAt.stamp?
  let id ← (Ident.parse text).toOption
  pure ⟨id, url, retrievedAt⟩

/-- The canonical row of an edge with its number. -/
def EdgeRow.of (e : Nat × Edge) : EdgeRow :=
  ⟨e.1, e.2.id.text, e.2.src.text, e.2.dst.text, e.2.updatedAt⟩

/-- The edge that a row is, if it is one. -/
def EdgeRow.edge? (row : EdgeRow) : Option Edge := do
  let id ← row.id.text?
  let src ← row.src.text?
  let dst ← row.dst.text?
  let updatedAt ← row.updatedAt.stamp?
  let id ← (Ident.parse id).toOption
  let src ← (Ident.parse src).toOption
  let dst ← (Ident.parse dst).toOption
  pure ⟨id, src, dst, updatedAt⟩

@[simp] theorem LinkRow.link?_of (link : Link) : (LinkRow.of link).link? = some link := by
  simp only [LinkRow.link?, LinkRow.of, Stored.text?_ofString, Stored.stamp?, Ident.parse_text,
    Except.toOption, Option.bind_eq_bind, Option.bind_some, Option.pure_def]

@[simp] theorem EdgeRow.edge?_of (e : Nat × Edge) : (EdgeRow.of e).edge? = some e.2 := by
  simp only [EdgeRow.edge?, EdgeRow.of, Stored.text?_ofString, Stored.stamp?, Ident.parse_text,
    Except.toOption, Option.bind_eq_bind, Option.bind_some, Option.pure_def]

theorem LinkRow.of_injective : Function.Injective LinkRow.of := by
  intro a b h
  have hlink := congrArg LinkRow.link? h
  rwa [link?_of, link?_of, Option.some.injEq] at hlink

theorem EdgeRow.of_injective : Function.Injective EdgeRow.of := by
  intro a b h
  have hrowid : a.1 = b.1 := congrArg EdgeRow.rowid h
  have hedge := congrArg EdgeRow.edge? h
  rw [edge?_of, edge?_of, Option.some.injEq] at hedge
  exact Prod.ext hrowid hedge

/-- A text lies in a range of texts as it does in their order. -/
theorem Stored.isWithin_ofString (s start stop : String) :
    (ofString s).isWithin start stop = decide (start ≤ s ∧ s < stop) := by
  rw [ofString, isWithin, decide_eq_decide, Text.bytes_le_iff, Text.bytes_lt_iff]

namespace Tables

/-! ## 2. Rows as records -/

theorem collect_cursorOf {α : Type} (rows : List (Except StoreError α)) :
    (cursorOf rows).collect = rows.mapM id := by
  unfold cursorOf
  cases rows.mapM id with
  | ok records => exact Cursor.collect_ofList records
  | error e => exact Cursor.collect_failed e

/-- Reading rows gives the record of each, if the columns of a row are decoded to its record. -/
theorem toOption_readRows {ρ κ α : Type} {columns : ρ → Except StoreError κ}
    {decode : κ → Except StoreError α} {record? : ρ → Option α}
    (decoded : ∀ row, (columns row >>= decode).toOption = record? row) (rows : List ρ) :
    (readRows columns decode rows >>= Cursor.collect).toOption = rows.mapM record? := by
  have hrow : record? = fun row => (columns row).toOption.bind fun c => (decode c).toOption := by
    funext row
    rw [← decoded, toOption_bind]
  rw [hrow, ← bind_mapM_mapM, ← toOption_mapM, readRows]
  cases rows.mapM columns with
  | error e => rfl
  | ok read =>
    change ((cursorOf _).collect).toOption = _
    rw [collect_cursorOf, List.mapM_map, toOption_mapM]
    rfl

theorem toOption_readText (op : Operation) (index : Nat) (name : String) (value : Stored) :
    (readText op index name value).toOption = value.text? := by
  unfold readText
  cases value with
  | text bytes =>
    rw [Stored.text?]
    dsimp only
    cases Text.ofBytes? bytes <;> rfl
  | _ => rfl

theorem toOption_readTime (op : Operation) (index : Nat) (name : String) (value : Stored) :
    (readTime op index name value).toOption = value.stamp? := by
  cases value <;> rfl

theorem toOption_decodeIdent (op : Operation) (text : String) :
    (decodeIdent op text).toOption = (Ident.parse text).toOption := by
  unfold decodeIdent
  cases Ident.parse text <;> rfl

/-- The columns of a row of links make up the link that it is. -/
theorem toOption_linkColumns (op : Operation) (row : LinkRow) :
    (linkColumns op row >>= decodeLink op).toOption = row.link? := by
  simp only [linkColumns, decodeLink, LinkRow.link?, toOption_bind, toOption_map, toOption_pure,
    toOption_readText, toOption_readTime, toOption_decodeIdent, Option.bind_eq_bind,
    Option.bind_assoc, Option.bind_some, Option.map_eq_bind, Option.pure_def, Function.comp_def]

/-- The columns of a row of edges make up the edge that it is. -/
theorem toOption_edgeColumns (op : Operation) (row : EdgeRow) :
    (edgeColumns op row >>= decodeEdge op).toOption = row.edge? := by
  simp only [edgeColumns, decodeEdge, EdgeRow.edge?, toOption_bind, toOption_pure,
    toOption_readText, toOption_readTime, toOption_decodeIdent, Option.bind_eq_bind,
    Option.bind_assoc, Option.bind_some, Option.pure_def]

/-- **Reading links gives the records of the rows in the range, all or none.** -/
theorem toOption_linksIn (t : Tables) (start stop : Ident) (before : Stamp) :
    (Scan.linksIn t start stop before).toOption =
      t.links.bind fun rows => (linkRows rows start stop before).mapM LinkRow.link? := by
  change (linksIn t start stop before >>= Cursor.collect).toOption = _
  unfold linksIn
  cases t.links with
  | none => rfl
  | some rows => exact toOption_readRows (toOption_linkColumns .links) _

/-- **Reading edges gives the records of the rows in the range, all or none.** -/
theorem toOption_edgesIn (t : Tables) (start stop : Ident) (before : Stamp) :
    (Scan.edgesIn t start stop before).toOption =
      t.edges.bind fun rows => (edgeRows rows start stop before).mapM EdgeRow.edge? := by
  change (edgesIn t start stop before >>= Cursor.collect).toOption = _
  unfold edgesIn
  cases t.edges with
  | none => rfl
  | some rows => exact toOption_readRows (toOption_edgeColumns .edges) _

/-! ## 3. Ranges side by side -/

theorem linkRow_trans (a b c : LinkRow) :
    decide (a.id.textBytes ≤ b.id.textBytes) = true →
    decide (b.id.textBytes ≤ c.id.textBytes) = true →
    decide (a.id.textBytes ≤ c.id.textBytes) = true := by
  simp only [decide_eq_true_eq]
  exact List.le_trans

theorem linkRow_total (a b : LinkRow) :
    (decide (a.id.textBytes ≤ b.id.textBytes) || decide (b.id.textBytes ≤ a.id.textBytes)) =
      true := by
  simp only [Bool.or_eq_true, decide_eq_true_eq]
  exact List.le_total _ _

theorem edgeRow_trans (a b c : EdgeRow) :
    decide (a.src.textBytes < b.src.textBytes ∨
      (a.src.textBytes = b.src.textBytes ∧ a.rowid ≤ b.rowid)) = true →
    decide (b.src.textBytes < c.src.textBytes ∨
      (b.src.textBytes = c.src.textBytes ∧ b.rowid ≤ c.rowid)) = true →
    decide (a.src.textBytes < c.src.textBytes ∨
      (a.src.textBytes = c.src.textBytes ∧ a.rowid ≤ c.rowid)) = true := by
  simp only [decide_eq_true_eq]
  intro h h'
  rcases h with hab | ⟨hab, hn⟩
  · rcases h' with hbc | ⟨hbc, -⟩
    · exact .inl (List.lt_trans hab hbc)
    · exact .inl (hbc ▸ hab)
  · rcases h' with hbc | ⟨hbc, hm⟩
    · exact .inl (hab ▸ hbc)
    · exact .inr ⟨hab.trans hbc, hn.trans hm⟩

theorem edgeRow_total (a b : EdgeRow) :
    (decide (a.src.textBytes < b.src.textBytes ∨
        (a.src.textBytes = b.src.textBytes ∧ a.rowid ≤ b.rowid)) ||
      decide (b.src.textBytes < a.src.textBytes ∨
        (b.src.textBytes = a.src.textBytes ∧ b.rowid ≤ a.rowid))) = true := by
  simp only [Bool.or_eq_true, decide_eq_true_eq]
  by_cases hlt : a.src.textBytes < b.src.textBytes
  · exact .inl (.inl hlt)
  · rcases List.le_iff_lt_or_eq.mp (List.not_lt.mp hlt) with hgt | heq
    · exact .inr (.inl hgt)
    · rcases Nat.le_total a.rowid b.rowid with hn | hn
      · exact .inl (.inr ⟨heq.symm, hn⟩)
      · exact .inr (.inr ⟨heq, hn⟩)

variable {a b c : Ident}

/-- Where a range of texts is cut, its texts fall into the two parts by where they stand. -/
theorem isWithin_cut (hab : a ≤ b) (hbc : b ≤ c) (value : Stored) :
    (decide (value.textBytes < Text.bytes b.text) && value.isWithin a.text c.text) =
        value.isWithin a.text b.text ∧
      (!decide (value.textBytes < Text.bytes b.text) && value.isWithin a.text c.text) =
        value.isWithin b.text c.text := by
  have hab' := Text.bytes_le_iff.mpr (Ident.text_le_iff.mpr hab)
  have hbc' := Text.bytes_le_iff.mpr (Ident.text_le_iff.mpr hbc)
  cases value with
  | text bytes =>
    have within : ∀ start stop : Ident, (Stored.text bytes).isWithin start.text stop.text = true ↔
        Text.bytes start.text ≤ bytes ∧ bytes < Text.bytes stop.text :=
      fun _ _ => decide_eq_true_iff
    constructor
    · rw [Bool.eq_iff_iff, Bool.and_eq_true, decide_eq_true_iff, within, within]
      exact ⟨fun h => ⟨h.2.1, h.1⟩, fun h => ⟨h.2, h.1,
        List.not_le.mp fun hle => hbc' (List.lt_of_le_of_lt hle h.2)⟩⟩
    · rw [Bool.eq_iff_iff, Bool.and_eq_true, Bool.not_eq_true', decide_eq_false_iff_not,
        List.not_lt, within, within]
      exact ⟨fun h => ⟨h.1, h.2.2⟩, fun h => ⟨h.1, List.le_trans hab' h.1, h.2⟩⟩
  | _ => exact ⟨Bool.and_false _, Bool.and_false _⟩

/-- Rows sorted by a text, among other things, can be read in two ranges side by side. -/
theorem sorted_append {ρ : Type} {le : ρ → ρ → Bool} (trans : ∀ x y z, le x y → le y z → le x z)
    (total : ∀ x y, le x y || le y x) (key : ρ → Stored)
    (key_le : ∀ x y, le x y = true → (key x).textBytes ≤ (key y).textBytes) (timed : ρ → Bool)
    (hab : a ≤ b) (hbc : b ≤ c) (rows : List ρ) :
    (rows.filter fun r => (key r).isWithin a.text c.text && timed r).mergeSort le =
      (rows.filter fun r => (key r).isWithin a.text b.text && timed r).mergeSort le ++
        (rows.filter fun r => (key r).isWithin b.text c.text && timed r).mergeSort le := by
  rw [mergeSort_cut trans total (p := fun r => decide ((key r).textBytes < Text.bytes b.text)),
    List.filter_filter, List.filter_filter]
  · simp only [← Bool.and_assoc, (isWithin_cut hab hbc _).1, (isWithin_cut hab hbc _).2]
  · intro x _ y _ hy hxy
    simp only [decide_eq_true_eq] at hy ⊢
    exact List.lt_of_le_of_lt (key_le x y hxy) hy

/-- The link rows of two ranges side by side, one range after the other. -/
theorem linkRows_append (rows : List LinkRow) (hab : a ≤ b) (hbc : b ≤ c) (before : Stamp) :
    linkRows rows a c before = linkRows rows a b before ++ linkRows rows b c before :=
  sorted_append linkRow_trans linkRow_total (·.id) (fun _ _ h => of_decide_eq_true h)
    (fun r => r.retrievedAt.isBefore before) hab hbc rows

/-- The edge rows of two ranges side by side, one range after the other. -/
theorem edgeRows_append (rows : List EdgeRow) (hab : a ≤ b) (hbc : b ≤ c) (before : Stamp) :
    edgeRows rows a c before = edgeRows rows a b before ++ edgeRows rows b c before := by
  refine sorted_append edgeRow_trans edgeRow_total (·.src) (fun x y h => ?_)
    (fun r => r.updatedAt.isBefore before) hab hbc rows
  rcases of_decide_eq_true h with hlt | ⟨heq, -⟩
  · exact List.le_of_lt hlt
  · exact heq ▸ List.le_refl _

end Tables

end CrawlGraph
