import CrawlGraph.Proofs.Json.RoundTrip
import CrawlGraph.Proofs.Text.ByteOrder
import CrawlGraph.Tables.Saved

/-!
# Tables read back from a file

The bytes in which two tables are kept say all of their rows.

1. Rows are written without a line end (`newline_notMem_compact`), so that the lines of a file come
   apart again.
2. Each row reads back from its line (`takeRow?_savedLink`, `takeRow?_savedEdge`).
3. `ofBytes?_toBytes`.
-/

namespace CrawlGraph.Json

open CrawlGraph.Text

/-! ## 1. Lines -/

theorem newline_notMem_hexDigit :
    ∀ n < 32, hexDigit (n / 16) ≠ '\n' ∧ hexDigit (n % 16) ≠ '\n' := by
  decide

theorem newline_notMem_escapedChar (c : Char) : '\n' ∉ escapedChar c := by
  unfold escapedChar
  split
  case h_8 newline _ _ =>
    split
    case isTrue control =>
      obtain ⟨high, low⟩ := newline_notMem_hexDigit c.toNat control
      simp [high.symm, low.symm]
    case isFalse => exact fun h => newline (List.mem_singleton.mp h).symm
  all_goals decide

theorem newline_notMem_stringText (s : String) : '\n' ∉ stringText s := by
  have inside : '\n' ∉ escaped s.toList := by
    intro h
    obtain ⟨c, -, hc⟩ := List.mem_flatMap.mp h
    exact newline_notMem_escapedChar c hc
  simp [stringText, inside]

theorem newline_notMem_json (a : Atom) : '\n' ∉ a.json := by
  cases a with
  | text s => exact newline_notMem_stringText s
  | integer n =>
    have digits : '\n' ∉ decimal n.natAbs := fun h => absurd (isDigit_of_mem_decimal h) (by decide)
    rw [Atom.json, integerText]
    split <;> simp [digits]

/-- **A row is written on one line.** -/
theorem newline_notMem_compact (row : Row) : '\n' ∉ compact row := by
  have members : '\n' ∉ [','].intercalate (row.map fun m => stringText m.1 ++ ':' :: m.2.json) := by
    intro h
    rcases mem_intercalate h with comma | ⟨text, htext, h⟩
    · revert comma
      decide
    · obtain ⟨m, -, rfl⟩ := List.mem_map.mp htext
      simp [newline_notMem_stringText, newline_notMem_json] at h
  simp [compact, members]

end CrawlGraph.Json

namespace CrawlGraph.Tables

open CrawlGraph.Json

/-! ## 2. Rows -/

/-- Members are found by exactly their names. -/
theorem exactFields?_row (names : List String) (row : Row) :
    exactFields? names (.object (row.map memberOf)) =
      if row.map Prod.fst = names then some (row.map fun m => m.2.value) else none := by
  have same : (row.map memberOf).map (·.1) = names.map (fun name => some name.toList) ↔
      row.map Prod.fst = names := by
    have injective : Function.Injective fun name : String => some name.toList :=
      fun a b h => String.toList_inj.mp (Option.some.inj h)
    rw [← List.map_injective_iff.mpr injective |>.eq_iff, List.map_map, List.map_map]
    rfl
  simp only [exactFields?, same]
  simp [memberOf, Function.comp_def]

theorem exactFields?_of_names {names : List String} {row : Row} (h : row.map Prod.fst = names) :
    exactFields? names (.object (row.map memberOf)) = some (row.map fun m => m.2.value) := by
  rw [exactFields?_row, if_pos h]

theorem integerOf?_integer (n : Int) : integerOf? (Atom.integer n).value = some n :=
  integer?_integerText n

theorem ofNat_toNat_ofNat (b : UInt8) : UInt8.ofNat (Char.ofNat b.toNat).toNat = b := by
  have valid : b.toNat.isValidChar := .inl (by have := b.toNat_lt; omega)
  rw [Char.toNat_ofNat, if_pos valid, UInt8.ofNat_toNat]

theorem bytesOf_charsOf (bytes : List UInt8) : bytesOf (charsOf bytes) = bytes := by
  simp [bytesOf, charsOf, Function.comp_def, ofNat_toNat_ofNat]

/-- The values of the members for a value, from which it is read back. -/
theorem exists_cell (column : String) (value : Stored) :
    ∃ kind content : Atom, cell column value = (cellNames column).zip [kind, content] ∧
      readCell? kind.value content.value = some value := by
  cases value with
  | null => exact ⟨_, _, rfl, by simp [readCell?, text?_text]⟩
  | int value => exact ⟨_, _, rfl, by simp [readCell?, text?_text, stamp?_integer]⟩
  | text bytes => exact ⟨_, _, rfl, by simp [readCell?, text?_text, bytesOf_charsOf]⟩
  | blob bytes => exact ⟨_, _, rfl, by simp [readCell?, text?_text, bytesOf_charsOf]⟩
  | real value =>
    cases value with
    | finite mantissa exponent =>
      refine ⟨_, _, rfl, ?_⟩
      change (integerOf? (Atom.integer mantissa).value).bind _ = _
      simp [integerOf?_integer]
    | infinite negative =>
      cases negative <;> exact ⟨_, _, rfl, by simp [readCell?, isWord, text?_text]⟩

/-- **A row of links reads back.** -/
theorem readLinkRow?_saved (row : LinkRow) :
    readLinkRow? (.object ((savedLink row).map memberOf)) = some row := by
  obtain ⟨idKind, id, hid, readId⟩ := exists_cell "link" row.id
  obtain ⟨urlKind, url, hurl, readUrl⟩ := exists_cell "url" row.url
  obtain ⟨timeKind, time, htime, readTime⟩ := exists_cell "time" row.retrievedAt
  have names : (savedLink row).map Prod.fst =
      cellNames "link" ++ cellNames "url" ++ cellNames "time" := by
    rw [savedLink, hid, hurl, htime]
    rfl
  rw [readLinkRow?, exactFields?_of_names names, savedLink, hid, hurl, htime]
  change (readCell? idKind.value id.value).bind _ = _
  simp [readId, readUrl, readTime]

/-- **A row of edges reads back**, and not as one of links. -/
theorem readEdgeRow?_saved (row : EdgeRow) :
    readLinkRow? (.object ((savedEdge row).map memberOf)) = none ∧
      readEdgeRow? (.object ((savedEdge row).map memberOf)) = some row := by
  obtain ⟨idKind, id, hid, readId⟩ := exists_cell "edge" row.id
  obtain ⟨srcKind, src, hsrc, readSrc⟩ := exists_cell "src" row.src
  obtain ⟨dstKind, dst, hdst, readDst⟩ := exists_cell "dst" row.dst
  obtain ⟨timeKind, time, htime, readTime⟩ := exists_cell "time" row.updatedAt
  have names : (savedEdge row).map Prod.fst = "number" :: (cellNames "edge" ++ cellNames "src" ++
      cellNames "dst" ++ cellNames "time") := by
    rw [savedEdge, hid, hsrc, hdst, htime]
    rfl
  constructor
  · rw [readLinkRow?, exactFields?_row, names, if_neg (by decide)]
    rfl
  · rw [readEdgeRow?, exactFields?_of_names names, savedEdge, hid, hsrc, hdst, htime]
    change (integerOf? (Atom.integer row.rowid).value).bind _ = _
    simp [integerOf?_integer, readId, readSrc, readDst, readTime]

/-! ## 3. Files -/

theorem takeRow?_savedLink (t : Tables) (row : LinkRow) :
    takeRow? t (compact (savedLink row)) =
      some { t with links := some (t.links.getD [] ++ [row]) } := by
  simp [takeRow?, (parse?_row (savedLink row)).1, readLinkRow?_saved]

theorem takeRow?_savedEdge (t : Tables) (row : EdgeRow) :
    takeRow? t (compact (savedEdge row)) =
      some { t with edges := some (t.edges.getD [] ++ [row]) } := by
  simp [takeRow?, (parse?_row (savedEdge row)).1, readEdgeRow?_saved]

theorem foldlM_savedLinks (t : Tables) (rows : List LinkRow) :
    (rows.map fun r => compact (savedLink r)).foldlM takeRow? ⟨some (t.links.getD []), t.edges⟩ =
      some ⟨some (t.links.getD [] ++ rows), t.edges⟩ := by
  induction rows generalizing t with
  | nil => simp
  | cons row rows ih =>
    have rest := ih ⟨some (t.links.getD [] ++ [row]), t.edges⟩
    rw [List.map_cons, List.foldlM_cons, takeRow?_savedLink]
    simpa using rest

theorem foldlM_savedEdges (t : Tables) (rows : List EdgeRow) :
    (rows.map fun r => compact (savedEdge r)).foldlM takeRow? ⟨t.links, some (t.edges.getD [])⟩ =
      some ⟨t.links, some (t.edges.getD [] ++ rows)⟩ := by
  induction rows generalizing t with
  | nil => simp
  | cons row rows ih =>
    have rest := ih ⟨t.links, some (t.edges.getD [] ++ [row])⟩
    rw [List.map_cons, List.foldlM_cons, takeRow?_savedEdge]
    simpa using rest

/-- **The lines of a file read back.** -/
theorem ofSavedText?_savedLines {t : Tables} (complete : t.completed = t) :
    ofSavedText? (t.savedLines.flatMap (· ++ ['\n'])) = some t := by
  have lines : ∀ line ∈ t.savedLines, '\n' ∉ line := by
    intro line hline
    rcases List.mem_append.mp hline with h | h
    · rcases List.mem_cons.mp h with rfl | h
      · decide
      · obtain ⟨r, -, rfl⟩ := List.mem_map.mp h
        exact newline_notMem_compact _
    · obtain ⟨r, -, rfl⟩ := List.mem_map.mp h
      exact newline_notMem_compact _
  rw [ofSavedText?, Text.splitOn_lines lines, savedLines, List.cons_append, List.cons_append]
  dsimp only
  rw [if_pos ⟨rfl, by simp⟩, List.dropLast_concat, List.foldlM_append]
  have links := foldlM_savedLinks Tables.empty (t.links.getD [])
  have edges := foldlM_savedEdges ⟨some (t.links.getD []), some []⟩ (t.edges.getD [])
  rw [show Tables.empty = ⟨some (Tables.empty.links.getD []), Tables.empty.edges⟩ from rfl, links]
  exact edges.trans (congrArg some complete)

theorem utf8_ne_nil (c : Char) (cs : List Char) : Text.bytes (String.ofList (c :: cs)) ≠ [] := by
  rw [Text.bytes_eq_flatMap, String.toList_ofList, List.flatMap_cons]
  exact List.append_ne_nil_of_left_ne_nil String.utf8EncodeChar_ne_nil _

/-- **What is kept in a file reads back**, as long as both tables are there. -/
theorem ofBytes?_toBytes {t : Tables} (complete : t.completed = t) :
    ofBytes? t.toBytes = some t := by
  have filled : t.toBytes ≠ [] := utf8_ne_nil _ _
  rw [ofBytes?, if_neg filled, toBytes, Text.ofBytes?_bytes, Option.bind_some,
    String.toList_ofList, ofSavedText?_savedLines complete]

end CrawlGraph.Tables
