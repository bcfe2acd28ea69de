import CrawlGraph.Proofs.Ident.Canonical
import CrawlGraph.Proofs.Json.Written
import CrawlGraph.Proofs.Results

/-!
# Records read back

A link and an edge read back from their JSON texts, and so a text that was read and written once
does not change any more.

1. The members of a row are found by their names (`fields?_object`).
2. What is written as a value reads back (`linkOf?_row`, `edgeOf?_row`).
3. Canonical texts of identifiers.
4. `RoundTrip`, and `links_and_edges_read_back`.
-/

namespace CrawlGraph.Json

open CrawlGraph.Text

/-! ## 1. Members by name -/

/-- A member is the only one with its name. -/
theorem filter_memberOf {row : Row} (distinct : (row.map Prod.fst).Nodup) {m : String × Atom}
    (h : m ∈ row) : (row.map memberOf).filter (fun x => x.1 == some m.1.toList) = [memberOf m] := by
  induction row with
  | nil => cases h
  | cons first row ih =>
    rw [List.map_cons, List.nodup_cons] at distinct
    obtain ⟨new, distinct⟩ := distinct
    have named : ∀ x : String × Atom, ((memberOf x).1 == some m.1.toList) = decide (x.1 = m.1) := by
      intro x
      rw [Bool.eq_iff_iff, beq_iff_eq, decide_eq_true_eq, memberOf, Option.some.injEq,
        String.toList_inj]
    rw [List.map_cons, List.filter_cons, named]
    rcases List.mem_cons.mp h with rfl | h
    · have others : (row.map memberOf).filter (fun x => x.1 == some m.1.toList) = [] := by
        rw [List.filter_eq_nil_iff]
        rintro _ hx same
        obtain ⟨x, mem, rfl⟩ := List.mem_map.mp hx
        rw [named, decide_eq_true_eq] at same
        exact new (List.mem_map.mpr ⟨x, mem, same⟩)
      rw [others, if_pos (by simp)]
    · have other : first.1 ≠ m.1 := fun e => new (e ▸ List.mem_map_of_mem h)
      rw [if_neg (by simpa using other), ih distinct h]

/-- **The values of a row are found by their names.** -/
theorem fields?_object (row : Row) (distinct : (row.map Prod.fst).Nodup) :
    Value.fields? (row.map Prod.fst) (.object (row.map memberOf)) =
      some (row.map fun m => m.2.value) := by
  have named : (row.map memberOf).all (·.1.isSome) = true := by
    simp [memberOf]
  rw [Value.fields?, if_pos named, mapM_eq_some_iff, List.map_map, List.map_map]
  refine List.map_congr_left fun m hm => ?_
  rw [Function.comp_apply, filter_memberOf distinct hm]
  rfl

/-! ## 2. Records -/

theorem ident?_text (id : Ident) : (Atom.text id.text).value.ident? = some id := by
  rw [Atom.value, Value.ident?, Ident.text, String.toList_ofList, Option.bind_some,
    Ident.read?_canonical]

theorem text?_text (s : String) : (Atom.text s).value.text? = some s := by
  rw [Atom.value, Value.text?, Option.map_some, String.ofList_toList]

theorem ofInt?_toInt (t : Stamp) : Stamp.ofInt? t.toInt = some t := by
  rw [Stamp.ofInt?, if_pos ⟨Int64.minValue_le_toInt t, Int64.toInt_le t⟩, Int64.ofInt_toInt]

theorem stamp?_integer (t : Stamp) : (Atom.integer t.toInt).value.stamp? = some t := by
  rw [Atom.value, Value.stamp?, integer?_integerText, Option.bind_some, ofInt?_toInt]

/-- **A link is what the value of its row describes.** -/
theorem linkOf?_row (link : Link) :
    linkOf? (.object ((linkRow link).map memberOf)) = some link := by
  have fields := fields?_object (linkRow link) (by simp [linkRow])
  simp only [linkRow, List.map_cons, List.map_nil] at fields ⊢
  simp [linkOf?, fields, ident?_text, text?_text, stamp?_integer]

/-- **An edge is what the value of its row describes.** -/
theorem edgeOf?_row (edge : Edge) :
    edgeOf? (.object ((edgeRow edge).map memberOf)) = some edge := by
  have fields := fields?_object (edgeRow edge) (by simp [edgeRow])
  simp only [edgeRow, List.map_cons, List.map_nil] at fields ⊢
  simp [edgeOf?, fields, ident?_text, stamp?_integer]

/-! ## 3. Identifiers -/

/-- Whether a text has the canonical form of an identifier: hyphens part lower-case digits. -/
structure IsCanonical (cs : List Char) : Prop where
  groups : (cs.splitOn '-').map List.length = Ident.groupLengths
  digits : ∀ c ∈ cs, c = '-' ∨ ∃ n < 16, c = hexDigit n

theorem mem_of_mem_groups {ns : List Nat} {cs g : List Char} {c : Char} (hc : c ∈ g)
    (hg : g ∈ Ident.groups ns cs) : c ∈ cs := by
  induction ns generalizing cs with
  | nil => cases hg
  | cons n ns ih =>
    rcases List.mem_cons.mp hg with rfl | hg
    · exact List.mem_of_mem_take hc
    · exact List.mem_of_mem_drop (ih hg)

theorem isCanonical_canonical (id : Ident) : IsCanonical id.canonical where
  groups := by
    rw [id.splitOn_canonical, Ident.map_length_groups id.length_hexDigits_groups]
  digits c hc := by
    rcases mem_intercalate hc with hyphen | ⟨g, hg, hc⟩
    · exact .inl (List.mem_singleton.mp hyphen)
    · obtain ⟨n, hn, rfl⟩ := List.mem_map.mp (mem_of_mem_groups hc hg)
      exact .inr ⟨n, Ident.lt_of_mem_nibbles hn, rfl⟩

/-! ## 4. Records and their texts -/

/-- The two texts of a row: over one line, and over several ones. -/
def texts (row : Row) : List String := [String.ofList (compact row), String.ofList (pretty row)]

/-- The texts of the record that was read from a text. -/
def rewritten? {α : Type} (row : α → Row) (read? : String → Option α) (text : String) :
    Option (List String) :=
  (read? text).map fun r => texts (row r)

/-- **A kind of record keeps what is written of it.** -/
structure RoundTrip {α : Type} (row : α → Row) (read? : String → Option α)
    (idents : α → List (String × Ident)) : Prop where
  /-- Every record reads back from both of its texts. -/
  back : ∀ r, ∀ text ∈ texts (row r), read? text = some r
  /-- A text that was read and written once does not change any more. -/
  again : ∀ text first, rewritten? row read? text = some first →
    ∀ written ∈ first, rewritten? row read? written = some first
  /-- In what is written, all identifiers have their canonical form. -/
  canonical : ∀ r, ∀ written ∈ texts (row r),
    ∃ members, Value.parse? written.toList = some (.object members) ∧
      ∀ m ∈ idents r, ∃ cs, (some m.1.toList, .string (some cs)) ∈ members ∧
        IsCanonical cs ∧ Ident.read? cs = some m.2

theorem parse?_of_mem_texts {row : Row} {text : String} (h : text ∈ texts row) :
    Value.parse? text.toList = some (.object (row.map memberOf)) := by
  obtain ⟨line, lines⟩ := parse?_row row
  rcases List.mem_pair.mp h with rfl | rfl
  · rw [String.toList_ofList, line]
  · rw [String.toList_ofList]
    exact lines 0

/-- **A kind of record whose rows describe its records** keeps what is written of it. -/
theorem roundTrip_of_row {α : Type} {row : α → Row} {of? : Value → Option α}
    {idents : α → List (String × Ident)}
    (described : ∀ r, of? (.object ((row r).map memberOf)) = some r)
    (named : ∀ r, ∀ m ∈ idents r, (m.1, .text m.2.text) ∈ row r) :
    RoundTrip row (fun s => (Value.parse? s.toList).bind of?) idents := by
  have back : ∀ r, ∀ text ∈ texts (row r), (Value.parse? text.toList).bind of? = some r := by
    intro r text htext
    rw [parse?_of_mem_texts htext, Option.bind_some, described]
  constructor
  case back => exact back
  case again =>
    intro text first hfirst written hwritten
    obtain ⟨r, -, rfl⟩ := Option.map_eq_some_iff.mp hfirst
    rw [rewritten?, back r written hwritten, Option.map_some]
  case canonical =>
    intro r written hwritten
    refine ⟨_, parse?_of_mem_texts hwritten, fun m hm => ⟨m.2.canonical, ?_, ?_, ?_⟩⟩
    · refine List.mem_map.mpr ⟨_, named r m hm, ?_⟩
      rw [memberOf, Atom.value, Ident.text, String.toList_ofList]
    · exact isCanonical_canonical m.2
    · exact m.2.read?_canonical

/-- **Links and edges read back from what is written of them**: with any identifiers, any URL and
    any point in time, and over one line as well as over several ones. -/
theorem links_and_edges_read_back :
    RoundTrip linkRow readLink? (fun link => [("id", link.id)]) ∧
      RoundTrip edgeRow readEdge?
        (fun edge => [("id", edge.id), ("src", edge.src), ("dst", edge.dst)]) :=
  ⟨roundTrip_of_row linkOf?_row (by simp [linkRow]),
    roundTrip_of_row edgeOf?_row (by simp [edgeRow])⟩

/-- An identifier in upper case without hyphens, members in another order, one member more, and
    escapes that are not needed. -/
example :
    (readLink? ("\x7b\"retrieved_at\": -7, \"url\": \"\\u0061\\ud83d\\ude00\\/\", " ++
      "\"more\": [null], \"id\": \"000000000000000000000000000000AB\"\x7d")).map
        (fun link => String.ofList (compact (linkRow link))) =
      some ("\x7b\"id\":\"00000000-0000-0000-0000-0000000000ab\"," ++
        "\"url\":\"a😀/\",\"retrieved_at\":-7\x7d") := by
  decide +kernel

end CrawlGraph.Json
