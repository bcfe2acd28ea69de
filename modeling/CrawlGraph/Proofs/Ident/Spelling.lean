import CrawlGraph.Memory.Store
import CrawlGraph.Partition
import CrawlGraph.Proofs.Tables.Reading

/-!
# The spellings of an identifier

Which texts are read as an identifier, and what the order of canonical texts is good for.

1. Digits and rows of digits, in either letter case (`hexNumber?_eq_some_iff`).
2. The hyphenated form (`ofHyphenated?_eq_some_iff`).
3. `Spelling`, and `read?_eq_some_iff`: what is read is what is spelled.
4. `RangeByText`, a range of identifiers as a range of canonical texts, and all of it in
   `ordered_code`.
-/

namespace CrawlGraph.Ident

open CrawlGraph.Text

/-! ## 1. Digits -/

/-- Whether a text is the given one in lower case, whatever case its letters have. -/
def InEitherCase (lower cs : List Char) : Prop := cs.map Char.toLower = lower

theorem InEitherCase.length_eq {lower cs : List Char} (h : InEitherCase lower cs) :
    cs.length = lower.length := by
  rw [← h, List.length_map]

theorem toLower_of_hexValue? : ∀ k < 103, ∀ n < 16,
    hexValue? (Char.ofNat k) = some n → (Char.ofNat k).toLower = hexDigit n := by
  decide +kernel

theorem hexValue?_of_toLower : ∀ k < 91, ∀ n < 16,
    (Char.ofNat k).toLower = hexDigit n → hexValue? (Char.ofNat k) = some n := by
  decide +kernel

theorem toNat_lt_of_isUpper {c : Char} (h : c.isUpper = true) : c.toNat < 91 :=
  Nat.lt_succ_of_le (UInt32.le_iff_toNat_le.mp (of_decide_eq_true h).2)

/-- **A digit in either letter case reads as its value.** -/
theorem hexValue?_eq_some_iff {c : Char} {n : Nat} :
    hexValue? c = some n ↔ n < 16 ∧ c.toLower = hexDigit n := by
  constructor
  · intro h
    have low : c.toNat < 103 := by
      by_contra high
      rw [hexValue?, if_neg (by omega), if_neg (by omega), if_neg (by omega)] at h
      cases h
    have digit := toLower_of_hexValue? c.toNat low n (hexValue?_lt h)
    rw [Char.ofNat_toNat] at digit
    exact ⟨hexValue?_lt h, digit h⟩
  · rintro ⟨hn, h⟩
    by_cases upper : c.isUpper = true
    · have digit := hexValue?_of_toLower c.toNat (toNat_lt_of_isUpper upper) n hn
      rw [Char.ofNat_toNat] at digit
      exact digit h
    · rw [Char.toLower_eq_of_not_isUpper upper] at h
      rw [h]
      exact hexValue?_hexDigit n hn

theorem hexNumber?_concat (cs : List Char) (c : Char) :
    hexNumber? (cs ++ [c]) = (hexNumber? cs).bind fun n => (hexValue? c).map (16 * n + ·) := by
  simp [hexNumber?, List.foldlM_append]

/-- **A row of digits in either letter case reads as its number**, zeros in front included. -/
theorem hexNumber?_eq_some_iff {cs : List Char} {n : Nat} :
    hexNumber? cs = some n ↔
      n < 16 ^ cs.length ∧ InEitherCase ((nibbles cs.length n).map hexDigit) cs := by
  unfold InEitherCase
  induction cs using List.reverseRecOn generalizing n with
  | nil => simp [hexNumber?, nibbles, eq_comm]
  | append_singleton cs c ih =>
    rw [hexNumber?_concat, Option.bind_eq_some_iff, List.length_append, List.length_singleton,
      nibbles, Nat.pow_succ, List.map_append, List.map_append, List.map_singleton,
      List.map_singleton, List.append_singleton_inj]
    constructor
    · rintro ⟨q, hq, hc⟩
      obtain ⟨d, hd, rfl⟩ := Option.map_eq_some_iff.mp hc
      obtain ⟨hlt, hrow⟩ := ih.mp hq
      obtain ⟨hd16, hdigit⟩ := hexValue?_eq_some_iff.mp hd
      have quotient : (16 * q + d) / 16 = q := by omega
      have remainder : (16 * q + d) % 16 = d := by omega
      rw [quotient, remainder]
      exact ⟨by omega, hrow, hdigit⟩
    · rintro ⟨hn, hrow, hdigit⟩
      have hd := hexValue?_eq_some_iff.mpr ⟨Nat.mod_lt n (by decide), hdigit⟩
      refine ⟨n / 16, ih.mpr ⟨by omega, hrow⟩, ?_⟩
      rw [hd, Option.map_some, Nat.div_add_mod]

/-- **The 32 digits of an identifier**, in either letter case, and nothing else read as it. -/
theorem ofHexDigits?_eq_some_iff {cs : List Char} {id : Ident} :
    ofHexDigits? cs = some id ↔ InEitherCase id.hexDigits cs := by
  unfold ofHexDigits?
  split
  case isTrue h =>
    have size : id.toNat < 16 ^ cs.length := h ▸ id.isLt
    have number : hexNumber? cs = some id.toNat ↔ InEitherCase id.hexDigits cs := by
      rw [hexNumber?_eq_some_iff, and_iff_right size, h]
      rfl
    rw [← number, Option.map_eq_some_iff]
    constructor
    · rintro ⟨n, hn, rfl⟩
      have bound : n < 16 ^ 32 := h ▸ (hexNumber?_eq_some_iff.mp hn).1
      have same : (ofNat n).toNat = n := Nat.mod_eq_of_lt bound
      rwa [same]
    · exact fun hn => ⟨id.toNat, hn, ofNat_toNat id⟩
  case isFalse h =>
    refine iff_of_false (by simp) fun digits => h ?_
    rw [digits.length_eq, length_hexDigits]

/-! ## 2. Hyphens -/

theorem toLower_eq_hyphen_iff {c : Char} : c.toLower = '-' ↔ c = '-' := by
  by_cases upper : c.isUpper = true
  · have all : ∀ k < 91, (Char.ofNat k).toLower = '-' ↔ Char.ofNat k = '-' := by decide +kernel
    have hc := all c.toNat (toNat_lt_of_isUpper upper)
    rwa [Char.ofNat_toNat] at hc
  · rw [Char.toLower_eq_of_not_isUpper upper]

/-- Letter case does not change where the hyphens are. -/
theorem splitOn_map_toLower (cs : List Char) :
    (cs.map Char.toLower).splitOn '-' = (cs.splitOn '-').map (·.map Char.toLower) := by
  induction cs with
  | nil => rfl
  | cons c cs ih =>
    rw [List.map_cons, List.splitOn_cons_eq_if_modifyHead, List.splitOn_cons_eq_if_modifyHead, ih]
    by_cases hyphen : c = '-'
    · simp [hyphen]
    · have other : ¬c.toLower = '-' := fun h => hyphen (toLower_eq_hyphen_iff.mp h)
      cases cs.splitOn '-' <;> simp [hyphen, other]

/-- Groups of the right lengths are the groups of what they hold. -/
theorem groups_flatten {ns : List Nat} {gs : List (List Char)} (h : gs.map List.length = ns) :
    groups ns gs.flatten = gs := by
  subst h
  induction gs with
  | nil => rfl
  | cons g gs ih =>
    rw [List.map_cons, List.flatten_cons, groups, List.take_left, List.drop_left, ih]

theorem splitOn_eq_of_inEitherCase {cs : List Char} {id : Ident}
    (h : InEitherCase id.canonical cs) :
    (cs.splitOn '-').map (·.map Char.toLower) = groups groupLengths id.hexDigits := by
  rw [← splitOn_map_toLower, h, splitOn_canonical]

/-- **The hyphenated form of an identifier**, in either letter case, and nothing else reads as it
    where a hyphenated form is asked for. -/
theorem ofHyphenated?_eq_some_iff {cs : List Char} {id : Ident} :
    ofHyphenated? cs = some id ↔ InEitherCase id.canonical cs := by
  have lengths := map_length_groups id.length_hexDigits_groups
  have digits := flatten_groups id.length_hexDigits_groups
  simp only [ofHyphenated?]
  split
  case isTrue h =>
    rw [ofHexDigits?_eq_some_iff]
    constructor
    · intro row
      have inner : (cs.splitOn '-').map (·.map Char.toLower) = groups groupLengths id.hexDigits := by
        have same : ((cs.splitOn '-').map (·.map Char.toLower)).map List.length = groupLengths := by
          rw [List.map_map, ← h]
          exact List.map_congr_left fun _ _ => List.length_map _
        rw [← groups_flatten same, ← List.map_flatten, row]
      have joined : ['-'].intercalate ((cs.map Char.toLower).splitOn '-') = cs.map Char.toLower :=
        List.intercalate_splitOn '-'
      rw [splitOn_map_toLower, inner] at joined
      exact joined.symm
    · intro form
      unfold InEitherCase
      rw [List.map_flatten, splitOn_eq_of_inEitherCase form, digits]
  case isFalse h =>
    refine iff_of_false (by simp) fun form => h ?_
    rw [← lengths, ← splitOn_eq_of_inEitherCase form, List.map_map]
    exact (List.map_congr_left fun _ _ => List.length_map _).symm

/-! ## 3. Spellings -/

/-- The texts that spell an identifier, where `urn` says which marks may stand in front. -/
inductive SpelledBehind (urn : List Char → Prop) (id : Ident) : List Char → Prop
  | digits {cs} : InEitherCase id.hexDigits cs → SpelledBehind urn id cs
  | hyphenated {cs} : InEitherCase id.canonical cs → SpelledBehind urn id cs
  | braces {cs} : InEitherCase id.canonical cs → SpelledBehind urn id ('\x7b' :: cs ++ ['\x7d'])
  | marked {mark cs} : urn mark → InEitherCase id.canonical cs → SpelledBehind urn id (mark ++ cs)

/-- The texts that spell an identifier. The mark in front may have either letter case too. -/
abbrev Spelling : Ident → List Char → Prop := SpelledBehind (InEitherCase urnPrefix)

theorem insideBraces?_eq_some_iff {cs inner : List Char} :
    insideBraces? cs = some inner ↔ cs = '\x7b' :: inner ++ ['\x7d'] := by
  unfold insideBraces?
  split
  case h_1 rest =>
    rw [List.cons_append, List.cons_inj_right]
    split
    case isTrue last =>
      obtain ⟨front, rfl⟩ := List.getLast?_eq_some_iff.mp last
      rw [List.dropLast_concat, Option.some.injEq, List.append_cancel_right_eq]
    case isFalse last =>
      refine iff_of_false (by simp) ?_
      rintro rfl
      exact last List.getLast?_concat
  case h_2 other =>
    exact iff_of_false (by simp) fun h => other _ h

theorem afterUrn?_eq_some_iff {cs inner : List Char} :
    afterUrn? cs = some inner ↔ ∃ mark, InEitherCase urnPrefix mark ∧ cs = mark ++ inner := by
  unfold afterUrn?
  split
  case isTrue h =>
    rw [Option.some.injEq]
    constructor
    · rintro rfl
      exact ⟨_, h, (List.take_append_drop _ cs).symm⟩
    · rintro ⟨mark, hmark, rfl⟩
      rw [← hmark.length_eq, List.drop_left]
  case isFalse h =>
    refine iff_of_false (by simp) ?_
    rintro ⟨mark, hmark, rfl⟩
    rw [← hmark.length_eq, List.take_left] at h
    exact h hmark

theorem unwrapped?_eq_some_iff {cs inner : List Char} :
    unwrapped? cs = some inner ↔ cs = '\x7b' :: inner ++ ['\x7d'] ∨
      ∃ mark, InEitherCase urnPrefix mark ∧ cs = mark ++ inner := by
  rw [unwrapped?, Option.or_eq_some_iff, insideBraces?_eq_some_iff, afterUrn?_eq_some_iff]
  refine or_congr_right (and_iff_right_of_imp ?_)
  rintro ⟨mark, hmark, rfl⟩
  rw [Option.eq_none_iff_forall_ne_some]
  intro other h
  rw [insideBraces?_eq_some_iff] at h
  -- a mark begins with a letter, and so with no brace
  cases mark with
  | nil => cases hmark
  | cons c mark =>
    rw [List.cons_append, List.cons_append, List.cons.injEq] at h
    have first := (List.cons.inj hmark).1
    rw [h.1] at first
    revert first
    decide

theorem length_of_unwrapped? {cs inner : List Char} (h : unwrapped? cs = some inner) :
    cs.length = inner.length + 2 ∨ cs.length = inner.length + 9 := by
  rcases unwrapped?_eq_some_iff.mp h with rfl | ⟨mark, hmark, rfl⟩
  · exact .inl (by simp)
  · refine .inr ?_
    rw [List.length_append, hmark.length_eq, Nat.add_comm]
    rfl

/-- **A text is read as an identifier exactly if it spells it.** -/
theorem read?_eq_some_iff {cs : List Char} {id : Ident} :
    read? cs = some id ↔ Spelling id cs := by
  rw [read?, Option.or_eq_some_iff, Option.or_eq_some_iff, Option.bind_eq_some_iff,
    ofHexDigits?_eq_some_iff, ofHyphenated?_eq_some_iff]
  constructor
  · rintro (digits | ⟨-, form | ⟨-, inner, wrapped, form⟩⟩)
    · exact .digits digits
    · exact .hyphenated form
    · rw [ofHyphenated?_eq_some_iff] at form
      rcases unwrapped?_eq_some_iff.mp wrapped with rfl | ⟨mark, hmark, rfl⟩
      · exact .braces form
      · exact .marked hmark form
  · -- the forms differ in length, and so none of them stands in the way of another
    have plain : ∀ {text : List Char}, text.length ≠ 32 → ofHexDigits? text = none :=
      fun h => if_neg h
    have hyphens : ∀ {text : List Char}, text.length ≠ 36 → ofHyphenated? text = none := by
      intro text h
      rw [Option.eq_none_iff_forall_ne_some]
      intro other form
      rw [ofHyphenated?_eq_some_iff] at form
      exact h (form.length_eq.trans other.length_canonical)
    have wrapped : ∀ {text inner : List Char}, InEitherCase id.canonical inner →
        unwrapped? text = some inner →
        ofHexDigits? text = none ∧ ofHyphenated? text = none ∧
          ∃ a, unwrapped? text = some a ∧ ofHyphenated? a = some id := by
      intro text inner form h
      have inside := form.length_eq.trans id.length_canonical
      have outside := length_of_unwrapped? h
      exact ⟨plain (by omega), hyphens (by omega), inner, h, ofHyphenated?_eq_some_iff.mpr form⟩
    rintro (digits | form | form | ⟨hmark, form⟩)
    case digits => exact .inl digits
    case hyphenated =>
      have length := form.length_eq.trans id.length_canonical
      exact .inr ⟨plain (by omega), .inl form⟩
    case braces =>
      have h := wrapped form (unwrapped?_eq_some_iff.mpr (.inl rfl))
      exact .inr ⟨h.1, .inr h.2⟩
    case marked =>
      have h := wrapped form (unwrapped?_eq_some_iff.mpr (.inr ⟨_, hmark, rfl⟩))
      exact .inr ⟨h.1, .inr h.2⟩

/-- **The text of a row is decoded exactly if it spells an identifier.** -/
theorem decodeIdent_eq_ok_iff {op : Operation} {s : String} {id : Ident} :
    Tables.decodeIdent op s = .ok id ↔ Spelling id s.toList := by
  rw [← read?_eq_some_iff, Tables.decodeIdent, parse]
  cases read? s.toList <;> simp

/-! ## 4. Canonical texts -/

/-- Whether the canonical text of an identifier lies in a range of canonical texts, all of them
    compared by their bytes. -/
def TextInRange (start stop id : Ident) : Prop :=
  bytes start.text ≤ bytes id.text ∧ bytes id.text < bytes stop.text

theorem textInRange_iff {start stop id : Ident} :
    TextInRange start stop id ↔ start ≤ id ∧ id < stop := by
  rw [TextInRange, bytes_le_iff, bytes_lt_iff, text_le_iff, text_lt_iff]

/-- **A range of texts is the range of identifiers** between its ends, wherever a range is used. -/
structure RangeByText (start stop : Ident) : Prop where
  numeric : ∀ id, TextInRange start stop id ↔ start.toNat ≤ id.toNat ∧ id.toNat < stop.toNat
  /-- Rows of links are taken by the texts of their identifiers. -/
  linkRows : ∀ rows before row id, row.id = id.text →
    (row ∈ Tables.linkRows rows start stop before ↔
      row ∈ rows ∧ (start ≤ id ∧ id < stop) ∧ row.retrievedAt.isBefore before = true)
  /-- Rows of edges are taken by the texts of their sources. -/
  edgeRows : ∀ rows before row src, row.src = src.text →
    (row ∈ Tables.edgeRows rows start stop before ↔
      row ∈ rows ∧ (start ≤ src ∧ src < stop) ∧ row.updatedAt.isBefore before = true)
  /-- A range of an index in memory holds the same identifiers. -/
  inRange : ∀ {β : Type} (index : Std.TreeMap Ident β) e,
    e ∈ Memory.inRange index start stop ↔ e ∈ index.toList ∧ TextInRange start stop e.1
  /-- A partition of the range holds the same identifiers. -/
  indexOf : ∀ p : Partition, p.start = start → p.stop = stop →
    ∀ id, (∃ index, p.indexOf id = .ok index) ↔ TextInRange start stop id

theorem rangeByText (start stop : Ident) : RangeByText start stop := by
  constructor
  case numeric => exact fun id => textInRange_iff
  case linkRows =>
    intro rows before row id hid
    rw [Tables.linkRows, List.mem_mergeSort, List.mem_filter, hid, Bool.and_eq_true,
      Stored.isWithin_ofString, decide_eq_true_iff, text_le_iff, text_lt_iff]
  case edgeRows =>
    intro rows before row src hsrc
    rw [Tables.edgeRows, List.mem_mergeSort, List.mem_filter, hsrc, Bool.and_eq_true,
      Stored.isWithin_ofString, decide_eq_true_iff, text_le_iff, text_lt_iff]
  case inRange =>
    intro β index e
    rw [Memory.inRange, List.mem_filter, decide_eq_true_eq, textInRange_iff]
  case indexOf =>
    rintro p rfl rfl id
    have outside : ¬(p.start ≤ id ∧ id < p.stop) ↔ id < p.start ∨ p.stop ≤ id := by
      simp only [le_def, lt_def]
      omega
    rw [textInRange_iff, Partition.indexOf]
    split
    case isTrue h => exact iff_of_false (by simp) (outside.mpr h)
    case isFalse h => exact iff_of_true ⟨_, rfl⟩ (not_not.mp fun n => h (outside.mp n))

/-- **Canonical texts are a code of the identifiers that keeps their order**: by bytes they sort as
    the numbers do, each one is decoded as its identifier, ranges of texts are ranges of
    identifiers, and the texts that are decoded at all are the spellings of the identifiers. -/
theorem ordered_code :
    (∀ a b : Ident, bytes a.text < bytes b.text ↔ a.toNat < b.toNat) ∧
      (∀ op (id : Ident), Tables.decodeIdent op id.text = .ok id) ∧
      (∀ start stop, RangeByText start stop) ∧
      ∀ op s id, Tables.decodeIdent op s = .ok id ↔ Spelling id s.toList := by
  refine ⟨fun a b => ?_, fun op id => ?_, rangeByText, fun op s id => decodeIdent_eq_ok_iff⟩
  · rw [bytes_lt_iff, text_lt_iff, lt_def]
  · rw [Tables.decodeIdent, parse_text]

/-- A mark in capital letters is read as well. -/
theorem capital_mark_is_read :
    Tables.decodeIdent .links "URN:UUID:00000000-0000-0000-0000-000000000abc" =
        .ok (.ofNat 0xabc) ∧
      ¬SpelledBehind (· = urnPrefix) (.ofNat 0xabc)
        "URN:UUID:00000000-0000-0000-0000-000000000abc".toList := by
  refine ⟨by decide +kernel, fun h => ?_⟩
  generalize htext : "URN:UUID:00000000-0000-0000-0000-000000000abc".toList = text at h
  cases h with
  | digits h =>
    have length := h.length_eq
    rw [← htext] at length
    revert length
    decide
  | hyphenated h =>
    have length := h.length_eq
    rw [← htext] at length
    revert length
    decide
  | braces =>
    have first : some 'U' = some '\x7b' := congrArg List.head? htext
    exact absurd first (by decide)
  | marked mark =>
    subst mark
    have first : some 'U' = some 'u' := congrArg List.head? htext
    exact absurd first (by decide)

end CrawlGraph.Ident
