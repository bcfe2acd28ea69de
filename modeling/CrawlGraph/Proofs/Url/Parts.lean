import CrawlGraph.Proofs.Url.Address
import CrawlGraph.Url.Reading

/-!
# The parts of a web URL read back

Each part of a web URL is kept as it is written, and is read as it was kept.

1. `isVisible`, the characters that all parts are written in, and the marks that a part leaves out.
2. Segments of a path: escaping makes no step of a segment (`isStep_percentEncode`), and a path is
   read as its segments (`segmentsOf_pathText`, `resolve_of_isSegment`).
3. Hosts: `Host.ofText?_text`, where a name has to be legible.
4. The authority: `authorityParts_written`.
-/

namespace CrawlGraph.Url

open CrawlGraph.Text

/-! ## 1. Characters -/

/-- Whether the character is one of those that a URL is written in: ASCII without spaces and control
    characters. -/
def isVisible (c : Char) : Bool := 0x21 ≤ c.toNat && c.toNat ≤ 0x7E

theorem ascii_of_clean {c : Char} (h : escapedAlways c = false) :
    Domain.Punycode.isAscii c = true := by
  simp only [escapedAlways, Bool.or_eq_false_iff, decide_eq_false_iff_not] at h
  exact decide_eq_true (by omega)

/-- A fragment is written in visible characters. -/
theorem visible_of_fragment {c : Char} (h : escapedInFragment c = false) : isVisible c = true := by
  have test := Domain.forall_ascii (p := fun c => escapedInFragment c || isVisible c)
    (by decide +kernel) (ascii_of_clean (Bool.or_eq_false_iff.mp h).1)
  simpa [h] using test

/-- A query leaves out the mark of a fragment. -/
theorem clear_of_query {c : Char} (h : escapedInQuery c = false) :
    isVisible c = true ∧ c ≠ '#' := by
  have test := Domain.forall_ascii (p := fun c => escapedInQuery c || (isVisible c && c != '#'))
    (by decide +kernel) (ascii_of_clean (Bool.or_eq_false_iff.mp h).1)
  simpa [h] using test

/-- A path leaves out the marks of a query and of a fragment. -/
theorem clear_of_path {c : Char} (h : escapedInPath c = false) :
    isVisible c = true ∧ c ≠ '#' ∧ c ≠ '?' := by
  have always := (Bool.or_eq_false_iff.mp (Bool.or_eq_false_iff.mp h).1).1
  have test := Domain.forall_ascii
    (p := fun c => escapedInPath c || (isVisible c && (c != '#' && c != '?')))
    (by decide +kernel) (ascii_of_clean always)
  simpa [h] using test

/-- A user name leaves out all that would end it or the authority. -/
theorem clear_of_userInfo {c : Char} (h : escapedInUserInfo c = false) :
    isVisible c = true ∧ c ≠ ':' ∧ c ≠ '@' ∧ endsAuthority true c = false ∧ isSlash c = false := by
  have always :=
    (Bool.or_eq_false_iff.mp (Bool.or_eq_false_iff.mp (Bool.or_eq_false_iff.mp h).1).1).1
  have test := Domain.forall_ascii
    (p := fun c => escapedInUserInfo c ||
      (isVisible c && (c != ':' && (c != '@' && (!endsAuthority true c && !isSlash c)))))
    (by decide +kernel) (ascii_of_clean always)
  simpa [h] using test

/-! ## 2. Segments -/

theorem mem_percentEncode {escaped : Char → Bool} {cs : List Char} {c : Char}
    (h : c ∈ percentEncode escaped cs) : c ∈ cs ∨ c = '%' ∨ ∃ n < 16, c = hexDigitUpper n := by
  obtain ⟨d, hd, h⟩ := List.mem_flatMap.mp h
  unfold percentEncodeChar at h
  split at h
  · obtain ⟨b, -, h⟩ := List.mem_flatMap.mp h
    have hb : b.toNat < 256 := b.toNat_lt
    simp only [percentByte, List.mem_cons, List.not_mem_nil, or_false] at h
    rcases h with h | h | h
    · exact .inr (.inl h)
    · exact .inr (.inr ⟨_, by omega, h⟩)
    · exact .inr (.inr ⟨_, by omega, h⟩)
  · rw [List.mem_singleton.mp h]
    exact .inl hd

/-- Whether the segment is carried out and not kept. -/
def isStep (segment : List Char) : Bool := isBack segment || isStay segment

/-- The segments that are steps, in small letters. -/
def stepForms : List (List Char) := dotForms ++ dotForms.flatMap fun a => dotForms.map (a ++ ·)

theorem isStep_iff {segment : List Char} :
    isStep segment = true ↔ segment.map Char.toLower ∈ stepForms := by
  simp [isStep, isBack, isStay, stepForms, or_comm]

/-- A percent sign in a step is followed by the digits of a full stop. -/
theorem digits_of_mem_stepForms : ∀ form ∈ stepForms, ∀ i < form.length, form[i]? = some '%' →
    form[i + 1]? = some '2' ∧ form[i + 2]? = some 'e' := by
  decide +kernel

/-- The byte of a full stop belongs to no other character. -/
theorem head_utf8EncodeChar (c : Char) : ∃ b bs, String.utf8EncodeChar c = b :: bs ∧
    (b.toNat = 0x2E → c = '.') := by
  have bound : c.val.toNat < 0x110000 := by
    have valid := c.valid
    rw [UInt32.isValidChar, Nat.isValidChar] at valid
    omega
  have same : c.val.toNat = 0x2E → c = '.' := fun h => by
    rw [← Char.ofNat_toNat c]
    exact congrArg Char.ofNat h
  unfold String.utf8EncodeChar
  dsimp only
  split_ifs
  all_goals refine ⟨_, _, rfl, fun h => same ?_⟩
  all_goals
    rw [UInt8.toNat_ofNat'] at h
    omega

theorem lower_hexDigitUpper_two : ∀ n < 16, (hexDigitUpper n).toLower = '2' → n = 2 := by decide

theorem lower_hexDigitUpper_e : ∀ n < 16, (hexDigitUpper n).toLower = 'e' → n = 14 := by decide

/-- **Escaping makes no step of a segment.** -/
theorem isStep_percentEncode {segment : List Char} (h : isStep segment = false) :
    isStep (percentEncode escapedInPath segment) = false := by
  by_cases clean : ∀ c ∈ segment, escapedInPath c = false
  · rwa [percentEncode_of_clean clean]
  · push Not at clean
    obtain ⟨c, hc, escaped⟩ := clean
    rw [ne_eq, Bool.not_eq_false] at escaped
    by_contra step
    rw [Bool.not_eq_false, isStep_iff] at step
    -- the escaped character would be a full stop, which is not escaped
    obtain ⟨before, after, rfl⟩ := List.append_of_mem hc
    obtain ⟨b, bs, hbytes, stop⟩ := head_utf8EncodeChar c
    have hb : b.toNat < 256 := b.toNat_lt
    have text : percentEncode escapedInPath (before ++ c :: after) =
        percentEncode escapedInPath before ++ '%' :: hexDigitUpper (b.toNat / 16) ::
          hexDigitUpper (b.toNat % 16) :: (bs.flatMap percentByte ++
            percentEncode escapedInPath after) := by
      simp [percentEncode, percentEncodeChar, escaped, hbytes, percentByte]
    rw [text] at step
    obtain ⟨first, second⟩ := digits_of_mem_stepForms _ step
      (percentEncode escapedInPath before).length (by simp) (by simp)
    have high : b.toNat / 16 = 2 := by
      refine lower_hexDigitUpper_two _ (by omega) ?_
      simpa [List.getElem?_append_right] using first
    have low : b.toNat % 16 = 14 := by
      refine lower_hexDigitUpper_e _ (by omega) ?_
      simpa [List.getElem?_append_right] using second
    rw [stop (by omega)] at escaped
    revert escaped
    decide

/-- A segment as it is kept: escaped, without marks, and no step. -/
structure IsSegment (segment : List Char) : Prop where
  clean : ∀ c ∈ segment, escapedInPath c = false
  solid : ∀ c ∈ segment, isSlash c = false
  stays : isStep segment = false

theorem isSegment_nil : IsSegment [] where
  clean := by simp
  solid := by simp
  stays := by decide

theorem isSlash_hexDigitUpper : ∀ n < 16, isSlash (hexDigitUpper n) = false := by decide

theorem escapedInPath_hexDigitUpper : ∀ n < 16, escapedInPath (hexDigitUpper n) = false := by
  decide

/-- What is kept of a segment that is no step. -/
theorem isSegment_percentEncode {segment : List Char} (solid : ∀ c ∈ segment, isSlash c = false)
    (stays : isStep segment = false) : IsSegment (percentEncode escapedInPath segment) where
  clean := clean_percentEncode (by decide) escapedInPath_hexDigitUpper segment
  solid := by
    intro c hc
    rcases mem_percentEncode hc with hc | rfl | ⟨n, hn, rfl⟩
    · exact solid c hc
    · decide
    · exact isSlash_hexDigitUpper n hn
  stays := isStep_percentEncode stays

/-- One more segment leaves kept segments. -/
theorem isSegment_of_mem_enter {done : List (List Char)} (hdone : ∀ s ∈ done, IsSegment s)
    {segment : List Char} (solid : ∀ c ∈ segment, isSlash c = false) :
    ∀ s ∈ enter done segment, IsSegment s := by
  unfold enter
  split
  · cases done with
    | nil => exact hdone
    | cons last rest =>
      rw [stepBack]
      split
      · exact hdone
      · exact fun s hs => hdone s (List.mem_cons_of_mem _ hs)
  · split
    · exact hdone
    · rename_i notBack notStay
      have stays : isStep segment = false := by simp [isStep, notBack, notStay]
      intro s hs
      rcases List.mem_cons.mp hs with rfl | hs
      · exact isSegment_percentEncode solid stays
      · exact hdone s hs

/-- **A resolved path is kept segments only.** -/
theorem isSegment_of_mem_resolve {segments : List (List Char)}
    (solid : ∀ s ∈ segments, ∀ c ∈ s, isSlash c = false) :
    ∀ s ∈ resolve segments, IsSegment s := by
  have run : ∀ (segments done : List (List Char)), (∀ s ∈ segments, ∀ c ∈ s, isSlash c = false) →
      (∀ s ∈ done, IsSegment s) → ∀ s ∈ segments.foldl enter done, IsSegment s := by
    intro segments
    induction segments with
    | nil => exact fun done _ hdone => hdone
    | cons segment segments ih =>
      intro done solid hdone
      exact ih _ (fun s hs => solid s (List.mem_cons_of_mem _ hs))
        (isSegment_of_mem_enter hdone (solid segment List.mem_cons_self))
  have kept := run segments [] solid (by simp)
  intro s hs
  simp only [resolve, List.mem_reverse] at hs
  split at hs
  · rcases List.mem_cons.mp hs with rfl | hs
    · exact isSegment_nil
    · exact kept s hs
  · exact kept s hs

/-- A path is not empty, however many steps go back. -/
theorem resolve_ne_nil {segments : List (List Char)} (h : segments ≠ []) :
    resolve segments ≠ [] := by
  unfold resolve
  dsimp only
  rw [List.reverse_ne_nil_iff]
  split
  · exact List.cons_ne_nil _ _
  · rename_i last
    rw [List.getLast?_eq_some_getLast h, Option.any_some, Bool.not_eq_true] at last
    obtain ⟨notBack, notStay⟩ := Bool.or_eq_false_iff.mp last
    rw [← List.dropLast_append_getLast h, List.foldl_append, List.foldl_cons, List.foldl_nil, enter,
      if_neg (by simp [notBack]), if_neg (by simp [notStay])]
    exact List.cons_ne_nil _ _

/-- **Kept segments are a resolved path.** -/
theorem resolve_of_isSegment {path : List (List Char)} (h : ∀ s ∈ path, IsSegment s) :
    resolve path = path := by
  have run : ∀ (path done : List (List Char)), (∀ s ∈ path, IsSegment s) →
      path.foldl enter done = path.reverse ++ done := by
    intro path
    induction path with
    | nil => exact fun done _ => rfl
    | cons s path ih =>
      intro done h
      obtain ⟨notBack, notStay⟩ := Bool.or_eq_false_iff.mp (h s List.mem_cons_self).stays
      rw [List.foldl_cons, ih _ fun t ht => h t (List.mem_cons_of_mem _ ht), enter,
        if_neg (by simp [notBack]), if_neg (by simp [notStay]),
        percentEncode_of_clean (h s List.mem_cons_self).clean]
      simp
  have last : (path.getLast?.any fun s => isBack s || isStay s) = false := by
    cases hlast : path.getLast? with
    | none => rfl
    | some s => exact (h s (List.mem_of_getLast? hlast)).stays
  unfold resolve
  rw [run path [] h]
  simp [last]

theorem solid_of_mem_segmentsOf {cs segment : List Char} (h : segment ∈ segmentsOf cs) :
    ∀ c ∈ segment, isSlash c = false := by
  unfold segmentsOf at h
  split at h
  · simp [List.mem_singleton.mp h]
  · split at h
    · exact eq_false_of_mem_splitOnP h
    · exact eq_false_of_mem_splitOnP h

theorem segmentsOf_ne_nil (cs : List Char) : segmentsOf cs ≠ [] := by
  unfold segmentsOf
  split
  · exact List.cons_ne_nil _ _
  · split
    · exact List.splitOnP_ne_nil _ _
    · exact List.splitOnP_ne_nil _ _

/-- **The text of a path is read as its segments.** -/
theorem segmentsOf_pathText {path : List (List Char)} (hne : path ≠ [])
    (h : ∀ s ∈ path, ∀ c ∈ s, isSlash c = false) : segmentsOf (pathText path) = path := by
  have run : ∀ (s : List Char) (path : List (List Char)),
      (∀ t ∈ s :: path, ∀ c ∈ t, isSlash c = false) →
      (s ++ pathText path).splitOnP isSlash = s :: path := by
    intro s path
    induction path generalizing s with
    | nil =>
      intro h
      simpa [pathText] using List.splitOnP_eq_singleton (h s List.mem_cons_self)
    | cons t path ih =>
      intro h
      have tail := ih t fun u hu => h u (List.mem_cons_of_mem _ hu)
      have text : pathText (t :: path) = '/' :: (t ++ pathText path) := rfl
      rw [text, List.splitOnP_append_cons_of_forall_mem (h s List.mem_cons_self) '/' (by decide), tail]
  obtain ⟨s, path, rfl⟩ := List.exists_cons_of_ne_nil hne
  exact run s path h

/-- The characters of a path. -/
theorem mem_pathText {path : List (List Char)} {c : Char} (h : c ∈ pathText path) :
    c = '/' ∨ ∃ s ∈ path, c ∈ s := by
  obtain ⟨s, hs, hc⟩ := List.mem_flatMap.mp h
  rcases List.mem_cons.mp hc with hc | hc
  · exact .inl hc
  · exact .inr ⟨s, hs, hc⟩

/-! ## 3. Hosts -/

namespace Host

/-- What is true of a host that was read. -/
inductive IsRead : Host → Prop
  | domain {given name : List Char} (ascii : Domain.ascii? given = some name) (hne : name ≠ [])
      (word : endsInNumber name = false) : IsRead (.domain name)
  | ipv4 {address : Nat} (h : address < 2 ^ 32) : IsRead (.ipv4 address)
  | ipv6 {pieces : List Nat} (h : IsAddress pieces) : IsRead (.ipv6 pieces)

theorem isRead_of_ofText? {cs : List Char} {host : Host} (h : ofText? cs = some host) :
    IsRead host := by
  unfold ofText? at h
  split at h
  · obtain ⟨inside, -, h⟩ := Option.bind_eq_some_iff.mp h
    obtain ⟨pieces, hpieces, rfl⟩ := Option.map_eq_some_iff.mp h
    exact .ipv6 (isAddress_of_ipv6? hpieces)
  · obtain ⟨decoded, -, h⟩ := Option.bind_eq_some_iff.mp h
    obtain ⟨name, hname, h⟩ := Option.bind_eq_some_iff.mp h
    unfold ofAscii? at h
    split at h
    · cases h
    · rename_i hne
      split at h
      · obtain ⟨address, haddress, rfl⟩ := Option.map_eq_some_iff.mp h
        exact .ipv4 (lt_of_ipv4? haddress)
      · rename_i word
        cases h
        exact .domain hname hne (Bool.eq_false_of_not_eq_true word)

theorem notMem_of_clear {c : Char} (h : Domain.isForbidden c = false) :
    c ∉ ['%', '#', '/', ':', '<', '>', '?', '@', '[', '\\', ']', '^', '|'] :=
  (Domain.isForbidden_eq_false_iff.mp h).2.2

theorem head?_ne_of_notMem {cs : List Char} {c : Char} (h : c ∉ cs) : cs.head? ≠ some c :=
  fun e => h (List.mem_of_mem_head? e)

/-- What an ASCII name without brackets and percent signs is read as. -/
theorem ofText?_of_plain {name : List Char} (bracket : '[' ∉ name) (percent : '%' ∉ name) :
    ofText? name = (Domain.ascii? name).bind ofAscii? := by
  rw [ofText?, if_neg (head?_ne_of_notMem bracket), percentDecode?_of_notMem percent,
    Option.bind_some]

theorem isPlainChar_of_isDigit {c : Char} (h : c.isDigit = true) :
    Domain.isPlainChar c = true := by
  simp [Domain.isPlainChar, h]

theorem ascii?_ipv4Text (address : Nat) :
    Domain.ascii? (ipv4Text address) = some (ipv4Text address) := by
  rw [ipv4Text_eq]
  refine Domain.ascii?_of_plain (List.cons_ne_nil _ _) fun label hl c hc => ?_
  obtain ⟨n, -, rfl⟩ := List.mem_map.mp hl
  exact isPlainChar_of_isDigit (isDigit_of_mem_decimal hc)

theorem isLegible_ipv4Text (address : Nat) : Domain.isLegible (ipv4Text address) = true := by
  have := Domain.ascii?_of_ascii? (ascii?_ipv4Text address)
  rw [ascii?_ipv4Text] at this
  by_contra h
  rw [if_neg h] at this
  cases this

theorem text_ne_nil {host : Host} (h : IsRead host) : host.text ≠ [] := by
  cases h with
  | domain ascii hne word => exact hne
  | @ipv4 address h =>
    intro e
    have := ipv4?_ipv4Text h
    rw [text] at e
    rw [e] at this
    cases this
  | ipv6 h => simp [text]

theorem ofText?_ipv4 {address : Nat} (h : address < 2 ^ 32) :
    ofText? (ipv4Text address) = some (.ipv4 address) := by
  have clear : ∀ c ∈ ipv4Text address, c ≠ '[' ∧ c ≠ '%' := by
    intro c hc
    rcases mem_ipv4Text hc with rfl | digit
    · decide
    · constructor <;> rintro rfl <;> revert digit <;> decide
  have hne := text_ne_nil (.ipv4 h)
  rw [text] at hne
  rw [ofText?_of_plain (fun h => (clear _ h).1 rfl) (fun h => (clear _ h).2 rfl),
    ascii?_ipv4Text, Option.bind_some, ofAscii?, if_neg hne, endsInNumber_ipv4Text, if_pos rfl,
    ipv4?_ipv4Text h]
  rfl

theorem isLegible_ipv6 (pieces : List Nat) : Domain.isLegible (text (ipv6 pieces)) = true := by
  have stop : '.' ∉ text (ipv6 pieces) := by
    intro hm
    simp only [text, List.cons_append, List.mem_cons, List.mem_append, List.not_mem_nil,
      or_false] at hm
    rcases hm with hm | hm | hm
    · revert hm; decide
    · rcases mem_ipv6Text hm with hm | ⟨d, hd, hm⟩
      · revert hm; decide
      · revert d; decide
    · revert hm; decide
  have whole : (text (ipv6 pieces)).splitOn '.' = [text (ipv6 pieces)] := by
    rw [List.splitOn_eq_splitOnP]
    refine List.splitOnP_eq_singleton fun c hc => beq_eq_false_iff_ne.mpr ?_
    rintro rfl
    exact stop hc
  rw [Domain.isLegible, whole]
  simp [Domain.isShort, text, Domain.aceMark_eq, List.isPrefixOf]

/-- **The text of a host is read as the host**, unless a label of its name is too long to be
    read. -/
theorem ofText?_text {host : Host} (h : IsRead host) :
    ofText? host.text = if Domain.isLegible host.text then some host else none := by
  cases h with
  | @domain given name ascii hne word =>
    have clear : ∀ c ∈ name, c ∉ ['%', '#', '/', ':', '<', '>', '?', '@', '[', '\\', ']', '^', '|'] :=
      fun c hc => notMem_of_clear (Domain.plain_of_mem_name ascii hc).2.2
    rw [text, ofText?_of_plain (fun h => clear _ h (by decide)) (fun h => clear _ h (by decide)),
      Domain.ascii?_of_ascii? ascii]
    split
    · simp [ofAscii?, hne, word]
    · rfl
  | @ipv4 address h =>
    rw [text, isLegible_ipv4Text, if_pos rfl]
    exact ofText?_ipv4 h
  | @ipv6 pieces h =>
    have inside : insideBrackets? ('[' :: ipv6Text pieces ++ [']']) = some (ipv6Text pieces) := by
      simp [insideBrackets?]
    rw [isLegible_ipv6, if_pos rfl, ofText?, text, if_pos (by simp), inside, Option.bind_some,
      ipv6?_ipv6Text h]
    rfl

theorem clear_of_not_isForbidden {c : Char} (low : Domain.Punycode.isAscii c = true)
    (clear : Domain.isForbidden c = false) :
    isVisible c = true ∧ c ≠ '@' ∧ endsAuthority true c = false ∧ isSlash c = false := by
  have test := Domain.forall_ascii
    (p := fun c => Domain.isForbidden c ||
      (isVisible c && (c != '@' && (!endsAuthority true c && !isSlash c))))
    (by decide +kernel) low
  rw [clear] at test
  simpa using test

theorem clear_of_isPlainChar {c : Char} (h : Domain.isPlainChar c = true) :
    isVisible c = true ∧ c ≠ '@' ∧ endsAuthority true c = false ∧ isSlash c = false :=
  clear_of_not_isForbidden (Domain.isPlainChar_spec h).1 (Domain.isPlainChar_spec h).2.2.1

theorem isPlainChar_digitChar : ∀ d < 16, Domain.isPlainChar (Nat.digitChar d) = true := by decide

/-- The characters of a host: visible ones, and none that would end the authority or a user name. -/
theorem clear_of_mem_text {host : Host} (h : IsRead host) {c : Char} (hc : c ∈ host.text) :
    isVisible c = true ∧ c ≠ '@' ∧ endsAuthority true c = false ∧ isSlash c = false := by
  cases h with
  | @domain given name ascii hne word =>
    obtain ⟨low, -, clear⟩ := Domain.plain_of_mem_name ascii hc
    exact clear_of_not_isForbidden low clear
  | @ipv4 address h =>
    rcases mem_ipv4Text hc with rfl | digit
    · decide
    · exact clear_of_isPlainChar (isPlainChar_of_isDigit digit)
  | @ipv6 pieces h =>
    simp only [text, List.cons_append, List.mem_cons, List.mem_append, List.not_mem_nil,
      or_false] at hc
    rcases hc with rfl | hc | rfl
    · decide
    · rcases mem_ipv6Text hc with rfl | ⟨d, hd, rfl⟩
      · decide
      · exact clear_of_isPlainChar (isPlainChar_digitChar d hd)
    · decide

end Host

/-! ## 4. The authority -/

/-- Nothing of a text without brackets and colons counts for the search for a port. -/
theorem splitPort_append {cs : List Char} (h : ∀ c ∈ cs, c ∉ ['[', ':', ']']) (rest : List Char) :
    splitPort false (cs ++ rest) = (cs ++ (splitPort false rest).1, (splitPort false rest).2) := by
  induction cs with
  | nil => rfl
  | cons c cs ih =>
    have hc := h c List.mem_cons_self
    simp only [List.mem_cons, List.not_mem_nil, or_false, not_or] at hc
    obtain ⟨opening, colon, closing⟩ := hc
    rw [List.cons_append, splitPort, if_neg (fun e => colon e.1)]
    simp only [if_neg opening, if_neg closing, ih fun d hd => h d (List.mem_cons_of_mem _ hd),
      List.cons_append]

/-- A text in brackets is passed over as a whole. -/
theorem splitPort_brackets {cs : List Char} (h : ']' ∉ cs) (rest : List Char) :
    splitPort false ('[' :: cs ++ ']' :: rest) =
      ('[' :: cs ++ ']' :: (splitPort false rest).1, (splitPort false rest).2) := by
  have inside : ∀ cs : List Char, ']' ∉ cs → splitPort true (cs ++ ']' :: rest) =
      (cs ++ ']' :: (splitPort false rest).1, (splitPort false rest).2) := by
    intro cs
    induction cs with
    | nil => intro _; simp [splitPort]
    | cons c cs ih =>
      intro h
      have hc : c ≠ ']' := fun e => h (e ▸ List.mem_cons_self)
      rw [List.cons_append, splitPort, if_neg (by simp)]
      simp only [if_neg hc, ite_self, ih fun hm => h (List.mem_cons_of_mem _ hm), List.cons_append]
  rw [List.cons_append, splitPort, if_neg (by simp)]
  simp only [if_true, inside cs h, List.cons_append]

/-- The port that is written is parted from the host. -/
theorem splitPort_text {host : Host} (h : host.IsRead) (port : Option Nat) :
    splitPort false (host.text ++ partText ':' (port.map decimal)) =
      (host.text, port.map decimal) := by
  have hport : splitPort false (partText ':' (port.map decimal)) = ([], port.map decimal) := by
    cases port with
    | none => rfl
    | some n => simp [partText, splitPort]
  cases h with
  | @domain given name ascii hne word =>
    have clear : ∀ c ∈ name, c ∉ ['[', ':', ']'] := by
      intro c hc
      have := Host.notMem_of_clear (Domain.plain_of_mem_name ascii hc).2.2
      simp only [List.mem_cons, List.not_mem_nil, or_false, not_or] at this ⊢
      tauto
    rw [Host.text, splitPort_append clear, hport, List.append_nil]
  | @ipv4 address h =>
    have clear : ∀ c ∈ ipv4Text address, c ∉ ['[', ':', ']'] := by
      intro c hc
      rcases mem_ipv4Text hc with rfl | digit
      · decide
      · simp only [List.mem_cons, List.not_mem_nil, or_false, not_or]
        refine ⟨?_, ?_, ?_⟩ <;> rintro rfl <;> revert digit <;> decide
    rw [Host.text, splitPort_append clear, hport, List.append_nil]
  | @ipv6 pieces h =>
    have closing : ']' ∉ ipv6Text pieces := by
      intro hm
      rcases mem_ipv6Text hm with hm | ⟨d, hd, hm⟩
      · revert hm; decide
      · revert d; decide
    have := splitPort_brackets closing (partText ':' (port.map decimal))
    rw [hport] at this
    simpa [Host.text] using this

/-- A port that is kept is written and read back. -/
theorem port?_decimal {usual : Nat} {port : Option Nat}
    (h : ∀ n ∈ port, n ≤ 65535 ∧ n ≠ usual) :
    port? (some usual) ((port.map decimal).getD []) = some port := by
  cases port with
  | none => rfl
  | some n =>
    obtain ⟨small, unusual⟩ := h n rfl
    simp [port?, decimal_ne_nil, decimalValue?_decimal, small, unusual]

theorem of_port? {usual : Nat} {digits : List Char} {port : Option Nat}
    (h : port? (some usual) digits = some port) : ∀ n ∈ port, n ≤ 65535 ∧ n ≠ usual := by
  unfold port? at h
  split at h
  · cases h
    simp
  · obtain ⟨n, -, h⟩ := Option.bind_eq_some_iff.mp h
    split at h
    · cases h
    · rename_i small
      cases h
      split
      · simp
      · rename_i unusual
        intro m hm
        obtain rfl := Option.some.inj hm
        exact ⟨by omega, fun e => unusual (congrArg some e)⟩

theorem splitAt?_eq_none {cs : List Char} (h : '@' ∉ cs) : splitAt? cs = none := by
  induction cs with
  | nil => rfl
  | cons c cs ih =>
    have hc : c ≠ '@' := fun e => h (e ▸ List.mem_cons_self)
    rw [splitAt?, ih fun hm => h (List.mem_cons_of_mem _ hm)]
    exact if_neg hc

/-- A text is cut at its last `@`. -/
theorem splitAt?_append (before : List Char) {after : List Char} (h : '@' ∉ after) :
    splitAt? (before ++ '@' :: after) = some (before, after) := by
  induction before with
  | nil => simp [splitAt?, splitAt?_eq_none h]
  | cons c before ih => rw [List.cons_append, splitAt?, ih]

/-- A user name and a password are read as they are kept. -/
theorem userInfoOf_written {user password : List Char}
    (huser : ∀ c ∈ user, escapedInUserInfo c = false)
    (hpassword : ∀ c ∈ password, escapedInUserInfo c = false) :
    userInfoOf (user ++ if password = [] then [] else ':' :: password) = (user, password) := by
  have front : ∀ c ∈ user, decide (c ≠ ':') = true := fun c hc =>
    decide_eq_true (clear_of_userInfo (huser c hc)).2.1
  rcases eq_or_ne password [] with rfl | hne
  · rw [if_pos rfl, List.append_nil, userInfoOf, span_of_all front]
    dsimp only
    rw [percentEncode_of_clean huser]
    rfl
  · rw [if_neg hne, userInfoOf, span_append front (by simp)]
    simp [percentEncode_of_clean huser, percentEncode_of_clean hpassword]

/-- **The authority is read as it is written.** -/
theorem authorityParts_written {user password : List Char} {host : Host} (hhost : host.IsRead)
    (port : Option Nat) (huser : ∀ c ∈ user, escapedInUserInfo c = false)
    (hpassword : ∀ c ∈ password, escapedInUserInfo c = false) :
    ∃ userInfo, authorityParts (userInfoText user password ++ host.text ++
        partText ':' (port.map decimal)) = (userInfo, host.text, port.map decimal) ∧
      userInfoOf userInfo = (user, password) := by
  have clear : '@' ∉ host.text ++ partText ':' (port.map decimal) := by
    intro hm
    rcases List.mem_append.mp hm with hm | hm
    · exact (Host.clear_of_mem_text hhost hm).2.1 rfl
    · cases port with
      | none => cases hm
      | some n =>
        rcases List.mem_cons.mp hm with hm | hm
        · revert hm; decide
        · have := isDigit_of_mem_decimal hm
          revert this; decide
  by_cases none' : user = [] ∧ password = []
  · obtain ⟨rfl, rfl⟩ := none'
    refine ⟨[], ?_, rfl⟩
    rw [userInfoText, if_pos ⟨rfl, rfl⟩, List.nil_append, authorityParts, splitAt?_eq_none clear]
    simp only [splitPort_text hhost]
  · refine ⟨user ++ if password = [] then [] else ':' :: password, ?_,
      userInfoOf_written huser hpassword⟩
    rw [userInfoText, if_neg none', List.append_assoc, List.append_assoc _ ['@'],
      List.singleton_append, authorityParts, splitAt?_append _ clear]
    simp only [splitPort_text hhost]

end CrawlGraph.Url
