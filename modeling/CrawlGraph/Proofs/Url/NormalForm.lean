import CrawlGraph.Proofs.Domain.LongLabels
import CrawlGraph.Proofs.Url.Redirected

/-!
# The normal form of a URL

A page is kept under one text, whatever spelling it is named by. That text is a web URL in visible
characters, and it is its own normal form, unless the name of its host has a label that is too long
to be read.

1. `NormalForm`, what is true of every text under which a page is kept (`normalForm_of_normalUrl?`).
2. `exists_illegible`: there are pages whose text is not its own normal form.
-/

namespace CrawlGraph.Url

open CrawlGraph.Text

/-! ## 1. Normal forms -/

/-- **What is true of the text under which a page is kept.** -/
structure NormalForm (url : String) : Prop where
  scheme : ∃ secure, webPrefix secure <+: url.toList
  host : hostIn url.toList ≠ []
  visible : ∀ c ∈ url.toList, 0x21 ≤ c.toNat ∧ c.toNat ≤ 0x7E
  again : normalUrl? url = some url ↔ Domain.isLegible (hostIn url.toList) = true

/-- The text of a URL begins as a URL of the web. -/
theorem beginsAs_text (u : WebUrl) : BeginsAs u.secure u.text :=
  ⟨schemeText u.secure, _, u.text_eq, by cases u.secure <;> decide⟩

theorem webPrefix_of_text (u : WebUrl) : webPrefix u.secure <+: u.text :=
  ⟨u.authorityText ++ u.tailText, by rw [webPrefix_eq, u.text_eq]; simp⟩

/-- A URL whose host cannot be read is kept under another text, that of a URL whose host is the
    scheme. -/
theorem exists_other_of_illegible {u : WebUrl} (h : u.IsWritten)
    (illegible : Domain.isLegible u.host.text = false) :
    ∃ v : WebUrl, normalForm? u.text = some v.text ∧ hostIn v.text = schemeText u.secure := by
  have reading := Reading.of_text h
  rw [illegible, if_neg Bool.false_ne_true] at reading
  obtain ⟨v, written, -, host, again⟩ := webText?_again (beginsAs_text u)
  refine ⟨v, ?_, ?_⟩
  · rw [normalForm?, reading]
    exact again
  · rw [hostIn_text written, host]
    rfl

theorem isLegible_schemeText (secure : Bool) : Domain.isLegible (schemeText secure) = true := by
  cases secure <;> decide

/-- **The text of a URL is its own normal form just if its host can be read.** -/
theorem normalForm?_text {u : WebUrl} (h : u.IsWritten) :
    normalForm? u.text = some u.text ↔ Domain.isLegible u.host.text = true := by
  constructor
  · intro same
    by_contra illegible
    rw [Bool.not_eq_true] at illegible
    obtain ⟨v, other, host⟩ := exists_other_of_illegible h illegible
    have equal : v.text = u.text := Option.some.inj (other.symm.trans same)
    rw [equal, hostIn_text h] at host
    rw [host, isLegible_schemeText] at illegible
    cases illegible
  · intro legible
    have reading := Reading.of_text h
    rw [if_pos legible] at reading
    rw [normalForm?, reading]

theorem normalUrl?_eq_some {line url : String} :
    normalUrl? line = some url ↔ normalForm? line.toList = some url.toList := by
  rw [normalUrl?, Option.map_eq_some_iff]
  constructor
  · rintro ⟨text, htext, rfl⟩
    rw [htext, String.toList_ofList]
  · intro h
    exact ⟨_, h, String.ofList_toList⟩

/-- Every text under which a page is kept is that of a URL. -/
theorem exists_of_normalUrl? {line url : String} (h : normalUrl? line = some url) :
    ∃ u : WebUrl, u.IsWritten ∧ u.text = url.toList :=
  exists_of_normalForm? (normalUrl?_eq_some.mp h)

/-- **Every text under which a page is kept is a normal form.** -/
theorem normalForm_of_normalUrl? {line url : String} (h : normalUrl? line = some url) :
    NormalForm url := by
  obtain ⟨u, written, text⟩ := exists_of_normalUrl? h
  have host : hostIn url.toList = u.host.text := by rw [← text, hostIn_text written]
  constructor
  case scheme => exact ⟨u.secure, text ▸ webPrefix_of_text u⟩
  case host => exact host ▸ Host.text_ne_nil written.host
  case visible =>
    intro c hc
    have := WebUrl.visible_of_mem_text written (text ▸ hc)
    simpa [isVisible] using this
  case again => rw [normalUrl?_eq_some, host, ← text, normalForm?_text written]

/-! ## 2. Hosts that cannot be read -/

theorem cleanTail_of_solid {cs : List Char} (h : ∀ c ∈ cs, 0x20 < c.toNat) : cleanTail cs = cs := by
  have solid : ∀ c ∈ cs.reverse.head?, decide (c ≤ ' ') = false := by
    intro c hc
    have := h c (List.mem_reverse.mp (List.mem_of_mem_head? hc))
    exact decide_eq_false fun hle => absurd (show c.toNat ≤ 0x20 from hle) (by omega)
  rw [cleanTail, dropWhile_of_head solid, List.reverse_reverse, List.filter_eq_self]
  intro c hc
  have := h c hc
  have apart : ∀ {d : Char}, d.toNat ≤ 0x20 → c ≠ d := by
    rintro d hd rfl
    omega
  simp [apart (d := '\t') (by decide), apart (d := '\n') (by decide), apart (d := '\r') (by decide)]

/-- A name outside ASCII is read as the host that its ASCII form is. -/
theorem exists_of_host {name ascii : List Char} (ne : name ≠ [])
    (foreign : ∀ c ∈ name, 0x80 ≤ c.toNat) (hascii : Domain.ascii? name = some ascii)
    (some' : ascii ≠ []) (word : endsInNumber ascii = false) :
    ∃ u : WebUrl, u.IsWritten ∧ u.host = .domain ascii ∧
      normalForm? ("http://".toList ++ name) = some u.text := by
  have apart : ∀ {d : Char}, d.toNat < 0x80 → d ∉ name := by
    intro d hd hm
    have := foreign d hm
    omega
  have cleaned : clean ("http://".toList ++ name) = schemeText false ++ ':' :: ('/' :: '/' :: name) := by
    have visible : ∀ c ∈ "http://".toList, isVisible c = true :=
      visible_of_mem_front (by decide : (schemeText false).map Char.toLower = schemeText false)
    have solid : ∀ c ∈ name, 0x20 < c.toNat := fun c hc => by
      have := foreign c hc
      omega
    rw [clean_append (by decide) visible, cleanTail_of_solid solid]
    rfl
  have host : Host.ofText? name = some (.domain ascii) := by
    rw [Host.ofText?_of_plain (apart (by decide)) (apart (by decide)), hascii, Option.bind_some,
      Host.ofAscii?, if_neg some', word]
    rfl
  have bare : IsBare name := by
    intro c hc mark
    simp only [List.mem_cons, List.not_mem_nil, or_false] at mark
    rcases mark with rfl | rfl | rfl | rfl | rfl | rfl | rfl | rfl <;> exact apart (by decide) hc
  have none' : ∀ c ∈ ([] : List Char).head?, endsAuthority true c = true := by simp
  have rest := ofRest?_of_name bare ne host (.inl rfl) none'
  rw [List.append_nil, List.append_nil] at rest
  obtain ⟨u, hu, hhost⟩ := rest
  have lower : (schemeText false).map Char.toLower = schemeText false := by decide
  have reading : Reading.of ("http://".toList ++ name) = .web u := by
    rw [Reading.of, cleaned, Reading.ofClean_of_scheme (splitScheme?_of_lower lower _), hu]
    rfl
  refine ⟨u, (WebUrl.isWritten_of_ofRest? hu).1, hhost, ?_⟩
  rw [normalForm?, reading]

/-- A Punycode form with its mark is one label, and no number. -/
theorem splitOn_marked {label : List Char} (han : ∀ c ∈ label, Domain.isHan c = true) :
    (Domain.aceMark ++ Domain.Punycode.encode label).splitOn '.' =
      [Domain.aceMark ++ Domain.Punycode.encode label] := by
  rw [List.splitOn_eq_splitOnP]
  refine List.splitOnP_eq_singleton fun c hc => beq_eq_false_iff_ne.mpr ?_
  rintro rfl
  rcases List.mem_append.mp hc with hc | hc
  · revert hc
    decide
  · rcases Domain.Punycode.mem_encode hc with ⟨hc, -⟩ | hc | ⟨d, hd, hc⟩
    · exact Domain.ne_of_han (han _ hc) (by decide) rfl
    · revert hc
      decide
    · exact Domain.digit_ne_stop d hd hc

/-- A label that begins with a letter is no number. -/
theorem endsInNumber_of_letter {cs : List Char} (whole : ('x' :: cs).splitOn '.' = ['x' :: cs]) :
    endsInNumber ('x' :: cs) = false := by
  have number : addressNumber? ('x' :: cs) = none := by
    simp [addressNumber?, decimalValue?]
  have parts : nameParts ('x' :: cs) = ['x' :: cs] := by
    simp [nameParts, whole]
  rw [endsInNumber, parts, List.getLast?_singleton, Option.any_some, number]
  simp

theorem isBlank_of_han {c : Char} (h : Domain.isHan c = true) : isBlank c = false := by
  simp only [Domain.isHan, Bool.and_eq_true, decide_eq_true_eq] at h
  simp only [isBlank, Bool.or_eq_false_iff, Bool.and_eq_false_iff, decide_eq_false_iff_not,
    beq_eq_false_iff_ne]
  omega

/-- **Some page is kept under a text whose host cannot be read**, when it is named by one word. -/
theorem exists_illegible : ∃ line url : String, normalUrl? line = some url ∧
    Domain.isLegible (hostIn url.toList) = false ∧ line.toList.head? = some 'h' ∧
      words line.toList = [line.toList] := by
  obtain ⟨label, hne, han, short, long⟩ := Domain.exists_long_form
  have foreign : ∀ c ∈ label, 0x80 ≤ c.toNat := by
    intro c hc
    have := han c hc
    simp only [Domain.isHan, Bool.and_eq_true, decide_eq_true_eq] at this
    omega
  obtain ⟨u, written, host, form⟩ := exists_of_host hne foreign
    (Domain.ascii?_of_han hne han short) (List.cons_ne_nil _ _) (endsInNumber_of_letter (splitOn_marked han))
  have long' : Domain.isShort (Domain.aceMark ++ Domain.Punycode.encode label) = false := by
    have marked : Domain.aceMark.isPrefixOf (Domain.aceMark ++ Domain.Punycode.encode label) = true :=
      List.isPrefixOf_iff_prefix.mpr (List.prefix_append _ _)
    rw [Domain.isShort, marked, List.length_append]
    exact decide_eq_false (by omega)
  have solid : ∀ c ∈ "http://".toList ++ label, isBlank c = false := by
    intro c hc
    rcases List.mem_append.mp hc with hc | hc
    · have scheme : "http://".toList.all (fun c => !isBlank c) = true := by decide
      simpa using List.all_eq_true.mp scheme c hc
    · exact isBlank_of_han (han c hc)
  refine ⟨String.ofList ("http://".toList ++ label), String.ofList u.text, ?_, ?_, ?_⟩
  · rw [normalUrl?, String.toList_ofList (l := "http://".toList ++ label), form, Option.map_some]
  · rw [String.toList_ofList, hostIn_text written, host, Host.text, Domain.isLegible,
      splitOn_marked han]
    simp [long']
  · rw [String.toList_ofList (l := "http://".toList ++ label)]
    exact ⟨rfl, words_of_solid (List.cons_ne_nil _ _) solid⟩

end CrawlGraph.Url
