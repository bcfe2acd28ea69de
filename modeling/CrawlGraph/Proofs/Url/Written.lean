import CrawlGraph.Proofs.Url.Parts

/-!
# The text of a web URL reads back

A web URL that was read is written in one form, and that form is read as the same URL. The one
exception is a host name with a label that is too long to be read.

1. `WebUrl.IsWritten`, what is true of a URL that was read.
2. The text of such a URL: visible characters only, a scheme, an authority and the rest.
3. `Reading.of_text` and `normalForm?_text`.
-/

namespace CrawlGraph.Url

open CrawlGraph.Text

/-! ## 1. What was read -/

/-- A URL whose parts are kept as they are written. -/
structure WebUrl.IsWritten (u : WebUrl) : Prop where
  user : ∀ c ∈ u.user, escapedInUserInfo c = false
  password : ∀ c ∈ u.password, escapedInUserInfo c = false
  host : u.host.IsRead
  port : ∀ n ∈ u.port, n ≤ 65535 ∧ n ≠ usualPort u.secure
  path_ne_nil : u.path ≠ []
  path : ∀ s ∈ u.path, IsSegment s
  query : ∀ cs ∈ u.query, ∀ c ∈ cs, escapedInQuery c = false
  fragment : ∀ cs ∈ u.fragment, ∀ c ∈ cs, escapedInFragment c = false

theorem escapedInQuery_hexDigitUpper : ∀ n < 16, escapedInQuery (hexDigitUpper n) = false := by
  decide

theorem escapedInFragment_hexDigitUpper :
    ∀ n < 16, escapedInFragment (hexDigitUpper n) = false := by
  decide

/-- **A URL that is read is kept as it is written.** -/
theorem WebUrl.isWritten_of_ofRest? {secure : Bool} {cs : List Char} {u : WebUrl}
    (h : ofRest? secure cs = some u) : u.IsWritten ∧ u.secure = secure := by
  unfold ofRest? at h
  dsimp only at h
  obtain ⟨host, hhost, h⟩ := Option.bind_eq_some_iff.mp h
  obtain ⟨port, hport, h⟩ := Option.bind_eq_some_iff.mp h
  obtain rfl := Option.some.inj h
  refine ⟨?_, rfl⟩
  exact {
    user := clean_percentEncode (by decide) escapedInUserInfo_hexDigitUpper _
    password := clean_percentEncode (by decide) escapedInUserInfo_hexDigitUpper _
    host := Host.isRead_of_ofText? hhost
    port := of_port? hport
    path_ne_nil := resolve_ne_nil (segmentsOf_ne_nil _)
    path := isSegment_of_mem_resolve fun s hs => solid_of_mem_segmentsOf hs
    query := by
      intro text ht
      obtain ⟨given, -, rfl⟩ := Option.map_eq_some_iff.mp ht
      exact clean_percentEncode (by decide) escapedInQuery_hexDigitUpper _
    fragment := by
      intro text ht
      obtain ⟨given, -, rfl⟩ := Option.map_eq_some_iff.mp ht
      exact clean_percentEncode (by decide) escapedInFragment_hexDigitUpper _ }

/-! ## 2. The text of a URL -/

/-- The name of the scheme. -/
def schemeText (secure : Bool) : List Char := if secure then "https".toList else "http".toList

/-- User, password, host and port as they are written. -/
def WebUrl.authorityText (u : WebUrl) : List Char :=
  userInfoText u.user u.password ++ u.host.text ++ partText ':' (u.port.map decimal)

/-- What is written after the authority. -/
def WebUrl.tailText (u : WebUrl) : List Char :=
  pathText u.path ++ partText '?' u.query ++ partText '#' u.fragment

theorem webPrefix_eq (secure : Bool) :
    webPrefix secure = schemeText secure ++ [':', '/', '/'] := by
  cases secure <;> rfl

theorem WebUrl.text_eq (u : WebUrl) :
    u.text = schemeText u.secure ++ ':' :: '/' :: '/' :: (u.authorityText ++ u.tailText) := by
  simp [text, webPrefix_eq, authorityText, tailText]

theorem mem_partText {mark c : Char} {part : Option (List Char)} (h : c ∈ partText mark part) :
    c = mark ∨ ∃ cs ∈ part, c ∈ cs := by
  cases part with
  | none => cases h
  | some cs =>
    rcases List.mem_cons.mp h with h | h
    · exact .inl h
    · exact .inr ⟨cs, rfl, h⟩

theorem visible_of_isDigit {c : Char} (h : c.isDigit = true) :
    isVisible c = true ∧ endsAuthority true c = false := by
  obtain ⟨visible, -, inside, -⟩ := Host.clear_of_isPlainChar (Host.isPlainChar_of_isDigit h)
  exact ⟨visible, inside⟩

/-- The slashes in front of an authority are left out. -/
theorem dropWhile_slashes {rest : List Char} (h : ∀ c ∈ rest.head?, isSlash c = false) :
    ('/' :: '/' :: rest).dropWhile isSlash = rest := by
  have slashes : ∀ c ∈ ['/', '/'], isSlash c = true := by simp [isSlash]
  exact dropWhile_front slashes h

namespace WebUrl

variable {u : WebUrl}

theorem clear_of_mem_userInfoText (h : u.IsWritten) {c : Char}
    (hc : c ∈ userInfoText u.user u.password) :
    isVisible c = true ∧ endsAuthority true c = false ∧ isSlash c = false := by
  have ofPart : ∀ {c : Char}, escapedInUserInfo c = false →
      isVisible c = true ∧ endsAuthority true c = false ∧ isSlash c = false := fun hc =>
    ⟨(clear_of_userInfo hc).1, (clear_of_userInfo hc).2.2.2⟩
  unfold userInfoText at hc
  split at hc
  · cases hc
  · rcases List.mem_append.mp hc with hc | hc
    · rcases List.mem_append.mp hc with hc | hc
      · exact ofPart (h.user c hc)
      · split at hc
        · cases hc
        · rcases List.mem_cons.mp hc with rfl | hc
          · decide
          · exact ofPart (h.password c hc)
    · rw [List.mem_singleton.mp hc]
      decide

/-- **Nothing of an authority ends it.** -/
theorem clear_of_mem_authorityText (h : u.IsWritten) {c : Char} (hc : c ∈ u.authorityText) :
    isVisible c = true ∧ endsAuthority true c = false := by
  rcases List.mem_append.mp hc with hc | hc
  · rcases List.mem_append.mp hc with hc | hc
    · obtain ⟨visible, inside, -⟩ := clear_of_mem_userInfoText h hc
      exact ⟨visible, inside⟩
    · obtain ⟨visible, -, inside, -⟩ := Host.clear_of_mem_text h.host hc
      exact ⟨visible, inside⟩
  · rcases mem_partText hc with rfl | ⟨digits, hdigits, hc⟩
    · decide
    · obtain ⟨n, -, rfl⟩ := Option.map_eq_some_iff.mp hdigits
      exact visible_of_isDigit (isDigit_of_mem_decimal hc)

/-- An authority does not begin with a slash. -/
theorem head_authorityText (h : u.IsWritten) :
    ∃ c cs, u.authorityText = c :: cs ∧ isSlash c = false := by
  by_cases hinfo : userInfoText u.user u.password = []
  · obtain ⟨c, cs, hcs⟩ := List.exists_cons_of_ne_nil (Host.text_ne_nil h.host)
    have hc : c ∈ u.host.text := hcs ▸ List.mem_cons_self
    exact ⟨c, _, by rw [authorityText, hinfo, hcs]; rfl, (Host.clear_of_mem_text h.host hc).2.2.2⟩
  · obtain ⟨c, cs, hcs⟩ := List.exists_cons_of_ne_nil hinfo
    have hc : c ∈ userInfoText u.user u.password := hcs ▸ List.mem_cons_self
    exact ⟨c, _, by rw [authorityText, hcs]; rfl, (clear_of_mem_userInfoText h hc).2.2⟩

/-- The characters of a path leave out the marks after it. -/
theorem clear_of_mem_pathText (h : u.IsWritten) {c : Char} (hc : c ∈ pathText u.path) :
    isVisible c = true ∧ c ≠ '#' ∧ c ≠ '?' := by
  rcases mem_pathText hc with rfl | ⟨s, hs, hc⟩
  · decide
  · exact clear_of_path ((h.path s hs).clean c hc)

theorem clear_of_mem_query (h : u.IsWritten) {c : Char} (hc : c ∈ partText '?' u.query) :
    isVisible c = true ∧ c ≠ '#' := by
  rcases mem_partText hc with rfl | ⟨cs, hcs, hc⟩
  · decide
  · exact clear_of_query (h.query cs hcs c hc)

theorem visible_of_mem_fragment (h : u.IsWritten) {c : Char} (hc : c ∈ partText '#' u.fragment) :
    isVisible c = true := by
  rcases mem_partText hc with rfl | ⟨cs, hcs, hc⟩
  · decide
  · exact visible_of_fragment (h.fragment cs hcs c hc)

theorem visible_of_mem_schemeText (secure : Bool) :
    ∀ c ∈ schemeText secure, isVisible c = true ∧ isSchemeChar c = true := by
  have all : (schemeText secure).all (fun c => isVisible c && isSchemeChar c) = true := by
    cases secure <;> decide
  intro c hc
  simpa using List.all_eq_true.mp all c hc

/-- **A URL is written in visible characters.** -/
theorem visible_of_mem_text (h : u.IsWritten) {c : Char} (hc : c ∈ u.text) :
    isVisible c = true := by
  rw [text_eq] at hc
  simp only [List.mem_append, List.mem_cons, tailText] at hc
  rcases hc with hc | rfl | rfl | rfl | hc | (hc | hc) | hc
  · exact (visible_of_mem_schemeText u.secure c hc).1
  · decide
  · decide
  · decide
  · exact (clear_of_mem_authorityText h hc).1
  · exact (clear_of_mem_pathText h hc).1
  · exact (clear_of_mem_query h hc).1
  · exact visible_of_mem_fragment h hc

theorem head_tailText (h : u.IsWritten) : ∃ cs, u.tailText = '/' :: cs := by
  obtain ⟨s, path, hpath⟩ := List.exists_cons_of_ne_nil h.path_ne_nil
  exact ⟨_, by rw [tailText, hpath]; rfl⟩

/-- The authority ends where it was written to end. -/
theorem span_authority (h : u.IsWritten) :
    ((['/', '/'] ++ (u.authorityText ++ u.tailText)).dropWhile isSlash).span
      (fun c => !endsAuthority true c) = (u.authorityText, u.tailText) := by
  obtain ⟨c, cs, hcs, hc⟩ := head_authorityText h
  obtain ⟨rest, hrest⟩ := head_tailText h
  have start : (['/', '/'] ++ (u.authorityText ++ u.tailText)).dropWhile isSlash =
      u.authorityText ++ u.tailText := by
    refine dropWhile_slashes fun d hd => ?_
    rw [hcs] at hd
    obtain rfl := Option.some.inj hd
    exact hc
  rw [start]
  refine span_append (fun d hd => ?_) fun d hd => ?_
  · simp [(clear_of_mem_authorityText h hd).2]
  · rw [hrest] at hd
    obtain rfl := Option.some.inj hd
    decide

/-! ## 3. Reading it -/

theorem splitMark_append {mark : Char} {front : List Char} (h : mark ∉ front)
    (part : Option (List Char)) : splitMark mark (front ++ partText mark part) = (front, part) := by
  have solid : ∀ c ∈ front, decide (c ≠ mark) = true := fun c hc =>
    decide_eq_true fun e => h (e ▸ hc)
  cases part with
  | none =>
    rw [partText, List.append_nil, splitMark, span_of_all solid]
  | some cs =>
    rw [partText, splitMark, span_append solid (by simp)]

/-- **What follows the scheme of a URL is read as the URL**, if its host can be read. -/
theorem ofRest?_written (h : u.IsWritten) :
    ofRest? u.secure (['/', '/'] ++ (u.authorityText ++ u.tailText)) =
      if Domain.isLegible u.host.text then some u else none := by
  obtain ⟨userInfo, hparts, huser⟩ := authorityParts_written h.host u.port h.user h.password
  have hash : splitMark '#' u.tailText =
      (pathText u.path ++ partText '?' u.query, u.fragment) := by
    refine splitMark_append (fun hm => ?_) u.fragment
    rcases List.mem_append.mp hm with hm | hm
    · exact (clear_of_mem_pathText h hm).2.1 rfl
    · exact (clear_of_mem_query h hm).2 rfl
  have question : splitMark '?' (pathText u.path ++ partText '?' u.query) =
      (pathText u.path, u.query) :=
    splitMark_append (fun hm => (clear_of_mem_pathText h hm).2.2 rfl) u.query
  have path : resolve (segmentsOf (pathText u.path)) = u.path := by
    rw [segmentsOf_pathText h.path_ne_nil fun s hs => (h.path s hs).solid,
      resolve_of_isSegment h.path]
  have query : u.query.map (percentEncode escapedInQuery) = u.query := by
    cases hq : u.query with
    | none => rfl
    | some cs => rw [Option.map_some, percentEncode_of_clean (h.query cs hq)]
  have fragment : u.fragment.map (percentEncode escapedInFragment) = u.fragment := by
    cases hf : u.fragment with
    | none => rfl
    | some cs => rw [Option.map_some, percentEncode_of_clean (h.fragment cs hf)]
  unfold ofRest?
  rw [span_authority h]
  dsimp only
  rw [authorityText, hparts]
  dsimp only
  rw [Host.ofText?_text h.host, port?_decimal h.port, huser, hash]
  dsimp only
  rw [question]
  split
  · simp only [Option.bind_eq_bind, Option.bind_some, path, query, fragment]
    rfl
  · rfl

end WebUrl

theorem not_le_space {c : Char} (h : isVisible c = true) : (c ≤ ' ') = False := by
  simp only [isVisible, Bool.and_eq_true, decide_eq_true_eq] at h
  refine eq_false fun hle => ?_
  have : c.toNat ≤ 0x20 := hle
  omega

theorem unbroken_of_visible {c : Char} (h : isVisible c = true) :
    (!(c = '\t' || c = '\n' || c = '\r')) = true := by
  have apart : ∀ {d : Char}, isVisible d = false → c ≠ d := by
    rintro d hd rfl
    rw [h] at hd
    cases hd
  simp [apart (d := '\t') (by decide), apart (d := '\n') (by decide), apart (d := '\r') (by decide)]

/-- What is left of a text that stands after visible characters. -/
def cleanTail (cs : List Char) : List Char :=
  (cs.reverse.dropWhile (· ≤ ' ')).reverse.filter fun c => !(c = '\t' || c = '\n' || c = '\r')

/-- **Visible characters stay**, and what follows them is cleaned by itself. -/
theorem clean_append {front : List Char} (hne : front ≠ [])
    (visible : ∀ c ∈ front, isVisible c = true) (cs : List Char) :
    clean (front ++ cs) = front ++ cleanTail cs := by
  have solid : ∀ c ∈ front, decide (c ≤ ' ') = false := fun c hc => by
    simp [not_le_space (visible c hc)]
  obtain ⟨first, front', hfront⟩ := List.exists_cons_of_ne_nil hne
  have start : (front ++ cs).dropWhile (· ≤ ' ') = front ++ cs := by
    refine dropWhile_of_head fun c hc => solid c ?_
    rw [hfront] at hc ⊢
    obtain rfl := Option.some.inj hc
    exact List.mem_cons_self
  have stop : front.reverse.dropWhile (· ≤ ' ') = front.reverse :=
    dropWhile_of_head fun c hc => solid c (List.mem_reverse.mp (List.mem_of_mem_head? hc))
  have ends : (cs.reverse ++ front.reverse).dropWhile (· ≤ ' ') =
      cs.reverse.dropWhile (· ≤ ' ') ++ front.reverse := by
    rw [List.dropWhile_append]
    split
    · rename_i blank
      rw [stop, List.isEmpty_iff.mp blank, List.nil_append]
    · rfl
  have whole : front.filter (fun c => !(c = '\t' || c = '\n' || c = '\r')) = front :=
    List.filter_eq_self.mpr fun c hc => unbroken_of_visible (visible c hc)
  rw [clean, trimBy, start, List.reverse_append, ends, List.reverse_append, List.reverse_reverse,
    List.filter_append, whole, cleanTail]

/-- Nothing is taken out of a text of visible characters. -/
theorem clean_of_visible {cs : List Char} (h : ∀ c ∈ cs, isVisible c = true) : clean cs = cs := by
  rcases eq_or_ne cs [] with rfl | hne
  · rfl
  · have := clean_append hne h []
    rw [List.append_nil] at this
    rw [this]
    exact List.append_nil cs

theorem isAlpha_of_toLower {c : Char} (h : c.toLower.isAlpha = true) : c.isAlpha = true := by
  by_cases upper : c.isUpper = true
  · simp [Char.isAlpha, upper]
  · rwa [Char.toLower_eq_of_not_isUpper upper] at h

/-- A web scheme is letters. -/
theorem isAlpha_of_mem_scheme {secure : Bool} {scheme : List Char}
    (h : scheme.map Char.toLower = schemeText secure) : ∀ c ∈ scheme, c.isAlpha = true := by
  have all : (schemeText secure).all Char.isAlpha = true := by
    cases secure <;> decide
  intro c hc
  refine isAlpha_of_toLower (List.all_eq_true.mp all _ ?_)
  rw [← h]
  exact List.mem_map_of_mem hc

theorem splitScheme?_of_lower {secure : Bool} {scheme : List Char}
    (h : scheme.map Char.toLower = schemeText secure) (rest : List Char) :
    splitScheme? (scheme ++ ':' :: rest) = some (schemeText secure, rest) := by
  have letters := isAlpha_of_mem_scheme h
  have hne : scheme ≠ [] := by
    rintro rfl
    cases secure <;> cases h
  obtain ⟨first, scheme, rfl⟩ := List.exists_cons_of_ne_nil hne
  have inside : ∀ c ∈ first :: scheme, isSchemeChar c = true := by
    intro c hc
    simp [isSchemeChar, Char.isAlphanum, letters c hc]
  have colon : ∀ c ∈ (':' :: rest).head?, isSchemeChar c = false := by
    intro c hc
    obtain rfl := Option.some.inj hc
    decide
  rw [splitScheme?, span_append inside colon]
  exact (if_pos (letters first List.mem_cons_self)).trans (by rw [h])

theorem ofName_schemeText (secure : Bool) : Scheme.ofName (schemeText secure) = .web secure := by
  cases secure <;> rfl

/-- What a text with a scheme of the web is as a URL. -/
theorem Reading.ofClean_of_scheme {secure : Bool} {cs rest : List Char}
    (h : splitScheme? cs = some (schemeText secure, rest)) :
    Reading.ofClean cs = ((WebUrl.ofRest? secure rest).map Reading.web).getD .unhosted := by
  rw [Reading.ofClean, h]
  dsimp only
  rw [ofName_schemeText]
  dsimp only
  cases WebUrl.ofRest? secure rest with
  | none => rfl
  | some u => rfl

/-- **The text of a URL is read as the URL**, if its host can be read. -/
theorem Reading.of_text {u : WebUrl} (h : u.IsWritten) :
    Reading.of u.text = if Domain.isLegible u.host.text then .web u else .unhosted := by
  have scheme : (schemeText u.secure).map Char.toLower = schemeText u.secure := by
    cases u.secure <;> decide
  have rest := WebUrl.ofRest?_written h
  rw [List.cons_append, List.cons_append, List.nil_append] at rest
  rw [Reading.of, clean_of_visible fun c hc => WebUrl.visible_of_mem_text h hc, WebUrl.text_eq,
    ofClean_of_scheme (splitScheme?_of_lower scheme _), rest]
  by_cases legible : Domain.isLegible u.host.text = true
  · rw [if_pos legible, if_pos legible]
    rfl
  · rw [if_neg legible, if_neg legible]
    rfl

/-- The host as a text with a scheme and an authority spells it. -/
def hostIn (cs : List Char) : List Char :=
  match splitScheme? cs with
  | none => []
  | some (_, rest) =>
    (authorityParts ((rest.dropWhile isSlash).takeWhile fun c => !endsAuthority true c)).2.1

/-- The host that the text of a URL spells. -/
theorem hostIn_text {u : WebUrl} (h : u.IsWritten) : hostIn u.text = u.host.text := by
  have scheme : (schemeText u.secure).map Char.toLower = schemeText u.secure := by
    cases u.secure <;> decide
  obtain ⟨userInfo, hparts, -⟩ := authorityParts_written h.host u.port h.user h.password
  have span := WebUrl.span_authority h
  rw [List.span_eq_takeWhile_dropWhile, List.cons_append, List.cons_append,
    List.nil_append] at span
  rw [hostIn, WebUrl.text_eq, splitScheme?_of_lower scheme]
  dsimp only
  rw [(Prod.mk.inj span).1, WebUrl.authorityText, hparts]

theorem isWritten_of_reading {cs : List Char} {u : WebUrl} (h : Reading.of cs = .web u) :
    u.IsWritten := by
  rw [Reading.of, Reading.ofClean] at h
  dsimp only at h
  split at h
  · cases h
  · split at h
    · split at h
      · rename_i hrest
        cases h
        exact (WebUrl.isWritten_of_ofRest? hrest).1
      · cases h
    all_goals split at h <;> cases h

/-- Every text under which a page is kept is that of a web URL that was read. -/
theorem exists_of_normalForm? {cs text : List Char} (h : normalForm? cs = some text) :
    ∃ u : WebUrl, u.IsWritten ∧ u.text = text := by
  have ofWeb : ∀ {cs : List Char}, webText? cs = some text → ∃ u : WebUrl, u.IsWritten ∧ u.text = text := by
    intro cs h
    unfold webText? at h
    split at h
    · rename_i u hread
      exact ⟨u, isWritten_of_reading hread, Option.some.inj h⟩
    · cases h
  unfold normalForm? at h
  split at h
  · rename_i u hread
    exact ⟨u, isWritten_of_reading hread, Option.some.inj h⟩
  · cases h
  · exact ofWeb h

end CrawlGraph.Url
