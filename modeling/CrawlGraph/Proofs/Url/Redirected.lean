import CrawlGraph.Proofs.Url.Written

/-!
# Web URLs that are none

A text with the scheme of the web need not be a URL: its port may be out of range, its host may be
missing. Such a text is read again after `http://`, as every text without a scheme is. Its own
scheme is the host then, and so the second reading never fails.

1. `BeginsAs`, the texts with the scheme of the web, and what the first reading makes of them.
2. `webText?_again`, the second reading.
3. `exists_normal_of_beginsAs`.
-/

namespace CrawlGraph.Url

open CrawlGraph.Text

variable {secure : Bool} {cs : List Char}

/-! ## 1. The first reading -/

/-- Whether the text begins with a scheme of the web and its marks, in letters of either case. -/
def BeginsAs (secure : Bool) (cs : List Char) : Prop :=
  ∃ scheme rest, cs = scheme ++ ':' :: '/' :: '/' :: rest ∧
    scheme.map Char.toLower = schemeText secure

theorem visible_of_isAlpha {c : Char} (h : c.isAlpha = true) : isVisible c = true := by
  simp only [Char.isAlpha, Char.isUpper, Char.isLower, Bool.or_eq_true, Bool.and_eq_true,
    decide_eq_true_eq, ge_iff_le, UInt32.le_iff_toNat_le] at h
  have : c.toNat = c.val.toNat := rfl
  simp only [isVisible, Bool.and_eq_true, decide_eq_true_eq]
  rcases h with ⟨low, high⟩ | ⟨low, high⟩ <;> simp at low high <;> omega

theorem isAscii_of_visible {c : Char} (h : isVisible c = true) :
    Domain.Punycode.isAscii c = true := by
  simp only [isVisible, Bool.and_eq_true, decide_eq_true_eq] at h
  exact decide_eq_true (by omega)

/-- The scheme and the marks after it are visible characters. -/
theorem visible_of_mem_front {scheme : List Char}
    (h : scheme.map Char.toLower = schemeText secure) :
    ∀ c ∈ scheme ++ [':', '/', '/'], isVisible c = true := by
  intro c hc
  rcases List.mem_append.mp hc with hc | hc
  · exact visible_of_isAlpha (isAlpha_of_mem_scheme h c hc)
  · simp only [List.mem_cons, List.not_mem_nil, or_false] at hc
    rcases hc with rfl | rfl | rfl <;> decide

theorem clean_beginning {scheme : List Char} (h : scheme.map Char.toLower = schemeText secure)
    (rest : List Char) : clean (scheme ++ ':' :: '/' :: '/' :: rest) =
      scheme ++ ':' :: '/' :: '/' :: cleanTail rest := by
  have := clean_append (by simp) (visible_of_mem_front h) rest
  simpa using this

/-- **A text that begins as a web URL is one, or it is no URL.** -/
theorem Reading.of_beginsAs (h : BeginsAs secure cs) :
    (∃ u, Reading.of cs = .web u ∧ u.secure = secure) ∨ Reading.of cs = .unhosted := by
  obtain ⟨scheme, rest, rfl, hscheme⟩ := h
  rw [Reading.of, clean_beginning hscheme, ofClean_of_scheme (splitScheme?_of_lower hscheme _)]
  cases hu : WebUrl.ofRest? secure ('/' :: '/' :: cleanTail rest) with
  | none => exact .inr rfl
  | some u => exact .inl ⟨u, rfl, (WebUrl.isWritten_of_ofRest? hu).2⟩

/-! ## 2. The second reading -/

/-- The scheme of the web is a host name. -/
theorem ofText?_scheme {scheme : List Char} (h : scheme.map Char.toLower = schemeText secure) :
    Host.ofText? scheme = some (.domain (schemeText secure)) := by
  have letters := isAlpha_of_mem_scheme h
  have ascii : ∀ c ∈ scheme, Domain.Punycode.isAscii c = true := fun c hc =>
    isAscii_of_visible (visible_of_isAlpha (letters c hc))
  have name : Domain.ascii? scheme = some (schemeText secure) := by
    have plain : (schemeText secure).all Domain.isPlainChar = true := by
      cases secure <;> decide
    have own := Domain.ascii?_of_plain (List.cons_ne_nil (schemeText secure) [])
      (by simpa using plain)
    rw [List.intercalate_singleton] at own
    rw [← Domain.ascii?_toLower ascii, h, own]
  have bracket : '[' ∉ scheme := fun hm => by
    have := letters _ hm
    revert this
    decide
  have percent : '%' ∉ scheme := fun hm => by
    have := letters _ hm
    revert this
    decide
  rw [Host.ofText?_of_plain bracket percent, name, Option.bind_some]
  cases secure <;> decide

/-- Whether none of the marks of an authority stands in the text. -/
def IsBare (name : List Char) : Prop := ∀ c ∈ name, c ∉ ['/', '\\', '?', '#', '@', '[', ':', ']']

/-- **A bare name is the host**, with or without the colon of a port behind it. -/
theorem ofRest?_of_name {name mark tail : List Char} {host : Host} (bare : IsBare name)
    (some' : name ≠ []) (hhost : Host.ofText? name = some host) (hmark : mark = [] ∨ mark = [':'])
    (htail : ∀ c ∈ tail.head?, endsAuthority true c = true) :
    ∃ u, WebUrl.ofRest? false ('/' :: '/' :: (name ++ mark ++ tail)) = some u ∧
      u.host = host := by
  simp only [IsBare, List.mem_cons, List.not_mem_nil, or_false, not_or] at bare
  have start : ('/' :: '/' :: (name ++ mark ++ tail)).dropWhile isSlash = name ++ mark ++ tail := by
    obtain ⟨c, name, rfl⟩ := List.exists_cons_of_ne_nil some'
    refine dropWhile_slashes fun d hd => ?_
    obtain rfl := Option.some.inj hd
    simp [isSlash, bare _ List.mem_cons_self]
  have span : (name ++ mark ++ tail).span (fun c => !endsAuthority true c) =
      (name ++ mark, tail) := by
    refine span_append (fun c hc => ?_) fun c hc => by simp [htail c hc]
    rcases List.mem_append.mp hc with hc | hc
    · simp [endsAuthority, bare c hc]
    · rcases hmark with rfl | rfl
      · cases hc
      · rw [List.mem_singleton.mp hc]
        decide
  have parts : ∃ port, (port = none ∨ port = some []) ∧
      authorityParts (name ++ mark) = ([], name, port) := by
    have none' : '@' ∉ name ++ mark := by
      intro hm
      rcases List.mem_append.mp hm with hm | hm
      · exact absurd rfl (bare _ hm).2.2.2.2.1
      · rcases hmark with rfl | rfl <;> revert hm <;> decide
    have solid : ∀ c ∈ name, c ∉ ['[', ':', ']'] := fun c hc => by simp [bare c hc]
    rw [authorityParts, splitAt?_eq_none none', splitPort_append solid]
    rcases hmark with rfl | rfl
    · exact ⟨none, .inl rfl, by simp [splitPort]⟩
    · exact ⟨some [], .inr rfl, by simp [splitPort]⟩
  obtain ⟨port, hport, parts⟩ := parts
  unfold WebUrl.ofRest?
  rw [start, span]
  dsimp only
  rw [parts]
  dsimp only
  rw [hhost]
  rcases hport with rfl | rfl <;> exact ⟨_, rfl, rfl⟩

/-- After `http://` a scheme and its marks are a host and a path. -/
theorem ofRest?_again {scheme : List Char} (h : scheme.map Char.toLower = schemeText secure)
    (tail : List Char) : ∃ u,
      WebUrl.ofRest? false ('/' :: '/' :: (scheme ++ ':' :: '/' :: '/' :: tail)) = some u ∧
        u.host = .domain (schemeText secure) := by
  have bare : IsBare scheme := by
    intro c hc mark
    have letter := isAlpha_of_mem_scheme h c hc
    simp only [List.mem_cons, List.not_mem_nil, or_false] at mark
    rcases mark with rfl | rfl | rfl | rfl | rfl | rfl | rfl | rfl <;> revert letter <;> decide
  have some' : scheme ≠ [] := by
    rintro rfl
    cases secure <;> cases h
  have path : ∀ c ∈ ('/' :: '/' :: tail).head?, endsAuthority true c = true := by
    intro c hc
    obtain rfl := Option.some.inj hc
    rfl
  have := ofRest?_of_name bare some' (ofText?_scheme h) (.inr rfl) path
  rwa [List.append_assoc] at this

/-- **The second reading of a text that begins as a web URL succeeds**: the scheme of the text is
    the host. -/
theorem webText?_again (h : BeginsAs secure cs) :
    ∃ u : WebUrl, u.IsWritten ∧ u.secure = false ∧ u.host = .domain (schemeText secure) ∧
      webText? ("http://".toList ++ cs) = some u.text := by
  obtain ⟨scheme, rest, rfl, hscheme⟩ := h
  obtain ⟨u, hu, host⟩ := ofRest?_again hscheme (cleanTail rest)
  obtain ⟨written, plain⟩ := WebUrl.isWritten_of_ofRest? hu
  refine ⟨u, written, plain, host, ?_⟩
  have visible : ∀ c ∈ "http://".toList ++ (scheme ++ [':', '/', '/']), isVisible c = true := by
    intro c hc
    rcases List.mem_append.mp hc with hc | hc
    · have own : (schemeText false).map Char.toLower = schemeText false := by decide
      exact visible_of_mem_front own c hc
    · exact visible_of_mem_front hscheme c hc
  have cleaned : clean ("http://".toList ++ (scheme ++ ':' :: '/' :: '/' :: rest)) =
      schemeText false ++ ':' :: '/' :: '/' :: (scheme ++ ':' :: '/' :: '/' :: cleanTail rest) := by
    have := clean_append (by simp) visible rest
    simpa [schemeText] using this
  have reading : Reading.of ("http://".toList ++ (scheme ++ ':' :: '/' :: '/' :: rest)) =
      .web u := by
    have lower : (schemeText false).map Char.toLower = schemeText false := by decide
    rw [Reading.of, cleaned, Reading.ofClean_of_scheme (splitScheme?_of_lower lower _), hu]
    rfl
  rw [webText?, reading]

/-! ## 3. The normal form -/

/-- **A text that begins as a web URL always has a normal form.** Where it is a URL, the normal form
    is that of the URL. Where it is none, the normal form is a URL whose host is the scheme that the
    text begins with. -/
theorem exists_normal_of_beginsAs {line : String} (h : BeginsAs secure line.toList) :
    (∃ u, Reading.of line.toList = .web u ∧ normalUrl? line = some (String.ofList u.text) ∧
      u.secure = secure ∧ hostIn u.text = u.host.text) ∨
    (Reading.of line.toList = .unhosted ∧ ∃ u : WebUrl,
      normalUrl? line = some (String.ofList u.text) ∧ u.secure = false ∧
        hostIn u.text = schemeText secure) := by
  rcases Reading.of_beginsAs h with ⟨u, reading, same⟩ | reading
  · refine .inl ⟨u, reading, ?_, same, hostIn_text (isWritten_of_reading reading)⟩
    rw [normalUrl?, normalForm?, reading]
    rfl
  · obtain ⟨u, written, plain, host, again⟩ := webText?_again h
    refine .inr ⟨reading, u, ?_, plain, ?_⟩
    · rw [normalUrl?, normalForm?, reading]
      exact congrArg (Option.map String.ofList) again
    · rw [hostIn_text written, host]
      rfl

theorem exists_normal_of_impossible_port :
    BeginsAs false "http://a:99999".toList ∧
      ((∃ u, Reading.of "http://a:99999".toList = .web u ∧
          normalUrl? "http://a:99999" = some (String.ofList u.text) ∧ u.secure = false ∧
          hostIn u.text = u.host.text) ∨
        (Reading.of "http://a:99999".toList = .unhosted ∧ ∃ u : WebUrl,
          normalUrl? "http://a:99999" = some (String.ofList u.text) ∧ u.secure = false ∧
            hostIn u.text = schemeText false)) :=
  have begins : BeginsAs false "http://a:99999".toList :=
    ⟨"http".toList, "a:99999".toList, rfl, by decide⟩
  ⟨begins, exists_normal_of_beginsAs begins⟩

/-- There is no port 99999, whatever the host is. -/
theorem reading_impossible_port : Reading.of "http://a:99999".toList = .unhosted := by
  have cleaned : clean "http://a:99999".toList = "http://a:99999".toList := by decide
  have scheme : splitScheme? "http://a:99999".toList =
      some (schemeText false, "//a:99999".toList) := by decide
  have span : ("//a:99999".toList.dropWhile isSlash).span (fun c => !endsAuthority true c) =
      ("a:99999".toList, []) := by decide
  have parts : authorityParts "a:99999".toList = ([], "a".toList, some "99999".toList) := by decide
  have port : port? (some (usualPort false)) "99999".toList = none := by decide
  have rest : WebUrl.ofRest? false "//a:99999".toList = none := by
    unfold WebUrl.ofRest?
    rw [span]
    dsimp only
    rw [parts]
    dsimp only
    rw [Option.getD_some, port]
    cases Host.ofText? "a".toList with
    | none => rfl
    | some host => rfl
  rw [Reading.of, cleaned, Reading.ofClean_of_scheme scheme, rest]
  rfl

/-- A line that names an impossible port is kept as a page of a host that it does not name. -/
theorem impossible_port_is_kept :
    BeginsAs false "http://a:99999".toList ∧ Reading.of "http://a:99999".toList = .unhosted ∧
      normalUrl? "http://a:99999" = some "http://http//a:99999" := by
  have cleaned : clean "http://http://a:99999".toList = "http://http://a:99999".toList := by decide
  have scheme : splitScheme? "http://http://a:99999".toList =
      some (schemeText false, "//http://a:99999".toList) := by decide
  have span : ("//http://a:99999".toList.dropWhile isSlash).span (fun c => !endsAuthority true c) =
      ("http:".toList, "//a:99999".toList) := by decide
  have parts : authorityParts "http:".toList = ([], "http".toList, some []) := by decide
  have host : Host.ofText? "http".toList = some (.domain (schemeText false)) :=
    ofText?_scheme (by decide)
  have rest : WebUrl.ofRest? false "//http://a:99999".toList =
      some ⟨false, [], [], .domain (schemeText false), none, [[], "a:99999".toList], none, none⟩ := by
    unfold WebUrl.ofRest?
    rw [span]
    dsimp only
    rw [parts]
    dsimp only
    rw [host]
    rfl
  have again : Reading.of ("http://".toList ++ "http://a:99999".toList) =
      .web ⟨false, [], [], .domain (schemeText false), none, [[], "a:99999".toList], none, none⟩ := by
    show Reading.of "http://http://a:99999".toList = _
    rw [Reading.of, cleaned, Reading.ofClean_of_scheme scheme, rest]
    rfl
  refine ⟨⟨"http".toList, "a:99999".toList, rfl, by decide⟩, reading_impossible_port, ?_⟩
  rw [normalUrl?, normalForm?, reading_impossible_port]
  dsimp only
  rw [webText?, again]
  decide

end CrawlGraph.Url
