import CrawlGraph.Json.Token
import CrawlGraph.Proofs.Text.Pieces

/-!
# The lexical grammar of JSON

Which texts are tokens, said without the functions that read them, and the reading of a whole text
into tokens in both directions.

1. Strings: `PieceText`, what one piece is written as, and `Means`, what pieces mean
   (`parts?_eq_some_iff`, `joined?_eq_some_iff`).
2. Numerals: `IsNumeral`, and where a numeral has to stop (`numeral?_append`, `of_numeral?`).
3. `Lexeme`, the texts of one token (`next?_append`, `exists_lexeme_of_next?`).
4. `Lexed`, a text as white space and tokens (`tokens?_of_lexed`, `lexed_of_tokens?`).
-/

namespace CrawlGraph.Json

open CrawlGraph.Text
open Domain.Punycode (charOf?)

/-! ## 1. Strings -/

/-- The texts of one piece of a string. -/
inductive PieceText : List Char → Part → Prop
  | plain {c} : c ≠ '"' → c ≠ '\\' → 0x20 ≤ c.toNat → PieceText [c] (.plain c)
  | short {letter c} : shortEscape? letter = some c → PieceText ['\\', letter] (.plain c)
  | unit {a b c d n} : hexNumber? [a, b, c, d] = some n →
      PieceText ['\\', 'u', a, b, c, d] (.unit n)

/-- The texts between the quotes of a string. -/
inductive PiecesText : List Char → List Part → Prop
  | nil : PiecesText [] []
  | cons {cs ds p ps} : PieceText cs p → PiecesText ds ps → PiecesText (cs ++ ds) (p :: ps)

/-- The text that pieces mean. A unit that is half of a surrogate pair is no character, and so it
    means something only together with the other half. -/
inductive Means : List Part → List Char → Prop
  | nil : Means [] []
  | plain {c ps cs} : Means ps cs → Means (.plain c :: ps) (c :: cs)
  | unit {n c ps cs} : charOf? n = some c → Means ps cs → Means (.unit n :: ps) (c :: cs)
  | pair {n m c ps cs} : 0xD800 ≤ n → n < 0xDC00 → 0xDC00 ≤ m → m < 0xE000 →
      charOf? (0x10000 + (n - 0xD800) * 0x400 + (m - 0xDC00)) = some c → Means ps cs →
      Means (.unit n :: .unit m :: ps) (c :: cs)

theorem parts?_piece {cs : List Char} {p : Part} (h : PieceText cs p) (rest : List Char) :
    parts? (cs ++ rest) = (parts? rest).map (consPart p) := by
  cases h with
  | plain quote backslash control =>
    rw [List.singleton_append, parts?]
    · exact if_neg (not_or.mpr ⟨backslash, Nat.not_lt.mpr control⟩)
    all_goals simp_all
  | @short letter c h =>
    rw [List.cons_append, List.singleton_append, parts?, h]
    rintro a b c d tail rfl -
    cases h
  | unit h => simp [parts?, h]

/-- Pieces end at a quote. -/
theorem parts?_append {cs : List Char} {ps : List Part} (h : PiecesText cs ps) (rest : List Char) :
    parts? (cs ++ '"' :: rest) = some (ps, rest) := by
  induction h with
  | nil => simp [parts?]
  | cons piece _ ih =>
    rw [List.append_assoc, parts?_piece piece, ih]
    rfl

/-- A piece more in front of pieces that were read. -/
theorem exists_pieces_cons {front tail rest : List Char} {p : Part} {ps : List Part}
    (piece : PieceText front p)
    (ih : ∀ {qs}, parts? tail = some (qs, rest) →
      ∃ body, tail = body ++ '"' :: rest ∧ PiecesText body qs)
    (h : (parts? tail).map (consPart p) = some (ps, rest)) :
    ∃ body, front ++ tail = body ++ '"' :: rest ∧ PiecesText body ps := by
  obtain ⟨⟨qs, r⟩, hq, he⟩ := Option.map_eq_some_iff.mp h
  simp only [consPart, Prod.mk.injEq] at he
  obtain ⟨rfl, rfl⟩ := he
  obtain ⟨body, rfl, pieces⟩ := ih hq
  exact ⟨front ++ body, (List.append_assoc ..).symm, .cons piece pieces⟩

/-- **Pieces are read up to the first quote that belongs to none of them.** -/
theorem parts?_eq_some_iff {cs rest : List Char} {ps : List Part} :
    parts? cs = some (ps, rest) ↔ ∃ body, cs = body ++ '"' :: rest ∧ PiecesText body ps := by
  refine ⟨fun h => ?_, fun ⟨body, hcs, pieces⟩ => hcs ▸ parts?_append pieces rest⟩
  fun_induction parts? cs generalizing ps with
  | case1 => cases h
  | case2 tail =>
    cases h
    exact ⟨[], rfl, .nil⟩
  | case3 a b c d tail n hn ih => exact exists_pieces_cons (.unit hn) ih h
  | case4 => cases h
  | case5 letter tail _ c hc ih => exact exists_pieces_cons (.short hc) ih h
  | case6 => cases h
  | case7 => cases h
  | case8 c tail quote _ _ plain ih =>
    rw [not_or, Nat.not_lt] at plain
    exact exists_pieces_cons (.plain quote plain.1 plain.2) ih h

/-- Half of a surrogate pair is no character. -/
theorem charOf?_surrogate {n : Nat} (low : 0xD800 ≤ n) (high : n < 0xE000) : charOf? n = none := by
  rw [charOf?, dif_neg]
  rw [Nat.isValidChar]
  omega

theorem joined?_of_means {ps : List Part} {cs : List Char} (h : Means ps cs) :
    joined? ps = some cs := by
  induction h with
  | nil => rfl
  | plain _ ih => rw [joined?, ih, Option.map_some]
  | @unit n c ps cs hc means ih =>
    have single : ∀ m, ¬(0xD800 ≤ n ∧ n < 0xDC00 ∧ 0xDC00 ≤ m ∧ m < 0xE000) := by
      rintro m ⟨low, high, -, -⟩
      rw [charOf?_surrogate low (by omega)] at hc
      cases hc
    cases ps with
    | nil =>
      cases means
      rw [joined?, hc, Option.map_some]
    | cons p ps =>
      cases p with
      | plain d => rw [joined?, hc, Option.bind_some, ih, Option.map_some]
      | unit m => rw [joined?, if_neg (single m), hc, Option.bind_some, ih, Option.map_some]
  | pair hn hn' hm hm' hc _ ih =>
    rw [joined?, if_pos ⟨hn, hn', hm, hm'⟩, hc, Option.bind_some, ih, Option.map_some]

/-- **What pieces mean** is what they are joined to. -/
theorem joined?_eq_some_iff {ps : List Part} {cs : List Char} :
    joined? ps = some cs ↔ Means ps cs := by
  refine ⟨fun h => ?_, joined?_of_means⟩
  fun_induction joined? ps generalizing cs with
  | case1 =>
    cases h
    exact .nil
  | case2 c rest ih =>
    obtain ⟨ds, hds, rfl⟩ := Option.map_eq_some_iff.mp h
    exact .plain (ih hds)
  | case3 n =>
    obtain ⟨c, hc, rfl⟩ := Option.map_eq_some_iff.mp h
    exact .unit hc .nil
  | case4 n m rest surrogates ih =>
    obtain ⟨c, hc, h⟩ := Option.bind_eq_some_iff.mp h
    obtain ⟨ds, hds, rfl⟩ := Option.map_eq_some_iff.mp h
    exact .pair surrogates.1 surrogates.2.1 surrogates.2.2.1 surrogates.2.2.2 hc (ih hds)
  | case5 n m rest _ ih =>
    obtain ⟨c, hc, h⟩ := Option.bind_eq_some_iff.mp h
    obtain ⟨ds, hds, rfl⟩ := Option.map_eq_some_iff.mp h
    exact .unit hc (ih hds)
  | case6 n d rest ih =>
    obtain ⟨c, hc, h⟩ := Option.bind_eq_some_iff.mp h
    obtain ⟨ds, hds, rfl⟩ := Option.map_eq_some_iff.mp h
    exact .unit hc (ih hds)

/-! ## 2. Numerals -/

/-- A row of digits that is not empty. -/
def IsDigits (cs : List Char) : Prop := cs ≠ [] ∧ ∀ c ∈ cs, c.isDigit = true

/-- The texts in front of the point: a zero, or digits that begin with none. -/
def IsWhole (cs : List Char) : Prop := cs = ['0'] ∨ IsDigits cs ∧ cs.head? ≠ some '0'

/-- The texts of a fraction, which may be missing. -/
def IsFraction (cs : List Char) : Prop := cs = [] ∨ ∃ digits, IsDigits digits ∧ cs = '.' :: digits

/-- The texts of an exponent, which may be missing. -/
def IsExponent (cs : List Char) : Prop :=
  cs = [] ∨ ∃ mark sign digits, (mark = 'e' ∨ mark = 'E') ∧
    (sign = [] ∨ sign = ['+'] ∨ sign = ['-']) ∧ IsDigits digits ∧ cs = mark :: sign ++ digits

/-- The texts of a number. -/
inductive IsNumeral : List Char → Prop
  | mk {sign whole fraction exponent} : sign = [] ∨ sign = ['-'] → IsWhole whole →
      IsFraction fraction → IsExponent exponent → IsNumeral (sign ++ whole ++ fraction ++ exponent)

/-- Whether no character follows that a numeral could go on with. -/
def NumeralStops (rest : List Char) : Prop :=
  ∀ c ∈ rest.head?, c.isDigit = false ∧ c ≠ '.' ∧ c ≠ 'e' ∧ c ≠ 'E'

theorem digits?_append {digits rest : List Char} (h : IsDigits digits)
    (stop : ∀ c ∈ rest.head?, c.isDigit = false) :
    digits? (digits ++ rest) = some (digits, rest) := by
  rw [digits?, takeWhile_front h.2 stop, dropWhile_front h.2 stop, if_neg h.1]

theorem of_digits? {cs digits rest : List Char} (h : digits? cs = some (digits, rest)) :
    cs = digits ++ rest ∧ IsDigits digits := by
  unfold digits? at h
  split at h
  case isTrue => cases h
  case isFalse hne =>
    cases h
    exact ⟨List.takeWhile_append_dropWhile.symm, hne, fun _ hc => mem_takeWhile hc⟩

theorem IsWhole.exists_cons {cs : List Char} (h : IsWhole cs) :
    ∃ c tail, cs = c :: tail ∧ c.isDigit = true := by
  rcases h with rfl | ⟨⟨hne, digits⟩, -⟩
  · exact ⟨'0', [], rfl, by decide⟩
  · obtain ⟨c, tail, rfl⟩ := List.exists_cons_of_ne_nil hne
    exact ⟨c, tail, rfl, digits c List.mem_cons_self⟩

theorem whole?_append {cs rest : List Char} (h : IsWhole cs)
    (stop : ∀ c ∈ rest.head?, c.isDigit = false) : whole? (cs ++ rest) = some (cs, rest) := by
  rcases h with rfl | ⟨digits, front⟩
  · rfl
  · rw [whole?, digits?_append digits stop]
    intro tail htail
    rw [← List.head?_append_of_ne_nil _ digits.1, htail] at front
    exact front rfl

theorem of_whole? {cs whole rest : List Char} (h : whole? cs = some (whole, rest)) :
    cs = whole ++ rest ∧ IsWhole whole := by
  unfold whole? at h
  split at h
  case h_1 =>
    cases h
    exact ⟨rfl, .inl rfl⟩
  case h_2 other =>
    obtain ⟨rfl, digits⟩ := of_digits? h
    refine ⟨rfl, .inr ⟨digits, fun front => ?_⟩⟩
    obtain ⟨c, tail, rfl⟩ := List.exists_cons_of_ne_nil digits.1
    cases front
    exact other _ rfl

theorem fraction?_append {cs rest : List Char} (h : IsFraction cs)
    (stop : ∀ c ∈ rest.head?, c.isDigit = false ∧ c ≠ '.') :
    fraction? (cs ++ rest) = some (cs, rest) := by
  rcases h with rfl | ⟨digits, hdigits, rfl⟩
  · rw [List.nil_append, fraction?]
    rintro tail rfl
    exact (stop '.' rfl).2 rfl
  · rw [List.cons_append, fraction?, digits?_append hdigits fun c hc => (stop c hc).1]
    rfl

theorem of_fraction? {cs fraction rest : List Char} (h : fraction? cs = some (fraction, rest)) :
    cs = fraction ++ rest ∧ IsFraction fraction := by
  unfold fraction? at h
  split at h
  case h_1 =>
    obtain ⟨⟨digits, after⟩, hd, he⟩ := Option.map_eq_some_iff.mp h
    cases he
    obtain ⟨rfl, hdigits⟩ := of_digits? hd
    exact ⟨rfl, .inr ⟨digits, hdigits, rfl⟩⟩
  case h_2 =>
    cases h
    exact ⟨rfl, .inl rfl⟩

/-- The sign in front of the digits of an exponent. -/
theorem exponentSign_append {sign digits : List Char} (rest : List Char)
    (hsign : sign = [] ∨ sign = ['+'] ∨ sign = ['-']) (h : IsDigits digits) :
    exponentSign (sign ++ (digits ++ rest)) = (sign, digits ++ rest) := by
  rcases hsign with rfl | rfl | rfl
  · obtain ⟨c, tail, rfl⟩ := List.exists_cons_of_ne_nil h.1
    have digit := h.2 c List.mem_cons_self
    have plus : c ≠ '+' := by
      rintro rfl
      revert digit
      decide
    have minus : c ≠ '-' := by
      rintro rfl
      revert digit
      decide
    simp [exponentSign, Json.sign, plus, minus]
  · rfl
  · rfl

theorem of_exponentSign (cs : List Char) :
    cs = (exponentSign cs).1 ++ (exponentSign cs).2 ∧
      ((exponentSign cs).1 = [] ∨ (exponentSign cs).1 = ['+'] ∨ (exponentSign cs).1 = ['-']) := by
  unfold exponentSign
  split
  · exact ⟨rfl, .inr (.inl rfl)⟩
  · unfold Json.sign
    split
    · exact ⟨rfl, .inr (.inr rfl)⟩
    · exact ⟨rfl, .inl rfl⟩

theorem exponent?_append {cs rest : List Char} (h : IsExponent cs) (stop : NumeralStops rest) :
    exponent? (cs ++ rest) = some (cs, rest) := by
  rcases h with rfl | ⟨mark, sign, digits, hmark, hsign, hdigits, rfl⟩
  · cases rest with
    | nil => rfl
    | cons c rest =>
      obtain ⟨-, -, lower, upper⟩ := stop c rfl
      exact if_neg (not_or.mpr ⟨lower, upper⟩)
  · rw [List.append_assoc, List.cons_append, exponent?, if_pos hmark,
      exponentSign_append rest hsign hdigits, digits?_append hdigits fun c hc => (stop c hc).1]
    rfl

theorem of_exponent? {cs exponent rest : List Char} (h : exponent? cs = some (exponent, rest)) :
    cs = exponent ++ rest ∧ IsExponent exponent := by
  unfold exponent? at h
  split at h
  case h_1 c tail =>
    split at h
    case isTrue hmark =>
      obtain ⟨⟨digits, after⟩, hd, he⟩ := Option.map_eq_some_iff.mp h
      cases he
      obtain ⟨split, hsign⟩ := of_exponentSign tail
      obtain ⟨hafter, hdigits⟩ := of_digits? hd
      refine ⟨?_, .inr ⟨c, _, digits, hmark, hsign, hdigits, rfl⟩⟩
      rw [hafter] at split
      rw [List.append_assoc, List.cons_append]
      exact congrArg (c :: ·) split
    case isFalse =>
      cases h
      exact ⟨rfl, .inl rfl⟩
  case h_2 =>
    cases h
    exact ⟨rfl, .inl rfl⟩

/-- What stands behind the digits before the point goes on with none. -/
theorem isDigit_of_head_fraction {fraction exponent rest : List Char} (hf : IsFraction fraction)
    (he : IsExponent exponent) (stop : NumeralStops rest) :
    (∀ c ∈ (exponent ++ rest).head?, c.isDigit = false ∧ c ≠ '.') ∧
      ∀ c ∈ (fraction ++ (exponent ++ rest)).head?, c.isDigit = false := by
  have behind : ∀ c ∈ (exponent ++ rest).head?, c.isDigit = false ∧ c ≠ '.' := by
    rcases he with rfl | ⟨mark, sign, digits, hmark, -, -, rfl⟩
    · exact fun c hc => ⟨(stop c hc).1, (stop c hc).2.1⟩
    · rintro c hc
      cases hc
      rcases hmark with rfl | rfl <;> decide
  refine ⟨behind, ?_⟩
  rcases hf with rfl | ⟨digits, -, rfl⟩
  · exact fun c hc => (behind c hc).1
  · rintro c hc
    cases hc
    decide

theorem sign_append {front tail : List Char} (hsign : front = [] ∨ front = ['-']) {c : Char}
    (digit : c.isDigit = true) : sign (front ++ c :: tail) = (front, c :: tail) := by
  rcases hsign with rfl | rfl
  · rw [List.nil_append, sign]
    rintro rest he
    cases he
    revert digit
    decide
  · rfl

theorem of_sign (cs : List Char) :
    cs = (sign cs).1 ++ (sign cs).2 ∧ ((sign cs).1 = [] ∨ (sign cs).1 = ['-']) := by
  unfold sign
  split
  · exact ⟨rfl, .inr rfl⟩
  · exact ⟨rfl, .inl rfl⟩

/-- **A numeral is read as far as it goes.** -/
theorem numeral?_append {cs rest : List Char} (h : IsNumeral cs) (stop : NumeralStops rest) :
    numeral? (cs ++ rest) = some (cs, rest) := by
  obtain ⟨hsign, hwhole, hfraction, hexponent⟩ := h
  obtain ⟨c, tail, rfl, digit⟩ := hwhole.exists_cons
  obtain ⟨behindFraction, behindWhole⟩ := isDigit_of_head_fraction hfraction hexponent stop
  have wholeRead := whole?_append hwhole behindWhole
  rw [List.cons_append] at wholeRead
  simp only [numeral?, List.append_assoc, List.cons_append, sign_append hsign digit, wholeRead,
    Option.bind_some, fraction?_append hfraction behindFraction, exponent?_append hexponent stop,
    Option.map_some]

/-- **What is read as a numeral is one.** -/
theorem of_numeral? {cs numeral rest : List Char} (h : numeral? cs = some (numeral, rest)) :
    cs = numeral ++ rest ∧ IsNumeral numeral := by
  obtain ⟨⟨whole, r⟩, hw, h⟩ := Option.bind_eq_some_iff.mp h
  obtain ⟨⟨fraction, r'⟩, hf, h⟩ := Option.bind_eq_some_iff.mp h
  obtain ⟨⟨exponent, r''⟩, he, h⟩ := Option.map_eq_some_iff.mp h
  cases h
  obtain ⟨hcs, hsign⟩ := of_sign cs
  obtain ⟨hr, hwhole⟩ := of_whole? hw
  obtain ⟨hr', hfraction⟩ := of_fraction? hf
  obtain ⟨hr'', hexponent⟩ := of_exponent? he
  refine ⟨?_, .mk hsign hwhole hfraction hexponent⟩
  subst hr'' hr'
  rw [hr] at hcs
  rw [List.append_assoc, List.append_assoc, List.append_assoc]
  exact hcs

/-! ## 3. Tokens -/

/-- The texts of a string with its quotes, and what it means. -/
inductive StringText : List Char → Option (List Char) → Prop
  | mk {body ps text} : PiecesText body ps → (∀ cs, text = some cs ↔ Means ps cs) →
      StringText ('"' :: body ++ ['"']) text

theorem StringText.of_means {body cs : List Char} {ps : List Part} (pieces : PiecesText body ps)
    (means : Means ps cs) : StringText ('"' :: body ++ ['"']) (some cs) := by
  refine .mk pieces fun ds => ?_
  rw [← joined?_eq_some_iff, joined?_of_means means]

/-- The texts of one token. -/
inductive Lexeme : List Char → Token → Prop
  | openBrace : Lexeme ['\x7b'] .openBrace
  | closeBrace : Lexeme ['\x7d'] .closeBrace
  | openBracket : Lexeme ['['] .openBracket
  | closeBracket : Lexeme [']'] .closeBracket
  | colon : Lexeme [':'] .colon
  | comma : Lexeme [','] .comma
  | null : Lexeme ['n', 'u', 'l', 'l'] .null
  | yes : Lexeme ['t', 'r', 'u', 'e'] (.bool true)
  | no : Lexeme ['f', 'a', 'l', 's', 'e'] (.bool false)
  | number {numeral} : IsNumeral numeral → Lexeme numeral (.number numeral)
  | string {cs text} : StringText cs text → Lexeme cs (.string text)

/-- Whether a token may end where a text begins: a numeral must not go on. -/
def Token.EndsAt (t : Token) (rest : List Char) : Prop :=
  match t with
  | .number _ => NumeralStops rest
  | _ => True

theorem IsNumeral.exists_cons {cs : List Char} (h : IsNumeral cs) :
    ∃ c tail, cs = c :: tail ∧ (c = '-' ∨ c.isDigit = true) := by
  obtain ⟨hsign, hwhole, -, -⟩ := h
  obtain ⟨c, tail, rfl, digit⟩ := hwhole.exists_cons
  rcases hsign with rfl | rfl
  · exact ⟨c, _, rfl, .inr digit⟩
  · exact ⟨'-', _, rfl, .inl rfl⟩

theorem next?_of_numeral {c : Char} (h : c = '-' ∨ c.isDigit = true) (cs : List Char) :
    next? (c :: cs) = (numeral? (c :: cs)).map fun (numeral, rest) => (.number numeral, rest) := by
  have other : ∀ d, d ≠ '-' → d.isDigit = false → c ≠ d := by
    rintro d hyphen digit rfl
    rcases h with rfl | h
    · exact hyphen rfl
    · exact Bool.false_ne_true (digit.symm.trans h)
  have word : words.find? (fun w => w.1.isPrefixOf (c :: cs)) = none := by
    have n := other 'n' (by decide) (by decide)
    have t := other 't' (by decide) (by decide)
    have f := other 'f' (by decide) (by decide)
    simp [words, List.isPrefixOf, n.symm, t.symm, f.symm]
  rw [next?, word]
  all_goals exact other _ (by decide) (by decide)

/-- **A token is read from its text.** -/
theorem next?_append {cs rest : List Char} {t : Token} (h : Lexeme cs t) (ends : t.EndsAt rest) :
    next? (cs ++ rest) = some (t, rest) := by
  cases h with
  | @number numeral h =>
    obtain ⟨c, tail, rfl, front⟩ := h.exists_cons
    have read := numeral?_append h ends
    rw [List.cons_append] at read ⊢
    rw [next?_of_numeral front, read, Option.map_some]
  | @string _ text h =>
    obtain @⟨body, ps, _, pieces, means⟩ := h
    have meaning : joined? ps = text := by
      ext cs
      rw [means, joined?_eq_some_iff]
    rw [List.cons_append, List.cons_append, List.append_assoc, List.singleton_append, next?,
      parts?_append pieces, Option.map_some, ← meaning]
  | _ => rfl

theorem lexeme_of_mem_words {word : List Char} {t : Token} (h : (word, t) ∈ words) :
    Lexeme word t := by
  simp only [words, List.mem_cons, List.not_mem_nil, or_false, Prod.mk.injEq] at h
  rcases h with ⟨rfl, rfl⟩ | ⟨rfl, rfl⟩ | ⟨rfl, rfl⟩
  · exact .null
  · exact .yes
  · exact .no

/-- **What is read as a token is its text.** -/
theorem exists_lexeme_of_next? {cs rest : List Char} {t : Token} (h : next? cs = some (t, rest)) :
    ∃ lexeme, cs = lexeme ++ rest ∧ Lexeme lexeme t := by
  unfold next? at h
  split at h
  case h_1 => cases h
  case h_8 tail =>
    obtain ⟨⟨ps, r⟩, hp, he⟩ := Option.map_eq_some_iff.mp h
    cases he
    obtain ⟨body, rfl, pieces⟩ := parts?_eq_some_iff.mp hp
    refine ⟨'"' :: body ++ ['"'], by simp, .string (.mk pieces fun cs => ?_)⟩
    rw [joined?_eq_some_iff]
  case h_9 c tail _ _ _ _ _ _ _ =>
    split at h
    · rename_i word token found
      cases h
      have front := List.find?_some found
      rw [List.isPrefixOf_iff_prefix, List.prefix_iff_eq_append] at front
      exact ⟨word, front.symm, lexeme_of_mem_words (List.mem_of_find?_eq_some found)⟩
    · obtain ⟨⟨numeral, r⟩, hn, he⟩ := Option.map_eq_some_iff.mp h
      cases he
      obtain ⟨hcs, hnumeral⟩ := of_numeral? hn
      exact ⟨numeral, hcs, .number hnumeral⟩
  all_goals cases h
  · exact ⟨_, rfl, .openBrace⟩
  · exact ⟨_, rfl, .closeBrace⟩
  · exact ⟨_, rfl, .openBracket⟩
  · exact ⟨_, rfl, .closeBracket⟩
  · exact ⟨_, rfl, .colon⟩
  · exact ⟨_, rfl, .comma⟩

/-! ## 4. Texts -/

/-- A text as white space and tokens. -/
inductive Lexed : List Char → List Token → Prop
  | nil : Lexed [] []
  | space {c cs ts} : isSpace c = true → Lexed cs ts → Lexed (c :: cs) ts
  | token {cs rest t ts} : Lexeme cs t → t.EndsAt rest → Lexed rest ts →
      Lexed (cs ++ rest) (t :: ts)

/-- A token begins with a character that is no white space. -/
theorem Lexeme.exists_cons {cs : List Char} {t : Token} (h : Lexeme cs t) :
    ∃ c tail, cs = c :: tail ∧ isSpace c = false := by
  cases h with
  | number h =>
    obtain ⟨c, tail, rfl, front⟩ := h.exists_cons
    refine ⟨c, tail, rfl, ?_⟩
    by_contra space
    rw [Bool.not_eq_false] at space
    simp only [isSpace, Bool.or_eq_true, decide_eq_true_eq] at space
    rcases space with ((rfl | rfl) | rfl) | rfl <;> revert front <;> decide
  | string h =>
    obtain ⟨-, -⟩ := h
    exact ⟨'"', _, rfl, by decide⟩
  | _ => exact ⟨_, _, rfl, by decide⟩

theorem tokens?_space {c : Char} (h : isSpace c = true) (rest : List Char) :
    tokens? (c :: rest) = tokens? rest := by
  rw [tokens?, if_pos h]

theorem tokens?_spaces {gap : List Char} (h : ∀ c ∈ gap, isSpace c = true) (rest : List Char) :
    tokens? (gap ++ rest) = tokens? rest := by
  induction gap with
  | nil => rfl
  | cons c gap ih =>
    rw [List.cons_append, tokens?_space (h c List.mem_cons_self)]
    exact ih fun d hd => h d (List.mem_cons_of_mem _ hd)

theorem tokens?_of_next? {c : Char} {rest after : List Char} {t : Token}
    (solid : isSpace c = false) (h : next? (c :: rest) = some (t, after)) :
    tokens? (c :: rest) = (tokens? after).map (t :: ·) := by
  rw [tokens?, solid, if_neg Bool.false_ne_true]
  split
  · rename_i none'
    rw [none'] at h
    cases h
  · rename_i t' after' some'
    rw [some'] at h
    cases h
    rfl

/-- A token in front of a text that is read. -/
theorem tokens?_append {cs rest : List Char} {t : Token} (h : Lexeme cs t) (ends : t.EndsAt rest) :
    tokens? (cs ++ rest) = (tokens? rest).map (t :: ·) := by
  have read := next?_append h ends
  obtain ⟨c, tail, rfl, solid⟩ := h.exists_cons
  rw [List.cons_append] at read ⊢
  exact tokens?_of_next? solid read

/-- **A text is read as the tokens that it is made of.** -/
theorem tokens?_of_lexed {cs : List Char} {ts : List Token} (h : Lexed cs ts) :
    tokens? cs = some ts := by
  induction h with
  | nil => rw [tokens?]
  | space space _ ih => rw [tokens?_space space, ih]
  | token lexeme ends _ ih => rw [tokens?_append lexeme ends, ih, Option.map_some]

/-- Whether a token closes what a numeral stands in, or parts it from what comes next. -/
def Token.ClosesOrParts (t : Token) : Prop := t = .comma ∨ t = .closeBracket ∨ t = .closeBrace

/-- Whether the second token may stand behind the first one. -/
def Token.Before (t u : Token) : Prop :=
  match t with
  | .number _ => u.ClosesOrParts
  | _ => True

/-- Whether tokens may stand behind a value of any kind. -/
def Behind (ts : List Token) : Prop := ∀ t ∈ ts.head?, t.ClosesOrParts

theorem behind_cons {t : Token} (h : t.ClosesOrParts) (ts : List Token) : Behind (t :: ts) := by
  rintro u hu
  cases hu
  exact h

theorem Behind.before {ts : List Token} (h : Behind ts) (t : Token) :
    ∀ u ∈ ts.head?, t.Before u := by
  cases t with
  | number => exact h
  | _ => exact fun _ _ => trivial

theorem not_numeralChar_of_isSpace {c : Char} (h : isSpace c = true) :
    c.isDigit = false ∧ c ≠ '.' ∧ c ≠ 'e' ∧ c ≠ 'E' := by
  simp only [isSpace, Bool.or_eq_true, decide_eq_true_eq] at h
  rcases h with ((rfl | rfl) | rfl) | rfl <;> decide

/-- A numeral stops in front of the tokens that may stand behind it. -/
theorem numeralStops_of_lexed {rest : List Char} {ts : List Token} (h : Lexed rest ts)
    (behind : Behind ts) : NumeralStops rest := by
  intro c hc
  cases h with
  | nil => cases hc
  | space space =>
    cases hc
    exact not_numeralChar_of_isSpace space
  | @token cs rest t ts lexeme =>
    rcases behind t rfl with rfl | rfl | rfl <;> cases lexeme <;> cases hc <;> decide

/-- **A text that is read as tokens is made of them**, if numerals stand where they may. -/
theorem lexed_of_tokens? {cs : List Char} {ts : List Token} (h : tokens? cs = some ts)
    (apart : ts.IsChain Token.Before) : Lexed cs ts := by
  fun_induction tokens? cs generalizing ts with
  | case1 =>
    cases h
    exact .nil
  | case2 c rest space ih => exact .space space (ih h apart)
  | case3 => cases h
  | case4 c rest _ t after read ih =>
    obtain ⟨us, hus, rfl⟩ := Option.map_eq_some_iff.mp h
    have lexed := ih hus apart.tail
    obtain ⟨lexeme, hcs, token⟩ := exists_lexeme_of_next? read
    rw [hcs]
    refine .token token ?_ lexed
    cases t with
    | number numeral =>
      refine numeralStops_of_lexed lexed fun u hu => ?_
      cases us with
      | nil => cases hu
      | cons u' us =>
        cases hu
        exact (List.isChain_cons_cons.mp apart).1
    | _ => trivial

end CrawlGraph.Json
