import CrawlGraph.Domain.Punycode
import CrawlGraph.Text.Digits

/-!
# The tokens of JSON

A JSON text is cut into tokens first; white space between them says nothing.

1. `Token`. A string keeps what it means, a number its numeral. A string may escape half of a
   surrogate pair: then it means no text.
2. Strings: `parts?` reads up to the closing quote, `joined?` puts surrogate pairs together.
3. Numerals.
4. `next?` reads one token and `tokens?` all of them.

Main statement: `length_next?`, every token takes at least one character.
-/

namespace CrawlGraph.Json

open CrawlGraph.Text

/-! ## 1. Tokens -/

/-- A token of JSON. -/
inductive Token where
  | openBrace | closeBrace | openBracket | closeBracket | colon | comma
  | null
  | bool (value : Bool)
  | number (numeral : List Char)
  /-- A string; `none` stands for one with half a surrogate pair, which means no text. -/
  | string (text : Option (List Char))
  deriving DecidableEq, Repr

/-- White space between tokens. -/
def isSpace (c : Char) : Bool := c = ' ' || c = '\n' || c = '\t' || c = '\r'

/-! ## 2. Strings -/

/-- A piece of a string: a character, or a 16-bit unit that is escaped by its number. -/
inductive Part where
  | plain (c : Char)
  | unit (n : Nat)
  deriving DecidableEq, Repr

/-- The character that a backslash and a letter stand for. -/
def shortEscape? (letter : Char) : Option Char :=
  match letter with
  | '"' => some '"'
  | '\\' => some '\\'
  | '/' => some '/'
  | 'b' => some '\x08'
  | 'f' => some '\x0c'
  | 'n' => some '\n'
  | 'r' => some '\r'
  | 't' => some '\t'
  | _ => none

/-- Puts a piece in front of the pieces that were read. -/
def consPart (p : Part) (read : List Part × List Char) : List Part × List Char :=
  (p :: read.1, read.2)

/-- The pieces of a string up to its closing quote, and the characters after the quote. -/
def parts? : List Char → Option (List Part × List Char)
  | [] => none
  | '"' :: rest => some ([], rest)
  | '\\' :: 'u' :: a :: b :: c :: d :: rest =>
    match hexNumber? [a, b, c, d] with
    | some n => (parts? rest).map (consPart (.unit n))
    | none => none
  | '\\' :: letter :: rest =>
    match shortEscape? letter with
    | some c => (parts? rest).map (consPart (.plain c))
    | none => none
  | c :: rest =>
    if c = '\\' ∨ c.toNat < 0x20 then none else (parts? rest).map (consPart (.plain c))

/-- The text that pieces mean. A unit of the first half of the surrogates needs one of the second
    half right behind it; the two stand for one character. -/
def joined? : List Part → Option (List Char)
  | [] => some []
  | .plain c :: rest => (joined? rest).map (c :: ·)
  | [.unit n] => (Domain.Punycode.charOf? n).map ([·])
  | .unit n :: .unit m :: rest =>
    if 0xD800 ≤ n ∧ n < 0xDC00 ∧ 0xDC00 ≤ m ∧ m < 0xE000 then
      (Domain.Punycode.charOf? (0x10000 + (n - 0xD800) * 0x400 + (m - 0xDC00))).bind fun c =>
        (joined? rest).map (c :: ·)
    else (Domain.Punycode.charOf? n).bind fun c => (joined? (.unit m :: rest)).map (c :: ·)
  | .unit n :: .plain c :: rest =>
    (Domain.Punycode.charOf? n).bind fun d => (joined? (.plain c :: rest)).map (d :: ·)

/-! ## 3. Numerals -/

/-- A row of digits that is not empty, and what follows it. -/
def digits? (cs : List Char) : Option (List Char × List Char) :=
  if cs.takeWhile Char.isDigit = [] then none
  else some (cs.takeWhile Char.isDigit, cs.dropWhile Char.isDigit)

/-- The sign in front of a numeral. -/
def sign (cs : List Char) : List Char × List Char :=
  match cs with
  | '-' :: rest => (['-'], rest)
  | _ => ([], cs)

/-- The digits before the point: a single zero, or digits that begin with no zero. -/
def whole? (cs : List Char) : Option (List Char × List Char) :=
  match cs with
  | '0' :: rest => some (['0'], rest)
  | _ => digits? cs

/-- The point and the digits after it, if there is a point. -/
def fraction? (cs : List Char) : Option (List Char × List Char) :=
  match cs with
  | '.' :: rest => (digits? rest).map fun (digits, rest) => ('.' :: digits, rest)
  | _ => some ([], cs)

/-- The sign in front of an exponent. -/
def exponentSign (cs : List Char) : List Char × List Char :=
  match cs with
  | '+' :: rest => (['+'], rest)
  | _ => sign cs

/-- The exponent, if there is one. -/
def exponent? (cs : List Char) : Option (List Char × List Char) :=
  match cs with
  | c :: rest =>
    if c = 'e' ∨ c = 'E' then
      (digits? (exponentSign rest).2).map fun (digits, after) =>
        (c :: (exponentSign rest).1 ++ digits, after)
    else some ([], cs)
  | [] => some ([], cs)

/-- A numeral and what follows it. -/
def numeral? (cs : List Char) : Option (List Char × List Char) :=
  (whole? (sign cs).2).bind fun (whole, cs') =>
    (fraction? cs').bind fun (fraction, cs'') =>
      (exponent? cs'').map fun (exponent, rest) =>
        ((sign cs).1 ++ whole ++ fraction ++ exponent, rest)

/-! ## 4. Reading tokens -/

/-- The words of JSON and their tokens. -/
def words : List (List Char × Token) :=
  [("null".toList, .null), ("true".toList, .bool true), ("false".toList, .bool false)]

/-- The first token of a text and what follows it. -/
def next? (cs : List Char) : Option (Token × List Char) :=
  match cs with
  | [] => none
  | '\x7b' :: rest => some (.openBrace, rest)
  | '\x7d' :: rest => some (.closeBrace, rest)
  | '[' :: rest => some (.openBracket, rest)
  | ']' :: rest => some (.closeBracket, rest)
  | ':' :: rest => some (.colon, rest)
  | ',' :: rest => some (.comma, rest)
  | '"' :: rest => (parts? rest).map fun (parts, rest) => (.string (joined? parts), rest)
  | _ :: _ =>
    match words.find? fun w => w.1.isPrefixOf cs with
    | some (word, token) => some (token, cs.drop word.length)
    | none => (numeral? cs).map fun (numeral, rest) => (.number numeral, rest)

theorem length_parts? {cs rest : List Char} {ps : List Part} (h : parts? cs = some (ps, rest)) :
    rest.length ≤ cs.length := by
  fun_induction parts? cs generalizing ps with
  | case1 => simp at h
  | case2 => simp_all
  | case3 a b c d tail n hn ih =>
    obtain ⟨⟨qs, r⟩, hq, he⟩ := Option.map_eq_some_iff.mp h
    simp only [consPart, Prod.mk.injEq] at he
    have := ih (he.2 ▸ hq)
    simp only [List.length_cons]
    omega
  | case4 => simp at h
  | case5 letter tail _ c hc ih =>
    obtain ⟨⟨qs, r⟩, hq, he⟩ := Option.map_eq_some_iff.mp h
    simp only [consPart, Prod.mk.injEq] at he
    have := ih (he.2 ▸ hq)
    simp only [List.length_cons]
    omega
  | case6 => simp at h
  | case7 => simp at h
  | case8 c tail _ _ _ _ ih =>
    obtain ⟨⟨qs, r⟩, hq, he⟩ := Option.map_eq_some_iff.mp h
    simp only [consPart, Prod.mk.injEq] at he
    have := ih (he.2 ▸ hq)
    simp only [List.length_cons]
    omega

theorem length_digits? {cs digits rest : List Char} (h : digits? cs = some (digits, rest)) :
    rest.length < cs.length := by
  simp only [digits?] at h
  split at h
  · simp at h
  · rename_i hne
    simp only [Option.some.injEq, Prod.mk.injEq] at h
    have := congrArg List.length (List.takeWhile_append_dropWhile (p := Char.isDigit) (l := cs))
    have hpos := List.length_pos_iff.mpr hne
    rw [List.length_append] at this
    rw [← h.2]
    omega

theorem length_sign (cs : List Char) : (sign cs).2.length ≤ cs.length := by
  unfold sign
  split <;> simp

theorem length_whole? {cs whole rest : List Char} (h : whole? cs = some (whole, rest)) :
    rest.length < cs.length := by
  unfold whole? at h
  split at h
  · simp_all
  · exact length_digits? h

theorem length_fraction? {cs fraction rest : List Char} (h : fraction? cs = some (fraction, rest)) :
    rest.length ≤ cs.length := by
  unfold fraction? at h
  split at h
  · obtain ⟨⟨digits, r⟩, hd, he⟩ := Option.map_eq_some_iff.mp h
    have := length_digits? hd
    simp only [Prod.mk.injEq] at he
    obtain ⟨-, rfl⟩ := he
    simp only [List.length_cons]
    omega
  · simp_all

theorem length_exponentSign (cs : List Char) : (exponentSign cs).2.length ≤ cs.length := by
  unfold exponentSign
  split
  · simp
  · exact length_sign _

theorem length_exponent? {cs exponent rest : List Char} (h : exponent? cs = some (exponent, rest)) :
    rest.length ≤ cs.length := by
  unfold exponent? at h
  split at h
  · rename_i c tail
    split at h
    · obtain ⟨⟨digits, r⟩, hd, he⟩ := Option.map_eq_some_iff.mp h
      have := length_digits? hd
      have := length_exponentSign tail
      simp only [Prod.mk.injEq] at he
      obtain ⟨-, rfl⟩ := he
      simp only [List.length_cons]
      omega
    · simp_all
  · simp_all

theorem length_numeral? {cs numeral rest : List Char} (h : numeral? cs = some (numeral, rest)) :
    rest.length < cs.length := by
  obtain ⟨⟨whole, r⟩, hw, h⟩ := Option.bind_eq_some_iff.mp h
  obtain ⟨⟨fraction, r'⟩, hf, h⟩ := Option.bind_eq_some_iff.mp h
  obtain ⟨⟨exponent, r''⟩, he, h⟩ := Option.map_eq_some_iff.mp h
  simp only [Prod.mk.injEq] at h
  obtain ⟨-, rfl⟩ := h
  have := length_sign cs
  have := length_whole? hw
  have := length_fraction? hf
  have := length_exponent? he
  omega

theorem ne_nil_of_mem_words {word : List Char} {t : Token} (h : (word, t) ∈ words) :
    0 < word.length := by
  simp only [words, List.mem_cons, List.not_mem_nil, or_false, Prod.mk.injEq] at h
  rcases h with ⟨rfl, -⟩ | ⟨rfl, -⟩ | ⟨rfl, -⟩ <;> decide

/-- **Every token takes at least one character.** -/
theorem length_next? {cs rest : List Char} {t : Token} (h : next? cs = some (t, rest)) :
    rest.length < cs.length := by
  unfold next? at h
  split at h
  case h_1 => simp at h
  case h_8 tail =>
    obtain ⟨⟨ps, r⟩, hp, he⟩ := Option.map_eq_some_iff.mp h
    simp only [Prod.mk.injEq] at he
    obtain ⟨-, rfl⟩ := he
    have := length_parts? hp
    simp only [List.length_cons]
    omega
  case h_9 c tail _ _ _ _ _ _ _ =>
    split at h
    · rename_i word token hw
      have hpos := ne_nil_of_mem_words (List.mem_of_find?_eq_some hw)
      simp only [Option.some.injEq, Prod.mk.injEq] at h
      rw [← h.2, List.length_drop]
      simp only [List.length_cons]
      omega
    · obtain ⟨⟨numeral, r⟩, hn, he⟩ := Option.map_eq_some_iff.mp h
      simp only [Prod.mk.injEq] at he
      rw [← he.2]
      exact length_numeral? hn
  all_goals simp_all

/-- The tokens of a text. -/
def tokens? (cs : List Char) : Option (List Token) :=
  match cs with
  | [] => some []
  | c :: rest =>
    if isSpace c then tokens? rest
    else
      match _h : next? (c :: rest) with
      | none => none
      | some (t, after) => (tokens? after).map (t :: ·)
termination_by cs.length
decreasing_by
  · simp
  · exact length_next? _h

end CrawlGraph.Json
