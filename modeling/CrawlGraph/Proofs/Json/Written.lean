import CrawlGraph.Json.Record
import CrawlGraph.Proofs.Domain.Punycode
import CrawlGraph.Proofs.Json.Grammar

/-!
# Rows read back

A row that is written as text reads back as the value that it is, whatever white space stands
between its tokens.

1. Strings: each character is written as one piece, which means it again
   (`exists_pieces_of_escaped`).
2. Integers: what is written is a numeral (`isNumeral_integerText`) and reads back.
3. Tokens: `tokens?_laidOut`.
4. Values: `tokens_row`, and both layouts of a row in `parse?_row`.
-/

namespace CrawlGraph.Json

open CrawlGraph.Text
open Domain.Punycode (charOf? charOf?_toNat)

/-! ## 1. Strings -/

/-- A control character is escaped by its number. -/
theorem hexNumber?_control : ∀ n < 0x20,
    hexNumber? ['0', '0', hexDigit (n / 16), hexDigit (n % 16)] = some n := by
  decide

/-- **A character is written as one piece, which means it** whatever follows. -/
theorem exists_piece_of_escapedChar (c : Char) : ∃ p, PieceText (escapedChar c) p ∧
    ∀ ps cs, Means ps cs → Means (p :: ps) (c :: cs) := by
  unfold escapedChar
  split
  case h_8 quote backslash _ _ _ _ _ =>
    split
    · rename_i control
      exact ⟨_, .unit (hexNumber?_control _ control), fun _ _ => .unit (charOf?_toNat c)⟩
    · rename_i control
      exact ⟨_, .plain quote backslash (Nat.not_lt.mp control), fun _ _ => .plain⟩
  all_goals exact ⟨_, .short rfl, fun _ _ => .plain⟩

/-- **A text is what the pieces mean that are written between the quotes.** -/
theorem exists_pieces_of_escaped (cs : List Char) :
    ∃ ps, PiecesText (escaped cs) ps ∧ Means ps cs := by
  induction cs with
  | nil => exact ⟨[], .nil, .nil⟩
  | cons c cs ih =>
    obtain ⟨ps, pieces, means⟩ := ih
    obtain ⟨p, piece, front⟩ := exists_piece_of_escapedChar c
    exact ⟨p :: ps, .cons piece pieces, front ps cs means⟩

theorem stringText_stringText (s : String) : StringText (stringText s) (some s.toList) := by
  obtain ⟨ps, pieces, means⟩ := exists_pieces_of_escaped s.toList
  exact .of_means pieces means

/-! ## 2. Integers -/

theorem digitChar_ne_zero : ∀ n < 10, n ≠ 0 → Nat.digitChar n ≠ '0' := by decide

/-- A number is written without a zero in front, unless it is zero. -/
theorem head_decimal {n : Nat} (h : n ≠ 0) : (decimal n).head? ≠ some '0' := by
  induction n using Nat.strongRecOn with
  | _ n ih =>
    by_cases low : n < 10
    · rw [decimal, Nat.toDigits_of_lt_base low]
      exact fun e => digitChar_ne_zero n low h (Option.some.inj e)
    · have front := ih (n / 10) (by omega) (by omega)
      have longer : decimal n = decimal (n / 10) ++ [(n % 10).digitChar] :=
        Nat.toDigits_of_base_le (by decide) (Nat.not_lt.mp low)
      rwa [longer, List.head?_append_of_ne_nil _ (decimal_ne_nil _)]

theorem exists_cons_decimal (n : Nat) : ∃ c cs, decimal n = c :: cs ∧ c.isDigit = true := by
  obtain ⟨c, cs, hcs⟩ := List.exists_cons_of_ne_nil (decimal_ne_nil n)
  exact ⟨c, cs, hcs, isDigit_of_mem_decimal (hcs ▸ List.mem_cons_self)⟩

theorem isWhole_decimal (n : Nat) : IsWhole (decimal n) := by
  by_cases zero : n = 0
  · subst zero
    exact .inl rfl
  · exact .inr ⟨⟨decimal_ne_nil n, fun _ hc => isDigit_of_mem_decimal hc⟩, head_decimal zero⟩

/-- **A written integer is a numeral.** -/
theorem isNumeral_integerText (n : Int) : IsNumeral (integerText n) := by
  have digits : ∀ {sign}, sign = [] ∨ sign = ['-'] → IsNumeral (sign ++ decimal n.natAbs ++ [] ++ []) :=
    fun hsign => .mk hsign (isWhole_decimal n.natAbs) (.inl rfl) (.inl rfl)
  unfold integerText
  split
  · have signed := digits (.inr rfl)
    rwa [List.append_nil, List.append_nil] at signed
  · have plain := digits (.inl rfl)
    rwa [List.append_nil, List.append_nil] at plain

theorem integer?_integerText (n : Int) : integer? (integerText n) = some n := by
  unfold integerText
  split
  · rename_i neg
    have ne : n.natAbs ≠ 0 := by omega
    have back : -(n.natAbs : Int) = n := by omega
    rw [integer?, decimalValue?_decimal, Option.bind_some, if_neg ne, back]
  · rename_i nonneg
    obtain ⟨c, cs, hcs, digit⟩ := exists_cons_decimal n.natAbs
    have back : Int.ofNat n.natAbs = n := by
      rw [Int.ofNat_eq_natCast]
      omega
    rw [integer?, decimalValue?_decimal, Option.map_some, back]
    intro tail htail
    rw [hcs] at htail
    cases htail
    exact absurd digit (by decide)

/-! ## 3. Tokens -/

/-- Whether a numeral that stands in front of the text ends there. -/
def Ends (rest : List Char) : Prop :=
  ∀ c ∈ rest.head?, c = ',' ∨ c = '\x7d' ∨ isSpace c = true

theorem Ends.numeralStops {rest : List Char} (h : Ends rest) : NumeralStops rest := by
  intro c hc
  rcases h c hc with rfl | rfl | space
  · decide
  · decide
  · exact not_numeralChar_of_isSpace space

/-- The token that a value of a row is written as. -/
def Atom.token : Atom → Token
  | .text s => .string (some s.toList)
  | .integer n => .number (integerText n)

/-- A value of a row is one token. -/
theorem tokens?_json (a : Atom) {rest : List Char} (h : Ends rest) :
    tokens? (a.json ++ rest) = (tokens? rest).map (a.token :: ·) := by
  cases a with
  | text s => exact tokens?_append (.string (stringText_stringText s)) trivial
  | integer n => exact tokens?_append (.number (isNumeral_integerText n)) h.numeralStops

/-- The tokens of a member. -/
def memberTokens (m : String × Atom) : List Token := [.string (some m.1.toList), .colon, m.2.token]

/-- The tokens of a row. -/
def rowTokens (row : Row) : List Token :=
  .openBrace :: [.comma].intercalate (row.map memberTokens) ++ [.closeBrace]

/-- A member, with white space in front of it and behind its colon. -/
def memberText (before inside : List Char) (m : String × Atom) : List Char :=
  before ++ stringText m.1 ++ ':' :: (inside ++ m.2.json)

/-- A row, with white space before each member, behind each colon and behind the members. -/
def laidOut (before inside behind : List Char) (row : Row) : List Char :=
  '\x7b' :: [','].intercalate (row.map (memberText before inside)) ++ behind ++ ['\x7d']

theorem compact_eq (row : Row) : compact row = laidOut [] [] [] row := by
  simp only [compact, laidOut, List.append_nil]
  rfl

theorem prettyAt_eq (level : Nat) (row : Row) :
    prettyAt level row = laidOut (lineStart (level + 1)) [' '] (lineStart level) row := rfl

theorem isSpace_of_mem_lineStart {level : Nat} {c : Char} (h : c ∈ lineStart level) :
    isSpace c = true := by
  rcases List.mem_cons.mp h with rfl | h
  · decide
  · rw [(List.mem_replicate.mp h).2]
    decide

section

variable {before inside behind : List Char}

theorem tokens?_memberText (hbefore : ∀ c ∈ before, isSpace c = true)
    (hinside : ∀ c ∈ inside, isSpace c = true) (m : String × Atom) {rest : List Char}
    (h : Ends rest) :
    tokens? (memberText before inside m ++ rest) = (tokens? rest).map (memberTokens m ++ ·) := by
  have name : ∀ text, tokens? (stringText m.1 ++ text) =
      (tokens? text).map (.string (some m.1.toList) :: ·) :=
    fun _ => tokens?_append (.string (stringText_stringText m.1)) trivial
  have colon : ∀ text, tokens? (':' :: text) = (tokens? text).map (.colon :: ·) :=
    fun _ => tokens?_append .colon trivial
  simp only [memberText, List.append_assoc, List.cons_append]
  rw [tokens?_spaces hbefore, name, colon, tokens?_spaces hinside, tokens?_json _ h]
  simp [memberTokens, Function.comp_def]

theorem tokens?_members (hbefore : ∀ c ∈ before, isSpace c = true)
    (hinside : ∀ c ∈ inside, isSpace c = true) (row : Row) {rest : List Char} (h : Ends rest) :
    tokens? ([','].intercalate (row.map (memberText before inside)) ++ rest) =
      (tokens? rest).map ([.comma].intercalate (row.map memberTokens) ++ ·) := by
  induction row with
  | nil => simp
  | cons m row ih =>
    cases row with
    | nil =>
      simp only [List.map_cons, List.map_nil, List.intercalate_singleton]
      exact tokens?_memberText hbefore hinside m h
    | cons m' row =>
      simp only [List.map_cons, List.intercalate_cons_cons, List.append_assoc, List.cons_append,
        List.nil_append] at ih ⊢
      have comma : ∀ text, tokens? (',' :: text) = (tokens? text).map (.comma :: ·) :=
        fun _ => tokens?_append .comma trivial
      have ends : ∀ text, Ends (',' :: text) := fun text c hc => .inl (Option.some.inj hc).symm
      rw [tokens?_memberText hbefore hinside m (ends _), comma, ih]
      simp [Function.comp_def]

/-- **The tokens of a row do not depend on the white space between them.** -/
theorem tokens?_laidOut (hbefore : ∀ c ∈ before, isSpace c = true)
    (hinside : ∀ c ∈ inside, isSpace c = true) (hbehind : ∀ c ∈ behind, isSpace c = true)
    (row : Row) : tokens? (laidOut before inside behind row) = some (rowTokens row) := by
  have ends : Ends (behind ++ ['\x7d']) := by
    intro c hc
    cases behind with
    | nil => exact .inr (.inl (Option.some.inj hc).symm)
    | cons d behind =>
      cases hc
      exact .inr (.inr (hbehind c List.mem_cons_self))
  have close : tokens? ['\x7d'] = some [.closeBrace] :=
    tokens?_of_lexed (.token .closeBrace trivial .nil)
  have opened : ∀ text, tokens? ('\x7b' :: text) = (tokens? text).map (.openBrace :: ·) :=
    fun _ => tokens?_append .openBrace trivial
  simp only [laidOut, List.cons_append, List.append_assoc]
  rw [opened, tokens?_members hbefore hinside row ends, tokens?_spaces hbehind, close]
  simp [rowTokens]

end

/-! ## 4. Values -/

/-- The value that a value of a row is. -/
def Atom.value : Atom → Value
  | .text s => .string (some s.toList)
  | .integer n => .number (integerText n)

/-- The member that a member of a row is. -/
def memberOf (m : String × Atom) : Member := (some m.1.toList, m.2.value)

theorem Atom.tokens_value (a : Atom) : a.value.tokens = [a.token] := by
  cases a <;> rfl

theorem membersTokens_row (row : Row) :
    membersTokens (row.map memberOf) = [.comma].intercalate (row.map memberTokens) := by
  induction row with
  | nil => rfl
  | cons m row ih =>
    cases row with
    | nil => simp [membersTokens, memberOf, memberTokens, m.2.tokens_value]
    | cons m' row =>
      simp only [List.map_cons] at ih ⊢
      rw [membersTokens, ih, List.intercalate_cons_cons]
      simp [memberOf, memberTokens, Atom.tokens_value]

/-- **The tokens of a row are those of its value.** -/
theorem tokens_row (row : Row) : (Value.object (row.map memberOf)).tokens = rowTokens row := by
  rw [Value.tokens, membersTokens_row, rowTokens]

/-- **A row reads back as its value**, over one line and over several lines, at any level. -/
theorem parse?_row (row : Row) : Value.parse? (compact row) = some (.object (row.map memberOf)) ∧
    ∀ level, Value.parse? (prettyAt level row) = some (.object (row.map memberOf)) := by
  have none' : ∀ c ∈ ([] : List Char), isSpace c = true := by simp
  have one : ∀ c ∈ [' '], isSpace c = true := by simp [isSpace]
  have line : ∀ level, ∀ c ∈ lineStart level, isSpace c = true :=
    fun _ _ hc => isSpace_of_mem_lineStart hc
  have spelled : Value.ofTokens? (rowTokens row) = some (.object (row.map memberOf)) :=
    ofTokens?_eq_some_iff.mpr (tokens_row row).symm
  constructor
  · rw [Value.parse?, compact_eq, tokens?_laidOut none' none' none', Option.bind_some, spelled]
  · intro level
    rw [Value.parse?, prettyAt_eq, tokens?_laidOut (line _) one (line _), Option.bind_some, spelled]

end CrawlGraph.Json
