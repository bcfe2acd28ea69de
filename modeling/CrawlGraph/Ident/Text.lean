import CrawlGraph.Ident
import CrawlGraph.Text.Digits

/-!
# Identifiers as text

The canonical text of an identifier is its 32 hexadecimal digits in lower case, in groups of 8, 4,
4, 4 and 12 with hyphens between them. Reading is more lenient: it takes digits of either letter
case, the 32 digits without hyphens, and the hyphenated form inside braces or after the words
`urn:uuid:`.

1. `hexDigits`, `canonical` and `text` write an identifier.
2. `read?` reads one.
3. `ReadError` says why a text is no identifier; `parse` gives the identifier or that reason.
-/

namespace CrawlGraph.Ident

open CrawlGraph.Text

/-! ## 1. Writing -/

/-- The digits of a number in base sixteen, `width` of them, the first weighing most. -/
def nibbles : Nat → Nat → List Nat
  | 0, _ => []
  | width + 1, n => nibbles width (n / 16) ++ [n % 16]

@[simp] theorem length_nibbles (width n : Nat) : (nibbles width n).length = width := by
  induction width generalizing n with
  | zero => rfl
  | succ w ih => simp [nibbles, ih]

/-- The 32 hexadecimal digits of the identifier. -/
def hexDigits (id : Ident) : List Char := (nibbles 32 id.toNat).map hexDigit

@[simp] theorem length_hexDigits (id : Ident) : id.hexDigits.length = 32 := by simp [hexDigits]

/-- The lengths of the five groups of the canonical text. -/
def groupLengths : List Nat := [8, 4, 4, 4, 12]

/-- The text cut into groups of the given lengths. -/
def groups : List Nat → List Char → List (List Char)
  | [], _ => []
  | n :: ns, cs => cs.take n :: groups ns (cs.drop n)

/-- The canonical text as characters. -/
def canonical (id : Ident) : List Char := ['-'].intercalate (groups groupLengths id.hexDigits)

/-- The canonical text of an identifier. -/
def text (id : Ident) : String := String.ofList id.canonical

instance : ToString Ident := ⟨text⟩

/-! ## 2. Reading -/

/-- The identifier whose 32 hexadecimal digits are given, in either letter case. -/
def ofHexDigits? (cs : List Char) : Option Ident :=
  if cs.length = 32 then (hexNumber? cs).map ofNat else none

/-- The identifier whose hyphenated form is given. -/
def ofHyphenated? (cs : List Char) : Option Ident :=
  let gs := cs.splitOn '-'
  if gs.map List.length = groupLengths then ofHexDigits? gs.flatten else none

/-- The words before an identifier in a uniform resource name. -/
def urnPrefix : List Char := "urn:uuid:".toList

/-- What follows the words `urn:uuid:` in any letter case. -/
def afterUrn? (cs : List Char) : Option (List Char) :=
  if (cs.take urnPrefix.length).map Char.toLower = urnPrefix then some (cs.drop urnPrefix.length)
  else none

/-- What stands between the braces around a text. -/
def insideBraces? (cs : List Char) : Option (List Char) :=
  match cs with
  | '\x7b' :: rest => if rest.getLast? = some '\x7d' then some rest.dropLast else none
  | _ => none

/-- The text inside its wrapping, which is either braces or the words `urn:uuid:`. -/
def unwrapped? (cs : List Char) : Option (List Char) := (insideBraces? cs).or (afterUrn? cs)

/-- The identifier that a text stands for: 32 digits, or the hyphenated form, plain or wrapped. -/
def read? (cs : List Char) : Option Ident :=
  (ofHexDigits? cs).or ((ofHyphenated? cs).or ((unwrapped? cs).bind ofHyphenated?))

/-! ## 3. Why a text is no identifier -/

/-- The reason for which a text is no identifier. Lengths and positions count bytes. -/
inductive ReadError where
  | length (found : Nat)
  | character (c : Char) (position : Nat)
  | groupCount (found : Nat)
  | groupLength (group expected found : Nat)
  deriving DecidableEq, Repr

/-- The wording of the reason. -/
def ReadError.message : ReadError → String
  | .length found => s!"invalid length: found {found}"
  | .character c position =>
    "invalid character: found \x60" ++ c.toString ++ s!"\x60 at {position}"
  | .groupCount found => s!"invalid group count: expected 5, found {found}"
  | .groupLength group expected found =>
    s!"invalid group length in group {group}: expected {expected}, found {found}"

/-- The number of bytes that a text takes. -/
def byteLength (cs : List Char) : Nat := cs.foldr (fun c n => c.utf8Size + n) 0

/-- The first character that an identifier cannot hold, with its position. -/
def firstForeign? : Nat → List Char → Option (Char × Nat)
  | _, [] => none
  | i, c :: cs => if isHexDigit c || c = '-' then firstForeign? (i + c.utf8Size) cs else some (c, i)

/-- The first group whose length is not the expected one: its number, and both lengths. -/
def firstMisfit? : Nat → List Nat → List Nat → Option (Nat × Nat × Nat)
  | g, e :: es, n :: ns => if n = e then firstMisfit? (g + 1) es ns else some (g, e, n)
  | _, _, _ => none

/-- The reason for which the hyphenated form `inside` of a text is wrong. Positions start at
    `offset`; `total` is the length that a wrong last group is measured against. -/
def hyphenatedError (inside : List Char) (offset total : Nat) : ReadError :=
  match firstForeign? offset inside with
  | some (c, i) => .character c i
  | none =>
    let gs := inside.splitOn '-'
    if gs.length ≠ 5 then .groupCount gs.length
    else match firstMisfit? 0 (groupLengths.take 4) (gs.map List.length) with
      | some (g, expected, found) => .groupLength g expected found
      | none => .groupLength 4 12 (total - 24)

/-- The reason for which a text is no identifier. A text of 36 bytes counts as hyphenated, and so
    does the inside of a wrapping that has the right total length. -/
def readError (cs : List Char) : ReadError :=
  let n := byteLength cs
  if n = 0 ∨ 45 < n then .length n
  else
    let wrapping := if n = 32 ∨ n = 36 then none else unwrapped? cs
    match wrapping with
    | some inside =>
      let start := if cs.head? = some '\x7b' then 1 else urnPrefix.length
      if byteLength inside = 36 then hyphenatedError inside 0 36
      else hyphenatedError inside start n
    | none =>
      if firstForeign? 0 cs = none ∧ '-' ∉ cs ∧ n ≠ 36 then .length n
      else hyphenatedError cs 0 n

/-- The identifier that a text stands for, or the reason why it stands for none. -/
def parse (s : String) : Except ReadError Ident :=
  match read? s.toList with
  | some id => .ok id
  | none => .error (readError s.toList)

end CrawlGraph.Ident
