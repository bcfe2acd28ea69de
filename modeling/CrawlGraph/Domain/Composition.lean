import CrawlGraph.Domain.CompositionTable
import CrawlGraph.Domain.Punycode

/-!
# The composed normal form

Texts that look alike can be spelled in several ways, with accented letters or with letters and
accents. Their composed normal form is one spelling for all of them:

1. every character is taken apart as far as it goes (`decomposed`);
2. the marks that follow a character are put into the order of their combining classes
   (`ordered`);
3. characters are put together again from left to right (`composed`).

ASCII is in this form already, which `normalForm` uses as a shortcut.
-/

namespace CrawlGraph.Domain

open CrawlGraph.Text Punycode

/-- The canonical combining class of a character. -/
def combiningClass (c : Char) : Nat := ((combiningTable.find? c).map (·.2)).getD 0

/-! ## 1. Taking apart -/

/-- The parts of a Hangul syllable: a leading consonant, a vowel, and perhaps a final consonant. -/
def hangulParts? (c : Char) : Option (List Nat) :=
  let n := c.toNat - 0xAC00
  if 0xAC00 ≤ c.toNat ∧ n < 11172 then
    let head := [0x1100 + n / 588, 0x1161 + n % 588 / 28]
    some (if n % 28 = 0 then head else head ++ [0x11A7 + n % 28])
  else none

/-- The parts of a character that are not taken apart again. -/
def finalParts? (c : Char) : Option (List Char) :=
  if isAscii c then some [c]
  else match hangulParts? c with
    | some codes => some (codes.filterMap charOf?)
    | none => (splitTable.find? c).map fun r => r.2.filterMap charOf?

/-- The two characters of a text of two. -/
def twoOf? : List Char → Option (Char × Char)
  | [a, b] => some (a, b)
  | _ => none

/-- The two parts of a composite; the first of them may be a composite again. -/
def pairParts? (c : Char) : Option (Char × Char) :=
  (compositeTable.find? c).bind fun r => twoOf? (r.2.filterMap charOf?)

/-- The full decomposition of a character, given how it is taken apart once; `depth` bounds how
    often a composite is taken apart. -/
def partsBy (final? : Char → Option (List Char)) (pair? : Char → Option (Char × Char)) :
    Nat → Char → List Char
  | 0, c => [c]
  | depth + 1, c =>
    match final? c with
    | some cs => cs
    | none =>
      match pair? c with
      | some (a, b) => partsBy final? pair? depth a ++ [b]
      | none => [c]

/-- The full decomposition of a character. No composite is taken apart more than four times. -/
def parts (c : Char) : List Char := partsBy finalParts? pairParts? 4 c

/-- The text with every character taken apart. -/
def decomposed (cs : List Char) : List Char := cs.flatMap parts

/-! ## 2. Order of marks -/

/-- A run of marks in the order of their combining classes. -/
def sortMarks (run : List Char) : List Char :=
  run.mergeSort fun a b => combiningClass a ≤ combiningClass b

/-- The text with every run of marks in order; `run` is the run before it. -/
def orderedFrom (run : List Char) : List Char → List Char
  | [] => sortMarks run
  | c :: cs =>
    if combiningClass c = 0 then sortMarks run ++ c :: orderedFrom [] cs
    else orderedFrom (run ++ [c]) cs

/-- The text with every run of marks in order. -/
def ordered (cs : List Char) : List Char := orderedFrom [] cs

/-! ## 3. Putting together -/

/-- The Hangul syllable that two characters make. -/
def hangulPair? (a b : Char) : Option Char :=
  let l := a.toNat - 0x1100
  let v := b.toNat - 0x1161
  let s := a.toNat - 0xAC00
  let t := b.toNat - 0x11A7
  if 0x1100 ≤ a.toNat ∧ l < 19 ∧ 0x1161 ≤ b.toNat ∧ v < 21 then
    charOf? (0xAC00 + l * 588 + v * 28)
  else if 0xAC00 ≤ a.toNat ∧ s < 11172 ∧ s % 28 = 0 ∧ 0x11A7 < b.toNat ∧ t < 28 then
    charOf? (a.toNat + t)
  else none

/-- The character that stands for a pair of others. -/
def pair? (a b : Char) : Option Char :=
  (hangulPair? a b).or
    ((compositeTable.rows.find? fun r => r.2.2 == [a.toNat, b.toNat]).bind fun r => charOf? r.1)

/-- Puts together what follows the character `base`. `held` are the marks after it that did not
    join it, the latest first, and `reached` is the class of that one. A character joins `base`
    unless a held mark of its own or a higher class, or one without a class, stands between. -/
def composedFrom (base : Char) (held : List Char) (reached : Nat) : List Char → List Char
  | [] => base :: held.reverse
  | c :: cs =>
    let k := combiningClass c
    match (if held.isEmpty || reached < k then pair? base c else none) with
    | some joined => composedFrom joined held reached cs
    | none =>
      if k = 0 then base :: held.reverse ++ composedFrom c [] 0 cs
      else composedFrom base (c :: held) k cs

/-- The text with its characters put together. Marks before the first character that is none stay
    as they are. -/
def composed (cs : List Char) : List Char :=
  let (marks, rest) := cs.span fun c => combiningClass c != 0
  marks ++ match rest with
    | [] => []
    | base :: rest => composedFrom base [] 0 rest

/-- The composed normal form of a text. -/
def normalForm (cs : List Char) : List Char :=
  if cs.all isAscii then cs else composed (ordered (decomposed cs))

theorem normalForm_ascii {cs : List Char} (h : cs.all isAscii = true) : normalForm cs = cs := by
  simp [normalForm, h]

end CrawlGraph.Domain
