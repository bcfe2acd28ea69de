import CrawlGraph.Domain.Composition
import CrawlGraph.Domain.DirectionTable
import CrawlGraph.Domain.JoiningTable
import CrawlGraph.Domain.Mapping

/-!
# Labels of a host name

A label is the part of a host name between two full stops. In ASCII, a label with other characters
starts with the mark `xn--` and goes on in Punycode.

1. `isLabel` says which texts may be a label: in normal form, of kept characters, not begun by a
   combining mark, and with joiners only where a script needs them.
2. `fits` is the rule for names in which some label is written from right to left.
3. `Label.ofText?` reads a label in either form, and `Label.ascii` writes its ASCII form.
-/

namespace CrawlGraph.Domain

open CrawlGraph.Text Punycode

/-! ## 1. Which texts are labels -/

/-- The ASCII characters that no host name may hold. -/
def isForbidden (c : Char) : Bool :=
  let n := c.toNat
  n ≤ 0x20 || n == 0x7F || "%#/:<>?@[\\]^|".toList.contains c

/-- Whether a vanished vowel sign stands right before, after which a joiner may follow. -/
def endsInVirama (before : List Char) : Bool :=
  match before with
  | c :: _ => combiningClass c == 9
  | [] => false

/-- The first character that joining does not pass over. -/
def firstSolid? (cs : List Char) : Option Char := cs.find? fun c => !transparentTable.contains c

/-- Whether letters on both sides join across this place; `before` runs backwards. -/
def joinsAcross (before after : List Char) : Bool :=
  (firstSolid? before).any forwardTable.contains && (firstSolid? after).any backwardTable.contains

/-- Whether every joiner stands where it changes the shape of letters: the zero-width joiner after
    a virama, the zero-width non-joiner there or between letters that would join. -/
def joinersFit (before : List Char) : List Char → Bool
  | [] => true
  | c :: cs =>
    (if c.toNat = 0x200C then endsInVirama before || joinsAcross before cs
      else if c.toNat = 0x200D then endsInVirama before
      else true) && joinersFit (c :: before) cs

/-- The longest label outside ASCII. -/
def maxLength : Nat := 1000

/-- The longest Punycode form that is read. -/
def maxDigits : Nat := 2000

/-- Whether the text may be a label. -/
def isLabel (cs : List Char) : Bool :=
  cs.all (fun c => isKept c && !isForbidden c && c != '.') && normalForm cs == cs &&
    !(cs.head?.any combiningMarkTable.contains) && joinersFit [] cs &&
    (cs.all isAscii || cs.length ≤ maxLength)

/-! ## 2. Writing direction -/

/-- How a character takes part in the direction of a text. -/
inductive Direction where
  | left | right | arabicLetter | digit | arabicDigit | mark | other | blocked
  deriving DecidableEq

/-- The direction of a character. -/
def direction (c : Char) : Direction :=
  if c.isAlpha then .left
  else if c.isDigit || digitTable.contains c then .digit
  else if rightToLeftTable.contains c then .right
  else if arabicLetterTable.contains c then .arabicLetter
  else if arabicDigitTable.contains c then .arabicDigit
  else if markTable.contains c then .mark
  else if signTable.contains c || currencyTable.contains c || separatorTable.contains c ||
    neutralTable.contains c || boundaryTable.contains c then .other
  else if blockedTable.contains c then .blocked
  else .left

/-- Whether the character makes its name one that is written in both directions. -/
def turns (c : Char) : Bool :=
  match direction c with
  | .right | .arabicLetter | .arabicDigit => true
  | _ => false

/-- The direction of the last character that is no mark. -/
def lastDirection? (cs : List Char) : Option Direction :=
  ((cs.map direction).reverse.find? (· ≠ .mark))

/-- Whether a label that starts from the right keeps to it. -/
def fitsRight (cs : List Char) : Bool :=
  let ds := cs.map direction
  ds.all (fun d => d ≠ .left ∧ d ≠ .blocked) &&
    (lastDirection? cs).any (fun d => d ≠ .other) &&
    !(ds.contains .digit && ds.contains .arabicDigit)

/-- Whether a label that starts from the left keeps to it. -/
def fitsLeft (cs : List Char) : Bool :=
  (cs.map direction).all (fun d => d = .left ∨ d = .digit ∨ d = .mark ∨ d = .other) &&
    (lastDirection? cs).any (fun d => d = .left ∨ d = .digit)

/-- Whether a label may stand in a name that is written in both directions. -/
def fits (cs : List Char) : Bool :=
  match cs with
  | [] => true
  | c :: _ =>
    match direction c with
    | .left => fitsLeft cs
    | .right | .arabicLetter => fitsRight cs
    | _ => false

/-- Whether the labels of a name go together: if one of them turns, each has to fit. -/
def directionsFit (labels : List (List Char)) : Bool :=
  !(labels.any (·.any turns)) || labels.all fits

/-! ## 3. The two forms of a label -/

/-- The mark in front of a Punycode form. -/
def aceMark : List Char := "xn--".toList

/-- The label of a text in which all characters are mapped already. -/
def Label.ofText? (cs : List Char) : Option (List Char) :=
  if aceMark.isPrefixOf cs then
    let digits := cs.drop aceMark.length
    if digits.all isAscii ∧ digits.length ≤ maxDigits then
      (decode? digits).filter fun label => !label.all isAscii && isLabel label
    else none
  else if isLabel cs then some cs else none

/-- The ASCII form of a label. -/
def Label.ascii (label : List Char) : List Char :=
  if label.all isAscii then label else aceMark ++ encode label

end CrawlGraph.Domain
