import CrawlGraph.Text.Digits

/-!
# Numeric addresses

The two kinds of numeric host. Both are written in one form and read in several.

1. An IPv4 address is one number below `2 ^ 32`, written as four decimal numbers. It is read from
   one to four numbers in decimal, octal or hexadecimal form; the last one fills up all the bytes
   that are left.
2. An IPv6 address is eight pieces of 16 bits, written in hexadecimal with colons between them;
   the first longest run of two or more zero pieces is written as a double colon. It is read with
   a double colon anywhere, and with an IPv4 address in place of the last two pieces.
-/

namespace CrawlGraph.Url

open CrawlGraph.Text

/-! ## 1. IPv4 -/

/-- A number in one of the forms that count in an address: decimal, octal after `0`, hexadecimal
    after `0x`. -/
def addressNumber? (cs : List Char) : Option Nat :=
  match cs with
  | [] => none
  | '0' :: 'x' :: digits => hexNumber? digits
  | '0' :: 'X' :: digits => hexNumber? digits
  | '0' :: digits =>
    if digits.all fun c => '0' ≤ c ∧ c ≤ '7' then some (Nat.ofDigitChars 8 digits 0) else none
  | digits => decimalValue? digits

/-- The parts of a name between full stops, without an empty last one. -/
def nameParts (name : List Char) : List (List Char) :=
  let parts := name.splitOn '.'
  if parts.length ≠ 1 ∧ parts.getLast? = some [] then parts.dropLast else parts

/-- Whether the last part of a name is a number, so that the name has to be an address. -/
def endsInNumber (name : List Char) : Bool :=
  (nameParts name).getLast?.any fun part =>
    (part ≠ [] ∧ part.all Char.isDigit) || (addressNumber? part).isSome

/-- The address whose leading bytes are given and whose last number fills up the rest. -/
def ipv4OfNumbers? (leading : List Nat) (last : Nat) : Option Nat :=
  let room := 8 * (4 - leading.length)
  if leading.length ≤ 3 ∧ leading.all (· < 256) ∧ last < 1 <<< room then
    some ((leading.foldl (256 * · + ·) 0) <<< room + last)
  else none

/-- The IPv4 address that a name spells. -/
def ipv4? (name : List Char) : Option Nat := do
  let numbers ← (nameParts name).mapM addressNumber?
  ipv4OfNumbers? numbers.dropLast (← numbers.getLast?)

/-- The text of an IPv4 address. -/
def ipv4Text (address : Nat) : List Char :=
  ['.'].intercalate ([24, 16, 8, 0].map fun shift => decimal ((address >>> shift) % 256))

/-! ## 2. IPv6 -/

/-- The value of a piece, which has one to four digits. -/
def piece? (cs : List Char) : Option Nat :=
  if cs ≠ [] ∧ cs.length ≤ 4 then hexNumber? cs else none

/-- The value of a decimal byte without leading zeros. -/
def byte? (cs : List Char) : Option Nat :=
  if cs.head? = some '0' ∧ cs.length ≠ 1 then none else (decimalValue? cs).filter (· < 256)

/-- The two pieces of an IPv4 address in its full form. -/
def embedded? (cs : List Char) : Option (List Nat) := do
  match ← (cs.splitOn '.').mapM byte? with
  | [a, b, c, d] => some [256 * a + b, 256 * c + d]
  | _ => none

/-- The pieces of a part of an address that ends it or stands before a double colon. -/
def pieces? (isEnd : Bool) (cs : List Char) : Option (List Nat) :=
  if cs = [] then some []
  else
    let parts := cs.splitOn ':'
    match (if isEnd then parts.getLast?.bind embedded? else none) with
    | some tail => (parts.dropLast.mapM piece?).map (· ++ tail)
    | none => parts.mapM piece?

/-- What stands before and after the first double colon. -/
def splitDoubleColon? : List Char → Option (List Char × List Char)
  | ':' :: ':' :: rest => some ([], rest)
  | c :: rest => (splitDoubleColon? rest).map fun (before, after) => (c :: before, after)
  | [] => none

/-- The eight pieces of an IPv6 address. A double colon stands for at least one zero piece. -/
def ipv6? (cs : List Char) : Option (List Nat) :=
  match splitDoubleColon? cs with
  | none => (pieces? true cs).filter (·.length = 8)
  | some (before, after) => do
    let left ← pieces? false before
    let right ← pieces? true after
    if left.length + right.length ≤ 7 then
      some (left ++ List.replicate (8 - left.length - right.length) 0 ++ right)
    else none

/-- How many zero pieces a list starts with. -/
def zeroRun (pieces : List Nat) : Nat := (pieces.takeWhile (· = 0)).length

/-- The longest run of zero pieces. -/
def longestZeroRun : List Nat → Nat
  | [] => 0
  | p :: ps => max (zeroRun (p :: ps)) (longestZeroRun ps)

/-- The pieces before and after the first run of `n` zero pieces. -/
def splitZeroRun (n : Nat) : List Nat → List Nat × List Nat
  | [] => ([], [])
  | p :: ps =>
    if zeroRun (p :: ps) = n then ([], (p :: ps).drop n)
    else (p :: (splitZeroRun n ps).1, (splitZeroRun n ps).2)

/-- Pieces with colons between them. -/
def piecesText (pieces : List Nat) : List Char :=
  [':'].intercalate (pieces.map (Nat.toDigits 16))

/-- The text of an IPv6 address. -/
def ipv6Text (pieces : List Nat) : List Char :=
  let run := longestZeroRun pieces
  if run < 2 then piecesText pieces
  else
    let (before, after) := splitZeroRun run pieces
    piecesText before ++ ':' :: ':' :: piecesText after

end CrawlGraph.Url
